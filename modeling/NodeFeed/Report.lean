import NodeFeed.Error

/-!
What the parts of a subscriber report to the log. Each report is a value of its own; `Report.line`
gives its level, the part it comes from, its message and its fields in the order written.
-/

namespace NodeFeed

inductive Level where
  | trace
  | debug
  | info
  | warn
  | error
  deriving DecidableEq, Repr

namespace Level

def name : Level → String
  | trace => "TRACE"
  | debug => "DEBUG"
  | info => "INFO"
  | warn => "WARN"
  | error => "ERROR"

def rank : Level → Nat
  | trace => 0
  | debug => 1
  | info => 2
  | warn => 3
  | error => 4

end Level

inductive Report where
  | transportOpened (address : String)
  | noAddress
  | subscriberStarted (address : String) (capacity : Nat)
  | subscriptionAdded (topic : Topic) (id live : Nat)
  | subscriptionCancelled (topic : Topic) (id live : Nat)
  | releaseFailed (topic : Topic) (id : Nat) (error : SubscribeError)
  | subscriberClosed
  | handlerDetached (error : CloseError)
  | handlerPanicked
  | frameDropped (error : DecodeError)
  | oldestDropped (topic : Topic) (displaced delivered : Nat)
  | filterInstalled (topic : Topic)
  | filterRemoved (topic : Topic)
  | controlIgnored (parts : Nat)
  | termReceived
  | handlerFailed (error : HandlerError)
  | filterNotCleared (topic : Topic) (error : Errno)
  | queuesClosed (topic : Topic) (queues : Nat)
  | consumerStarted (consumer : String) (topic : Topic)
  | consumerStopped (consumer : String) (topic : Topic)
  | consumerPanicked (consumer : String) (topic : Topic) (panic : String)
  | consumerFinished (consumer : String) (topic : Topic)
  | workerFailed (consumer : String)
  deriving DecidableEq, Repr

inductive LogValue where
  | text (s : String)
  | form (s : String)
  deriving DecidableEq, Repr

namespace LogValue

def plain : LogValue → String
  | text s | form s => s

def inLine : LogValue → String
  | text s => Text.quote s
  | form s => s

end LogValue

structure LogLine where
  level : Level
  target : String
  message : String
  fields : List (String × LogValue)
  deriving DecidableEq, Repr

namespace LogLine

def render (l : LogLine) : String :=
  let message := if l.message.isEmpty then [] else [l.message]
  let fields := l.fields.map fun f => f.1 ++ "=" ++ f.2.inLine
  l.level.name ++ " " ++ l.target ++ ": " ++ " ".intercalate (message ++ fields)

end LogLine

namespace Report

def onTransport := "vigilante_zmq::transport"
def onSubscriber := "vigilante_zmq::core::subscriber"
def onSubscription := "vigilante_zmq::core::subscription"
def onHandler := "vigilante_zmq::core::handler"
def onShutdown := "vigilante_zmq::core::shutdown"
def onConsumer := "vigilante_zmq::subscribers::consumer"

def line : Report → LogLine
  | transportOpened address =>
    ⟨.debug, onTransport, "transport opened", [("address", .text address)]⟩
  | noAddress =>
    ⟨.info, onSubscriber, "no publisher address configured; subscriptions disabled", []⟩
  | subscriberStarted address capacity =>
    ⟨.info, onSubscriber, "subscriber started",
      [("address", .form address), ("capacity", .form (toString capacity))]⟩
  | subscriptionAdded topic id live =>
    ⟨.debug, onSubscriber, "subscription added",
      [("topic", .form topic.name), ("id", .form (toString id)), ("live", .form (toString live))]⟩
  | subscriptionCancelled topic id live =>
    ⟨.debug, onSubscriber, "subscription cancelled",
      [("topic", .form topic.name), ("id", .form (toString id)), ("live", .form (toString live))]⟩
  | releaseFailed topic id error =>
    ⟨.debug, onSubscription, "releasing dropped subscription failed",
      [("topic", .form topic.name), ("id", .form (toString id)), ("error", .form error.message)]⟩
  | subscriberClosed => ⟨.info, onSubscriber, "subscriber closed", []⟩
  | handlerDetached error =>
    ⟨.warn, onSubscriber, "could not stop handler on drop; detaching it",
      [("error", .form error.message)]⟩
  | handlerPanicked => ⟨.error, onSubscriber, "handler thread panicked", []⟩
  | frameDropped error =>
    ⟨.trace, onHandler, "dropping publisher frame",
      [("reason", .text error.label), ("unrecognized", .form (Text.Form.flag error.isUnrecognized)),
        ("error", .form error.message)]⟩
  | oldestDropped topic displaced delivered =>
    ⟨.trace, onHandler, "consumer queue full, dropped oldest event",
      [("topic", .form topic.name), ("displaced", .form (toString displaced)),
        ("delivered", .form (toString delivered))]⟩
  | filterInstalled topic =>
    ⟨.debug, onHandler, "topic filter installed", [("topic", .form topic.name)]⟩
  | filterRemoved topic => ⟨.debug, onHandler, "topic filter removed", [("topic", .form topic.name)]⟩
  | controlIgnored parts =>
    ⟨.warn, onHandler, "ignoring malformed control frame", [("parts", .form (toString parts))]⟩
  | termReceived => ⟨.info, onHandler, "handler received term", []⟩
  | handlerFailed error =>
    ⟨.error, onHandler, "handler stopped on transport error", [("error", .form error.message)]⟩
  | filterNotCleared topic error =>
    ⟨.debug, onShutdown, "could not clear topic filter during shutdown",
      [("topic", .form topic.name), ("error", .form error.message)]⟩
  | queuesClosed topic queues =>
    ⟨.debug, onShutdown, "closed consumer queues",
      [("topic", .form topic.name), ("queues", .form (toString queues))]⟩
  | consumerStarted consumer topic =>
    ⟨.debug, onConsumer, "consumer started", [("consumer", .text consumer), ("topic", .form topic.name)]⟩
  | consumerStopped consumer topic =>
    ⟨.debug, onConsumer, "consumer stopped", [("consumer", .text consumer), ("topic", .form topic.name)]⟩
  | consumerPanicked consumer topic panic =>
    ⟨.warn, onConsumer, "consumer panicked; continuing with next event",
      [("consumer", .text consumer), ("topic", .form topic.name), ("panic", .form panic)]⟩
  | consumerFinished consumer topic =>
    ⟨.debug, onConsumer, "queue closed, consumer finished",
      [("consumer", .text consumer), ("topic", .form topic.name)]⟩
  | workerFailed consumer =>
    ⟨.error, onConsumer, "consumer worker failed", [("consumer", .text consumer), ("error", .form "<join error>")]⟩

def consumer? : Report → Option String
  | consumerStarted c _ | consumerStopped c _ | consumerPanicked c _ _ | consumerFinished c _
  | workerFailed c => some c
  | _ => none

end Report
end NodeFeed
