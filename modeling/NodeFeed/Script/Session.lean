import NodeFeed.Subscriber
import NodeFeed.Worker
import NodeFeed.Script.Queue

/-!
Scripts on one subscriber and what is made from it: subscriptions, receivers, cancel handles and
workers, each under a name. After every step the handler reads all commands sent, so an entry shows a
settled state. The frames nobody serves are shown as they were sent.
-/

namespace NodeFeed.Script

inductive Mode where
  | disabled
  | detached
  | live
  | noFilter
  deriving DecidableEq, Repr

inductive Object where
  | subscription (s : Subscription)
  | receiver (s : Subscription)
  | handle (s : Subscription)
  | worker (index reported : Nat)
  deriving DecidableEq, Repr

structure Session where
  mode : Mode
  subscriber : Subscriber
  dropped : Bool
  objects : List (String × Object)
  workers : List Worker

inductive SessionStep where
  | subscribe (topic : Topic) (name : String)
  | close
  | closeConcurrent (calls : Nat)
  | ready (limit : Nat)
  | lastEvent
  | summary
  | idle
  | dropSubscriber
  | dispatch (frame : Frame)
  | publish (frames : List Frame)
  | rawControl (frame : Frame)
  | dropControl
  | shutdown
  | exitGuard (panicked attached : Bool)
  | interrupt
  | terminate
  | receive (name : String) (step : Receiving)
  | cancel (name : String)
  | cancelHandle (name handle : String)
  | intoParts (name receiver handle : String)
  | drop (name : String)
  | spawn (name : String) (consumer : Consumer)
  | permit (name : String) (count : Nat)
  | run (name : String)
  | stop (name : String)
  | join (name : String)

inductive Missing where
  | subscriber
  | object
  | worker
  | receiver
  deriving DecidableEq, Repr

inductive SessionAnswer where
  | opened
  | done
  | subscribed (r : Subscribed)
  | cancelled (r : Except SubscribeError Unit)
  | closed (r : Except CloseError Unit)
  | closePending
  | closeCounts (succeeded alreadyClosed : Nat)
  | flag (b : Bool)
  | summary (s : Subscriber)
  | dispatched (r : Except DecodeError DispatchCount)
  | sent (b : Bool)
  | interrupted (b : Bool)
  | terminated (b : Bool)
  | received (answer : Received Event)
  | subscriptionInfo (topic : Topic) (answer : Received Event)
  | handleInfo (topic : Topic)
  | workerInfo (name : String) (finished : Bool)
  | form (text : String)
  | ran (events : List Event) (closedCalls : Nat) (finished : Bool)
  | stopped (r : Except SubscribeError Unit) (events : List Event) (closedCalls : Nat)
  | joined (events : List Event) (closedCalls : Nat)
  | wouldBlock
  | missing (what : Missing)

structure Moved where
  answer : SessionAnswer
  session : Session
  log : List Report
  handlerLog : List Report
  notices : List Notice

structure SessionEntry where
  answer : SessionAnswer
  state : Option Lifecycle
  view : Option (List Nat × Bool × Bool)
  log : List Report
  handlerLog : List Report
  wire : List Notice
  control : List Frame

namespace Session

def moved (answer : SessionAnswer) (session : Session) (log : List Report) : Moved :=
  ⟨answer, session, log, [], []⟩

def stay (answer : SessionAnswer) (s : Session) : Moved := moved answer s []

def lacks (what : Missing) (s : Session) : Moved := stay (.missing what) s

def engine? (s : Session) : Option Engine := s.subscriber.engine

def putEngine (s : Session) (e : Engine) : Session :=
  { s with subscriber := { s.subscriber with engine := some e } }

def putBackend (s : Session) (b : Backend) : Session :=
  match s.engine? with
  | none => s
  | some e => s.putEngine { e with backend := b }

def object? (s : Session) (name : String) : Option Object := s.objects.lookup name

def erase (s : Session) (name : String) : Session :=
  { s with objects := s.objects.filter fun o => o.1 != name }

def release (s : Session) : Object → Session × List Report
  | .subscription sub | .receiver sub =>
    match s.engine? with
    | none => (s, [])
    | some e =>
      let r := e.backend.release sub.topic sub.id
      (s.putBackend r.state, r.log)
  | .handle _ | .worker _ _ => (s, [])

def put (s : Session) (name : String) (o : Object) : Session × List Report :=
  let old := s.object? name
  let s := s.erase name
  let s := { s with objects := s.objects ++ [(name, o)] }
  match old with
  | none => (s, [])
  | some old => s.release old

def runWorkers (s : Session) : Session × List Report :=
  match s.engine? with
  | none => (s, [])
  | some e =>
    let r := Worker.runAll e.backend s.workers
    ({ s.putBackend r.state.2 with workers := r.state.1 }, r.log)

def putWorker (s : Session) (index : Nat) (w : Worker) : Session :=
  { s with workers := s.workers.set index w }

def worker? (s : Session) (name : String) : Except Missing (Nat × Nat × Worker) :=
  match s.object? name with
  | none => .error .object
  | some (.worker index reported) =>
    match s.workers[index]? with
    | some w => .ok (index, reported, w)
    | none => .error .worker
  | some _ => .error .worker

def receiving? (s : Session) (name : String) : Except Missing Subscription :=
  match s.object? name with
  | none => .error .object
  | some (.subscription sub) | some (.receiver sub) => .ok sub
  | some _ => .error .receiver

def receiveFrom (s : Session) (sub : Subscription) (step : Receiving) :
    Option (Received Event × Session) := do
  let e ← s.engine?
  let q ← e.backend.registry.queue? sub.place
  let (answer, q) := step.run q
  let registry := e.backend.registry.putQueue sub.place q
  return (answer, s.putBackend { e.backend with registry })

def subscriptionForm (sub : Subscription) (queue : String) : String :=
  Text.Form.fields "Subscription" [
    ("topic", sub.topic.title), ("id", toString sub.id), ("receiver", queue)]

def handleForm (sub : Subscription) : String :=
  Text.Form.fields "CancelHandle" [("topic", sub.topic.title), ("id", toString sub.id)]

def receive (s : Session) (name : String) (step : Receiving) : Moved :=
  match s.object? name, step with
  | some (.handle sub), .info => stay (.handleInfo sub.topic) s
  | some (.handle sub), .form => stay (.form (handleForm sub)) s
  | some (.worker index _), .info =>
    match s.workers[index]? with
    | some w => stay (.workerInfo w.consumer.name w.hasEnded) s
    | none => lacks .worker s
  | some (.worker index _), .form =>
    match s.workers[index]? with
    | some w => stay (.form w.form) s
    | none => lacks .worker s
  | object, _ =>
    match s.receiving? name with
    | .error what => lacks what s
    | .ok sub =>
      match s.receiveFrom sub step with
      | none => lacks .receiver s
      | some (answer, s) =>
        match object, answer with
        | some (.subscription _), .info .. => stay (.subscriptionInfo sub.topic answer) s
        | some (.subscription _), .form text => stay (.form (subscriptionForm sub text)) s
        | _, _ => stay (.received answer) s

def ofTurn (answer : SessionAnswer) (s : Session) (t : Subscriber.Turn) : Moved :=
  ⟨answer, { s with subscriber := t.subscriber }, t.log, t.handlerLog, t.notices⟩

def close (s : Session) : Moved :=
  let (stage, turn) := s.subscriber.close
  s.ofTurn (match stage with
    | .ended r => .closed r
    | _ => .closePending) turn

def closeMany : Nat → Subscriber → (Nat × Nat) × Subscriber.Turn
  | 0, s => ((0, 0), .still s)
  | n + 1, s =>
    let (stage, turn) := s.close
    let ((succeeded, already), more) := closeMany n turn.subscriber
    (match stage with
      | .ended (.ok ()) => (succeeded + 1, already)
      | .ended (.error .alreadyClosed) => (succeeded, already + 1)
      | _ => (succeeded, already),
    turn.after more)

def publishTo (e : Engine) : List Frame → Engine × List Report
  | [] => (e, [])
  | f :: rest =>
    let (e, log) := if e.stage = .polling ∧ e.filters.passes f then e.onFrame f else (e, [])
    let (e, more) := publishTo e rest
    (e, log ++ more)

/-- The context is terminated under the handler: waiting fails, and so does every filter change. -/
def terminateEngine (e : Engine) : Engine × List Report :=
  match e.stage with
  | .polling =>
    let e := { e with
      filters := { e.filters with refusal := some .eterm }
      backend := { e.backend with link := { e.backend.link with fault := some .eterm } } }
    let (e, log) := e.pollFails .eterm
    let (e, more) := e.finish
    (e, log ++ more)
  | _ => (e, [])

def onEngine (s : Session) (f : Engine → Moved) : Moved :=
  if s.dropped then lacks .subscriber s
  else match s.engine? with
    | none => lacks .subscriber s
    | some e => f e

def onSubscriber (s : Session) (f : Subscriber → Moved) : Moved :=
  if s.dropped then lacks .subscriber s else f s.subscriber

def onWorker (s : Session) (name : String) (f : Nat → Nat → Worker → Moved) : Moved :=
  match s.worker? name with
  | .error what => lacks what s
  | .ok (index, reported, w) => f index reported w

def runWorker (s : Session) (name : String) : Moved :=
  s.onWorker name fun index reported _ =>
    let (s, log) := s.runWorkers
    match s.workers[index]? with
    | none => moved (.missing .worker) s log
    | some w =>
      let s := { s with objects := s.objects.map fun o =>
        if o.1 == name then (name, .worker index w.given.length) else o }
      moved (.ran (w.given.drop reported) w.closedCalls w.hasEnded) s log

def stopWorker (s : Session) (name : String) : Moved :=
  s.onWorker name fun index reported w =>
    match s.engine? with
    | none => lacks .subscriber s
    | some e =>
      let w := if w.consumer.gated then { w with permits := w.permits + 1000 } else w
      let r := w.stop e.backend
      let w := r.state.1
      let s := ((s.putBackend r.state.2).putWorker index w).erase name
      let (s, others) := s.runWorkers
      moved (match r.answer with
        | .ended answer => .stopped answer (w.given.drop reported) w.closedCalls
        | .calling | .cancelling | .joining _ => .wouldBlock) s (r.log ++ others)

def joinWorker (s : Session) (name : String) : Moved :=
  s.onWorker name fun index reported _ =>
    let (s, log) := s.runWorkers
    match s.workers[index]? with
    | none => moved (.missing .worker) s log
    | some w =>
      if w.hasEnded then
        moved (.joined (w.given.drop reported) w.closedCalls) (s.erase name) (log ++ w.failure)
      else moved .wouldBlock s log

def step (s : Session) : SessionStep → Moved
  | .subscribe topic name => s.onSubscriber fun subscriber =>
    let r := subscriber.subscribe topic
    let s := { s with subscriber := r.state }
    match r.answer with
    | .added sub =>
      let (s, log) := s.put name (.subscription sub)
      moved (.subscribed r.answer) s (r.log ++ log)
    | .refused _ | .overflow => moved (.subscribed r.answer) s r.log
  | .close => s.onSubscriber fun _ => s.close
  | .closeConcurrent calls => s.onSubscriber fun subscriber =>
    let ((succeeded, already), turn) := closeMany calls subscriber
    s.ofTurn (.closeCounts succeeded already) turn
  | .ready limit => s.onSubscriber fun subscriber => stay (.flag (subscriber.isReady limit)) s
  | .lastEvent => s.onSubscriber fun subscriber => stay (.flag subscriber.hasSeen) s
  | .summary => s.onSubscriber fun subscriber => stay (.summary subscriber) s
  | .idle => s.onSubscriber fun _ =>
    let (s, log) := s.runWorkers
    moved .done s log
  | .dropSubscriber => s.onSubscriber fun subscriber =>
    { s with dropped := true }.ofTurn .done subscriber.drop
  | .dispatch frame => s.onEngine fun e =>
    match e.backend.dispatch frame with
    | .error why => stay (.dispatched (.error why)) s
    | .ok (_, count, b) => stay (.dispatched (.ok count)) (s.putBackend b)
  | .publish frames =>
    match s.engine? with
    | none => stay .done s
    | some e =>
      let (e, log) := publishTo e frames
      ⟨.done, s.putEngine e, [], log, []⟩
  | .rawControl frame => s.onEngine fun e =>
    match e.backend.link.post frame with
    | .error _ => stay (.sent false) s
    | .ok link => stay (.sent true) (s.putBackend { e.backend with link })
  | .dropControl => s.onEngine fun e =>
    stay (.flag e.backend.link.front) (s.putBackend { e.backend with link := e.backend.link.drop })
  | .shutdown => s.onEngine fun e =>
    let (e, log) := e.shutdown
    moved .done (s.putEngine e) log
  | .exitGuard panicked attached => s.onEngine fun e =>
    let s := s.putBackend e.backend.exitGuard
    stay .done (if panicked && attached then
      { s with subscriber := { s.subscriber with thread := .panicked } } else s)
  | .interrupt => stay (.interrupted (s.engine?.any fun e => e.stage == .polling)) s
  | .terminate => s.onEngine fun e =>
    if s.subscriber.context then
      let (e, log) := terminateEngine e
      ⟨.terminated true, s.putEngine e, [], log, []⟩
    else stay (.terminated false) s
  | .receive name step => s.receive name step
  | .cancel name =>
    match s.object? name, s.engine? with
    | some (.subscription sub), some e | some (.handle sub), some e =>
      let r := e.backend.cancel sub.topic sub.id
      moved (.cancelled r.answer) (s.putBackend r.state) r.log
    | _, _ => lacks .object s
  | .cancelHandle name handle =>
    match s.object? name with
    | some (.subscription sub) | some (.handle sub) =>
      let (s, log) := s.put handle (.handle sub)
      moved .done s log
    | _ => lacks .object s
  | .intoParts name receiver handle =>
    match s.object? name with
    | some (.subscription sub) =>
      let (s, log) := (s.erase name).put receiver (.receiver sub)
      let (s, more) := s.put handle (.handle sub)
      moved .done s (log ++ more)
    | _ => lacks .object s
  | .drop name =>
    match s.object? name with
    | none => lacks .object s
    | some o =>
      let (s, log) := (s.erase name).release o
      moved .done s log
  | .spawn name consumer =>
    match s.object? name with
    | some (.subscription sub) =>
      let s := { s.erase name with workers := s.workers ++ [Worker.spawn sub consumer] }
      let (s, log) := s.put name (.worker (s.workers.length - 1) 0)
      moved .done s log
    | _ => lacks .object s
  | .permit name count => s.onWorker name fun index _ w =>
    stay .done (s.putWorker index { w with permits := w.permits + count })
  | .run name => s.runWorker name
  | .stop name => s.stopWorker name
  | .join name => s.joinWorker name

def inConsumerOrder (log : List Report) : List Report :=
  log.mergeSort fun a b =>
    match a.consumer?, b.consumer? with
    | none, _ => true
    | some _, none => false
    | some x, some y => !decide (y < x)

def present (m : Moved) : SessionEntry × Session :=
  let settled := m.session.subscriber.settle
  let s := { m.session with subscriber := settled.subscriber }
  let control := match s.mode, s.engine? with
    | .detached, some e => e.backend.link.pending
    | _, _ => []
  let running := s.engine?.any fun e => e.stage == .polling
  let entry : SessionEntry := {
    answer := m.answer
    state := if s.dropped then none else some s.subscriber.state
    view := if s.dropped then none else s.engine?.map fun e =>
      (Topic.all.map e.backend.registry.live, e.backend.exited, e.backend.stopped)
    log := inConsumerOrder (m.log ++ settled.log)
    handlerLog := m.handlerLog ++ settled.handlerLog
    wire := if running then m.notices ++ settled.notices else []
    control }
  match s.mode, s.engine? with
  | .detached, some e =>
    (entry, s.putBackend { e.backend with link := { e.backend.link with pending := [] } })
  | _, _ => (entry, s)

def entries (s : Session) : List SessionStep → List SessionEntry
  | [] => []
  | step :: rest =>
    let (entry, s) := present (s.step step)
    entry :: entries s rest

def ofSubscriber (mode : Mode) (s : Subscriber) : Session := ⟨mode, s, false, [], []⟩

def openIn (mode : Mode) (node : String) (capacity : UInt64) : Moved :=
  let config (address : String) : Config := ⟨address, capacity⟩
  let idle := config "tcp://127.0.0.1:1"
  let node := config node
  match mode with
  | .disabled => moved .opened (ofSubscriber mode (.disabled (config ""))) [.noAddress]
  | .detached => moved .opened (ofSubscriber mode (.unserved idle)) [.transportOpened idle.address]
  | .live => moved .opened (ofSubscriber mode (.started node .fresh))
      [.transportOpened node.address, .subscriberStarted node.address node.queueCapacity]
  | .noFilter => moved .opened (ofSubscriber mode (.started idle (.refusing .einval)))
      [.transportOpened idle.address]

end Session

def SessionAnswer.overflows : SessionAnswer → Bool
  | .subscribed .overflow => true
  | _ => false

def runSession (mode : Mode) (node : String) (capacity : UInt64) (steps : List SessionStep) :
    Except Overflow (List SessionEntry) :=
  let (entry, s) := Session.present (Session.openIn mode node capacity)
  let entries := entry :: s.entries steps
  if entries.any fun e => e.answer.overflows then .error .overflow else .ok entries

end NodeFeed.Script
