import NodeFeed.Backend

/-!
A worker drives one consumer: it takes events from its subscription one at a time and hands each to
the consumer. Before every look at the queue it looks at the stop signal. A panic of the consumer
while it handles an event costs that call only. When the queue is closed and empty the consumer is told
once, and the worker returns; its receiver is released as it returns, whatever the reason.

A stop call gives the signal first, then cancels the subscription, and then waits for the worker. It
does not mind that the subscriber has been shut down, as the worker ends then in any case.
-/

namespace NodeFeed

structure Consumer where
  name : String
  gated : Bool
  panics : List (Nat × Option String)
  hearsClosing : Bool
  panicsOnClosing : Bool
  deriving DecidableEq, Repr

inductive WorkerStage where
  | spawned
  | checking
  | receiving
  | handling
  | closing
  | leaving (failed : Bool)
  | ended (failed : Bool)
  deriving DecidableEq, Repr

inductive StopStage where
  | calling
  | cancelling
  | joining (answer : Except SubscribeError Unit)
  | ended (answer : Except SubscribeError Unit)

structure Worker where
  subscription : Subscription
  consumer : Consumer
  stage : WorkerStage
  stopping : Bool
  permits : Nat
  given : List Event
  closedCalls : Nat
  deriving DecidableEq, Repr

namespace Worker

def spawn (s : Subscription) (c : Consumer) : Worker := ⟨s, c, .spawned, false, 0, [], 0⟩

def topic (w : Worker) : Topic := w.subscription.topic

def panic? (w : Worker) : Option String :=
  (w.consumer.panics.lookup (w.given.length - 1)).map fun text => text.getD "unknown panic"

def hasEnded (w : Worker) : Bool :=
  match w.stage with
  | .ended _ => true
  | _ => false

def hasFailed (w : Worker) : Bool := w.stage == .ended true

def step (w : Worker) (b : Backend) : Outcome (Worker × Backend) Unit :=
  match w.stage with
  | .spawned =>
    ⟨(), ({ w with stage := .checking }, b), [.consumerStarted w.consumer.name w.topic]⟩
  | .checking =>
    if w.stopping then
      ⟨(), ({ w with stage := .leaving false }, b), [.consumerStopped w.consumer.name w.topic]⟩
    else ⟨(), ({ w with stage := .receiving }, b), []⟩
  | .receiving =>
    match (b.registry.queue? w.subscription.place).map Queue.poll with
    | some (.ready a, queue) =>
      let registry := b.registry.putQueue w.subscription.place queue
      ⟨(), ({ w with stage := .handling, given := w.given ++ [a] }, { b with registry }), []⟩
    | some (.pending, _) => ⟨(), ({ w with stage := .checking }, b), []⟩
    | some (.closed, _) | none => ⟨(), ({ w with stage := .closing }, b), []⟩
  | .handling =>
    if w.consumer.gated && w.permits == 0 then ⟨(), (w, b), []⟩
    else
      let permits := if w.consumer.gated then w.permits - 1 else w.permits
      ⟨(), ({ w with stage := .checking, permits }, b),
        match w.panic? with
        | some text => [.consumerPanicked w.consumer.name w.topic text]
        | none => []⟩
  | .closing =>
    let w := if w.consumer.hearsClosing then { w with closedCalls := w.closedCalls + 1 } else w
    if w.consumer.panicsOnClosing then ⟨(), ({ w with stage := .leaving true }, b), []⟩
    else
      ⟨(), ({ w with stage := .leaving false }, b), [.consumerFinished w.consumer.name w.topic]⟩
  | .leaving failed =>
    let r := b.release w.topic w.subscription.id
    ⟨(), ({ w with stage := .ended failed }, r.state), r.log⟩
  | .ended _ => ⟨(), (w, b), []⟩

def signal (w : Worker) : Worker := { w with stopping := true }

def isIdle (w : Worker) (b : Backend) : Bool :=
  match w.stage with
  | .checking => !w.stopping &&
    (match (b.registry.queue? w.subscription.place).map Queue.poll with
      | some (.pending, _) => true
      | _ => false)
  | .handling => w.consumer.gated && w.permits == 0
  | .ended _ => true
  | _ => false

def stepTimes : Nat → Worker → Backend → Outcome (Worker × Backend) Unit
  | 0, w, b => ⟨(), (w, b), []⟩
  | n + 1, w, b =>
    if w.isIdle b then ⟨(), (w, b), []⟩
    else
      let r := w.step b
      let more := stepTimes n r.state.1 r.state.2
      ⟨(), more.state, r.log ++ more.log⟩

/-- No run of the task is longer, as each event in the queue takes three steps. -/
def allowance (w : Worker) (b : Backend) : Nat :=
  3 * ((b.registry.queue? w.subscription.place).map fun q => q.buffer.length).getD 0 + 8

def run (w : Worker) (b : Backend) : Outcome (Worker × Backend) Unit :=
  stepTimes (w.allowance b) w b

def runAll (b : Backend) : List Worker → Outcome (List Worker × Backend) Unit
  | [] => ⟨(), ([], b), []⟩
  | w :: rest =>
    let r := w.run b
    let more := runAll r.state.2 rest
    ⟨(), (r.state.1 :: more.state.1, more.state.2), r.log ++ more.log⟩

def failure (w : Worker) : List Report :=
  if w.hasFailed then [.workerFailed w.consumer.name] else []

def stopAnswer : Except SubscribeError Unit → Except SubscribeError Unit
  | .ok () | .error .exited => .ok ()
  | .error why => .error why

def stopStep (w : Worker) (b : Backend) : StopStage → Outcome (Worker × Backend) StopStage
  | .calling => ⟨.cancelling, (w.signal, b), []⟩
  | .cancelling =>
    let r := b.cancel w.topic w.subscription.id
    ⟨.joining (stopAnswer r.answer), (w, r.state), r.log⟩
  | .joining answer =>
    if w.hasEnded then ⟨.ended answer, (w, b), w.failure⟩ else ⟨.joining answer, (w, b), []⟩
  | .ended answer => ⟨.ended answer, (w, b), []⟩

def stop (w : Worker) (b : Backend) : Outcome (Worker × Backend) StopStage :=
  let asked := w.stopStep b .calling
  let cancelled := asked.state.1.stopStep asked.state.2 asked.answer
  let ran := cancelled.state.1.run cancelled.state.2
  let joined := ran.state.1.stopStep ran.state.2 cancelled.answer
  ⟨joined.answer, joined.state, asked.log ++ cancelled.log ++ ran.log ++ joined.log⟩

def form (w : Worker) : String :=
  Text.Form.fields "ConsumerHandle" [
    ("name", Text.quote w.consumer.name), ("topic", w.topic.title),
    ("finished", Text.Form.flag w.hasEnded)]

end Worker
end NodeFeed
