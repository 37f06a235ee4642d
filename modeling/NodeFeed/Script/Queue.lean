import NodeFeed.Queue.Endpoint

/-!
Scripts on one queue of integers: pushes and closes on one side, a receiver or a stream on the other.
Every step has its answer.
-/

namespace NodeFeed.Script

inductive Feeding where
  | push (a : Int)
  | pushMany (as : List Int)
  | close
  deriving DecidableEq, Repr

inductive Fed where
  | pushed (outcome : Push)
  | pushedMany (outcomes : List Push)
  | closed (first : Bool)
  deriving DecidableEq, Repr

inductive Receiving where
  | tryRecv
  | recv
  | blockingRecv
  | drain
  | info
  | form
  deriving DecidableEq, Repr

inductive Received (α : Type) where
  | taken (answer : Except RecvError α)
  | polled (answer : Poll α)
  | wouldBlock
  | drained (events : List α) (why : RecvError)
  | info (length capacity : Nat) (closed : Bool)
  | form (text : String)

def Receiving.run {α : Type} (q : Queue α) : Receiving → Received α × Queue α
  | .tryRecv => let (answer, q) := q.tryRecv; (.taken answer, q)
  | .recv => let (answer, q) := q.poll; (.polled answer, q)
  | .blockingRecv =>
    match q.poll with
    | (.pending, _) => (.wouldBlock, q)
    | (answer, q) => (.polled answer, q)
  | .drain => let ((events, why), q) := q.drain; (.drained events why, q)
  | .info => (.info q.buffer.length q.capacity q.closed, q)
  | .form => (.form q.form, q)

namespace Feeding

def pushAll (c : Channel Int) : List Int → List Push × Channel Int
  | [] => ([], c)
  | a :: rest =>
    let (outcome, c) := c.push a
    let (outcomes, c) := pushAll c rest
    (outcome :: outcomes, c)

def run (c : Channel Int) : Feeding → Fed × Channel Int
  | push a => let (outcome, c) := c.push a; (.pushed outcome, c)
  | pushMany as => let (outcomes, c) := pushAll c as; (.pushedMany outcomes, c)
  | close => let (first, c) := c.close; (.closed first, c)

end Feeding

inductive QueueStep where
  | feed (step : Feeding)
  | receive (step : Receiving)
  | recvAcross (steps : List Feeding)
  | onRelease
  | releases
  | dropReceiver
  | intoStream
  | next
  | dropStream

structure Glance where
  after : Option (Fed × Bool)
  poll : Poll Int

inductive QueueAnswer where
  | done
  | fed (answer : Fed)
  | received (answer : Received Int)
  | glances (looks : List Glance)
  | calls (counts : List Nat)
  | next (answer : Poll Int)
  | ended
  | noReceiver
  | noStream

namespace QueueStep

def receiveFrom (c : Channel Int) : Receiving → Received Int × Channel Int
  | .recv => let (answer, c) := c.recv; (.polled answer, c)
  | .blockingRecv =>
    match c.queue.poll with
    | (.pending, _) => (.wouldBlock, c)
    | _ => let (answer, c) := c.recv; (.polled answer, c)
  | step => let (answer, queue) := step.run c.queue; (answer, { c with queue })

def glancesAfter (c : Channel Int) : List Feeding → List Glance × Channel Int
  | [] => ([], c)
  | step :: rest =>
    let (fed, c) := step.run c
    let woken := c.isWoken
    let (poll, c) := c.poll
    let glance := ⟨some (fed, woken), poll⟩
    match poll with
    | .pending =>
      let (more, c) := glancesAfter c rest
      (glance :: more, c)
    | _ => ([glance], c)

def recvAcrossSteps (c : Channel Int) (steps : List Feeding) : List Glance × Channel Int :=
  let (poll, c) := c.poll
  match poll with
  | .pending =>
    let (more, c) := glancesAfter c steps
    (⟨none, poll⟩ :: more, c.leave)
  | _ => ([⟨none, poll⟩], c.leave)

def onReceiver (e : Endpoint Int) (f : Endpoint Int → QueueAnswer × Endpoint Int) :
    QueueAnswer × Endpoint Int :=
  match e.owner with
  | .receiver => f e
  | _ => (.noReceiver, e)

def run (e : Endpoint Int) : QueueStep → QueueAnswer × Endpoint Int
  | feed step => let (answer, channel) := step.run e.channel; (.fed answer, { e with channel })
  | receive step => onReceiver e fun e =>
    let (answer, channel) := receiveFrom e.channel step
    (.received answer, { e with channel })
  | recvAcross steps => onReceiver e fun e =>
    let (looks, channel) := recvAcrossSteps e.channel steps
    (.glances looks, { e with channel })
  | onRelease => onReceiver e fun e => (.done, e.onRelease)
  | releases => (.calls e.calls, e)
  | dropReceiver => (.done, e.dropReceiver)
  | intoStream => onReceiver e fun e => (.done, e.intoStream)
  | next =>
    match e.owner with
    | .stream => let (answer, e) := e.next; (.next answer, e)
    | .ended => (.ended, e)
    | _ => (.noStream, e)
  | dropStream => (.done, e.dropStream)

def runAll (e : Endpoint Int) : List QueueStep → List QueueAnswer
  | [] => []
  | step :: rest =>
    let (answer, e) := step.run e
    answer :: runAll e rest

end QueueStep

def integerSize : Nat := 8

def runQueue (capacity : Nat) (steps : List QueueStep) : Except Overflow (List QueueAnswer) :=
  if Queue.canReserve integerSize capacity then
    .ok (QueueStep.runAll (Endpoint.make capacity) steps)
  else .error .overflow

end NodeFeed.Script
