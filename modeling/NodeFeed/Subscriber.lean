import NodeFeed.Handler
import NodeFeed.Config
import NodeFeed.Address

/-!
A subscriber from opening to closing. A close call goes through stages: it wins the flag, asks the
handler to stop, waits for the signal that it has, then joins the thread and lets go of the context.
If the request cannot be sent, the flag is given back and the call fails. Dropping a subscriber takes
the same way once, without waiting for the signal, and never fails.
-/

namespace NodeFeed

inductive Thread where
  | none
  | started
  | panicked
  deriving DecidableEq, Repr

structure Subscriber where
  config : Config
  closed : Bool
  thread : Thread
  context : Bool
  engine : Option Engine
  deriving DecidableEq, Repr

inductive CloseStage where
  | calling
  | asking
  | waiting
  | joining
  | ended (answer : Except CloseError Unit)

inductive DropStage where
  | calling
  | asking
  | joining
  | ended

namespace Subscriber

def disabled (config : Config) : Subscriber := ⟨config, false, .none, false, none⟩

def connect (config : Config) (filters : Filters) (stage : Stage) : Engine :=
  ⟨(Backend.fresh config.queueCapacity).advance .running, filters, stage⟩

def started (config : Config) (filters : Filters) : Subscriber :=
  ⟨config, false, .started, true, some (connect config filters .polling)⟩

def unserved (config : Config) : Subscriber :=
  ⟨config, false, .none, true, some (connect config .fresh .gone)⟩

def new (check : String → Except Errno Unit) (config : Config) :
    Except BuildError (Subscriber × List Report) :=
  if !config.isEnabled then .ok (disabled config, [.noAddress])
  else
    match check config.address with
    | .error e => .error (.connect config.address e)
    | .ok () => .ok (started config .fresh, [.transportOpened config.address,
        .subscriberStarted config.address config.queueCapacity])

def state (s : Subscriber) : Lifecycle :=
  match s.engine with
  | some e => e.backend.lifecycle
  | none => if s.closed then .exited else .running

def isEnabled (s : Subscriber) : Bool := s.engine.isSome

def capacity (s : Subscriber) : Nat := s.config.queueCapacity

def hasSeen (s : Subscriber) : Bool := s.engine.any fun e => e.backend.seen

/-- A frame was seen within the limit. When the question is asked some time has passed since the last
one, so the limit zero is never met. -/
def isReady (s : Subscriber) (limit : Nat) : Bool := 0 < limit && s.hasSeen

def form (s : Subscriber) : String :=
  Text.Form.fields "Subscriber" [
    ("address", Text.quote s.config.address), ("capacity", toString s.capacity),
    ("state", s.state.title)]

def subscribe (s : Subscriber) (t : Topic) : Outcome Subscriber Subscribed :=
  match s.engine with
  | none => ⟨.refused .disabled, s, []⟩
  | some e =>
    let r := e.backend.subscribe t
    ⟨r.answer, { s with engine := some { e with backend := r.state } }, r.log⟩

def join (s : Subscriber) : Subscriber × List Report :=
  ({ s with thread := .none },
    match s.thread with
    | .panicked => [.handlerPanicked]
    | .none | .started => [])

def releaseContext (s : Subscriber) : Subscriber := { s with context := false }

def closeStep (s : Subscriber) : CloseStage → Outcome Subscriber CloseStage
  | .calling =>
    if s.closed then ⟨.ended (.error .alreadyClosed), s, []⟩
    else
      let s := { s with closed := true }
      match s.engine with
      | none => ⟨.ended (.ok ()), s, []⟩
      | some _ => ⟨.asking, s, []⟩
  | .asking =>
    match s.engine with
    | none => ⟨.ended (.ok ()), s, []⟩
    | some e =>
      match e.backend.requestTerm with
      | .error why => ⟨.ended (.error why), { s with closed := false }, []⟩
      | .ok backend => ⟨.waiting, { s with engine := some { e with backend } }, []⟩
  | .waiting =>
    if s.engine.all fun e => e.backend.stopped then ⟨.joining, s, []⟩ else ⟨.waiting, s, []⟩
  | .joining =>
    let (s, log) := s.join
    ⟨.ended (.ok ()), s.releaseContext, log ++ [.subscriberClosed]⟩
  | .ended answer => ⟨.ended answer, s, []⟩

def dropStep (s : Subscriber) : DropStage → Outcome Subscriber DropStage
  | .calling =>
    if s.closed then ⟨.ended, s, []⟩
    else
      let s := { s with closed := true }
      match s.engine with
      | none => ⟨.ended, s, []⟩
      | some _ => ⟨.asking, s, []⟩
  | .asking =>
    match s.engine with
    | none => ⟨.ended, s, []⟩
    | some e =>
      match e.backend.requestTerm with
      | .error why => ⟨.ended, s, [.handlerDetached why]⟩
      | .ok backend => ⟨.joining, { s with engine := some { e with backend } }, []⟩
  | .joining =>
    let (s, log) := s.join
    ⟨.ended, s.releaseContext, log⟩
  | .ended => ⟨.ended, s, []⟩

structure Turn where
  subscriber : Subscriber
  log : List Report
  handlerLog : List Report
  notices : List Notice

def Turn.still (s : Subscriber) : Turn := ⟨s, [], [], []⟩

def settle (s : Subscriber) : Turn :=
  match s.engine with
  | none => .still s
  | some e =>
    let served := e.settle
    ⟨{ s with engine := some served.engine }, [], served.log, served.notices⟩

def Turn.after (first next : Turn) : Turn :=
  ⟨next.subscriber, first.log ++ next.log, first.handlerLog ++ next.handlerLog,
    first.notices ++ next.notices⟩

def closeTimes : Nat → Subscriber → CloseStage → CloseStage × Turn
  | 0, s, stage => (stage, .still s)
  | n + 1, s, stage =>
    let r := s.closeStep stage
    let settled := r.state.settle
    let (stage, more) := closeTimes n settled.subscriber r.answer
    (stage, Turn.after ⟨settled.subscriber, r.log, settled.handlerLog, settled.notices⟩ more)

def close (s : Subscriber) : CloseStage × Turn := closeTimes 4 s .calling

def dropTimes : Nat → Subscriber → DropStage → Turn
  | 0, s, _ => .still s
  | n + 1, s, stage =>
    let r := s.dropStep stage
    let settled := r.state.settle
    Turn.after ⟨settled.subscriber, r.log, settled.handlerLog, settled.notices⟩
      (dropTimes n settled.subscriber r.answer)

def drop (s : Subscriber) : Turn := dropTimes 3 s .calling

end Subscriber
end NodeFeed
