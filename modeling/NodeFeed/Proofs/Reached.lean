import NodeFeed.Proofs.Closing
import NodeFeed.Worker

/-!
Every function that moves an open subscriber on is a run of acts: the handler left to itself, the steps
of closing and dropping, and the steps of a worker. What holds after all runs of acts therefore holds
wherever the program gets. The handler keeps its order: what it does alone is an orderly run.
-/

namespace NodeFeed

namespace Engine

def Reaches (e next : Engine) : Prop := ∃ acts, e.run acts = next

namespace Reaches

theorem still (e : Engine) : e.Reaches e := ⟨[], rfl⟩

theorem byAct (e : Engine) (a : Act) : e.Reaches (e.act a) := ⟨[a], rfl⟩

theorem trans {e f g : Engine} (first : e.Reaches f) (rest : f.Reaches g) : e.Reaches g := by
  obtain ⟨before, rfl⟩ := first
  obtain ⟨after, rfl⟩ := rest
  exact ⟨before ++ after, runAppend e before after⟩

end Reaches

def Proceeds (e next : Engine) : Prop := ∃ acts, e.Orderly acts ∧ e.run acts = next

namespace Proceeds

theorem still (e : Engine) : e.Proceeds e := ⟨[], trivial, rfl⟩

theorem byAct {e : Engine} {a : Act} (timely : a.timely e.stage = true) : e.Proceeds (e.act a) :=
  ⟨[a], ⟨timely, trivial⟩, rfl⟩

theorem trans {e f g : Engine} (first : e.Proceeds f) (rest : f.Proceeds g) : e.Proceeds g := by
  obtain ⟨before, early, rfl⟩ := first
  obtain ⟨after, late, rfl⟩ := rest
  exact ⟨before ++ after, (e.orderlyAppend before after).mpr ⟨early, late⟩, runAppend e before after⟩

theorem reached {e next : Engine} (proceeds : e.Proceeds next) : e.Reaches next := by
  obtain ⟨acts, -, run⟩ := proceeds
  exact ⟨acts, run⟩

end Proceeds

theorem proceedTimesOrderly (n : Nat) (e : Engine) : e.Proceeds (proceedTimes n e).1 := by
  induction n generalizing e with
  | zero => exact .still e
  | succ n ih =>
    have timely : (Act.pass e.stage).timely e.stage = true := by simp [Act.timely]
    exact (Proceeds.byAct timely).trans (ih e.proceed.1)

theorem serveOrderly (n : Nat) (e : Engine) : e.Proceeds (serve n e).engine := by
  induction n generalizing e with
  | zero => exact .still e
  | succ n ih =>
    unfold serve
    split
    case h_1 there =>
      have timely : Act.control.timely e.stage = true := by simp [Act.timely, there]
      exact (Proceeds.byAct timely).trans (ih e.onControl.1)
    case h_2 => exact proceedTimesOrderly _ e

theorem settleOrderly (e : Engine) : e.Proceeds e.settle.engine := serveOrderly _ e

theorem settleReached (e : Engine) : e.Reaches e.settle.engine := e.settleOrderly.reached

end Engine

namespace Worker

def acts (w : Worker) : List Act :=
  match w.stage with
  | .receiving => [.receive w.subscription.place]
  | .leaving _ => [.release w.topic w.subscription.id]
  | .spawned | .checking | .handling | .closing | .ended _ => []

theorem receiveIdle {b : Backend} {place : Nat} {q : Queue Event}
    (found : b.registry.queue? place = some q) (kept : q.tryRecv.2 = q) : b.receive place = b := by
  have there : b.registry.queues.set place q = b.registry.queues := by
    obtain ⟨inside, same⟩ := List.getElem?_eq_some_iff.mp found
    exact same ▸ List.set_getElem_self inside
  simp only [Backend.receive, found, kept, Registry.putQueue, there]

theorem stepEngine (w : Worker) (e : Engine) :
    { e with backend := (w.step e.backend).state.2 } = e.run w.acts := by
  unfold acts
  cases stage : w.stage with
  | spawned => simp only [step, stage]; rfl
  | checking =>
    simp only [step, stage]
    split <;> rfl
  | receiving =>
    have acted : e.run [.receive w.subscription.place] =
        { e with backend := e.backend.receive w.subscription.place } := rfl
    simp only [step, stage, acted]
    cases found : e.backend.registry.queue? w.subscription.place with
    | none => simp [Backend.receive, found]
    | some q =>
      simp only [Option.map_some, Queue.poll]
      rcases q.tryRecvCases with ⟨a, rest, held, done⟩ | ⟨empty, done⟩
      · simp only [done, Backend.receive, found]
      · have still := receiveIdle found (by rw [done])
        rw [still, done]
        cases q.closed <;> rfl
  | handling =>
    simp only [step, stage]
    split <;> rfl
  | closing =>
    simp only [step, stage]
    split <;> split <;> rfl
  | leaving failed => simp only [step, stage]; rfl
  | ended failed => simp only [step, stage]; rfl

theorem stepReached (w : Worker) (e : Engine) :
    e.Reaches { e with backend := (w.step e.backend).state.2 } :=
  ⟨w.acts, (w.stepEngine e).symm⟩

end Worker

namespace Subscriber

def Reaches (s next : Subscriber) : Prop :=
  match s.engine, next.engine with
  | some e, some f => e.Reaches f
  | none, none => True
  | _, _ => False

theorem reachesStill {s next : Subscriber} (same : next.engine = s.engine) : s.Reaches next := by
  unfold Reaches
  rw [same]
  cases s.engine with
  | none => trivial
  | some e => exact .still e

theorem reachesEngine {s next : Subscriber} {e f : Engine} (there : s.engine = some e)
    (after : next.engine = some f) (reached : e.Reaches f) : s.Reaches next := by
  unfold Reaches
  rw [there, after]
  exact reached

theorem openedReached {check : String → Except Errno Unit} {config : Config} {s : Subscriber}
    {log : List Report} (opened : new check config = .ok (s, log)) (e : Engine)
    (there : s.engine = some e) : (Engine.opening config.queueCapacity .fresh).Reaches e := by
  unfold new at opened
  split at opened
  · cases opened
    cases there
  · split at opened
    · cases opened
    · cases opened
      cases there
      exact .byAct _ .start

theorem subscribeReached (s : Subscriber) (t : Topic) : s.Reaches (s.subscribe t).state := by
  unfold subscribe
  split
  case h_1 => exact reachesStill rfl
  case h_2 e there => exact reachesEngine there rfl (.byAct e (.subscribe t))

theorem reachesRun {s next : Subscriber} {acts : List Act}
    (engine : next.engine = s.engine.map (·.run acts)) : s.Reaches next := by
  unfold Reaches
  rw [engine]
  cases s.engine with
  | none => trivial
  | some e => exact ⟨acts, rfl⟩

theorem closeStepReached (s : Subscriber) (stage : CloseStage) : s.Reaches (s.closeStep stage).state :=
  reachesRun (closeEngine (s.closeSteps stage))

theorem dropStepReached (s : Subscriber) (stage : DropStage) : s.Reaches (s.dropStep stage).state :=
  reachesRun (s.dropEngine stage)

theorem settleReached (s : Subscriber) : s.Reaches s.settle.subscriber := by
  unfold settle
  split
  case h_1 => exact reachesStill rfl
  case h_2 e there => exact reachesEngine there rfl e.settleReached

end Subscriber
end NodeFeed
