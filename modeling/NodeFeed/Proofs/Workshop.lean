import NodeFeed.Proofs.Departures
import NodeFeed.Proofs.Reached

/-!
One worker, a stop call on it, and everybody else. The others may do whatever callers, the publisher and
the handler can do, and cancel the worker's subscription too; only its receiver they do not have. A move
is one step of the worker, one of the stop call, or one act of the others, in any order and number. The
calls that the consumer gets are read off the worker's steps, and what happens to the subscriber is a run
of acts.
-/

namespace NodeFeed

open Registry

inductive Call where
  | begins (event : Event)
  | ends (panic : Option String)
  | closes
  deriving DecidableEq, Repr

namespace Call

def begun? : Call → Option Event
  | begins event => some event
  | ends _ | closes => none

def quiet : Call → Call
  | ends _ => ends none
  | call => call

end Call

def begun (calls : List Call) : List Event := calls.filterMap Call.begun?

theorem begunAppend (first rest : List Call) : begun (first ++ rest) = begun first ++ begun rest :=
  List.filterMap_append

def Consumer.panic? (c : Consumer) (i : Nat) : Option String :=
  (c.panics.lookup i).map fun text => text.getD "unknown panic"

def handled (c : Consumer) (events : List Event) : List Call :=
  events.zipIdx.flatMap fun (event, i) => [.begins event, .ends (c.panic? i)]

theorem handledSnoc (c : Consumer) (events : List Event) (event : Event) :
    handled c (events ++ [event]) =
      handled c events ++ [.begins event, .ends (c.panic? events.length)] := by
  simp [handled, List.zipIdx_append]

theorem handledBegun (c : Consumer) (events : List Event) : begun (handled c events) = events := by
  induction events using List.reverseRecOn with
  | nil => rfl
  | append_singleton events event ih =>
    rw [handledSnoc, begunAppend, ih]
    rfl

namespace Worker

def overs (w : Worker) (next : WorkerStage) : List Call :=
  match w.stage, next with
  | .handling, .checking => [.ends w.panic?]
  | .closing, _ => [.closes]
  | _, _ => []

def calls (w : Worker) (b : Backend) : List Call :=
  let next := (w.step b).state.1
  (next.given.drop w.given.length).map .begins ++ w.overs next.stage

inductive Steps (w : Worker) (b : Backend) : List Call → List Act → Worker → Prop where
  | starts (there : w.stage = .spawned) : Steps w b [] [] { w with stage := .checking }
  | heeds (there : w.stage = .checking) (told : w.stopping = true) :
      Steps w b [] [] { w with stage := .leaving false }
  | goesOn (there : w.stage = .checking) (free : w.stopping = false) :
      Steps w b [] [] { w with stage := .receiving }
  | takes (there : w.stage = .receiving) {q : Queue Event} {event : Event} {rest : List Event}
      (found : b.registry.queue? w.subscription.place = some q) (held : q.buffer = event :: rest) :
      Steps w b [.begins event] [.receive w.subscription.place]
        { w with stage := .handling, given := w.given ++ [event] }
  | waits (there : w.stage = .receiving) {q : Queue Event}
      (found : b.registry.queue? w.subscription.place = some q) (empty : q.buffer = [])
      (opened : q.closed = false) :
      Steps w b [] [.receive w.subscription.place] { w with stage := .checking }
  | drains (there : w.stage = .receiving)
      (dry : ∀ q, b.registry.queue? w.subscription.place = some q → q.buffer = [] ∧ q.closed = true) :
      Steps w b [] [.receive w.subscription.place] { w with stage := .closing }
  | holds (there : w.stage = .handling) : Steps w b [] [] w
  | returns (there : w.stage = .handling) (permits : Nat) :
      Steps w b [.ends w.panic?] [] { w with stage := .checking, permits }
  | closes (there : w.stage = .closing) (failed : Bool) :
      Steps w b [.closes] [] { w with
        stage := .leaving failed
        closedCalls := w.closedCalls + w.consumer.hearsClosing.toNat }
  | leaves {failed : Bool} (there : w.stage = .leaving failed) :
      Steps w b [] [.release w.topic w.subscription.id] { w with stage := .ended failed }
  | rests {failed : Bool} (there : w.stage = .ended failed) : Steps w b [] [] w

theorem steps (w : Worker) (b : Backend) : w.Steps b (w.calls b) w.acts (w.step b).state.1 := by
  unfold calls overs acts
  cases stage : w.stage with
  | spawned => simpa [step, stage] using .starts stage
  | checking =>
    cases told : w.stopping with
    | true => simpa [step, stage, if_pos told] using Steps.heeds (b := b) stage told
    | false =>
      have free : ¬w.stopping = true := by simp [told]
      simpa [step, stage, if_neg free] using Steps.goesOn (b := b) stage told
  | receiving =>
    simp only [step, stage]
    cases found : b.registry.queue? w.subscription.place with
    | none =>
      have dry := Steps.drains (b := b) stage fun q some => by cases found.symm.trans some
      simpa using dry
    | some q =>
      rcases q.pollCases with ⟨event, rest, held, done⟩ | ⟨empty, closed, done⟩ | ⟨empty, opened, done⟩
      · simpa [done] using .takes stage found held
      · have dry := Steps.drains (b := b) stage fun p same => by
          cases found.symm.trans same
          exact ⟨empty, closed⟩
        simpa [done] using dry
      · simpa [done] using .waits stage found empty opened
  | handling =>
    simp only [step, stage]
    split
    · simpa [stage] using Steps.holds (b := b) stage
    · simpa using .returns stage _
  | closing =>
    have closes (failed : Bool) := Steps.closes (b := b) stage failed
    simp only [step, stage]
    cases hears : w.consumer.hearsClosing <;> cases fails : w.consumer.panicsOnClosing <;>
      simpa [hears, fails] using closes _
  | leaving failed => simpa [step, stage] using .leaves stage
  | ended failed => simpa [step, stage] using Steps.rests (b := b) stage

end Worker

structure Workshop where
  engine : Engine
  worker : Worker
  stopping : StopStage

namespace Workshop

inductive Move where
  | work
  | permit (count : Nat)
  | stop
  | other (a : Act)
  deriving DecidableEq, Repr

def start (e : Engine) (s : Subscription) (c : Consumer) : Workshop := ⟨e, Worker.spawn s c, .calling⟩

def allows (w : Worker) : Act → Bool
  | .receive place => place != w.subscription.place
  | .release t id => (t, id) != (w.topic, w.subscription.id)
  | _ => true

def withBackend (x : Workshop) (backend : Backend) : Workshop :=
  { x with engine := { x.engine with backend } }

def move (x : Workshop) : Move → Workshop
  | .work =>
    let r := x.worker.step x.engine.backend
    { x.withBackend r.state.2 with worker := r.state.1 }
  | .permit count => { x with worker := { x.worker with permits := x.worker.permits + count } }
  | .stop =>
    let r := x.worker.stopStep x.engine.backend x.stopping
    { x.withBackend r.state.2 with worker := r.state.1, stopping := r.answer }
  | .other a => if allows x.worker a then { x with engine := x.engine.act a } else x

def acts (x : Workshop) : Move → List Act
  | .work => x.worker.acts
  | .permit _ => []
  | .stop =>
    match x.stopping with
    | .cancelling => [.cancel x.worker.topic x.worker.subscription.id]
    | .calling | .joining _ | .ended _ => []
  | .other a => if allows x.worker a then [a] else []

def callsOf (x : Workshop) : Move → List Call
  | .work => x.worker.calls x.engine.backend
  | .permit _ | .stop | .other _ => []

def run (x : Workshop) (moves : List Move) : Workshop := Run.after move x moves

def played (x : Workshop) (moves : List Move) : List Act := Run.told move acts x moves

def calls (x : Workshop) (moves : List Move) : List Call := Run.told move callsOf x moves

variable {x next : Workshop} {s : Subscription} {said : List Call} {done : List Act}

theorem runSnoc (x : Workshop) (moves : List Move) (k : Move) :
    x.run (moves ++ [k]) = (x.run moves).move k :=
  Run.afterSnoc x moves k

theorem runAppend (x : Workshop) (first rest : List Move) : x.run (first ++ rest) = (x.run first).run rest :=
  Run.afterAppend x first rest

inductive Moves (x : Workshop) : List Call → List Act → Workshop → Prop where
  | works {calls : List Call} {acts : List Act} {worker : Worker}
      (steps : x.worker.Steps x.engine.backend calls acts worker) :
      Moves x calls acts ⟨x.engine.run acts, worker, x.stopping⟩
  | beside {acts : List Act} (foreign : ∀ a ∈ acts, allows x.worker a = true) {stopping : Bool}
      (told : x.worker.stopping = true → stopping = true) (permits : Nat) (stage : StopStage) :
      Moves x [] acts ⟨x.engine.run acts, { x.worker with stopping, permits }, stage⟩

theorem moves (x : Workshop) (k : Move) : x.Moves (x.callsOf k) (x.acts k) (x.move k) := by
  have nothing : ∀ a ∈ ([] : List Act), allows x.worker a = true := fun _ none => nomatch none
  have still := Moves.beside nothing id x.worker.permits
  cases k with
  | work =>
    have works := Moves.works (x.worker.steps x.engine.backend)
    rw [← x.worker.stepEngine x.engine] at works
    exact works
  | permit count => exact .beside nothing id (x.worker.permits + count) x.stopping
  | stop =>
    simp only [callsOf, acts, move]
    cases stage : x.stopping with
    | calling => exact .beside nothing (fun _ => rfl) x.worker.permits .cancelling
    | cancelling => exact .beside (List.forall_mem_singleton.mpr rfl) id x.worker.permits _
    | joining answer =>
      simp only [Worker.stopStep]
      split <;> exact still _
    | ended answer => exact still _
  | other a =>
    simp only [callsOf, acts, move]
    split
    case isTrue allowed =>
      exact .beside (List.forall_mem_singleton.mpr allowed) id x.worker.permits x.stopping
    case isFalse => exact still x.stopping

theorem foreignApart (foreign : ∀ a ∈ done, allows x.worker a = true) :
    ∀ a ∈ done, a ≠ .receive x.worker.subscription.place := by
  intro a listed same
  have allowed := foreign a listed
  simp [same, allows] at allowed

theorem engineMove (moves : x.Moves said done next) : next.engine = x.engine.run done := by
  cases moves <;> rfl

theorem runEngine (x : Workshop) (moves : List Move) :
    (x.run moves).engine = x.engine.run (x.played moves) := by
  induction moves using List.reverseRecOn with
  | nil => rfl
  | append_singleton moves k ih =>
    rw [runSnoc, played, Run.toldSnoc, Engine.runAppend, ← played, ← ih]
    exact engineMove ((x.run moves).moves k)

end Workshop
end NodeFeed
