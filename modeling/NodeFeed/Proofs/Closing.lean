import NodeFeed.Proofs.Shutdown
import NodeFeed.Subscriber

/-!
Closing a subscriber from many sides at once: any number of close calls, each of which may be left before
it starts or while it waits, the drop of the subscriber, and everything that callers and the handler do
besides. A move that cannot be made changes nothing, so every list of moves is a run. What the moves do
to the engine is an orderly run of acts, so what is known of shutdown holds here.
-/

namespace NodeFeed

namespace CloseStage

def asks : CloseStage → Bool
  | .asking => true
  | _ => false

def acts (stage : CloseStage) : List Act := if stage.asks then [.requestTerm] else []

inductive Steps (s : Subscriber) : CloseStage → Subscriber → CloseStage → Prop where
  | late (taken : s.closed = true) : Steps s .calling s (.ended (.error .alreadyClosed))
  | alone (free : s.closed = false) (none : s.engine = none) :
      Steps s .calling { s with closed := true } (.ended (.ok ()))
  | taken {e : Engine} (free : s.closed = false) (there : s.engine = some e) :
      Steps s .calling { s with closed := true } .asking
  | unasked (none : s.engine = none) : Steps s .asking s (.ended (.ok ()))
  | failed {e : Engine} {why : CloseError} (there : s.engine = some e)
      (failed : e.backend.requestTerm = .error why) :
      Steps s .asking { s with closed := false } (.ended (.error why))
  | asked {e : Engine} {b : Backend} (there : s.engine = some e)
      (asked : e.backend.requestTerm = .ok b) :
      Steps s .asking { s with engine := some { e with backend := b } } .waiting
  | waits : Steps s .waiting s .waiting
  | woken (stopped : ∀ e, s.engine = some e → e.backend.stopped = true) : Steps s .waiting s .joining
  | joined : Steps s .joining s.join.1.releaseContext (.ended (.ok ()))
  | ended (answer : Except CloseError Unit) : Steps s (.ended answer) s (.ended answer)

end CloseStage

namespace DropStage

def asks : DropStage → Bool
  | .asking => true
  | _ => false

def acts (stage : DropStage) : List Act := if stage.asks then [.requestTerm] else []

end DropStage

namespace Subscriber

variable {s next : Subscriber}

theorem closeSteps (s : Subscriber) (stage : CloseStage) :
    CloseStage.Steps s stage (s.closeStep stage).state (s.closeStep stage).answer := by
  cases stage with
  | calling =>
    simp only [closeStep]
    split
    case isTrue taken => exact .late taken
    case isFalse free =>
      have free : s.closed = false := Bool.not_eq_true _ ▸ free
      split
      case h_1 none => exact .alone free none
      case h_2 e there => exact .taken free there
  | asking =>
    simp only [closeStep]
    split
    case h_1 none => exact .unasked none
    case h_2 e there =>
      split
      case h_1 why failed => exact .failed there failed
      case h_2 b asked => exact .asked there asked
  | waiting =>
    simp only [closeStep]
    split
    case isTrue stopped => exact .woken fun e there => by simpa [there] using stopped
    case isFalse => exact .waits
  | joining => exact .joined
  | ended answer => exact .ended answer

theorem engineSame (same : next.engine = s.engine) : next.engine = s.engine.map (·.run []) := by
  rw [same]
  cases s.engine <;> rfl

theorem engineAsked {e : Engine} (there : s.engine = some e)
    (after : next.engine = some { e with backend := e.backend.asked }) :
    next.engine = s.engine.map (·.run [.requestTerm]) := by
  rw [there, after]
  rfl

theorem engineFailed {e : Engine} {why : CloseError} (there : s.engine = some e)
    (failed : e.backend.requestTerm = .error why) (same : next.engine = s.engine) :
    next.engine = s.engine.map (·.run [.requestTerm]) := by
  refine engineAsked there ?_
  rw [same, there, Backend.asked, failed]

theorem engineRequested {e : Engine} {b : Backend} (there : s.engine = some e)
    (asked : e.backend.requestTerm = .ok b) (after : next.engine = some { e with backend := b }) :
    next.engine = s.engine.map (·.run [.requestTerm]) := by
  refine engineAsked there ?_
  rw [after, Backend.asked, asked]

theorem closeEngine {stage answer : CloseStage} (steps : CloseStage.Steps s stage next answer) :
    next.engine = s.engine.map (·.run stage.acts) := by
  cases steps with
  | unasked none => simp [none]
  | failed there failed => exact engineFailed there failed rfl
  | asked there asked => exact engineRequested there asked rfl
  | late => exact engineSame rfl
  | alone => exact engineSame rfl
  | taken => exact engineSame rfl
  | waits => exact engineSame rfl
  | woken => exact engineSame rfl
  | joined => exact engineSame rfl
  | ended => exact engineSame rfl

theorem dropEngine (s : Subscriber) (stage : DropStage) :
    (s.dropStep stage).state.engine = s.engine.map (·.run stage.acts) := by
  cases stage with
  | calling =>
    simp only [dropStep]
    split
    · exact engineSame rfl
    · split <;> exact engineSame rfl
  | asking =>
    simp only [dropStep]
    split
    case h_1 none => simp [none]
    case h_2 e there =>
      split
      case h_1 why failed => exact engineFailed there failed rfl
      case h_2 b asked => exact engineRequested there asked rfl
  | joining => exact engineSame rfl
  | ended => exact engineSame rfl

end Subscriber

structure Closing where
  subscriber : Subscriber
  calls : List (Option CloseStage)
  dropping : DropStage

inductive Move where
  | call
  | step (i : Nat)
  | leave (i : Nat)
  | drop
  | other (a : Act)
  deriving DecidableEq, Repr

namespace Closing

def start (config : Config) (filters : Filters) : Closing where
  subscriber :=
    if config.isEnabled then
      ⟨config, false, .started, true, some (Engine.opening config.queueCapacity filters)⟩
    else .disabled config
  calls := []
  dropping := .calling

def call? (c : Closing) (i : Nat) : Option CloseStage := c.calls[i]?.join

def may (e : Engine) (a : Act) : Bool := a.timely e.stage && a != .requestTerm

def withEngine (c : Closing) (e : Engine) : Closing :=
  { c with subscriber := { c.subscriber with engine := some e } }

def move (c : Closing) : Move → Closing
  | .call => { c with calls := c.calls ++ [some .calling] }
  | .step i =>
    match c.call? i with
    | some stage =>
      let r := c.subscriber.closeStep stage
      { c with subscriber := r.state, calls := c.calls.set i (some r.answer) }
    | none => c
  | .leave i =>
    match c.call? i with
    | some .calling | some .waiting => { c with calls := c.calls.set i none }
    | _ => c
  | .drop =>
    let r := c.subscriber.dropStep c.dropping
    { c with subscriber := r.state, dropping := r.answer }
  | .other a =>
    match c.subscriber.engine with
    | some e => if may e a then c.withEngine (e.act a) else c
    | none => c

def acts (c : Closing) : Move → List Act
  | .step i =>
    match c.call? i with
    | some stage => stage.acts
    | none => []
  | .drop => c.dropping.acts
  | .other a =>
    match c.subscriber.engine with
    | some e => if may e a then [a] else []
    | none => []
  | .call | .leave _ => []

inductive Moves (c : Closing) : List Act → Closing → Prop where
  | still : Moves c [] c
  | called : Moves c [] { c with calls := c.calls ++ [some .calling] }
  | stepped {i : Nat} {stage answer : CloseStage} {next : Subscriber} (there : c.call? i = some stage)
      (steps : CloseStage.Steps c.subscriber stage next answer) :
      Moves c stage.acts { c with subscriber := next, calls := c.calls.set i (some answer) }
  | left {i : Nat} {stage : CloseStage} (there : c.call? i = some stage)
      (apart : stage = .calling ∨ stage = .waiting) : Moves c [] { c with calls := c.calls.set i none }
  | dropped : Moves c c.dropping.acts
      { c with
        subscriber := (c.subscriber.dropStep c.dropping).state
        dropping := (c.subscriber.dropStep c.dropping).answer }
  | acted {e : Engine} {a : Act} (there : c.subscriber.engine = some e)
      (timely : a.timely e.stage = true) (other : a ≠ .requestTerm) :
      Moves c [a] (c.withEngine (e.act a))

variable {c next : Closing} {acts : List Act}

theorem moves (c : Closing) (m : Move) : c.Moves (c.acts m) (c.move m) := by
  cases m with
  | call => exact .called
  | step i =>
    simp only [move, Closing.acts]
    cases there : c.call? i with
    | none => exact .still
    | some stage => exact .stepped there (c.subscriber.closeSteps stage)
  | leave i =>
    simp only [move, Closing.acts]
    split
    case h_1 there => exact .left there (.inl rfl)
    case h_2 there => exact .left there (.inr rfl)
    case h_3 => exact .still
  | drop => exact .dropped
  | other a =>
    simp only [move, Closing.acts]
    cases there : c.subscriber.engine with
    | none => exact .still
    | some e =>
      cases allowed : may e a with
      | false => simpa [allowed] using .still
      | true =>
        have both : a.timely e.stage = true ∧ a ≠ .requestTerm := by simpa [may] using allowed
        simpa [allowed] using .acted there both.1 both.2

namespace Moves

theorem engine (moves : c.Moves acts next) :
    next.subscriber.engine = c.subscriber.engine.map (·.run acts) := by
  cases moves with
  | still => exact Subscriber.engineSame rfl
  | called => exact Subscriber.engineSame rfl
  | stepped there steps => exact Subscriber.closeEngine steps
  | left there => exact Subscriber.engineSame rfl
  | dropped => exact c.subscriber.dropEngine c.dropping
  | acted there => simp [withEngine, there, Engine.run, Run.after]

theorem orderly (moves : c.Moves acts next) (e : Engine) (there : c.subscriber.engine = some e) :
    e.Orderly acts := by
  have asked (asks : Bool) : e.Orderly (if asks then [.requestTerm] else []) := by
    split <;> simp [Engine.Orderly, Act.timely]
  cases moves with
  | still => trivial
  | called => trivial
  | stepped => exact asked _
  | left => trivial
  | dropped => exact asked _
  | acted also timely =>
    cases there.symm.trans also
    exact ⟨timely, trivial⟩

end Moves

theorem callSet {i : Nat} {stage : CloseStage} (there : c.call? i = some stage)
    (answer : Option CloseStage) (j : Nat) :
    (c.calls.set i answer)[j]?.join = if i = j then answer else c.call? j := by
  have inside := (List.getElem?_eq_some_iff.mp (Option.join_eq_some_iff.mp there)).1
  rw [List.getElem?_set]
  split <;> rfl

namespace Moves

theorem call (moves : c.Moves acts next) {i : Nat} {stage : CloseStage}
    (there : next.call? i = some stage) :
    c.call? i = some stage ∨ (c.calls.length ≤ i ∧ stage = .calling) ∨
      ∃ before, c.call? i = some before ∧
        CloseStage.Steps c.subscriber before next.subscriber stage := by
  cases moves with
  | still => exact .inl there
  | called =>
    simp only [call?] at there ⊢
    by_cases inside : i < c.calls.length
    · rw [List.getElem?_append_left inside] at there
      exact .inl there
    · have beyond := Nat.le_of_not_lt inside
      rw [List.getElem?_append_right beyond, Option.join_eq_some_iff, List.getElem?_singleton] at there
      split at there <;> cases there
      exact .inr (.inl ⟨beyond, rfl⟩)
  | @stepped j before answer _ held steps =>
    rw [call?, callSet held] at there
    split at there
    case isTrue same =>
      subst same
      cases there
      exact .inr (.inr ⟨before, held, steps⟩)
    case isFalse => exact .inl there
  | left held =>
    rw [call?, callSet held] at there
    split at there
    · cases there
    · exact .inl there
  | dropped => exact .inl there
  | acted => exact .inl there

theorem ended (moves : c.Moves acts next) {i : Nat} {answer : Except CloseError Unit}
    (there : c.call? i = some (.ended answer)) : next.call? i = some (.ended answer) := by
  cases moves with
  | still => exact there
  | called =>
    have inside := (List.getElem?_eq_some_iff.mp (Option.join_eq_some_iff.mp there)).1
    rw [call?, List.getElem?_append_left inside]
    exact there
  | stepped held steps =>
    rw [call?, callSet held]
    split
    case isTrue same =>
      subst same
      cases held.symm.trans there
      cases steps
      rfl
    case isFalse => exact there
  | left held apart =>
    rw [call?, callSet held]
    split
    case isTrue same =>
      subst same
      cases held.symm.trans there
      rcases apart with apart | apart <;> cases apart
    case isFalse => exact there
  | dropped => exact there
  | acted => exact there

end Moves

def run (c : Closing) (moves : List Move) : Closing := Run.after move c moves

def played (c : Closing) (moves : List Move) : List Act := Run.told move Closing.acts c moves

theorem runSnoc (c : Closing) (moves : List Move) (m : Move) :
    c.run (moves ++ [m]) = (c.run moves).move m :=
  Run.afterSnoc c moves m

theorem runAppend (c : Closing) (first rest : List Move) :
    c.run (first ++ rest) = (c.run first).run rest :=
  Run.afterAppend c first rest

theorem runEngine (c : Closing) (moves : List Move) :
    (c.run moves).subscriber.engine = c.subscriber.engine.map (·.run (c.played moves)) := by
  induction moves generalizing c with
  | nil => exact Subscriber.engineSame rfl
  | cons m rest ih =>
    have later := ih (c.move m)
    rw [(c.moves m).engine, Option.map_map] at later
    refine later.trans (congrArg (fun f => c.subscriber.engine.map f) ?_)
    funext e
    exact (Engine.runAppend e (c.acts m) _).symm

theorem playedOrderly (moves : List Move) {e : Engine} (there : c.subscriber.engine = some e) :
    e.Orderly (c.played moves) := by
  induction moves generalizing c e with
  | nil => trivial
  | cons m rest ih =>
    have next : (c.move m).subscriber.engine = some (e.run (c.acts m)) := by
      rw [(c.moves m).engine, there]
      rfl
    exact (e.orderlyAppend _ _).mpr ⟨(c.moves m).orderly e there, ih next⟩

theorem endedRun (moves : List Move) {i : Nat} {answer : Except CloseError Unit}
    (there : c.call? i = some (.ended answer)) : (c.run moves).call? i = some (.ended answer) := by
  induction moves generalizing c with
  | nil => exact there
  | cons m rest ih => exact ih ((c.moves m).ended there)

theorem stepTaken {i : Nat} {stage : CloseStage} (there : c.call? i = some stage) :
    CloseStage.Steps c.subscriber stage (c.move (.step i)).subscriber
        (c.subscriber.closeStep stage).answer ∧
      (c.move (.step i)).call? i = some (c.subscriber.closeStep stage).answer ∧
      i < (c.move (.step i)).calls.length := by
  have inside := (List.getElem?_eq_some_iff.mp (Option.join_eq_some_iff.mp there)).1
  simp only [move, there]
  refine ⟨c.subscriber.closeSteps stage, ?_, by simpa using inside⟩
  rw [call?, callSet there, if_pos rfl]

theorem stepsTo {i : Nat} {stage answer : CloseStage} {next : Subscriber} {log : List Report}
    (there : c.call? i = some stage) (step : c.subscriber.closeStep stage = ⟨answer, next, log⟩) :
    (c.move (.step i)).call? i = some answer ∧ (c.move (.step i)).subscriber = next := by
  obtain ⟨-, now, -⟩ := stepTaken there
  rw [step] at now
  exact ⟨now, by simp only [move, there, step]⟩

theorem othersRun {acts : List Act} {e : Engine} (there : c.subscriber.engine = some e)
    (orderly : e.Orderly acts) (others : ∀ a ∈ acts, a ≠ .requestTerm) :
    c.run (acts.map .other) = c.withEngine (e.run acts) := by
  induction acts generalizing c e with
  | nil =>
    have same : c.withEngine e = c := by rw [withEngine, ← there]
    exact same.symm
  | cons a rest ih =>
    obtain ⟨timely, later⟩ := orderly
    obtain ⟨other, further⟩ := List.forall_mem_cons.mp others
    have first : c.move (.other a) = c.withEngine (e.act a) := by
      simp [move, there, may, timely, other]
    have moved : (c.withEngine (e.act a)).run (rest.map .other) = _ := ih rfl later further
    rw [← first] at moved
    exact moved.trans (by rw [first]; rfl)

theorem startEngine {config : Config} {filters : Filters} {moves : List Move}
    (there : ((start config filters).run moves).subscriber.engine = some e) :
    e = (Engine.opening config.queueCapacity filters).run ((start config filters).played moves) ∧
      (Engine.opening config.queueCapacity filters).Orderly ((start config filters).played moves) := by
  rw [runEngine] at there
  obtain ⟨first, engine, rfl⟩ := Option.map_eq_some_iff.mp there
  have orderly := playedOrderly moves engine
  have opened : first = Engine.opening config.queueCapacity filters := by
    simp only [start] at engine
    split at engine
    · exact (Option.some.inj engine).symm
    · cases engine
  rw [opened] at orderly ⊢
  exact ⟨rfl, orderly⟩

theorem startNew {check : String → Except Errno Unit} {config : Config} {s : Subscriber}
    {log : List Report} (opened : Subscriber.new check config = .ok (s, log)) :
    ((start config .fresh).run [.other .start]).subscriber = s := by
  unfold Subscriber.new at opened
  cases enabled : config.isEnabled with
  | false =>
    simp only [enabled, Bool.not_false, if_true] at opened
    cases opened
    simp [run, Run.after, move, start, enabled, Subscriber.disabled]
  | true =>
    simp only [enabled, Bool.not_true, Bool.false_eq_true, if_false] at opened
    split at opened
    · cases opened
    · cases opened
      simp [run, Run.after, move, start, enabled, may, Act.timely, withEngine, Engine.act,
        Subscriber.started, Subscriber.connect, Engine.opening]

end Closing
end NodeFeed
