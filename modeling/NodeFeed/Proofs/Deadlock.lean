import NodeFeed.Proofs.Answers
import NodeFeed.Proofs.CloseOnce

/-!
The lock of the registry and the link to the handler, when the link holds only so many commands and a
send waits for room. A call keeps the lock while it sends. In a round of its loop the handler first
delivers a frame of the publisher, for which it needs the lock, and only then reads a command. So a call
can wait for room that only the handler makes, while the handler waits for the lock that the call keeps:
it takes as many calls as the link has room for, and two more. After that nothing happens but frames that
still arrive.
-/

namespace NodeFeed

inductive Round where
  | polling
  | found (frame control : Bool)
  | delivering (f : Frame) (control : Bool)
  | delivered (control : Bool)
  deriving DecidableEq, Repr

namespace Round

def wantsLock : Round → Bool
  | .delivering _ _ => true
  | .polling | .found _ _ | .delivered _ => false

def hasFrame : Round → Bool
  | .found frame _ => frame
  | .delivering _ _ => true
  | .polling | .delivered _ => false

end Round

structure Contention where
  engine : Engine
  room : Nat
  arrived : List Frame
  holder : Option Act
  round : Round
  deriving DecidableEq, Repr

namespace Contention

inductive Step where
  | arrive (f : Frame)
  | enter (a : Act)
  | finish
  | poll
  | receive
  | deliver
  | control
  | shutDown
  deriving DecidableEq, Repr

def Step.enters : Step → Bool
  | .enter _ => true
  | _ => false

def start (capacity room : Nat) : Contention :=
  ⟨Engine.opening capacity .fresh, room, [], none, .polling⟩

def pending (c : Contention) : List Frame := c.engine.backend.link.pending

def waits (c : Contention) (a : Act) : Bool := !(c.engine.sends a).isEmpty && c.room ≤ c.pending.length

def act (c : Contention) (a : Act) : Contention := { c with engine := c.engine.act a }

def step (c : Contention) : Step → Contention
  | .arrive f => if c.engine.filters.passes f then { c with arrived := c.arrived ++ [f] } else c
  | .enter a => if c.holder = none ∧ a.command?.isSome then { c with holder := some a } else c
  | .finish =>
    match c.holder with
    | none => c
    | some a => if c.waits a then c else { c.act a with holder := none }
  | .poll =>
    if c.round = .polling ∧ c.engine.stage = .polling ∧ (c.arrived ≠ [] ∨ c.pending ≠ []) then
      { c with round := .found (!c.arrived.isEmpty) (!c.pending.isEmpty) }
    else c
  | .receive =>
    match c.round, c.arrived with
    | .found true control, f :: rest =>
      match f.decode with
      | .ok _ => { c with arrived := rest, round := .delivering f control }
      | .error _ => { c.act (.frame f) with arrived := rest, round := .delivered control }
    | .found false control, _ => { c with round := .delivered control }
    | _, _ => c
  | .deliver =>
    match c.round, c.holder with
    | .delivering f control, none => { c.act (.frame f) with round := .delivered control }
    | _, _ => c
  | .control =>
    match c.round with
    | .delivered true => { c.act .control with round := .polling }
    | .delivered false => { c with round := .polling }
    | _ => c
  | .shutDown =>
    if c.round = .polling ∧ c.engine.stage ≠ .polling ∧
        ((Act.pass c.engine.stage).retires = true → c.holder = none) then
      c.act (.pass c.engine.stage)
    else c

def run (c : Contention) (steps : List Step) : Contention := Run.after step c steps

def calls (steps : List Step) : Nat := steps.countP Step.enters

def deadlocked (c : Contention) : Bool := c.holder.any c.waits && c.round.wantsLock

variable {c : Contention} {n : Nat}

theorem runSnoc (c : Contention) (steps : List Step) (x : Step) :
    c.run (steps ++ [x]) = (c.run steps).step x :=
  Run.afterSnoc c steps x

theorem runAppend (c : Contention) (first rest : List Step) :
    c.run (first ++ rest) = (c.run first).run rest :=
  Run.afterAppend c first rest

theorem stuckStep (h : c.deadlocked = true) (x : Step) :
    ∃ more, c.step x = { c with arrived := c.arrived ++ more } := by
  obtain ⟨held, wants⟩ := Bool.and_eq_true_iff.mp h
  obtain ⟨a, holder, waits⟩ := (Option.any_eq_true _ _).mp held
  obtain ⟨f, control, round⟩ : ∃ f control, c.round = .delivering f control := by
    cases round : c.round with
    | delivering f control => exact ⟨f, control, rfl⟩
    | _ => simp [round, Round.wantsLock] at wants
  have still {next : Contention} (same : next = c) :
      ∃ more, next = { c with arrived := c.arrived ++ more } :=
    ⟨[], by rw [same, List.append_nil]⟩
  cases x with
  | arrive f =>
    simp only [step]
    split
    case isTrue => exact ⟨[f], rfl⟩
    case isFalse => exact still rfl
  | finish => exact still (by simp [step, holder, waits])
  | _ => exact still (by simp [step, holder, round])

theorem stuckRun (h : c.deadlocked = true) (steps : List Step) :
    ∃ more, c.run steps = { c with arrived := c.arrived ++ more } := by
  induction steps using List.reverseRecOn with
  | nil => exact ⟨[], by rw [List.append_nil]; rfl⟩
  | append_singleton steps x ih =>
    obtain ⟨more, before⟩ := ih
    have stuck : (c.run steps).deadlocked = true := by
      rw [before]
      exact h
    obtain ⟨last, now⟩ := stuckStep stuck x
    rw [runSnoc, now, before]
    exact ⟨more ++ last, by rw [List.append_assoc]⟩

def held (c : Contention) : Nat := c.holder.toList.length

inductive Entered (c : Contention) (n : Nat) : Prop where
  | before
      (filters : c.engine.filters = .fresh)
      (stage : c.engine.stage = .polling)
      (none : c.arrived = [])
      (round : c.round.hasFrame = false)
      (few : c.pending.length + c.held ≤ n)
  | after (few : c.pending.length + 1 + c.held ≤ n)

end Contention

namespace Engine

variable {e : Engine}

theorem callAct {a : Act} (call : a.command?.isSome = true) :
    (e.act a).filters = e.filters ∧ (e.act a).stage = e.stage ∧
      (e.act a).backend.link.pending.length ≤ e.backend.link.pending.length + 1 := by
  refine ⟨?_, ?_, ?_⟩
  · cases a <;> first | rfl | cases call
  · cases a <;> first | rfl | cases call
  · rcases e.pendingAct a with ⟨c, -, same | sent⟩ | fewer
    · rw [same]
      exact Nat.le_succ _
    · simp [sent]
    · exact Nat.le_succ_of_le fewer.length_le

theorem frameAct (e : Engine) (f : Frame) :
    (e.act (.frame f)).backend.link.pending = e.backend.link.pending := by
  simp only [act]
  rcases e.onFrameCases f with ⟨why, -, done⟩ | ⟨n, -, done⟩ <;> rw [done]

theorem controlAct (e : Engine) :
    e.act .control = e ∨ ∃ f, e.backend.link.pending = f :: (e.act .control).backend.link.pending := by
  simp only [act]
  rcases e.onControlCases with
    ⟨-, done⟩ | ⟨f, rest, pending, ⟨filters, -, done⟩ | ⟨-, done⟩ | ⟨why, -, done⟩⟩ <;> rw [done]
  · exact .inl rfl
  all_goals exact .inr ⟨f, pending⟩

theorem controlInstalls (installs : e.filters.refusal = none) {t : Topic} {rest : List Frame}
    (next : e.backend.link.pending = (Command.subscribe t).encode :: rest) :
    e.act .control = { e with
      backend := { e.backend with link := { e.backend.link with pending := rest } }
      filters := { e.filters with counts := e.filters.counts.set t (e.filters.counts.get t + 1) } } := by
  simp [act, onControl, Link.next?, next, Filters.obey, Command.encodedCommandRead, Filters.install,
    installs]

theorem passAct (e : Engine) (stage : Stage) :
    (e.act (.pass stage)).backend.link.pending = e.backend.link.pending := by
  cases stage <;> rfl

end Engine

namespace Contention

variable {c : Contention} {n : Nat}

theorem nothingPasses (f : Frame) : Filters.fresh.passes f = false := by
  cases f with
  | nil => rfl
  | cons label rest => simp [Filters.passes, Filters.fresh]

theorem holderStep (c : Contention) (x : Step) :
    (c.step x).holder = c.holder ∨ (c.step x).holder = none ∨
      ∃ a, a.command?.isSome = true ∧ (c.step x).holder = some a := by
  cases x with
  | enter a =>
    simp only [step]
    split
    case isTrue free => exact .inr (.inr ⟨a, free.2, rfl⟩)
    case isFalse => exact .inl rfl
  | finish =>
    simp only [step]
    split
    case h_1 => exact .inl rfl
    case h_2 a held => split <;> first | exact .inl rfl | exact .inr (.inl rfl)
  | receive =>
    simp only [step]
    split
    case h_1 => split <;> exact .inl rfl
    case h_2 => exact .inl rfl
    case h_3 => exact .inl rfl
  | control =>
    simp only [step]
    split <;> exact .inl rfl
  | _ =>
    simp only [step]
    split <;> exact .inl rfl

theorem holderCalls (capacity room : Nat) (steps : List Step) (a : Act)
    (holds : ((start capacity room).run steps).holder = some a) : a.command?.isSome = true := by
  induction steps using List.reverseRecOn with
  | nil => cases holds
  | append_singleton steps x ih =>
    rw [runSnoc] at holds
    rcases ((start capacity room).run steps).holderStep x with same | none | ⟨b, call, held⟩
    · exact ih (same ▸ holds)
    · cases none.symm.trans holds
    · cases held.symm.trans holds
      exact call

namespace Entered

theorem bounded (h : c.Entered n) : c.pending.length + c.held ≤ n := by
  cases h with
  | before _ _ _ _ few => exact few
  | after few => omega

theorem more (h : c.Entered n) : c.Entered (n + 1) := by
  cases h with
  | before filters stage none round few =>
    exact .before filters stage none round (Nat.le_succ_of_le few)
  | after few => exact .after (Nat.le_succ_of_le few)

theorem framed (h : c.Entered n) (frame : c.arrived ≠ [] ∨ c.round.hasFrame = true) :
    c.pending.length + 1 + c.held ≤ n := by
  cases h with
  | before _ _ none frameless =>
    rcases frame with some | frame
    · exact absurd none some
    · cases frameless.symm.trans frame
  | after few => exact few

theorem onward (h : c.Entered n) {round : Round} (frames : c.arrived = [] → round.hasFrame = false) :
    Entered { c with round } n := by
  cases h with
  | before filters stage none _ few => exact .before filters stage none (frames none) few
  | after few => exact .after few

theorem entering (h : c.Entered n) {a : Act} (free : c.holder = none) :
    Entered { c with holder := some a } (n + 1) := by
  have one : held { c with holder := some a } = c.held + 1 := by simp [held, free]
  cases h with
  | before filters stage none round few =>
    exact .before filters stage none round (by rw [one]; exact Nat.succ_le_succ few)
  | after few => exact .after (by rw [one]; exact Nat.succ_le_succ few)

theorem finishing (h : c.Entered n) {a : Act} (holds : c.holder = some a)
    (call : a.command?.isSome = true) : Entered { c.act a with holder := none } n := by
  obtain ⟨filters, stage, longer⟩ := Engine.callAct (e := c.engine) call
  have one : c.held = 1 := by simp [held, holds]
  have few (k : Nat) (few : c.pending.length + k + c.held ≤ n) :
      (c.act a).pending.length + k + 0 ≤ n := by
    have longer : (c.act a).pending.length ≤ c.pending.length + 1 := longer
    omega
  cases h with
  | before fresh polling none round less =>
    exact .before (filters.trans fresh) (stage.trans polling) none round (few 0 less)
  | after less => exact .after (few 1 less)

theorem reading (h : c.Entered n) : Entered { c.act .control with round := .polling } n := by
  rcases c.engine.controlAct with same | ⟨f, read⟩
  · have still : c.act .control = c := by simp [act, same]
    rw [still]
    exact h.onward fun _ => rfl
  · have longer : c.pending.length = (c.act .control).pending.length + 1 := congrArg List.length read
    exact .after (longer ▸ h.bounded)

end Entered

theorem enteredStep (h : c.Entered n) (call : ∀ a, c.holder = some a → a.command?.isSome = true)
    (x : Step) : (c.step x).Entered (n + if x.enters then 1 else 0) := by
  cases x with
  | arrive f =>
    simp only [step]
    split
    case isTrue passes =>
      cases h with
      | before filters => cases (nothingPasses f).symm.trans (filters ▸ passes)
      | after few => exact .after few
    case isFalse => exact h
  | enter a =>
    have entered : (Step.enter a).enters = true := rfl
    simp only [step, entered, if_true]
    split
    case isTrue free => exact h.entering free.1
    case isFalse => exact h.more
  | finish =>
    simp only [step]
    split
    case h_1 => exact h
    case h_2 a holds =>
      split
      case isTrue => exact h
      case isFalse => exact h.finishing holds (call a holds)
  | poll =>
    simp only [step]
    split
    case isTrue => exact h.onward fun none => by simp [Round.hasFrame, none]
    case isFalse => exact h
  | receive =>
    simp only [step]
    split
    case h_1 control f rest round some =>
      have few := h.framed (.inl (by simp [some]))
      split
      case h_1 => exact .after few
      case h_2 =>
        have same : (c.act (.frame f)).pending = c.pending := c.engine.frameAct f
        exact .after (same ▸ few)
    case h_2 => exact h.onward fun _ => rfl
    case h_3 => exact h
  | deliver =>
    simp only [step]
    split
    case h_1 f control round free =>
      have same : (c.act (.frame f)).pending = c.pending := c.engine.frameAct f
      exact .after (same ▸ h.framed (.inr (by simp [round, Round.hasFrame])))
    case h_2 => exact h
  | control =>
    simp only [step]
    split
    case h_1 => exact h.reading
    case h_2 => exact h.onward fun _ => rfl
    case h_3 => exact h
  | shutDown =>
    simp only [step]
    split
    case isTrue late =>
      cases h with
      | before filters stage => exact absurd stage late.2.1
      | after few =>
        have same : (c.act (.pass c.engine.stage)).pending = c.pending := c.engine.passAct _
        exact .after (same ▸ few)
    case isFalse => exact h

theorem enteredRun (capacity room : Nat) (steps : List Step) :
    ((start capacity room).run steps).Entered (calls steps) := by
  induction steps using List.reverseRecOn with
  | nil => exact .before rfl rfl rfl rfl (Nat.le_refl 0)
  | append_singleton steps x ih =>
    have entered := enteredStep ih (holderCalls capacity room steps) x
    rw [runSnoc, calls, List.countP_append, List.countP_singleton]
    exact entered

theorem roomStep (c : Contention) (x : Step) : (c.step x).room = c.room := by
  cases x with
  | finish =>
    simp only [step]
    split
    case h_1 => rfl
    case h_2 => split <;> rfl
  | receive =>
    simp only [step]
    split
    case h_1 => split <;> rfl
    case h_2 => rfl
    case h_3 => rfl
  | control =>
    simp only [step]
    split <;> rfl
  | _ =>
    simp only [step]
    split <;> rfl

theorem roomRun (c : Contention) (steps : List Step) : (c.run steps).room = c.room := by
  induction steps generalizing c with
  | nil => rfl
  | cons x rest ih => exact (ih (c.step x)).trans (c.roomStep x)

theorem deadlockCalls {capacity room : Nat} {steps : List Step}
    (h : ((start capacity room).run steps).deadlocked = true) : room + 2 ≤ calls steps := by
  obtain ⟨held, wants⟩ := Bool.and_eq_true_iff.mp h
  obtain ⟨a, holder, waits⟩ := (Option.any_eq_true _ _).mp held
  have full : room ≤ ((start capacity room).run steps).pending.length := by
    have full := (Bool.and_eq_true_iff.mp waits).2
    rw [roomRun] at full
    exact of_decide_eq_true full
  have one : ((start capacity room).run steps).held = 1 := by simp [Contention.held, holder]
  rcases enteredRun capacity room steps with ⟨-, -, -, frameless, -⟩ | few
  · cases round : ((start capacity room).run steps).round <;>
      simp [round, Round.wantsLock, Round.hasFrame] at wants frameless
  · omega

end Contention

namespace Engine

variable {e : Engine}

theorem someSends (sending : e.backend.Sending) (live : e.backend.exited = false)
    (few : e.live .hashTx ≤ 1) :
    ∃ a c, a.command? = some c ∧ (e.act a).live .hashTx ≤ 1 ∧
      (e.act a).backend.link.pending = e.backend.link.pending ++ [c.encode] := by
  rcases Nat.le_one_iff_eq_zero_or_eq_one.mp few with none | one
  · refine ⟨.subscribe .hashTx, .subscribe .hashTx, rfl, ?_⟩
    rcases Backend.subscribeEffect live .hashTx .hashTx with ⟨why, failed, -⟩ | ⟨sent, listed, -⟩
    · exact absurd failed (sending.send live)
    · have none : e.backend.registry.live .hashTx = 0 := none
      have pending := sent.pending
      rw [if_pos none] at pending
      refine ⟨Nat.le_trans (Nat.le_of_eq listed) ?_, pending⟩
      rw [none]
      split <;> decide
  · obtain ⟨entry, only⟩ := List.length_eq_one_iff.mp one
    have found : e.backend.registry.entry? .hashTx entry.id = some entry := by
      simp [Registry.entry?, only]
    have fewer := e.backend.registry.removeLive found .hashTx
    have last : (e.backend.registry.remove .hashTx entry.id).2.live .hashTx = 0 := by
      have one : e.backend.registry.live .hashTx = 1 := one
      simpa [one] using fewer
    have empty : (e.backend.registry.remove .hashTx entry.id).2.isEmpty .hashTx = true :=
      (Registry.isEmptyLive _ .hashTx).mpr last
    refine ⟨.cancel .hashTx entry.id, .unsubscribe .hashTx, rfl, ?_⟩
    rcases e.backend.cancelCases .hashTx entry.id with
      ⟨gone, -⟩ | ⟨-, absent, -⟩ | ⟨-, other, -, ⟨some, -⟩ | ⟨-, link, sent, done⟩ | ⟨-, why, failed, -⟩⟩
    · cases live.symm.trans gone
    · cases absent.symm.trans found
    · cases some.symm.trans empty
    · obtain ⟨-, -, longer⟩ := Link.sentOnly sent
      simp only [act, done, Engine.live, last, longer]
      exact ⟨Nat.zero_le 1, trivial⟩
    · exact absurd failed (sending.send live)

end Engine

namespace Contention

variable {c : Contention}

structure Ready (c : Contention) (f : Frame) (commands : Nat) : Prop where
  free : c.holder = none
  round : c.round = .polling
  stage : c.engine.stage = .polling
  arrived : c.arrived = [f]
  sending : c.engine.backend.Sending
  live : c.engine.backend.exited = false
  few : c.engine.live .hashTx ≤ 1
  pending : c.pending.length = commands

theorem callRuns {a : Act} (free : c.holder = none) (call : a.command?.isSome = true)
    (space : c.pending.length < c.room) : c.run [.enter a, .finish] = c.act a := by
  have few : ¬ c.room ≤ c.pending.length := Nat.not_le.mpr space
  have done : c.waits a = false := by simp [waits, few]
  have waits : waits { c with holder := some a } a = false := done
  have entered : c.step (.enter a) = { c with holder := some a } := by simp [step, free, call]
  have last : c.run [.enter a, .finish] = (c.step (.enter a)).step .finish := rfl
  have none : { c.act a with holder := none } = c.act a := by
    rw [← free]
    rfl
  rw [last, entered]
  simp only [step, waits, Bool.false_eq_true, if_false]
  exact none

theorem controlRuns (round : c.round = .polling) (stage : c.engine.stage = .polling)
    (arrived : c.arrived = []) (some : c.pending ≠ []) :
    c.run [.poll, .receive, .control] = c.act .control := by
  have polled : c.step .poll = { c with round := .found false true } := by
    simp [step, round, stage, arrived, some]
  have last : c.run [.poll, .receive, .control] = ((c.step .poll).step .receive).step .control := rfl
  have polling : { c.act .control with round := .polling } = c.act .control := by
    rw [← round]
    rfl
  rw [last, polled]
  exact polling

theorem fillOne {k : Nat} {f : Frame} (h : c.Ready f k) (space : k < c.room) :
    ∃ a, (c.run [.enter a, .finish]).Ready f (k + 1) := by
  obtain ⟨a, command, call, few, sent⟩ := Engine.someSends h.sending h.live h.few
  have healthy : ∀ cause, a ≠ .fault cause := fun cause same => by
    subst same
    cases call
  have stays : a.retires = false := by
    cases a <;> first | rfl | cases call
  have some : a.command?.isSome = true := by simp [call]
  refine ⟨a, ?_⟩
  rw [callRuns h.free some (by rw [h.pending]; exact space)]
  exact {
    free := h.free
    round := h.round
    stage := (Engine.callAct some).2.1.trans h.stage
    arrived := h.arrived
    sending := Engine.sendingAct h.sending healthy
    live := by
      have exited := (c.engine.changes a).exitedAfter
      rw [h.live, stays] at exited
      exact exited
    few := few
    pending := by
      have longer := congrArg List.length sent
      rw [List.length_append] at longer
      exact longer.trans (congrArg (· + 1) h.pending) }

theorem fill {f : Frame} (h : c.Ready f 0) (k : Nat) (space : k ≤ c.room) :
    ∃ steps, calls steps = k ∧ (c.run steps).Ready f k := by
  induction k with
  | zero => exact ⟨[], rfl, h⟩
  | succ k ih =>
    obtain ⟨steps, count, ready⟩ := ih (Nat.le_of_succ_le space)
    obtain ⟨a, longer⟩ := fillOne ready (by rw [roomRun]; exact space)
    refine ⟨steps ++ [.enter a, .finish], ?_, ?_⟩
    · rw [calls, List.countP_append]
      exact congrArg (· + 1) count
    · rw [runAppend]
      exact longer

theorem fullLocks {f : Frame} {n : Notification} (h : c.Ready f c.room) (decodes : f.decode = .ok n) :
    ∃ a, (c.run [.enter a, .poll, .receive]).deadlocked = true := by
  obtain ⟨a, command, call, few, sent⟩ := Engine.someSends h.sending h.live h.few
  refine ⟨a, ?_⟩
  have sends : c.engine.sends a = [command.encode] := by
    unfold Engine.sends
    rw [sent, List.drop_left]
  have full : c.room ≤ c.pending.length := Nat.le_of_eq h.pending.symm
  have waits : c.waits a = true := by simp [Contention.waits, sends, full]
  have entered : c.step (.enter a) = { c with holder := some a } := by simp [step, h.free, call]
  have last : c.run [.enter a, .poll, .receive] = ((c.step (.enter a)).step .poll).step .receive := rfl
  rw [last, entered]
  simp [step, h.round, h.stage, h.arrived, decodes, deadlocked, Round.wantsLock]
  exact waits

def announcement : Frame := [Topic.hashTx.label, Hash.zero.bytes, [0, 0, 0, 0]]

def priming : List Step :=
  [.enter (.subscribe .hashTx), .finish, .poll, .receive, .control, .arrive announcement]

theorem announcementPasses {filters : Filters} (installed : 0 < filters.counts.get .hashTx) :
    filters.passes announcement = true := by
  have label : Topic.hashTx.label.isPrefixOf Topic.hashTx.label = true := by decide
  have all : Topic.hashTx ∈ Topic.all := by decide
  exact List.any_eq_true.mpr ⟨.hashTx, all, by simp [installed, label]⟩

theorem primed (capacity : Nat) {room : Nat} (some : 0 < room) :
    ((start capacity room).run priming).Ready announcement 0 := by
  have fresh : (Engine.opening capacity .fresh).backend.Sending := ⟨rfl, rfl⟩
  have subscribed := Engine.sendingAct (a := .subscribe .hashTx) fresh nofun
  have live := ((Engine.opening capacity .fresh).changes (.subscribe .hashTx)).exitedAfter
  rcases Backend.subscribeEffect (b := (Engine.opening capacity .fresh).backend) rfl .hashTx .hashTx
    with ⟨why, failed, -⟩ | ⟨sent, listed, -⟩
  · exact absurd failed (fresh.send rfl)
  have one : ((start capacity room).act (.subscribe .hashTx)).pending =
      [(Command.subscribe .hashTx).encode] := sent.pending
  have called : (start capacity room).run [.enter (.subscribe .hashTx), .finish] =
      (start capacity room).act (.subscribe .hashTx) := callRuns rfl rfl some
  have read := controlRuns (c := (start capacity room).act (.subscribe .hashTx)) rfl rfl rfl
    (by rw [one]; exact List.cons_ne_nil _ _)
  have installed := Engine.controlInstalls (e := ((start capacity room).act (.subscribe .hashTx)).engine)
    rfl one
  have passes : (((start capacity room).act (.subscribe .hashTx)).act .control).engine.filters.passes
      announcement = true := by
    refine announcementPasses ?_
    rw [act, installed, Topic.Table.getSet]
    exact Nat.one_pos
  have arrived : (((start capacity room).act (.subscribe .hashTx)).act .control).run
      [.arrive announcement] = _ := if_pos passes
  have split : priming = [.enter (.subscribe .hashTx), .finish] ++ [.poll, .receive, .control] ++
      [.arrive announcement] := rfl
  rw [split, runAppend, runAppend, called, read, arrived]
  exact {
    free := rfl
    round := rfl
    stage := congrArg Engine.stage installed
    arrived := rfl
    sending := Engine.sendingAct (a := .control) subscribed nofun
    live := (congrArg (Engine.backend · |>.exited) installed).trans live
    few := by
      have kept := congrArg (Engine.live · .hashTx) installed
      refine Nat.le_trans (Nat.le_of_eq (kept.trans listed)) ?_
      split <;> exact Nat.le_of_ble_eq_true rfl
    pending := congrArg (Engine.backend · |>.link.pending.length) installed }

/-- With fewer calls than this no run gets there, and with as many one does. -/
theorem deadlockExactly (capacity : Nat) {room : Nat} (some : 0 < room) (n : Nat) :
    (∃ steps, calls steps ≤ n ∧ ((start capacity room).run steps).deadlocked = true) ↔ room + 2 ≤ n := by
  constructor
  · rintro ⟨steps, few, locked⟩
    exact Nat.le_trans (deadlockCalls locked) few
  · intro enough
    have space : ((start capacity room).run priming).room = room := roomRun _ _
    obtain ⟨steps, count, full⟩ := fill (primed capacity some) room (Nat.le_of_eq space.symm)
    have ready : (((start capacity room).run priming).run steps).Ready announcement
        (((start capacity room).run priming).run steps).room := by
      rw [roomRun, space]
      exact full
    obtain ⟨a, locked⟩ := fullLocks (n := .hashTx ⟨.zero, 0⟩) ready rfl
    refine ⟨priming ++ steps ++ [.enter a, .poll, .receive], ?_, ?_⟩
    · have first : calls priming = 1 := rfl
      have last : calls [.enter a, .poll, .receive] = 1 := rfl
      have total : calls (priming ++ steps ++ [.enter a, .poll, .receive]) = 1 + room + 1 := by
        simp only [calls, List.countP_append] at first last count ⊢
        rw [first, last, count]
      omega
    · rw [runAppend, runAppend]
      exact locked

example : ((start 1 1).run (priming ++ [.enter (.cancel .hashTx 0), .finish, .poll, .receive,
    .enter (.subscribe .hashTx)])).deadlocked = true := by
  decide

end Contention
end NodeFeed
