import NodeFeed.Proofs.Listing

/-!
Shutdown as callers see it: the lifecycle, the two signals and the front of the link. The handler works
in an order of its own, and callers keep none, so a run is orderly when each act of the handler comes at
its stage. `Flags.Turns` says once what an act at its stage does to the flags; that they follow each
other, never go back, and close everything on their way is read off from there.
-/

namespace NodeFeed

def Act.timely (stage : Stage) : Act → Bool
  | .frame _ | .control | .fail _ => stage == .polling
  | .panic => stage == .polling || stage == .leaving || stage == .emptying
  | .pass next => next == stage
  | .subscribe _ | .cancel _ _ | .release _ _ | .requestTerm | .receive _ | .start | .fault _ => true

namespace Lifecycle

theorem advanceNotBack (now next : Lifecycle) : now.rank ≤ (now.advance next).rank :=
  advanceRank now next ▸ Nat.le_max_left _ _

theorem advanceExited (now : Lifecycle) : now.advance .exited = .exited :=
  rankDistinct (by cases now <;> rfl)

theorem advanceEarly {next : Lifecycle} (early : next ≠ .exited) (now : Lifecycle) :
    now.advance next = .exited ↔ now = .exited := by
  unfold advance
  split
  case isTrue ahead =>
    refine ⟨fun there => absurd there early, fun there => ?_⟩
    subst there
    cases next <;> contradiction
  case isFalse => exact Iff.rfl

end Lifecycle

structure Flags where
  stage : Stage
  lifecycle : Lifecycle
  exited : Bool
  front : Bool
  stopped : Bool

namespace Flags

variable {f g : Flags}

inductive Turns (f : Flags) : Flags → Prop where
  | still : Turns f f
  | advanced {next : Lifecycle} (early : next ≠ .exited) :
      Turns f { f with lifecycle := f.lifecycle.advance next }
  | ended (there : f.stage = .polling) : Turns f { f with stage := .leaving }
  | panicked (there : f.stage = .polling ∨ f.stage = .leaving ∨ f.stage = .emptying) :
      Turns f { f with stage := .guarding }
  | left (there : f.stage = .leaving) :
      Turns f { f with lifecycle := f.lifecycle.advance .shuttingDown, stage := .emptying }
  | emptied (there : f.stage = .emptying) :
      Turns f { f with exited := true, front := false, stage := .guarding }
  | guarded (there : f.stage = .guarding) :
      Turns f { f with exited := true, front := false, stage := .marking }
  | marked (there : f.stage = .marking) :
      Turns f { f with lifecycle := f.lifecycle.advance .exited, stage := .signalling }
  | signalled (there : f.stage = .signalling) : Turns f { f with stopped := true, stage := .gone }

/-- Which flags are set is told by the stage, except that the guard finds the signal of the start of
shutdown set after an orderly end and not set after a panic. -/
structure Ordered (f : Flags) : Prop where
  front : f.front = !f.exited
  early : f.stage = .polling ∨ f.stage = .leaving ∨ f.stage = .emptying → f.exited = false
  late : f.stage = .marking ∨ f.stage = .signalling ∨ f.stage = .gone → f.exited = true
  marked : f.lifecycle = .exited ↔ f.stage = .signalling ∨ f.stage = .gone
  signalled : f.stopped = true ↔ f.stage = .gone

structure Onward (f g : Flags) : Prop where
  lifecycle : f.lifecycle.rank ≤ g.lifecycle.rank
  exited : f.exited = true → g.exited = true
  stopped : f.stopped = true → g.stopped = true

theorem Onward.trans {h : Flags} (first : Onward f g) (rest : Onward g h) : Onward f h where
  lifecycle := Nat.le_trans first.lifecycle rest.lifecycle
  exited := rest.exited ∘ first.exited
  stopped := rest.stopped ∘ first.stopped

theorem Turns.onward (turns : Turns f g) : Onward f g := by
  cases turns with
  | still => exact ⟨Nat.le_refl _, id, id⟩
  | advanced => exact ⟨Lifecycle.advanceNotBack _ _, id, id⟩
  | ended => exact ⟨Nat.le_refl _, id, id⟩
  | panicked => exact ⟨Nat.le_refl _, id, id⟩
  | left => exact ⟨Lifecycle.advanceNotBack _ _, id, id⟩
  | emptied => exact ⟨Nat.le_refl _, fun _ => rfl, id⟩
  | guarded => exact ⟨Nat.le_refl _, fun _ => rfl, id⟩
  | marked => exact ⟨Lifecycle.advanceNotBack _ _, id, id⟩
  | signalled => exact ⟨Nat.le_refl _, id, fun _ => rfl⟩

theorem Ordered.turns (h : Ordered f) (turns : Turns f g) : Ordered g := by
  obtain ⟨front, early, late, marked, signalled⟩ := h
  cases turns with
  | still => exact ⟨front, early, late, marked, signalled⟩
  | advanced before =>
    exact ⟨front, early, late, (Lifecycle.advanceEarly before _).trans marked, signalled⟩
  | ended there =>
    simp only [there] at early marked signalled
    exact ⟨front, fun _ => early (by simp), by simp, by simpa using marked, by simpa using signalled⟩
  | panicked there =>
    refine ⟨front, by simp, by simp, ?_, ?_⟩
    · rcases there with there | there | there <;> simpa [there] using marked
    · rcases there with there | there | there <;> simpa [there] using signalled
  | left there =>
    simp only [there] at early marked signalled
    refine ⟨front, fun _ => early (by simp), by simp, ?_, by simpa using signalled⟩
    rw [Lifecycle.advanceEarly (by decide)]
    simpa using marked
  | emptied there =>
    simp only [there] at marked signalled
    exact ⟨rfl, by simp, fun _ => rfl, by simpa using marked, by simpa using signalled⟩
  | guarded there =>
    simp only [there] at marked signalled
    exact ⟨rfl, by simp, fun _ => rfl, by simpa using marked, by simpa using signalled⟩
  | marked there =>
    simp only [there] at late signalled
    exact ⟨front, by simp, fun _ => late (by simp), by simp [Lifecycle.advanceExited],
      by simpa using signalled⟩
  | signalled there =>
    simp only [there] at late marked
    exact ⟨front, by simp, fun _ => late (by simp), by simpa using marked, by simp⟩

end Flags

namespace Backend

def flags (b : Backend) (stage : Stage) : Flags :=
  ⟨stage, b.lifecycle, b.exited, b.link.front, b.stopped⟩

variable {b : Backend}

theorem flagsSent {link : Link} {c : Command} (sent : b.link.send c = .ok link) (stage : Stage) :
    flags { b with link } stage = b.flags stage := by
  obtain ⟨-, -, rfl⟩ := Link.sentOnly sent
  rfl

theorem Calls.flags {next : Backend} {c : Command} (calls : b.Calls next c) (stage : Stage) :
    next.flags stage = b.flags stage := by
  rw [calls.rest]
  rcases calls.sent with same | sent
  · rw [same]
    rfl
  · exact flagsSent sent stage

theorem receiveFlags (b : Backend) (place : Nat) (stage : Stage) :
    (b.receive place).flags stage = b.flags stage := by
  unfold receive
  split <;> rfl

theorem askedTurns (b : Backend) (stage : Stage) :
    (b.flags stage).Turns (b.asked.flags stage) := by
  rcases b.askedCases with done | ⟨link, sent, done⟩ <;> rw [done]
  · exact .still
  · have same := flagsSent sent stage
    exact same ▸ .advanced (f := flags { b with link } stage) (by decide)

structure Refuses (b : Backend) : Prop where
  subscribe : ∀ t, b.subscribe t = ⟨.refused .exited, b, []⟩
  cancel : ∀ t id, b.cancel t id = ⟨.error .exited, b, []⟩
  release : ∀ t id, b.release t id = ⟨(), b, []⟩

theorem refuses (gone : b.exited = true) : b.Refuses where
  subscribe t := by simp [Backend.subscribe, gone]
  cancel t id := by simp [Backend.cancel, gone]
  release t id := by simp [Backend.release, Backend.cancel, gone]

end Backend

namespace Engine

variable {e : Engine}

def flags (e : Engine) : Flags := e.backend.flags e.stage

def Orderly (e : Engine) : List Act → Prop
  | [] => True
  | a :: rest => a.timely e.stage = true ∧ (e.act a).Orderly rest

theorem orderlyAppend (e : Engine) (first rest : List Act) :
    e.Orderly (first ++ rest) ↔ e.Orderly first ∧ (e.run first).Orderly rest := by
  induction first generalizing e with
  | nil => exact ⟨fun all => ⟨trivial, all⟩, And.right⟩
  | cons a first ih =>
    have later := ih (e.act a)
    simp only [List.cons_append, Orderly, later, and_assoc]
    exact Iff.rfl

theorem turns (e : Engine) (a : Act) (timely : a.timely e.stage = true) :
    e.flags.Turns (e.act a).flags := by
  have still {next : Engine} (same : next.flags = e.flags) : e.flags.Turns next.flags :=
    same ▸ .still
  cases a with
  | subscribe t => exact still ((e.backend.subscribeCalls t).flags e.stage)
  | cancel t id => exact still ((e.backend.cancelCalls t id).flags e.stage)
  | release t id => exact still ((e.backend.releaseCalls t id).flags e.stage)
  | requestTerm => exact e.backend.askedTurns e.stage
  | receive place => exact still (e.backend.receiveFlags place e.stage)
  | start => exact .advanced (by decide)
  | frame f =>
    simp only [act]
    rcases e.onFrameCases f with ⟨why, -, done⟩ | ⟨n, -, done⟩ <;> (rw [done]; exact still rfl)
  | control =>
    have there : e.stage = .polling := by simpa [Act.timely] using timely
    simp only [act]
    rcases e.onControlCases with
      ⟨-, done⟩ | ⟨f, rest, -, ⟨filters, -, done⟩ | ⟨-, done⟩ | ⟨why, -, done⟩⟩ <;> rw [done]
    · exact .still
    · exact still rfl
    · exact .ended there
    · exact .ended there
  | fail why =>
    have there : e.stage = .polling := by simpa [Act.timely] using timely
    exact .ended there
  | panic =>
    have there : e.stage = .polling ∨ e.stage = .leaving ∨ e.stage = .emptying := by
      simpa [Act.timely, or_assoc] using timely
    exact .panicked there
  | pass next =>
    obtain ⟨backend, filters, stage⟩ := e
    have there : next = stage := by simpa [Act.timely] using timely
    subst there
    cases next with
    | polling => exact .still
    | leaving => exact .left rfl
    | emptying => exact .emptied rfl
    | guarding => exact .guarded rfl
    | marking => exact .marked rfl
    | signalling => exact .signalled rfl
    | gone => exact .still
  | fault cause => exact still rfl

theorem orderedRun (h : e.flags.Ordered) {acts : List Act} (orderly : e.Orderly acts) :
    (e.run acts).flags.Ordered := by
  induction acts generalizing e with
  | nil => exact h
  | cons a rest ih =>
    obtain ⟨timely, later⟩ := orderly
    exact ih (h.turns (e.turns a timely)) later

theorem onwardRun {acts : List Act} (orderly : e.Orderly acts) :
    e.flags.Onward (e.run acts).flags := by
  induction acts generalizing e with
  | nil => exact Flags.Turns.still.onward
  | cons a rest ih =>
    obtain ⟨timely, later⟩ := orderly
    exact (e.turns a timely).onward.trans (ih later)

theorem orderedOpened (capacity : Nat) (filters : Filters) {acts : List Act}
    (orderly : (opening capacity filters).Orderly acts) :
    ((opening capacity filters).run acts).flags.Ordered := by
  have start : Flags.Ordered ⟨.polling, .initializing, false, true, false⟩ :=
    ⟨rfl, fun _ => rfl, by decide, by decide, by decide⟩
  exact orderedRun (e := opening capacity filters) start orderly

theorem emptiedOpened (capacity : Nat) (filters : Filters) {acts : List Act}
    (gone : ((opening capacity filters).run acts).backend.exited = true) :
    (∀ t, ((opening capacity filters).run acts).backend.registry.lists.get t = []) ∧
      ∀ s ∈ (opening capacity filters).made acts,
        ∃ q, ((opening capacity filters).run acts).backend.registry.queue? s.place = some q ∧
          q.closed = true := by
  have tracks := tracksOpened capacity filters acts
  have emptied := tracks.gone gone
  refine ⟨emptied, fun s mine => ?_⟩
  obtain ⟨q, there, state⟩ := Option.map_eq_some_iff.mp (tracks.shut s mine)
  exact ⟨q, there, by simpa [emptied] using state⟩

structure Final (start : Engine) (acts : List Act) : Prop where
  stopped : (start.run acts).backend.stopped = true → (start.run acts).backend.lifecycle = .exited
  lifecycle : (start.run acts).backend.lifecycle = .exited → (start.run acts).backend.exited = true
  front : (start.run acts).backend.exited = true ↔ (start.run acts).backend.link.front = false
  emptied : (start.run acts).backend.exited = true →
    (∀ t, (start.run acts).backend.registry.lists.get t = []) ∧
      ∀ s ∈ start.made acts, ∃ q, (start.run acts).backend.registry.queue? s.place = some q ∧
        q.closed = true
  onward : ∀ more, start.Orderly (acts ++ more) →
    (start.run acts).flags.Onward (start.run (acts ++ more)).flags
  refuses : (start.run acts).backend.exited = true → ∀ more, start.Orderly (acts ++ more) →
    (start.run (acts ++ more)).backend.Refuses

theorem shutdownIsFinal (capacity : Nat) (filters : Filters) (acts : List Act)
    (orderly : (opening capacity filters).Orderly acts) : Final (opening capacity filters) acts := by
  have ordered := orderedOpened capacity filters orderly
  have onward (more : List Act) (later : (opening capacity filters).Orderly (acts ++ more)) :
      ((opening capacity filters).run acts).flags.Onward
        ((opening capacity filters).run (acts ++ more)).flags := by
    rw [runAppend]
    exact onwardRun ((orderlyAppend _ acts more).mp later).2
  exact {
    stopped := fun done => ordered.marked.mpr (.inr (ordered.signalled.mp done))
    lifecycle := fun marked => ordered.late (.inr (ordered.marked.mp marked))
    front := by
      have front : ((opening capacity filters).run acts).backend.link.front =
        !((opening capacity filters).run acts).backend.exited := ordered.front
      rw [front]
      simp
    emptied := emptiedOpened capacity filters
    onward := onward
    refuses := fun gone more later => Backend.refuses ((onward more later).exited gone) }

theorem shutdownIsFinalAfterPanic :
    (opening 1 .fresh).Orderly [.subscribe .hashTx, .panic, .pass .guarding, .start, .requestTerm,
      .pass .marking, .pass .signalling] ∧
    ((opening 1 .fresh).run [.subscribe .hashTx, .panic, .pass .guarding, .start, .requestTerm,
      .pass .marking, .pass .signalling]).backend.stopped = true ∧
    Final (opening 1 .fresh) [.subscribe .hashTx, .panic, .pass .guarding, .start, .requestTerm,
      .pass .marking, .pass .signalling] :=
  have orderly : (opening 1 .fresh).Orderly [.subscribe .hashTx, .panic, .pass .guarding, .start,
      .requestTerm, .pass .marking, .pass .signalling] := by
    simp only [Orderly, and_true]
    decide
  ⟨orderly, by decide, shutdownIsFinal 1 .fresh _ orderly⟩

end Engine
end NodeFeed
