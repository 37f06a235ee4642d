import NodeFeed.Proofs.WorkerCalls

/-!
A stop call against the worker's two looks. The call gives its signal and then closes the queue, and the
worker looks at the signal and then at the queue. If the signal comes between the two looks and the queue
is empty, the worker may find the queue closed and take the stop for the end of the subscriber: it makes
its closing call. In no other case does it do so.
-/

namespace NodeFeed

open Registry

namespace Engine

variable {e : Engine} {m : List Subscription} {s : Subscription}

theorem aheadAct (h : e.Tracked m) (mine : s ∈ m) {a : Act} (apart : a ≠ .receive s.place)
    (some : e.held s.place ≠ []) : (e.act a).held s.place ≠ [] := by
  obtain ⟨q, there, -⟩ := h.queue mine
  have after : (e.act a).held s.place = (a.onQueue s q).buffer :=
    heldThere ((queueAct h mine apart).trans (congrArg _ there))
  rw [heldThere there] at some
  rw [after]
  unfold Act.onQueue
  split
  · exact some
  · split
    case h_1 event _ =>
      rcases q.pushCases event with ⟨-, done⟩ | ⟨-, -, done⟩ | ⟨-, -, done⟩ <;> rw [done]
      · exact some
      · exact List.append_ne_nil_of_right_ne_nil _ (List.cons_ne_nil _ _)
      · exact List.append_ne_nil_of_right_ne_nil _ (List.cons_ne_nil _ _)
    case h_2 => exact some

theorem aheadRun (h : e.Tracked m) (mine : s ∈ m) {acts : List Act}
    (apart : ∀ a ∈ acts, a ≠ .receive s.place) (some : e.held s.place ≠ []) :
    (e.run acts).held s.place ≠ [] := by
  induction acts using List.reverseRecOn with
  | nil => exact some
  | append_singleton acts a ih =>
    obtain ⟨before, last⟩ := List.forall_mem_append.mp apart
    rw [runSnoc]
    exact aheadAct (tracksRun h acts) (List.mem_append_left _ mine) (last a List.mem_cons_self) (ih before)

end Engine

namespace Worker

variable {w next : Worker} {b : Backend} {said : List Call} {done : List Act}

theorem Steps.told (steps : w.Steps b said done next) : next.stopping = w.stopping := by
  cases steps <;> rfl

theorem findsClosed {q : Queue Event} (here : w.stage = .receiving)
    (found : b.registry.queue? w.subscription.place = some q) (empty : q.buffer = [])
    (closed : q.closed = true) : (w.step b).state = ({ w with stage := .closing }, b) := by
  simp [step, here, found, Queue.poll, Queue.tryRecv, empty, closed]

theorem closingCall (here : w.stage = .closing) : .closes ∈ w.calls b := by
  simp [calls, overs, here]

end Worker

namespace Workshop

open Engine (opening)

variable {m : List Subscription} {s : Subscription} {c : Consumer} {x next : Workshop}
  {said : List Call} {done : List Act}

structure Clear (x : Workshop) : Prop where
  told : x.worker.stopping = true
  stage : x.worker.stage ≠ .closing
  ahead : x.worker.stage = .receiving → x.engine.held x.worker.subscription.place ≠ []

theorem clearMove (tracks : x.engine.Tracked m) (known : x.worker.subscription ∈ m) (h : x.Clear)
    (moves : x.Moves said done next) : next.Clear ∧ .closes ∉ said := by
  obtain ⟨q, there, -⟩ := tracks.queue known
  have held := Engine.heldThere there
  obtain ⟨told, stage, ahead⟩ := h
  cases moves with
  | beside foreign signal permits stopping =>
    have still (here : x.worker.stage = .receiving) :=
      Engine.aheadRun tracks known (foreignApart foreign) (ahead here)
    exact ⟨⟨signal told, stage, still⟩, nofun⟩
  | works steps =>
    have still := steps.told.trans told
    cases steps with
    | goesOn _ free => cases told.symm.trans free
    | waits here found empty => exact absurd ((Engine.heldThere found).trans empty) (ahead here)
    | drains here dry => exact absurd (held.trans (dry q there).1) (ahead here)
    | closes here => exact absurd here stage
    | holds here => exact ⟨⟨still, stage, fun now => nomatch here.symm.trans now⟩, nofun⟩
    | rests here => exact ⟨⟨still, stage, fun now => nomatch here.symm.trans now⟩, nofun⟩
    | _ => exact ⟨⟨still, nofun, nofun⟩, by simp⟩

theorem moveSame (moves : x.Moves said done next) :
    next.worker.subscription = x.worker.subscription := by
  cases moves with
  | works steps => exact steps.same.1
  | beside => rfl

theorem clearRun (tracks : x.engine.Tracked m) (known : x.worker.subscription ∈ m) (h : x.Clear)
    (moves : List Move) : .closes ∉ x.calls moves := by
  induction moves generalizing x m with
  | nil => exact List.not_mem_nil
  | cons k rest ih =>
    have first := x.moves k
    obtain ⟨clear, quiet⟩ := clearMove tracks known h first
    have tracked : (x.move k).engine.Tracked (m ++ x.engine.made (x.acts k)) := by
      rw [engineMove first]
      exact Engine.tracksRun tracks _
    have mine : (x.move k).worker.subscription ∈ m ++ x.engine.made (x.acts k) := by
      rw [moveSame first]
      exact List.mem_append_left _ known
    exact List.not_mem_append quiet (ih tracked mine clear)

theorem toldMove (told : x.worker.stopping = true) (moves : x.Moves said done next) :
    next.worker.stopping = true := by
  cases moves with
  | works steps => exact steps.told.trans told
  | beside _ signal => exact signal told

theorem toldRun (fresh : x.stopping = .calling) (moves : List Move)
    (asked : (x.run moves).stopping ≠ .calling) : (x.run moves).worker.stopping = true := by
  induction moves using List.reverseRecOn with
  | nil => exact absurd fresh asked
  | append_singleton moves k ih =>
    rw [runSnoc] at asked ⊢
    by_cases calling : (x.run moves).stopping = .calling
    · have stop : k = .stop := by
        by_contra other
        exact asked ((stoppingMove _ other).trans calling)
      simp [stop, move, calling, Worker.stopStep, Worker.signal]
    · exact toldMove (ih calling) ((x.run moves).moves k)

theorem closesNext (tracks : x.engine.Tracked m) (known : x.worker.subscription ∈ m)
    (asking : x.stopping = .cancelling) (here : x.worker.stage = .receiving)
    (empty : x.engine.held x.worker.subscription.place = []) :
    .closes ∈ x.calls [.stop, .work, .work] := by
  obtain ⟨q, there, -⟩ := tracks.queue known
  have cancels : x.move .stop =
      { x.withBackend (x.engine.backend.cancel x.worker.topic x.worker.subscription.id).state with
        stopping := .joining (Worker.stopAnswer
          (x.engine.backend.cancel x.worker.topic x.worker.subscription.id).answer) } := by
    simp only [move, asking]
    rfl
  have stays : (x.move .stop).worker = x.worker := by
    rw [cancels]
    rfl
  have closed : (x.move .stop).engine.backend.registry.queue? (x.move .stop).worker.subscription.place =
      some { q with closed := true } := by
    rw [cancels]
    refine (Engine.cancelQueue tracks known x.worker.topic x.worker.subscription.id).trans ?_
    simp [there, Worker.topic]
  have receiving : (x.move .stop).worker.stage = .receiving := stays ▸ here
  have drained : ({ q with closed := true } : Queue Event).buffer = [] :=
    (Engine.heldThere there).symm.trans empty
  have finds := Worker.findsClosed receiving closed drained rfl
  have closing : ((x.move .stop).move .work).worker.stage = .closing := by
    simp only [move] at finds ⊢
    rw [finds]
  have last := Worker.closingCall (b := ((x.move .stop).move .work).engine.backend) closing
  exact List.mem_append_right _ (List.mem_append_right _ (List.mem_append_left _ last))

/-- A stop call between its two actions can still be taken for the end of the subscriber exactly when the
worker is between its two looks and has nothing to take. -/
theorem closesBetweenLooks (capacity : Nat) (filters : Filters) (before : List Act) (s : Subscription)
    (mine : s ∈ (opening capacity filters).made before) (c : Consumer) (moves : List Move) :
    let x := start ((opening capacity filters).run before) s c
    (x.run moves).stopping = .cancelling →
    s.entry ∈ (x.run moves).engine.backend.registry.lists.get s.topic →
    ((∃ more, (∀ a, .other a ∈ more → a.removes s = false) ∧ .closes ∈ x.calls (moves ++ more)) ↔
      (x.run moves).worker.stage = .receiving ∧ (x.run moves).engine.held s.place = []) := by
  intro x asking registered
  have fresh : x.Fresh _ s c := freshOpened capacity filters before mine c
  have keeps := fresh.keeps moves
  have tracked := keeps.tracked fresh.tracks
  have known := List.mem_append_left (x.engine.made (x.played moves)) mine
  have opened : ¬(x.run moves).engine.isShut s.place = true := fun shut => by
    rw [Engine.isShut, tracked.shut s known] at shut
    simp [registered] at shut
  have subscription := keeps.mine
  have own : (x.run moves).worker.subscription ∈ _ := subscription ▸ known
  constructor
  · rintro ⟨more, -, closes⟩
    by_contra other
    have clear : (x.run moves).Clear := {
      told := toldRun fresh.calling moves fun calling => by cases asking.symm.trans calling
      stage := fun closing => opened (keeps.closing (.inl closing)).1
      ahead := fun here empty => other ⟨here, subscription ▸ empty⟩ }
    rw [callsAppend] at closes
    rcases List.mem_append.mp closes with old | new
    · exact opened (keeps.closing (.inr old)).1
    · exact clearRun tracked own clear more new
  · rintro ⟨here, empty⟩
    refine ⟨[.stop, .work, .work], by simp, ?_⟩
    rw [callsAppend]
    exact List.mem_append_right _ (closesNext tracked own asking here (subscription ▸ empty))

theorem stopTakenForTheEnd :
    let c : Consumer := ⟨"log", false, [], true, false⟩
    let x := start ((opening 1 .fresh).run [.subscribe .rawTx]) ⟨.rawTx, 0, 0⟩ c
    let moves := [.work, .work, .stop]
    (x.run moves).worker.stage = .receiving ∧ (x.run moves).engine.held 0 = [] ∧
      x.calls (moves ++ [.stop, .work, .work, .work, .stop]) = [.closes] := by
  decide

end Workshop
end NodeFeed
