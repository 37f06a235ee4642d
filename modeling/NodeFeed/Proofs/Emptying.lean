import NodeFeed.Proofs.DropOldest
import NodeFeed.Proofs.Fanout

/-!
Taking every queue off its list at once. The report names the topics that listed queues, in their fixed order,
and counts for each the close calls that found an open queue; a queue that somebody closed before is emptied out
with the rest and counted by nobody. What is left is a registry without lists: whatever is done to it but for
adding a queue, it closes nothing and removes nothing, and the consumers read what was there and then the end.
-/

namespace NodeFeed

namespace Registry

inductive Use where
  | tryRecv (place : Nat)
  | poll (place : Nat)
  | dispatch (n : Notification)
  | remove (t : Topic) (id : QueueId)
  | closeAll

inductive Reply where
  | received (place : Nat) (answer : Option (Except RecvError Event))
  | polled (place : Nat) (answer : Option (Poll Event))
  | dispatched (count : DispatchCount)
  | removed (removed : Removed)
  | reported (report : List (Topic × Nat))

def Use.looksAt (place : Nat) : Use → Bool
  | tryRecv p | poll p => p == place
  | dispatch _ | remove _ _ | closeAll => false

def Reply.told? (place : Nat) : Reply → Option (Option Event)
  | received p (some (.ok event)) | polled p (some (.ready event)) =>
    if p = place then some (some event) else none
  | received p (some (.error .closed)) | polled p (some .closed) =>
    if p = place then some none else none
  | _ => none

variable {β : Type}

def look (r : Registry) (act : Queue Event → β × Queue Event) (place : Nat) : Option β × Registry :=
  match r.queue? place with
  | none => (none, r)
  | some q => (some (act q).1, r.putQueue place (act q).2)

def use (r : Registry) : Use → Reply × Registry
  | .tryRecv place => let (answer, r) := r.look Queue.tryRecv place; (.received place answer, r)
  | .poll place => let (answer, r) := r.look Queue.poll place; (.polled place answer, r)
  | .dispatch n => let (count, r) := r.dispatch n; (.dispatched count, r)
  | .remove t id => let (removed, r) := r.remove t id; (.removed removed, r)
  | .closeAll => let (report, r) := r.closeAll; (.reported report, r)

def used (r : Registry) (uses : List Use) : Registry := Run.after (fun r u => (r.use u).2) r uses

def replies (r : Registry) (uses : List Use) : List Reply :=
  Run.told (fun r u => (r.use u).2) (fun r u => [(r.use u).1]) r uses

structure Empties (r : Registry) (told : List (Topic × Nat)) (next : Registry) : Prop where
  ordered : (told.map (·.1)).Sublist Topic.all
  once : (told.map (·.1)).Nodup
  reported : ∀ t n, (t, n) ∈ told ↔
    r.lists.get t ≠ [] ∧ n = (r.hearing t).countP fun q => !q.closed
  lists : ∀ t, next.lists.get t = []
  closed : ∀ t, ∀ p ∈ places (r.lists.get t), ∃ q, r.queue? p = some q ∧
    next.queue? p = some { q with closed := true }
  elsewhere : ∀ p, (∀ t, p ∉ places (r.lists.get t)) → next.queue? p = r.queue? p
  read : ∀ t, ∀ p ∈ places (r.lists.get t), ∀ q, r.queue? p = some q → ∀ uses,
    (next.replies uses).filterMap (Reply.told? p) = Queue.readOut q.buffer (uses.countP (Use.looksAt p))
  again : ∀ uses, (next.used uses).closeAll = ([], next.used uses)
  absent : ∀ uses t id, (next.used uses).remove t id = (.absent, next.used uses)

variable {r : Registry} {p : Nat} {q : Queue Event} {act : Queue Event → β × Queue Event}

theorem lookLists (place : Nat) : (r.look act place).2.lists = r.lists := by
  unfold look
  split <;> rfl

theorem lookHere (act : Queue Event → β × Queue Event) (there : r.queue? p = some q) :
    (r.look act p).1 = some (act q).1 ∧ (r.look act p).2.queue? p = some (act q).2 := by
  unfold look
  rw [there]
  exact ⟨rfl, (queueSet p (placeThere there)).trans (if_pos rfl)⟩

theorem lookElsewhere {place : Nat} (other : place ≠ p) :
    (r.look act place).2.queue? p = r.queue? p := by
  unfold look
  cases found : r.queue? place with
  | none => rfl
  | some q => exact (queueSet p (placeThere found)).trans (if_neg other.symm)

def Bare (r : Registry) : Prop := ∀ t, r.lists.get t = []

theorem bareDispatch (bare : r.Bare) (n : Notification) : r.dispatch n = (⟨0, 0⟩, r) := by
  simp [dispatch, deliver, pushEach, onEach, bare n.topic, DispatchCount.ofPushes]

theorem bareRemove (bare : r.Bare) (t : Topic) (id : QueueId) : r.remove t id = (.absent, r) :=
  r.removeAbsent (by simp [bare t, entry?])

theorem bareCloseAll (bare : r.Bare) : r.closeAll = ([], r) := by
  have none (ts : List Topic) : r.closeTopics ts = ([], r) := by
    induction ts with
    | nil => rfl
    | cons t rest ih => simp [closeTopics, isEmpty, bare t, ih]
  simp [closeAll, none]

theorem useCases (bare : r.Bare) (u : Use) :
    (∃ place, u = .tryRecv place ∧ r.use u =
      (.received place (r.look Queue.tryRecv place).1, (r.look Queue.tryRecv place).2)) ∨
    (∃ place, u = .poll place ∧ r.use u =
      (.polled place (r.look Queue.poll place).1, (r.look Queue.poll place).2)) ∨
    ((∀ place, u.looksAt place = false ∧ (r.use u).1.told? place = none) ∧ (r.use u).2 = r) := by
  cases u with
  | tryRecv place => exact .inl ⟨place, rfl, rfl⟩
  | poll place => exact .inr (.inl ⟨place, rfl, rfl⟩)
  | dispatch n => exact .inr (.inr ⟨fun _ => ⟨rfl, rfl⟩, congrArg (·.2) (bareDispatch bare n)⟩)
  | remove t id => exact .inr (.inr ⟨fun _ => ⟨rfl, rfl⟩, congrArg (·.2) (bareRemove bare t id)⟩)
  | closeAll => exact .inr (.inr ⟨fun _ => ⟨rfl, rfl⟩, congrArg (·.2) (bareCloseAll bare)⟩)

theorem useBare (bare : r.Bare) (u : Use) : (r.use u).2.Bare := by
  intro t
  rcases useCases bare u with ⟨place, -, done⟩ | ⟨place, -, done⟩ | ⟨-, done⟩ <;> rw [done]
  · exact (congrArg (·.get t) (lookLists place)).trans (bare t)
  · exact (congrArg (·.get t) (lookLists place)).trans (bare t)
  · exact bare t

theorem usedBare (bare : r.Bare) (uses : List Use) : (r.used uses).Bare := by
  induction uses generalizing r with
  | nil => exact bare
  | cons u uses ih => exact ih (useBare bare u)

theorem Reply.toldElsewhere {place : Nat} (other : place ≠ p) :
    (∀ answer, (received place answer).told? p = none) ∧
    ∀ answer, (polled place answer).told? p = none := by
  constructor
  · rintro (_ | why | event)
    · rfl
    · cases why <;> simp [told?, other]
    · simp [told?, other]
  · rintro (_ | _ | _ | _) <;> simp [told?, other]

theorem useReads (bare : r.Bare) (there : r.queue? p = some q) (closed : q.closed = true) (u : Use) :
    (u.looksAt p = false ∧ (r.use u).1.told? p = none ∧ (r.use u).2.queue? p = some q) ∨
    (u.looksAt p = true ∧ q.buffer = [] ∧ (r.use u).1.told? p = some none ∧
      (r.use u).2.queue? p = some q) ∨
    (u.looksAt p = true ∧ ∃ event rest, q.buffer = event :: rest ∧
      (r.use u).1.told? p = some (some event) ∧
      (r.use u).2.queue? p = some { q with buffer := rest }) := by
  rcases useCases bare u with ⟨place, rfl, done⟩ | ⟨place, rfl, done⟩ | ⟨silent, done⟩
  · rw [done]
    by_cases own : place = p
    · subst own
      obtain ⟨answer, left⟩ := lookHere Queue.tryRecv there
      rcases q.tryRecvCases with ⟨event, rest, held, taken⟩ | ⟨empty, taken⟩ <;> rw [taken] at answer left
      · exact .inr (.inr ⟨beq_self_eq_true place, event, rest, held, by simp [answer, Reply.told?], left⟩)
      · exact .inr (.inl ⟨beq_self_eq_true place, empty, by simp [answer, closed, Reply.told?], left⟩)
    · exact .inl ⟨beq_eq_false_iff_ne.mpr own, (Reply.toldElsewhere own).1 _,
        (lookElsewhere own).trans there⟩
  · rw [done]
    by_cases own : place = p
    · subst own
      obtain ⟨answer, left⟩ := lookHere Queue.poll there
      rcases q.pollCases with ⟨event, rest, held, taken⟩ | ⟨empty, -, taken⟩ | ⟨-, opened, -⟩
      · rw [taken] at answer left
        exact .inr (.inr ⟨beq_self_eq_true place, event, rest, held, by simp [answer, Reply.told?], left⟩)
      · rw [taken] at answer left
        exact .inr (.inl ⟨beq_self_eq_true place, empty, by simp [answer, Reply.told?], left⟩)
      · cases closed.symm.trans opened
    · exact .inl ⟨beq_eq_false_iff_ne.mpr own, (Reply.toldElsewhere own).2 _,
        (lookElsewhere own).trans there⟩
  · exact .inl ⟨(silent p).1, (silent p).2, (congrArg (·.queue? p) done).trans there⟩

theorem readInOrder (bare : r.Bare) (there : r.queue? p = some q) (closed : q.closed = true)
    (uses : List Use) : (r.replies uses).filterMap (Reply.told? p) =
      Queue.readOut q.buffer (uses.countP (Use.looksAt p)) := by
  induction uses generalizing r q with
  | nil => simp [replies, Run.told, Queue.readOut]
  | cons u uses ih =>
    have first : r.replies (u :: uses) = (r.use u).1 :: (r.use u).2.replies uses := rfl
    rw [first, List.filterMap_cons, List.countP_cons]
    rcases useReads bare there closed u with
      ⟨apart, told, still⟩ | ⟨looks, empty, told, still⟩ | ⟨looks, event, rest, held, told, left⟩
    · simp [told, apart, ih (useBare bare u) still closed]
    · simp [told, looks, ih (useBare bare u) still closed, empty, Queue.readOut, List.replicate_succ]
    · simp [told, looks, ih (useBare bare u) left closed, held, Queue.readOut, Nat.add_sub_add_right]

theorem closeAllTells (wired : r.Wired) : r.closeAll.1 = (Topic.all.filter fun t => !r.isEmpty t).map
    fun t => (t, (r.hearing t).countP fun q => !q.closed) := by
  simp only [closeAll, closeTopicsAnswers wired Topic.allDistinct, List.map_map]
  exact List.map_congr_left fun t _ => congrArg (Prod.mk t) (wereOpenHeard r t)

theorem closeAllTopics (wired : r.Wired) :
    r.closeAll.1.map (·.1) = Topic.all.filter fun t => !r.isEmpty t := by
  rw [closeAllTells wired, List.map_map]
  exact List.map_id _

theorem closeAllReported (wired : r.Wired) (t : Topic) (n : Nat) : (t, n) ∈ r.closeAll.1 ↔
    r.lists.get t ≠ [] ∧ n = (r.hearing t).countP fun q => !q.closed := by
  simp only [closeAllTells wired, List.mem_map, List.mem_filter, Prod.mk.injEq]
  constructor
  · rintro ⟨u, ⟨-, heard⟩, rfl, rfl⟩
    exact ⟨by simpa [isEmpty] using heard, rfl⟩
  · rintro ⟨heard, rfl⟩
    exact ⟨t, ⟨t.allListed, by simpa [isEmpty] using heard⟩, rfl, rfl⟩

theorem closeAllCloses {t : Topic} (listed : p ∈ places (r.lists.get t)) (there : r.queue? p = some q) :
    r.closeAll.2.queue? p = some { q with closed := true } := by
  rw [closeAllListed listed, there]
  rfl

theorem empties (wired : r.Wired) : Empties r r.closeAll.1 r.closeAll.2 where
  ordered := closeAllTopics wired ▸ List.filter_sublist
  once := closeAllTopics wired ▸ Topic.allDistinct.filter _
  reported := closeAllReported wired
  lists := r.closeAllLists
  closed t p listed := by
    have there : r.queue? p = some _ := List.getElem?_eq_getElem (wired.there t p listed)
    exact ⟨_, there, closeAllCloses listed there⟩
  elsewhere _ unlisted := closeAllUnlisted unlisted
  read _ _ listed _ there uses :=
    readInOrder r.closeAllLists (closeAllCloses listed there) rfl uses
  again uses := bareCloseAll (usedBare r.closeAllLists uses)
  absent uses := bareRemove (usedBare r.closeAllLists uses)

end Registry

open Registry

theorem Backend.retiredTwice (b : Backend) : b.retire.2.retire = ([], b.retire.2) := by
  simp [retire, bareCloseAll b.registry.closeAllLists, Link.drop]

namespace Engine

/-- Closing all queues empties every list and tells the truth of it: the topics heard, each with the number of
its queues that were open. Whatever follows, a second time finds nothing; so the guard that runs behind an
orderly shutdown changes no list and no queue. After any run the numbers are those of the lists. -/
theorem emptiedWithTrueReport :
    (∀ r : Registry, r.Wired → Empties r r.closeAll.1 r.closeAll.2) ∧
    (∀ e : Engine, e.shutdown.1.backend.retire = ([], e.shutdown.1.backend)) ∧
    ∀ capacity filters acts, let e := (opening capacity filters).run acts
      Empties e.backend.registry e.backend.retire.1 e.backend.retire.2.registry ∧
      e.backend.retire.1 = (Topic.all.filter fun t => 0 < e.live t).map (fun t => (t, e.live t)) ∧
      (e.backend.exited = true →
        e.backend.retire.1 = [] ∧ e.backend.retire.2.registry = e.backend.registry) := by
  refine ⟨fun r wired => empties wired, fun e => Backend.retiredTwice _, ?_⟩
  intro capacity filters acts e
  have tracks : e.Tracked _ := tracksOpened capacity filters acts
  refine ⟨empties tracks.wired, ?_, fun exited => ?_⟩
  · refine (closeAllReports tracks).trans (congrArg (List.map _) (List.filter_congr fun t _ => ?_))
    rw [Bool.eq_iff_iff, decide_eq_true_iff, Nat.pos_iff_ne_zero]
    simp [live, ← isEmptyLive]
  · have bare : e.backend.registry.closeAll = ([], e.backend.registry) := bareCloseAll (tracks.gone exited)
    exact ⟨congrArg (·.1) bare, congrArg (·.2) bare⟩

theorem emptiedAMixedRegistry :
    let event : Event := .hash ⟨.zero, 1⟩
    let r : Registry := ⟨⟨[⟨4, 0⟩, ⟨6, 2⟩], [⟨5, 3⟩], [], [], [⟨9, 4⟩]⟩,
      [⟨2, [event], false⟩, ⟨2, [event], true⟩, ⟨1, [event], true⟩, ⟨1, [], true⟩, ⟨1, [], false⟩]⟩
    let uses : List Use := [.poll 2, .tryRecv 0, .closeAll, .poll 0, .remove .hashTx 4, .tryRecv 0]
    let ended := (opening 1 .fresh).run [.subscribe .hashTx, .pass .emptying]
    r.Wired ∧ Empties r [(.hashTx, 1), (.hashBlock, 0), (.sequence, 1)] r.closeAll.2 ∧
      0 ∈ places (r.lists.get .hashTx) ∧
      (r.closeAll.2.replies uses).filterMap (Reply.told? 0) = [some event, none, none] ∧
      ended.backend.exited = true ∧ ended.backend.retire.1 = [] := by
  intro event r uses ended
  have wired : r.Wired := {
    there := fun t => by cases t <;> decide
    once := fun t => by cases t <;> decide
    apart := fun {t u} => by cases t <;> cases u <;> decide }
  have emptied := emptiedWithTrueReport.1 r wired
  have listed : 0 ∈ places (r.lists.get .hashTx) := by decide
  have exited : ended.backend.exited = true := by decide
  exact ⟨wired, emptied, listed, emptied.read .hashTx 0 listed _ rfl uses, exited,
    ((emptiedWithTrueReport.2.2 1 .fresh _).2.2 exited).1⟩

end Engine
end NodeFeed
