import NodeFeed.Proofs.Listing

/-!
A notification given to every queue that its topic lists. Each takes it as it would take it alone, whatever
the other queues are like, and the counts say how many had room and how many lost their oldest event to it. In
the states of a run all listed queues are open, so there the two counts together are the length of the list.
-/

namespace NodeFeed

namespace Registry

def hearing (r : Registry) (t : Topic) : List (Queue Event) :=
  (r.lists.get t).filterMap fun entry => r.queues[entry.place]?

theorem wereOpenHeard (r : Registry) (t : Topic) :
    (wereOpen r.queues (r.lists.get t)).countP (·.2) = (r.hearing t).countP fun q => !q.closed := by
  simp [wereOpen, hearing, List.countP_filterMap, Option.map_map]
  rfl

structure FansOut (r : Registry) (n : Notification) (count : DispatchCount) (next : Registry) : Prop where
  lists : next.lists = r.lists
  elsewhere : ∀ p, p ∉ places (r.lists.get n.topic) → next.queue? p = r.queue? p
  opened : ∀ p ∈ places (r.lists.get n.topic), ∀ q, r.queue? p = some q → q.closed = false →
    next.queue? p = some (q.push n.event).2
  closed : ∀ p ∈ places (r.lists.get n.topic), ∀ q, r.queue? p = some q → q.closed = true →
    next.queue? p = some q
  delivered : count.delivered =
    (r.hearing n.topic).countP fun q => !q.closed && decide (q.buffer.length < q.capacity)
  displaced : count.displaced =
    (r.hearing n.topic).countP fun q => !q.closed && decide (q.capacity ≤ q.buffer.length)
  together : count.delivered + count.displaced = (r.hearing n.topic).countP fun q => !q.closed

variable {r : Registry} {n : Notification}

theorem outcomesHeard (once : (places (r.lists.get n.topic)).Nodup) :
    (r.deliver n).1.map (·.2) = (r.hearing n.topic).map fun q => (q.push n.event).1 := by
  have told : (r.deliver n).1 = (r.lists.get n.topic).filterMap fun entry =>
      r.queues[entry.place]?.map fun q => (entry.place, (q.push n.event).1) := onEachAnswers once
  rw [told, hearing, List.map_filterMap, List.map_filterMap]
  refine List.filterMap_congr fun entry _ => ?_
  rw [Option.map_map]
  rfl

theorem countHeard (once : (places (r.lists.get n.topic)).Nodup) {outcome : Push}
    {p : Queue Event → Bool} (answers : ∀ q, (q.push n.event).1 = outcome ↔ p q = true) :
    ((r.deliver n).1.map (·.2)).count outcome = (r.hearing n.topic).countP p := by
  rw [outcomesHeard once, List.count, List.countP_map]
  refine List.countP_congr fun q _ => ?_
  rw [← answers q]
  exact beq_iff_eq

theorem deliveredIff (q : Queue Event) (e : Event) : (q.push e).1 = .delivered ↔
    (!q.closed && decide (q.buffer.length < q.capacity)) = true := by
  rcases q.pushCases e with ⟨closed, done⟩ | ⟨opened, full, done⟩ | ⟨opened, room, done⟩ <;> rw [done]
  · simp [closed]
  · simp [opened, full]
  · simp [opened, room]

theorem displacedIff (q : Queue Event) (e : Event) : (q.push e).1 = .displacedOldest ↔
    (!q.closed && decide (q.capacity ≤ q.buffer.length)) = true := by
  rcases q.pushCases e with ⟨closed, done⟩ | ⟨opened, full, done⟩ | ⟨opened, room, done⟩ <;> rw [done]
  · simp [closed]
  · simp [opened, full]
  · simp [opened, room]

theorem openSplit (queues : List (Queue Event)) :
    (queues.countP fun q => !q.closed && decide (q.buffer.length < q.capacity)) +
      (queues.countP fun q => !q.closed && decide (q.capacity ≤ q.buffer.length)) =
    queues.countP fun q => !q.closed := by
  have full (q : Queue Event) :
      (!decide (q.buffer.length < q.capacity)) = decide (q.capacity ≤ q.buffer.length) := by
    rw [← decide_not, decide_eq_decide, Nat.not_lt]
  have parted := List.countP_eq_countP_filter_add queues (fun q => !q.closed) fun q =>
    decide (q.buffer.length < q.capacity)
  rw [List.countP_filter, List.countP_filter] at parted
  simpa [full] using parted.symm

theorem fansOut (once : (places (r.lists.get n.topic)).Nodup) :
    FansOut r n (r.dispatch n).1 (r.dispatch n).2 := by
  have here {p : Nat} (listed : p ∈ places (r.lists.get n.topic)) :
      (r.dispatch n).2.queue? p = (r.queue? p).map fun q => (q.push n.event).2 := by
    refine (onEachThere once p).trans ?_
    simp only [listed, if_true]
    rfl
  have delivered : (r.dispatch n).1.delivered = _ := countHeard once fun q => deliveredIff q n.event
  have displaced : (r.dispatch n).1.displaced = _ := countHeard once fun q => displacedIff q n.event
  constructor
  · rfl
  · exact fun p elsewhere => onEachElsewhere elsewhere
  · intro p listed q there _
    rw [here listed, there]
    rfl
  · intro p listed q there closed
    rw [here listed, there]
    rcases q.pushCases n.event with ⟨_, done⟩ | ⟨opened, _⟩ | ⟨opened, _⟩
    · simp [done]
    · simp [closed] at opened
    · simp [closed] at opened
  · exact delivered
  · exact displaced
  · rw [delivered, displaced]
    exact openSplit _

end Registry

open Registry

namespace Engine

theorem hearingAll {e : Engine} {m : List Subscription} (h : e.Tracked m) (t : Topic) :
    ((e.backend.registry.hearing t).countP fun q => !q.closed) = e.live t :=
  (wereOpenHeard e.backend.registry t).symm.trans (wereOpenAll fun _ => h.opened)

/-- Dispatching is a push into every queue of the topic and into no other; the counts are the numbers of the
open queues with room and without. After any run these are all the queues that the topic lists. -/
theorem dispatchedAsPushes (n : Notification) :
    (∀ r : Registry, (places (r.lists.get n.topic)).Nodup →
      FansOut r n (r.dispatch n).1 (r.dispatch n).2) ∧
    ∀ capacity filters acts, let r := ((opening capacity filters).run acts).backend.registry
      FansOut r n (r.dispatch n).1 (r.dispatch n).2 ∧
        (r.dispatch n).1.delivered + (r.dispatch n).1.displaced = r.live n.topic := by
  refine ⟨fun r once => fansOut once, fun capacity filters acts => ?_⟩
  intro r
  have tracks := tracksOpened capacity filters acts
  have out : FansOut r n (r.dispatch n).1 (r.dispatch n).2 := fansOut (tracks.wired.once n.topic)
  exact ⟨out, out.together.trans (hearingAll tracks n.topic)⟩

theorem dispatchedToAMixedList :
    let e : Event := .hash ⟨.zero, 1⟩
    let r : Registry := ⟨⟨[⟨4, 0⟩, ⟨6, 2⟩, ⟨7, 1⟩], [⟨5, 3⟩], [], [], []⟩,
      [⟨2, [e], false⟩, ⟨1, [], true⟩, ⟨1, [e], false⟩, ⟨1, [], false⟩]⟩
    (places (r.lists.get .hashTx)).Nodup ∧
      FansOut r (.hashTx ⟨.zero, 2⟩) ⟨1, 1⟩ (r.dispatch (.hashTx ⟨.zero, 2⟩)).2 := by
  intro e r
  have once : (places (r.lists.get .hashTx)).Nodup := by decide
  exact ⟨once, (dispatchedAsPushes (.hashTx ⟨.zero, 2⟩)).1 r once⟩

end Engine
end NodeFeed
