import NodeFeed.Proofs.Delivery

/-!
What is in a subscription's queue after an act. An act of anybody can do two things to it, apart from
taking events out: push an event of its topic while it is listed, or close it; and which of these an act
does is known by the shape of the act alone.
-/

namespace NodeFeed

open Registry

namespace Act

variable {s : Subscription} {a : Act}

def onQueue (s : Subscription) (a : Act) (q : Queue Event) : Queue Event :=
  if a.removes s then { q with closed := true }
  else match a.heard? s.topic with
    | some event => (q.push event).2
    | none => q

theorem onQueueStill (removes : a.removes s = false) (silent : a.heard? s.topic = none) :
    a.onQueue s = id := by
  funext q
  simp [onQueue, removes, silent]

theorem onQueueRemoved (removes : a.removes s = true) :
    a.onQueue s = fun q => { q with closed := true } := by
  funext q
  simp [onQueue, removes]

theorem onQueueHeard (stays : a.removes s = false) {n : Notification}
    (heard : ∀ t, a.heard? t = if n.topic = t then some n.event else none) :
    a.onQueue s = fun q => if n.topic = s.topic then (q.push n.event).2 else q := by
  funext q
  simp only [onQueue, stays, heard]
  by_cases topic : n.topic = s.topic <;> simp [topic]

theorem onQueueStruck {t : Topic} {id : QueueId} (strikes : a.strikes? = some (t, id))
    (silent : a.heard? s.topic = none) :
    a.onQueue s =
      fun q => { q with closed := q.closed || decide ((t, id) = (s.topic, s.id)) } := by
  funext q
  by_cases own : (t, id) = (s.topic, s.id) <;>
    simp [onQueue, removes, strikes, own, silent, strikesStays strikes]

end Act

namespace Engine

variable {e : Engine} {m : List Subscription} {s : Subscription}

def queue? (e : Engine) (place : Nat) : Option (Queue Event) := e.backend.registry.queue? place

theorem Tracked.queue (h : e.Tracked m) (mine : s ∈ m) :
    ∃ q, e.queue? s.place = some q ∧
      (q.closed = true ↔ s.entry ∉ e.backend.registry.lists.get s.topic) := by
  obtain ⟨q, there, state⟩ := Option.map_eq_some_iff.mp (h.shut s mine)
  exact ⟨q, there, by simp [state]⟩

theorem placeOwned {q : Queue Event} {place : Nat} (h : e.Tracked m) (there : e.queue? place = some q) :
    ∃ s ∈ m, s.place = place := by
  have inside : place ∈ List.range e.backend.registry.queues.length :=
    List.mem_range.mpr (placeThere there)
  rw [← h.placed] at inside
  exact List.mem_map.mp inside

theorem insertQueue {r : Registry} {t : Topic} {id : QueueId} {q : Queue Event} {p : Nat}
    (inside : p < r.queues.length) : (r.insert t id q).queue? p = r.queue? p :=
  List.getElem?_append_left inside

theorem subscribeQueue (h : e.Tracked m) (mine : s ∈ m) (t : Topic) :
    (e.act (.subscribe t)).queue? s.place = e.queue? s.place := by
  have enlisted {c : Backend} (same : c.registry = e.backend.registry) :
      (c.enlist t).state.registry.queue? s.place = e.queue? s.place := by
    rcases c.enlistCases t with ⟨-, done⟩ | ⟨-, done⟩ <;> rw [done]
    · have inside : s.place < c.registry.queues.length := same ▸ h.inside mine
      exact (insertQueue inside).trans (by rw [same]; rfl)
    · exact congrArg (Registry.queue? · s.place) same
  unfold queue? act
  rcases e.backend.subscribeCases t with
    ⟨-, done⟩ | ⟨-, -, why, -, done⟩ | ⟨-, -, link, -, done⟩ | ⟨-, -, done⟩ <;> simp only [done]
  · exact enlisted rfl
  · exact enlisted rfl

theorem cancelQueue (h : e.Tracked m) (mine : s ∈ m) (t : Topic) (id : QueueId) :
    (e.backend.cancel t id).state.registry.queue? s.place =
      (e.queue? s.place).map fun q =>
        { q with closed := q.closed || decide ((t, id) = (s.topic, s.id)) } := by
  obtain ⟨q, there, closed⟩ := h.queue mine
  have still (absent : (t, id) = (s.topic, s.id) →
      s.entry ∉ e.backend.registry.lists.get s.topic) :
      e.queue? s.place = (e.queue? s.place).map fun q =>
        { q with closed := q.closed || decide ((t, id) = (s.topic, s.id)) } := by
    rw [there]
    by_cases own : (t, id) = (s.topic, s.id)
    · simp [own, ← closed.mpr (absent own)]
    · simp [own]
  rcases e.backend.cancelCases t id with ⟨gone, done⟩ | ⟨-, absent, done⟩ | ⟨-, entry, found, rest⟩
  · rw [done]
    exact still fun _ => by simp [h.gone gone]
  · rw [done]
    refine still fun own listed => ?_
    cases own
    exact List.find?_eq_none.mp absent _ listed (by simp [Subscription.entry])
  · have removed : (e.backend.registry.remove t id).2.queue? s.place =
        (e.queue? s.place).map fun q =>
          { q with closed := q.closed || decide ((t, id) = (s.topic, s.id)) } := by
      obtain ⟨held, sameId⟩ := entryListed _ found
      obtain ⟨u, theirs, topic, rfl⟩ := h.owner held
      have owns : s.place = u.place ↔ (t, id) = (s.topic, s.id) := by
        constructor
        · intro same
          cases h.samePlace mine theirs same
          simp [← topic, ← sameId, Subscription.entry]
        · intro same
          cases same
          exact congrArg _ (h.sameId mine theirs sameId.symm)
      rw [removeFound _ found]
      refine (closeEachQueue [u.entry] s.place).trans ?_
      simp [places, Subscription.entry, owns, queue?, Registry.queue?]
    rcases rest with ⟨-, done⟩ | ⟨-, link, -, done⟩ | ⟨-, why, -, done⟩ <;> rw [done] <;> exact removed

theorem pushClosed {q : Queue Event} (closed : q.closed = true) (event : Event) :
    (q.push event).2 = q := by
  simp [Queue.push, closed]

theorem deliverQueue (h : e.Tracked m) (mine : s ∈ m) (n : Notification) :
    (e.backend.registry.deliver n).2.queue? s.place =
      (e.queue? s.place).map fun q => if n.topic = s.topic then (q.push n.event).2 else q := by
  obtain ⟨q, there, closed⟩ := h.queue mine
  refine (onEachThere (h.wired.once n.topic) s.place).trans ?_
  have same : e.backend.registry.queues[s.place]? = some q := there
  rw [same, there]
  simp only [h.listedAt mine, Option.map_some]
  by_cases topic : n.topic = s.topic
  · by_cases listed : s.entry ∈ e.backend.registry.lists.get s.topic
    · simp [topic, listed]
    · simp [topic, listed, pushClosed (closed.mpr listed)]
  · simp [topic]

theorem retireQueue (h : e.Tracked m) (mine : s ∈ m) :
    e.backend.registry.closeAll.2.queue? s.place =
      (e.queue? s.place).map fun q => { q with closed := true } := by
  obtain ⟨q, there, closed⟩ := h.queue mine
  by_cases listed : s.entry ∈ e.backend.registry.lists.get s.topic
  · exact closeAllListed ((h.listedAt mine).mpr ⟨rfl, listed⟩)
  · have same := closeAllUnlisted fun t held => listed ((h.listedAt mine).mp held).2
    rw [same, there, Option.map_some, ← closed.mpr listed]
    exact there

theorem sameQueue {a : Act} {next : Engine} (same : next.backend.registry = e.backend.registry)
    (removes : a.removes s = false) (silent : a.heard? s.topic = none) :
    next.queue? s.place = (e.queue? s.place).map (a.onQueue s) := by
  simp [queue?, same, Act.onQueueStill removes silent]

theorem queueAct (h : e.Tracked m) (mine : s ∈ m) {a : Act} (apart : a ≠ .receive s.place) :
    (e.act a).queue? s.place = (e.queue? s.place).map (a.onQueue s) := by
  cases a with
  | subscribe t =>
    exact (subscribeQueue h mine t).trans (sameQueue (a := .subscribe t) rfl rfl rfl)
  | cancel t id =>
    rw [Act.onQueueStruck (a := .cancel t id) rfl rfl]
    exact cancelQueue h mine t id
  | release t id =>
    rw [Act.onQueueStruck (a := .release t id) rfl rfl, ← cancelQueue h mine t id]
    exact congrArg (fun b : Backend => b.registry.queue? s.place) (e.backend.releaseState t id)
  | requestTerm =>
    refine sameQueue ?_ rfl rfl
    simp only [act]
    rcases e.backend.askedCases with done | ⟨link, -, done⟩ <;> rw [done]
    rfl
  | receive place =>
    refine Eq.trans ?_ (sameQueue (a := .receive place) rfl rfl rfl)
    simp only [act, Backend.receive, queue?]
    cases found : e.backend.registry.queue? place with
    | none => rfl
    | some q =>
      have other : s.place ≠ place := fun same => apart (same ▸ rfl)
      exact (queueSet s.place (placeThere found)).trans (if_neg other)
  | start => exact sameQueue rfl rfl rfl
  | frame f =>
    rcases e.onFrameCases f with ⟨why, undecoded, done⟩ | ⟨n, decoded, done⟩
    · refine sameQueue ?_ rfl (by simp [Act.heard?, undecoded])
      simp only [act, done]
    · have heard (t : Topic) :
          Act.heard? t (.frame f) = if n.topic = t then some n.event else none := by
        simp [Act.heard?, decoded]
      simp only [act, done, Act.onQueueHeard rfl heard]
      exact deliverQueue h mine n
  | control =>
    refine sameQueue ?_ rfl rfl
    simp only [act]
    rcases e.onControlCases with
      ⟨-, done⟩ | ⟨f, rest, -, ⟨filters, -, done⟩ | ⟨-, done⟩ | ⟨why, -, done⟩⟩ <;> rw [done]
  | fail why => exact sameQueue rfl rfl rfl
  | panic => exact sameQueue rfl rfl rfl
  | pass stage =>
    cases stage with
    | emptying =>
      rw [Act.onQueueRemoved rfl]
      exact retireQueue h mine
    | guarding =>
      rw [Act.onQueueRemoved rfl]
      exact retireQueue h mine
    | polling => exact sameQueue rfl rfl rfl
    | leaving => exact sameQueue rfl rfl rfl
    | marking => exact sameQueue rfl rfl rfl
    | signalling => exact sameQueue rfl rfl rfl
    | gone => exact sameQueue rfl rfl rfl
  | fault cause => exact sameQueue rfl rfl rfl

end Engine

end NodeFeed
