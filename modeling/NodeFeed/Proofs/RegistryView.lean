import Mathlib.Data.List.Basic
import NodeFeed.Registry

/-!
The registry seen through two views: the entries that each topic lists, and the queue at a place. For
each operation it is said once what the operation does to the views and what its answers tell; what
holds of a whole run is derived from these statements alone.
-/

namespace NodeFeed.Registry

variable {β : Type} {act : Queue Event → β × Queue Event} {queues : List (Queue Event)}

def shut? (queues : List (Queue Event)) (place : Nat) : Option Bool :=
  queues[place]?.map (·.closed)

def places (entries : List Entry) : List Nat := entries.map (·.place)

theorem placeThere {place : Nat} {q : Queue Event} (found : queues[place]? = some q) :
    place < queues.length :=
  (List.getElem?_eq_some_iff.mp found).1

theorem shutOf {place : Nat} {q : Queue Event} (found : queues[place]? = some q) :
    shut? queues place = some q.closed := by
  simp [shut?, found]

theorem queueSet {place : Nat} {q : Queue Event} (p : Nat) (there : place < queues.length) :
    (queues.set place q)[p]? = if p = place then some q else queues[p]? := by
  rw [List.getElem?_set]
  by_cases same : place = p
  · subst same
    simp [there]
  · simp [same, Ne.symm same]

theorem shutSet {place : Nat} {q : Queue Event} (p : Nat) (there : place < queues.length) :
    shut? (queues.set place q) p = if p = place then some q.closed else shut? queues p := by
  unfold shut?
  rw [queueSet p there]
  split <;> rfl

theorem onEachLength (entries : List Entry) :
    (onEach act entries queues).2.length = queues.length := by
  induction entries generalizing queues with
  | nil => rfl
  | cons entry rest ih =>
    simp only [onEach]
    cases queues[entry.place]? with
    | none => exact ih
    | some q => exact ih.trans List.length_set

theorem onEachElsewhere {entries : List Entry} {p : Nat} (elsewhere : p ∉ places entries) :
    (onEach act entries queues).2[p]? = queues[p]? := by
  induction entries generalizing queues with
  | nil => rfl
  | cons entry rest ih =>
    obtain ⟨other, later⟩ := not_or.mp (mt List.mem_cons.mpr elsewhere)
    simp only [onEach]
    cases found : queues[entry.place]? with
    | none => exact ih later
    | some q => rw [ih later, queueSet p (placeThere found), if_neg other]

theorem onEachThere {entries : List Entry} (once : (places entries).Nodup) (p : Nat) :
    (onEach act entries queues).2[p]? =
      queues[p]?.map fun q => if p ∈ places entries then (act q).2 else q := by
  induction entries generalizing queues with
  | nil => simp [onEach, places]
  | cons entry rest ih =>
    obtain ⟨(fresh : entry.place ∉ places rest), later⟩ := List.nodup_cons.mp once
    have listed : p ∈ places (entry :: rest) ↔ p = entry.place ∨ p ∈ places rest := by simp [places]
    simp only [onEach, listed]
    by_cases same : p = entry.place
    · subst same
      cases found : queues[entry.place]? with
      | none => simp [ih later, found]
      | some q => simp [onEachElsewhere fresh, queueSet _ (placeThere found)]
    · cases found : queues[entry.place]? with
      | none => simp [ih later, same]
      | some q => simp [ih later, queueSet p (placeThere found), same]

theorem onEachInside (entries : List Entry) :
    ∀ told ∈ (onEach act entries queues).1, told.1 < queues.length := by
  induction entries generalizing queues with
  | nil => exact fun _ none => nomatch none
  | cons entry rest ih =>
    simp only [onEach]
    cases found : queues[entry.place]? with
    | none => exact ih
    | some q =>
      intro told listed
      rcases List.mem_cons.mp listed with rfl | later
      · exact placeThere found
      · exact Nat.lt_of_lt_of_eq (ih told later) List.length_set

theorem onEachAnswers {entries : List Entry} (once : (places entries).Nodup) :
    (onEach act entries queues).1 = entries.filterMap fun entry =>
      queues[entry.place]?.map fun q => (entry.place, (act q).1) := by
  induction entries generalizing queues with
  | nil => rfl
  | cons entry rest ih =>
    obtain ⟨fresh, later⟩ := List.nodup_cons.mp once
    simp only [onEach]
    cases found : queues[entry.place]? with
    | none => simp [ih later, found]
    | some q =>
      have untouched : ∀ other ∈ rest,
          (queues.set entry.place (act q).2)[other.place]? = queues[other.place]? := by
        intro other listed
        have apart : other.place ≠ entry.place := fun same =>
          fresh (List.mem_map.mpr ⟨other, listed, same⟩)
        rw [queueSet _ (placeThere found), if_neg apart]
      have same := List.filterMap_congr fun other listed =>
        congrArg (Option.map fun q => (other.place, (act q).1)) (untouched other listed)
      simp only [ih later, found, List.filterMap_cons, Option.map_some]
      exact congrArg _ same

theorem onEachShut (keeps : ∀ q, (act q).2.closed = q.closed) (entries : List Entry) (p : Nat) :
    shut? (onEach act entries queues).2 p = shut? queues p := by
  induction entries generalizing queues with
  | nil => rfl
  | cons entry rest ih =>
    simp only [onEach]
    cases found : queues[entry.place]? with
    | none => exact ih
    | some q =>
      rw [ih, shutSet p (placeThere found), keeps]
      by_cases same : p = entry.place
      · subst same
        rw [if_pos rfl, shutOf found]
      · rw [if_neg same]

theorem closeEachQueue (entries : List Entry) (p : Nat) :
    (closeEach entries queues).2[p]? = queues[p]?.map fun q =>
      { q with closed := q.closed || decide (p ∈ places entries) } := by
  unfold closeEach
  induction entries generalizing queues with
  | nil => simp [onEach, places]
  | cons entry rest ih =>
    simp only [onEach, places, List.map_cons, List.mem_cons]
    cases found : queues[entry.place]? with
    | none =>
      rw [ih]
      by_cases same : p = entry.place
      · subst same
        simp [found]
      · simp [same, places]
    | some q =>
      rw [ih, queueSet p (placeThere found)]
      by_cases same : p = entry.place
      · subst same
        simp [found, Queue.close]
      · simp [same, places]

theorem closeEachTells (entries : List Entry) (p : Nat) :
    (closeEach entries queues).1.count (p, true) + (shut? queues p == some true).toNat =
      (shut? (closeEach entries queues).2 p == some true).toNat := by
  unfold closeEach
  induction entries generalizing queues with
  | nil => exact Nat.zero_add _
  | cons entry rest ih =>
    simp only [onEach]
    cases found : queues[entry.place]? with
    | none => exact ih
    | some q =>
      have later := @ih (queues.set entry.place q.close.2)
      rw [shutSet p (placeThere found)] at later
      simp only [List.count_cons]
      by_cases same : p = entry.place
      · subst same
        have shutNow : q.close.2.closed = true := rfl
        rw [if_pos rfl, shutNow] at later
        rw [shutOf found]
        cases closed : q.closed with
        | true =>
          have silent : q.close.1 = false := by simp [Queue.close, closed]
          simpa [silent] using later
        | false =>
          have first : q.close.1 = true := by simp [Queue.close, closed]
          simpa [first] using later
      · have other : ((entry.place, q.close.1) == (p, true)) = false := by
          simp [Ne.symm same]
        simp only [same, if_false] at later
        simp only [other]
        exact later

theorem pushKeepsClosed (q : Queue Event) (e : Event) : (q.push e).2.closed = q.closed := by
  rcases q.pushCases e with ⟨_, done⟩ | ⟨_, _, done⟩ | ⟨_, _, done⟩ <;> rw [done]

theorem putQueueKeeps {r : Registry} {place : Nat} {q next : Queue Event}
    (found : r.queues[place]? = some q) (kept : next.closed = q.closed) (p : Nat) :
    shut? (r.putQueue place next).queues p = shut? r.queues p := by
  simp only [putQueue]
  rw [shutSet p (placeThere found), kept]
  split
  case isTrue same => exact same ▸ (shutOf found).symm
  case isFalse => rfl

theorem putQueueShut {r : Registry} {place : Nat} {q : Queue Event}
    (found : r.queues[place]? = some q) (p : Nat) :
    shut? (r.putQueue place q.tryRecv.2).queues p = shut? r.queues p := by
  have kept : q.tryRecv.2.closed = q.closed := by
    rcases q.tryRecvCases with ⟨a, rest, -, done⟩ | ⟨-, done⟩ <;> rw [done]
  exact putQueueKeeps found kept p

structure Wired (r : Registry) : Prop where
  there : ∀ t, ∀ p ∈ places (r.lists.get t), p < r.queues.length
  once : ∀ t, (places (r.lists.get t)).Nodup
  apart : ∀ {t u}, t ≠ u → ∀ p ∈ places (r.lists.get t), p ∉ places (r.lists.get u)

variable (r : Registry)

theorem deliverLists (n : Notification) : (r.deliver n).2.lists = r.lists := rfl

theorem deliverLength (n : Notification) : (r.deliver n).2.queues.length = r.queues.length :=
  onEachLength _

theorem deliverShut (n : Notification) (p : Nat) :
    shut? (r.deliver n).2.queues p = shut? r.queues p :=
  onEachShut (fun q => pushKeepsClosed q n.event) _ p

theorem insertLists (t u : Topic) (id : QueueId) (q : Queue Event) :
    (r.insert t id q).lists.get u =
      r.lists.get u ++ if u = t then [⟨id, r.queues.length⟩] else [] := by
  simp only [insert, Topic.Table.getSet]
  by_cases same : u = t
  · subst same
    simp
  · simp [same]

theorem insertShut (t : Topic) (id : QueueId) (q : Queue Event) (p : Nat) :
    shut? (r.insert t id q).queues p =
      if p = r.queues.length then some q.closed else shut? r.queues p := by
  simp only [insert, shut?]
  by_cases last : p = r.queues.length
  · subst last
    simp
  · rw [if_neg last]
    by_cases inside : p < r.queues.length
    · rw [List.getElem?_append_left inside]
    · have beyond : r.queues.length + 1 ≤ p := by omega
      rw [List.getElem?_eq_none (by simpa using beyond), List.getElem?_eq_none (by omega)]

theorem removeAbsent {t : Topic} {id : QueueId} (absent : r.entry? t id = none) :
    r.remove t id = (.absent, r) := by
  simp only [remove, absent]

theorem removeFound {t : Topic} {id : QueueId} {entry : Entry} (found : r.entry? t id = some entry) :
    r.remove t id =
      (.closed ((r.lists.get t).eraseP fun e => e.id == id).isEmpty,
        { lists := r.lists.set t ((r.lists.get t).eraseP fun e => e.id == id)
          queues := (closeEach [entry] r.queues).2 }) := by
  simp only [remove, found]

theorem entryListed {t : Topic} {id : QueueId} {entry : Entry} (found : r.entry? t id = some entry) :
    entry ∈ r.lists.get t ∧ entry.id = id :=
  ⟨List.mem_of_find?_eq_some found, by simpa using List.find?_some found⟩

theorem isEmptyLive (t : Topic) : r.isEmpty t = true ↔ r.live t = 0 :=
  List.isEmpty_iff_length_eq_zero

theorem insertLive (u : Topic) (id : QueueId) (q : Queue Event) (t : Topic) :
    (r.insert u id q).live t = r.live t + if u = t then 1 else 0 := by
  simp only [Registry.live, insertLists]
  by_cases same : t = u
  · simp [same]
  · simp [same, Ne.symm same]

theorem removeLive {u : Topic} {id : QueueId} {entry : Entry}
    (found : r.entry? u id = some entry) (t : Topic) :
    (r.remove u id).2.live t + (if u = t then 1 else 0) = r.live t := by
  obtain ⟨listed, sameId⟩ := entryListed r found
  have fewer := List.length_eraseP_of_mem (p := fun e => e.id == id) listed (by simp [sameId])
  have some := List.length_pos_of_mem listed
  rw [removeFound r found]
  by_cases same : t = u
  · subst same
    simp only [Registry.live, Topic.Table.setAt, fewer, if_true]
    omega
  · simp [Registry.live, Topic.Table.getSet, same, Ne.symm same]

theorem closeTopicWired {r : Registry} (wired : r.Wired) (t : Topic) : (r.closeTopic t).2.Wired := by
  have smaller : ∀ u, ∀ p ∈ places ((r.closeTopic t).2.lists.get u), p ∈ places (r.lists.get u) := by
    intro u p listed
    simp only [closeTopic, Topic.Table.getSet] at listed
    split at listed
    · cases listed
    · exact listed
  refine ⟨fun u p listed => ?_, fun u => ?_, fun other p listed => ?_⟩
  · have inside := wired.there u p (smaller u p listed)
    exact Nat.lt_of_lt_of_eq inside (onEachLength _).symm
  · simp only [closeTopic, Topic.Table.getSet]
    split
    · exact List.nodup_nil
    · exact wired.once u
  · exact fun also => wired.apart other p (smaller _ p listed) (smaller _ p also)

theorem closeTopicsLists (ts : List Topic) (u : Topic) :
    (r.closeTopics ts).2.lists.get u = if u ∈ ts then [] else r.lists.get u := by
  induction ts generalizing r with
  | nil => rfl
  | cons t rest ih =>
    simp only [closeTopics]
    split
    case isTrue empty =>
      rw [ih r]
      by_cases same : u = t
      · subst same
        have none : r.lists.get u = [] := by simpa [isEmpty] using empty
        simp [none]
      · simp [same]
    case isFalse =>
      simp only [ih, closeTopic, Topic.Table.getSet]
      by_cases same : u = t <;> simp [same]

theorem closeTopicsQueue (ts : List Topic) (p : Nat) :
    (r.closeTopics ts).2.queues[p]? = r.queues[p]?.map fun q =>
      { q with closed := q.closed || ts.any fun t => decide (p ∈ places (r.lists.get t)) } := by
  induction ts generalizing r with
  | nil => simp [closeTopics]
  | cons t rest ih =>
    simp only [closeTopics, List.any_cons]
    split
    case isTrue empty =>
      have none : r.lists.get t = [] := by simpa [isEmpty] using empty
      simp [ih r, none, places]
    case isFalse =>
      simp only [ih, closeTopic, closeEachQueue, Option.map_map, Topic.Table.getSet]
      congr 1
      funext q
      by_cases here : p ∈ places (r.lists.get t)
      · simp [here]
      · have same : ∀ u, decide (p ∈ places (if u = t then [] else r.lists.get u)) =
            decide (p ∈ places (r.lists.get u)) := by
          intro u
          by_cases same : u = t
          · subst same
            simp only [if_true, here, decide_false]
            rfl
          · simp [same]
        simp [here, same]

@[simp] theorem closeAllLists (t : Topic) : r.closeAll.2.lists.get t = [] :=
  (r.closeTopicsLists Topic.all t).trans (if_pos t.allListed)

theorem closeAllListed {r : Registry} {t : Topic} {p : Nat} (listed : p ∈ places (r.lists.get t)) :
    r.closeAll.2.queue? p = (r.queue? p).map fun q => { q with closed := true } := by
  have some : Topic.all.any (fun t => decide (p ∈ places (r.lists.get t))) = true :=
    List.any_eq_true.mpr ⟨t, t.allListed, decide_eq_true listed⟩
  refine (r.closeTopicsQueue Topic.all p).trans ?_
  simp only [some, Bool.or_true]
  rfl

theorem closeAllUnlisted {r : Registry} {p : Nat} (unlisted : ∀ t, p ∉ places (r.lists.get t)) :
    r.closeAll.2.queue? p = r.queue? p := by
  have none : Topic.all.any (fun t => decide (p ∈ places (r.lists.get t))) = false :=
    List.any_eq_false.mpr fun t _ => by simpa using unlisted t
  refine (r.closeTopicsQueue Topic.all p).trans ?_
  simp only [none, Bool.or_false]
  exact Option.map_id'

theorem closeTopicsLength (ts : List Topic) :
    (r.closeTopics ts).2.queues.length = r.queues.length := by
  induction ts generalizing r with
  | nil => rfl
  | cons t rest ih =>
    simp only [closeTopics]
    split
    · exact ih r
    · exact (ih _).trans (onEachLength _)

theorem closeTopicsTells (ts : List Topic) (p : Nat) :
    ((r.closeTopics ts).1.flatMap (·.2)).count (p, true) + (shut? r.queues p == some true).toNat =
      (shut? (r.closeTopics ts).2.queues p == some true).toNat := by
  induction ts generalizing r with
  | nil => exact Nat.zero_add _
  | cons t rest ih =>
    simp only [closeTopics]
    split
    · exact ih r
    · have now := @closeEachTells r.queues (r.lists.get t) p
      have later := ih (r.closeTopic t).2
      simp only [List.flatMap_cons, List.count_append]
      simp only [closeTopic] at later ⊢
      omega

def wereOpen (queues : List (Queue Event)) (entries : List Entry) : List (Nat × Bool) :=
  entries.filterMap fun entry => queues[entry.place]?.map fun q => (entry.place, !q.closed)

theorem closeTopicsAnswers {r : Registry} {ts : List Topic} (wired : r.Wired) (distinct : ts.Nodup) :
    (r.closeTopics ts).1 = (ts.filter fun t => !r.isEmpty t).map fun t =>
      (t, wereOpen r.queues (r.lists.get t)) := by
  induction ts generalizing r with
  | nil => rfl
  | cons t rest ih =>
    obtain ⟨fresh, later⟩ := List.nodup_cons.mp distinct
    simp only [closeTopics]
    cases empty : r.isEmpty t with
    | true => simp [ih wired later, empty]
    | false =>
      have elsewhere : ∀ u ∈ rest, (r.closeTopic t).2.lists.get u = r.lists.get u := by
        intro u listed
        exact Topic.Table.setElsewhere _ _ fun same => fresh (same ▸ listed)
      have untouched : ∀ u ∈ rest, wereOpen (r.closeTopic t).2.queues (r.lists.get u) =
          wereOpen r.queues (r.lists.get u) := by
        intro u listed
        have other : u ≠ t := fun same => fresh (same ▸ listed)
        refine List.filterMap_congr fun entry held => ?_
        have apart := wired.apart other entry.place (List.mem_map_of_mem held)
        exact congrArg _ (onEachElsewhere apart)
      have stays : rest.filter (fun u => !(r.closeTopic t).2.isEmpty u) =
          rest.filter fun u => !r.isEmpty u := by
        refine List.filter_congr fun u listed => ?_
        simp [isEmpty, elsewhere u listed]
      have told : (r.closeTopic t).1 = wereOpen r.queues (r.lists.get t) :=
        onEachAnswers (wired.once t)
      simp only [Bool.false_eq_true, if_false, ih (closeTopicWired wired t) later, stays]
      simp only [List.filter_cons, empty, Bool.not_false, if_true, List.map_cons, told]
      refine congrArg _ (List.map_congr_left fun u held => ?_)
      have listed : u ∈ rest := List.mem_of_mem_filter held
      rw [elsewhere u listed, untouched u listed]

end NodeFeed.Registry
