import Mathlib.Data.List.Nodup
import NodeFeed.Proofs.Acts
import NodeFeed.Proofs.RegistryView

/-!
Which queues are listed, which are open, and who closed them. The subscriptions that a run has made
are read off its answers, and `Tracks` ties them to the registry: a queue is open as long as its entry
is listed, and shutdown leaves nothing listed. Every closing and every removal is then counted once.
-/

namespace NodeFeed

open Registry

def Subscription.entry (s : Subscription) : Entry := ⟨s.id, s.place⟩

def Registry.ids (r : Registry) (t : Topic) : List QueueId := (r.lists.get t).map (·.id)

def counted (t : Topic) : List (Topic × Nat) → Nat
  | [] => 0
  | (u, queues) :: rest => (if u = t then queues else 0) + counted t rest

structure Tracks (r : Registry) (next : QueueId) (exited : Bool) (made : List Subscription) :
    Prop where
  placed : made.map (·.place) = List.range r.queues.length
  ordered : made.Pairwise fun s u => s.id < u.id
  below : ∀ s ∈ made, s.id < next
  listed : ∀ t, (r.lists.get t).Sublist ((made.filter (·.topic = t)).map (·.entry))
  shut : ∀ s ∈ made, shut? r.queues s.place = some (decide (s.entry ∉ r.lists.get s.topic))
  gone : exited = true → ∀ t, r.lists.get t = []

namespace Tracks

variable {r : Registry} {next : QueueId} {exited : Bool} {made : List Subscription} {t : Topic}

theorem start : Tracks .empty 0 false [] where
  placed := rfl
  ordered := .nil
  below := by simp
  listed t := by simp [Registry.empty]
  shut := by simp
  gone := by simp

theorem inside (h : Tracks r next exited made) {s : Subscription} (mine : s ∈ made) :
    s.place < r.queues.length := by
  have ranged : s.place ∈ List.range r.queues.length :=
    h.placed ▸ List.mem_map_of_mem mine
  exact List.mem_range.mp ranged

theorem samePlace (h : Tracks r next exited made) {s u : Subscription} (mine : s ∈ made)
    (yours : u ∈ made) (same : s.place = u.place) : s = u := by
  have once : (made.map (·.place)).Nodup := h.placed ▸ List.nodup_range
  exact List.inj_on_of_nodup_map once mine yours same

theorem sameId (h : Tracks r next exited made) {s u : Subscription} (mine : s ∈ made)
    (yours : u ∈ made) (same : s.id = u.id) : s = u := by
  have once : (made.map (·.id)).Nodup :=
    List.pairwise_map.mpr (h.ordered.imp fun less => Nat.ne_of_lt less)
  exact List.inj_on_of_nodup_map once mine yours same

theorem owner (h : Tracks r next exited made) {entry : Entry} (listed : entry ∈ r.lists.get t) :
    ∃ s ∈ made, s.topic = t ∧ s.entry = entry := by
  obtain ⟨s, kept, same⟩ := List.mem_map.mp ((h.listed t).subset listed)
  obtain ⟨mine, topic⟩ := List.mem_filter.mp kept
  exact ⟨s, mine, of_decide_eq_true topic, same⟩

theorem opened (h : Tracks r next exited made) {entry : Entry} (listed : entry ∈ r.lists.get t) :
    shut? r.queues entry.place = some false := by
  obtain ⟨s, mine, topic, same⟩ := h.owner listed
  subst topic same
  exact (h.shut s mine).trans (by simp [listed])

theorem increasing (h : Tracks r next exited made) (t : Topic) :
    (r.lists.get t).Pairwise fun a b => a.id < b.id := by
  have kept : (made.filter (·.topic = t)).Pairwise fun s u => s.id < u.id := h.ordered.filter _
  have rising : ((made.filter (·.topic = t)).map (·.entry)).Pairwise fun a b => a.id < b.id :=
    List.pairwise_map.mpr kept
  exact rising.sublist (h.listed t)

theorem listedAt (h : Tracks r next exited made) {s : Subscription} (mine : s ∈ made) :
    s.place ∈ places (r.lists.get t) ↔ t = s.topic ∧ s.entry ∈ r.lists.get s.topic := by
  constructor
  · intro there
    obtain ⟨entry, listed, place⟩ := List.mem_map.mp there
    obtain ⟨u, yours, topic, same⟩ := h.owner listed
    subst same
    cases h.samePlace yours mine place
    exact ⟨topic.symm, topic ▸ listed⟩
  · rintro ⟨rfl, listed⟩
    exact List.mem_map_of_mem listed

theorem listedAs (h : Tracks r next exited made) {s : Subscription} (mine : s ∈ made) :
    s.id ∈ r.ids t ↔ t = s.topic ∧ s.entry ∈ r.lists.get s.topic := by
  constructor
  · intro there
    obtain ⟨entry, listed, id⟩ := List.mem_map.mp there
    obtain ⟨u, yours, topic, same⟩ := h.owner listed
    subst same
    cases h.sameId yours mine id
    exact ⟨topic.symm, topic ▸ listed⟩
  · rintro ⟨rfl, listed⟩
    exact List.mem_map_of_mem listed

theorem wired (h : Tracks r next exited made) : r.Wired where
  there t p listed := by
    obtain ⟨entry, held, rfl⟩ := List.mem_map.mp listed
    obtain ⟨s, mine, -, rfl⟩ := h.owner held
    exact h.inside mine
  once t := by
    have once : (made.map (·.place)).Nodup := h.placed ▸ List.nodup_range
    have kept : ((made.filter (·.topic = t)).map (·.place)).Nodup :=
      once.sublist (List.filter_sublist.map _)
    have sub := (h.listed t).map (·.place)
    rw [List.map_map] at sub
    exact kept.sublist sub
  apart other p listed also := by
    obtain ⟨entry, held, rfl⟩ := List.mem_map.mp listed
    obtain ⟨s, mine, rfl, rfl⟩ := h.owner held
    exact other ((h.listedAt mine).mp also).1.symm

theorem sameLists (h : Tracks r next exited made) {q : Registry} {later : QueueId}
    (lists : q.lists = r.lists) (length : q.queues.length = r.queues.length)
    (states : ∀ p, shut? q.queues p = shut? r.queues p) (order : next ≤ later) :
    Tracks q later exited made where
  placed := length ▸ h.placed
  ordered := h.ordered
  below s mine := Nat.lt_of_lt_of_le (h.below s mine) order
  listed t := lists ▸ h.listed t
  shut s mine := by rw [states, lists]; exact h.shut s mine
  gone ended := lists ▸ h.gone ended

theorem insert (h : Tracks r next false made) (t : Topic) (capacity : Nat) :
    Tracks (r.insert t next (Queue.make capacity)) (next + 1) false
      (made ++ [⟨t, next, r.queues.length⟩]) where
  placed := by simp [Registry.insert, h.placed, List.range_succ]
  ordered := by
    refine List.pairwise_append.mpr ⟨h.ordered, List.pairwise_singleton _ _, ?_⟩
    intro s mine u new
    cases List.mem_singleton.mp new
    exact h.below s mine
  below s mine := by
    rcases List.mem_append.mp mine with old | new
    · exact Nat.lt_succ_of_lt (h.below s old)
    · cases List.mem_singleton.mp new
      exact Nat.lt_succ_self next
  listed u := by
    rw [insertLists, List.filter_append, List.map_append]
    by_cases same : u = t
    · subst same
      simpa [Subscription.entry] using h.listed u
    · simpa [same, Ne.symm same] using h.listed u
  shut s mine := by
    rw [insertShut, insertLists]
    rcases List.mem_append.mp mine with old | new
    · have place : s.place ≠ r.queues.length := Nat.ne_of_lt (h.inside old)
      have other : s.entry ≠ ⟨next, r.queues.length⟩ := fun same =>
        place (congrArg Entry.place same)
      rw [if_neg place, h.shut s old]
      by_cases same : s.topic = t <;> simp [same, other]
    · cases List.mem_singleton.mp new
      simp [Subscription.entry, Queue.make]
  gone := by simp

theorem erased {entries : List Entry} (ordered : entries.Pairwise fun a b => a.id < b.id)
    (id : QueueId) :
    entries.eraseP (fun e => e.id == id) = entries.filter fun e => e.id != id := by
  induction entries with
  | nil => rfl
  | cons entry rest ih =>
    obtain ⟨first, later⟩ := List.pairwise_cons.mp ordered
    by_cases same : entry.id = id
    · subst same
      have others : rest.filter (fun e => e.id != entry.id) = rest :=
        List.filter_eq_self.mpr fun e listed => by simpa using Nat.ne_of_gt (first e listed)
      simp [others]
    · simp [same, ih later]

theorem afterRemoval (h : Tracks r next exited made) {id : QueueId} {entry : Entry}
    (found : r.entry? t id = some entry) (u : Topic) :
    (r.remove t id).2.lists.get u =
      if u = t then (r.lists.get t).filter (fun e => e.id != id) else r.lists.get u := by
  rw [r.removeFound found, ← erased (h.increasing t) id]
  exact Topic.Table.getSet _ _ _ _

theorem remove (h : Tracks r next exited made) {id : QueueId} {entry : Entry}
    (found : r.entry? t id = some entry) : Tracks (r.remove t id).2 next exited made := by
  obtain ⟨held, sameId⟩ := r.entryListed found
  obtain ⟨v, theirs, rfl, rfl⟩ := h.owner held
  have lists := h.afterRemoval found
  have queues : (r.remove v.topic id).2.queues = (closeEach [v.entry] r.queues).2 := by
    rw [r.removeFound found]
  refine ⟨?_, h.ordered, h.below, fun u => ?_, fun s mine => ?_, fun ended u => ?_⟩
  · rw [h.placed, queues]
    exact congrArg List.range (onEachLength _).symm
  · rw [lists]
    split
    case isTrue same =>
      subst same
      exact List.filter_sublist.trans (h.listed _)
    case isFalse => exact h.listed u
  · have before := h.shut s mine
    rw [queues, lists]
    simp only [shut?, closeEachQueue, Option.map_map] at before ⊢
    obtain ⟨q, there, state⟩ := Option.map_eq_some_iff.mp before
    rw [there]
    by_cases me : s = v
    · subst me
      simp [places, Subscription.entry, ← sameId]
    · have otherPlace : s.place ≠ v.entry.place := fun same => me (h.samePlace mine theirs same)
      have otherId : s.entry.id ≠ id := fun same =>
        me (h.sameId mine theirs (same.trans sameId.symm))
      by_cases same : s.topic = v.topic <;>
        simp [places, otherPlace, otherId, state, same]
  · rw [lists, h.gone ended u]
    split
    · rw [h.gone ended]
      rfl
    · rfl

theorem closeAll (h : Tracks r next exited made) : Tracks r.closeAll.2 next true made := by
  refine ⟨?_, h.ordered, h.below, fun u => ?_, fun s mine => ?_, fun _ => r.closeAllLists⟩
  · rw [h.placed]
    exact congrArg List.range (r.closeTopicsLength Topic.all).symm
  · rw [closeAllLists]
    exact List.nil_sublist _
  · have before := h.shut s mine
    rw [closeAllLists]
    by_cases listed : s.entry ∈ r.lists.get s.topic
    · obtain ⟨q, there, -⟩ := Option.map_eq_some_iff.mp before
      have closed := closeAllListed ((h.listedAt mine).mpr ⟨rfl, listed⟩)
      refine (congrArg (Option.map (·.closed)) closed).trans ?_
      simp [queue?, there]
    · have same : shut? r.closeAll.2.queues s.place = shut? r.queues s.place :=
        congrArg (Option.map Queue.closed)
          (closeAllUnlisted fun t held => listed ((h.listedAt mine).mp held).2)
      rw [same, before]
      simp [listed]

end Tracks

namespace Engine

def Tracked (e : Engine) (made : List Subscription) : Prop :=
  Tracks e.backend.registry e.backend.nextId e.backend.exited made

def isShut (e : Engine) (place : Nat) : Bool :=
  shut? e.backend.registry.queues place == some true

def live (e : Engine) (t : Topic) : Nat := e.backend.registry.live t

variable {e : Engine} {m : List Subscription}

theorem tracksAct (h : e.Tracked m) (a : Act) : (e.act a).Tracked (m ++ (e.tell a).made) := by
  unfold Tracked
  have change := e.changes a
  generalize e.tell a = told at change ⊢
  cases change with
  | kept lists length states order exited =>
    rw [exited]
    exact (List.append_nil m).symm ▸ h.sameLists lists length states order
  | listed t _ live registry used exited =>
    rw [registry, used, exited]
    exact (live ▸ h : Tracks _ _ false m).insert t e.backend.capacity
  | struck t id entry _ live found registry unused exited =>
    rw [registry, unused, exited, ← live]
    exact (List.append_nil m).symm ▸ h.remove found
  | retired _ registry unused exited =>
    rw [registry, unused, exited]
    exact (List.append_nil m).symm ▸ h.closeAll

theorem closedAct (e : Engine) (a : Act) (p : Nat) :
    (e.tell a).closed.count (p, true) + (e.isShut p).toNat = ((e.act a).isShut p).toNat := by
  unfold isShut
  have change := e.changes a
  generalize e.tell a = told at change ⊢
  cases change with
  | kept _ _ states =>
    rw [states]
    exact Nat.zero_add _
  | listed t _ _ registry =>
    rw [registry, insertShut]
    split
    case isTrue last => simp [last, shut?, Queue.make]
    case isFalse => exact Nat.zero_add _
  | struck t id entry _ _ found registry =>
    rw [registry, removeFound _ found]
    exact closeEachTells [entry] p
  | retired _ registry =>
    rw [registry]
    exact closeTopicsTells _ Topic.all p

theorem countedAppend (t : Topic) (first rest : List (Topic × Nat)) :
    counted t (first ++ rest) = counted t first + counted t rest := by
  induction first with
  | nil => exact (Nat.zero_add _).symm
  | cons report first ih =>
    simp only [List.cons_append, counted, ih]
    exact (Nat.add_assoc _ _ _).symm

theorem countedOnce {ts : List Topic} (distinct : ts.Nodup) (queues : Topic → Nat) (t : Topic) :
    counted t (ts.map fun u => (u, queues u)) = if t ∈ ts then queues t else 0 := by
  induction ts with
  | nil => rfl
  | cons u rest ih =>
    obtain ⟨fresh, later⟩ := List.nodup_cons.mp distinct
    rw [List.map_cons, counted, ih later]
    by_cases same : u = t
    · subst same
      simp [fresh]
    · simp [same, Ne.symm same]

theorem wereOpenAll {queues : List (Queue Event)} {entries : List Entry}
    (opened : ∀ entry ∈ entries, shut? queues entry.place = some false) :
    (wereOpen queues entries).countP (·.2) = entries.length := by
  induction entries with
  | nil => rfl
  | cons entry rest ih =>
    obtain ⟨first, later⟩ := List.forall_mem_cons.mp opened
    obtain ⟨q, there, state⟩ := Option.map_eq_some_iff.mp first
    have tail := ih later
    unfold wereOpen at tail ⊢
    simp [there, state, tail]

theorem closeAllReports {r : Registry} {next : QueueId} {exited : Bool} (h : Tracks r next exited m) :
    r.closeAll.1 = (Topic.all.filter fun t => !r.isEmpty t).map fun t => (t, r.live t) := by
  simp only [closeAll, closeTopicsAnswers h.wired Topic.allDistinct, List.map_map]
  exact List.map_congr_left fun t _ => congrArg (Prod.mk t) (wereOpenAll fun _ => h.opened)

theorem closeAllCounts {r : Registry} {next : QueueId} {exited : Bool}
    (h : Tracks r next exited m) (t : Topic) : counted t r.closeAll.1 = r.live t := by
  rw [closeAllReports h, countedOnce (Topic.allDistinct.filter _)]
  cases empty : r.isEmpty t with
  | false => simp [t.allListed, empty]
  | true =>
    have none : r.live t = 0 := List.isEmpty_iff_length_eq_zero.mp empty
    simp [empty, none]

theorem balancedAct (h : e.Tracked m) (a : Act) (t : Topic) :
    (e.tell a).made.countP (·.topic = t) + e.live t =
      (e.tell a).removed.count t + counted t (e.tell a).reported + (e.act a).live t := by
  unfold live
  have change := e.changes a
  generalize e.tell a = told at change ⊢
  cases change with
  | kept lists => simp [Registry.live, lists, counted]
  | listed u _ _ registry =>
    rw [registry, insertLive]
    by_cases same : u = t <;> simp [counted, same, Nat.add_comm]
  | struck u id entry _ _ found registry =>
    have fewer := removeLive _ found t
    rw [registry]
    by_cases same : u = t
    · subst same
      simp only [if_true] at fewer
      simp only [counted, List.countP_nil, List.count_singleton_self]
      omega
    · simpa [same, counted] using fewer.symm
  | retired _ registry =>
    have emptied : e.backend.registry.closeAll.2.live t = 0 := by
      simp [Registry.live]
    rw [registry, emptied]
    simpa [Backend.tellRetire, Backend.retire] using (closeAllCounts h t).symm

theorem tracksRun (h : e.Tracked m) (acts : List Act) :
    (e.run acts).Tracked (m ++ e.made acts) := by
  induction acts using List.reverseRecOn with
  | nil => exact (List.append_nil m).symm ▸ h
  | append_singleton acts a ih =>
    rw [runSnoc, made, historySnoc, ← List.append_assoc]
    exact tracksAct ih a

theorem tracksOpened (capacity : Nat) (filters : Filters) (acts : List Act) :
    ((opening capacity filters).run acts).Tracked ((opening capacity filters).made acts) := by
  have start : (opening capacity filters).Tracked [] := .start
  exact tracksRun start acts

theorem closedRun (e : Engine) (acts : List Act) (p : Nat) :
    (e.closed acts).count (p, true) + (e.isShut p).toNat = ((e.run acts).isShut p).toNat := by
  induction acts using List.reverseRecOn with
  | nil => exact Nat.zero_add _
  | append_singleton acts a ih =>
    have last := closedAct (e.run acts) a p
    rw [closed] at ih
    rw [runSnoc, closed, historySnoc, List.count_append]
    omega

theorem shutStays {p : Nat} (shut : e.isShut p = true) (more : List Act) :
    (e.run more).isShut p = true := by
  have count := closedRun e more p
  rw [shut] at count
  have few := ((e.run more).isShut p).toNat_le
  cases done : (e.run more).isShut p with
  | true => rfl
  | false => simp [done] at count

theorem balancedRun (capacity : Nat) (filters : Filters) (acts : List Act) (t : Topic) :
    ((opening capacity filters).made acts).countP (·.topic = t) =
      ((opening capacity filters).removed acts).count t +
        counted t ((opening capacity filters).reported acts) +
        ((opening capacity filters).run acts).live t := by
  induction acts using List.reverseRecOn with
  | nil => simp [made, removed, reported, history, Run.told, counted, live, run, Run.after, opening,
      Backend.fresh, Registry.live, Registry.empty]
  | append_singleton acts a ih =>
    have last := balancedAct (tracksOpened capacity filters acts) a t
    simp only [made, removed, reported] at ih ⊢
    simp only [runSnoc, historySnoc, List.countP_append, List.count_append, countedAppend] at ih last ⊢
    omega

theorem exitedRun (capacity : Nat) (filters : Filters) (acts : List Act) :
    ((opening capacity filters).run acts).backend.exited = acts.any Act.retires := by
  induction acts using List.reverseRecOn with
  | nil => rfl
  | append_singleton acts a ih => simp [runSnoc, ((opening capacity filters).run acts).changes a |>.exitedAfter, ih]

structure Accounted (start : Engine) (acts : List Act) : Prop where
  increasing : ∀ t, ((start.run acts).backend.registry.ids t).Pairwise (· < ·)
  below : ∀ t, ∀ id ∈ (start.run acts).backend.registry.ids t,
    id < (start.run acts).backend.nextId
  apart : ∀ t u id, id ∈ (start.run acts).backend.registry.ids t →
    id ∈ (start.run acts).backend.registry.ids u → t = u
  own : ((start.made acts).map (·.place)).Nodup
  opened : ∀ s ∈ start.made acts, ∃ q, (start.run acts).backend.registry.queue? s.place = some q ∧
    (q.closed = false ↔ s.id ∈ (start.run acts).backend.registry.ids s.topic)
  closedOnce : ∀ place, (start.closed acts).count (place, true) ≤ 1
  closedOff : ∀ s ∈ start.made acts, s.id ∉ (start.run acts).backend.registry.ids s.topic →
    (start.closed acts).count (s.place, true) = 1
  balanced : ∀ t, (start.made acts).countP (·.topic = t) =
    (start.removed acts).count t + counted t (start.reported acts) +
      (start.run acts).backend.registry.live t
  exited : (start.run acts).backend.exited = true ↔ ∃ a ∈ acts, a.retires = true
  leftNone : (start.run acts).backend.exited = true →
    ∀ s ∈ start.made acts, (start.closed acts).count (s.place, true) = 1

theorem registeredOpenClosedOnce (capacity : Nat) (filters : Filters) (acts : List Act) :
    Accounted (opening capacity filters) acts := by
  have tracks : ((opening capacity filters).run acts).Tracked _ := tracksOpened capacity filters acts
  have closings (p : Nat) : ((opening capacity filters).closed acts).count (p, true) =
      (((opening capacity filters).run acts).isShut p).toNat :=
    closedRun (opening capacity filters) acts p
  have closedOff {s : Subscription} (mine : s ∈ (opening capacity filters).made acts)
      (off : s.entry ∉ ((opening capacity filters).run acts).backend.registry.lists.get s.topic) :
      ((opening capacity filters).closed acts).count (s.place, true) = 1 := by
    rw [closings, isShut, tracks.shut s mine]
    simp [off]
  exact {
    increasing := fun t => List.pairwise_map.mpr (tracks.increasing t)
    below := fun t id listed => by
      obtain ⟨entry, held, rfl⟩ := List.mem_map.mp listed
      obtain ⟨s, mine, -, rfl⟩ := tracks.owner held
      exact tracks.below s mine
    apart := fun t u id listed also => by
      obtain ⟨entry, held, rfl⟩ := List.mem_map.mp listed
      obtain ⟨s, mine, rfl, rfl⟩ := tracks.owner held
      exact ((tracks.listedAs mine).mp also).1.symm
    own := tracks.placed ▸ List.nodup_range
    opened := fun s mine => by
      obtain ⟨q, there, state⟩ := Option.map_eq_some_iff.mp (tracks.shut s mine)
      refine ⟨q, there, ?_⟩
      rw [state, tracks.listedAs mine]
      simp
    closedOnce := fun place => by
      rw [closings]
      exact Bool.toNat_le _
    closedOff := fun s mine off =>
      closedOff mine fun held => off ((tracks.listedAs mine).mpr ⟨rfl, held⟩)
    balanced := balancedRun capacity filters acts
    exited := by rw [exitedRun, List.any_eq_true]
    leftNone := fun ended s mine => closedOff mine (by simp [tracks.gone ended]) }

-- A queue handed out between the request to stop and its reading is closed with the rest.
example : (opening 1 .fresh).closed [.subscribe .hashTx, .requestTerm, .subscribe .hashTx, .control,
    .control, .pass .leaving, .pass .emptying, .pass .guarding] = [(0, true), (1, true)] := by
  decide

end Engine
end NodeFeed
