import Mathlib.Data.List.TakeWhile
import NodeFeed.Proofs.Listing

/-!
What a subscription's queue accepts: the events of its own topic that were decoded from the frames read
while it was listed, each once and in their order. An act that takes the subscription off its list is
known by its shape alone, so the span is read off the acts and no state is needed to say what is due.
-/

namespace NodeFeed

open Registry

/-- The act takes the subscription off its list, unless it is off already. -/
def Act.removes (s : Subscription) (a : Act) : Bool :=
  a.retires || a.strikes? == some (s.topic, s.id)

def Act.heard? (t : Topic) : Act → Option Event
  | .frame f =>
    match f.decode with
    | .ok n => if n.topic = t then some n.event else none
    | .error _ => none
  | _ => none

def heard (t : Topic) (acts : List Act) : List Event := acts.filterMap (Act.heard? t)

structure Pushed where
  place : Nat
  outcome : Push
  event : Event
  deriving DecidableEq, Repr

def Pushed.acceptedAt? (place : Nat) (p : Pushed) : Option Event :=
  if p.place = place ∧ p.outcome ≠ .closed then some p.event else none

def acceptedAt (place : Nat) (pushes : List Pushed) : List Event :=
  pushes.filterMap (Pushed.acceptedAt? place)

namespace Engine

def pushes (e : Engine) : Act → List Pushed
  | .frame f =>
    match f.decode with
    | .ok n => (e.backend.registry.deliver n).1.map fun (place, outcome) => ⟨place, outcome, n.event⟩
    | .error _ => []
  | _ => []

def pushed (e : Engine) (acts : List Act) : List Pushed := e.history pushes acts

variable {e : Engine} {m : List Subscription} {s : Subscription}

theorem pushAccepted {q : Queue Event} (opened : q.closed = false) (event : Event) :
    (q.push event).1 ≠ .closed := by
  rcases q.pushCases event with ⟨shut, _⟩ | ⟨_, _, done⟩ | ⟨_, _, done⟩
  · cases opened.symm.trans shut
  · simp [done]
  · simp [done]

theorem acceptedEach {entries : List Entry} {queues : List (Queue Event)} {p : Nat} (event : Event)
    (once : (places entries).Nodup)
    (opened : p ∈ places entries → shut? queues p = some false) :
    acceptedAt p ((pushEach event entries queues).1.map fun (place, outcome) =>
      ⟨place, outcome, event⟩) = if p ∈ places entries then [event] else [] := by
  have told : (pushEach event entries queues).1 = entries.filterMap fun entry =>
      queues[entry.place]?.map fun q => (entry.place, (q.push event).1) := onEachAnswers once
  rw [told]
  clear told
  induction entries with
  | nil => rfl
  | cons entry rest ih =>
    obtain ⟨(fresh : entry.place ∉ places rest), later⟩ := List.nodup_cons.mp once
    have tail := ih later fun listed => opened (List.mem_cons_of_mem _ listed)
    by_cases same : p = entry.place
    · subst same
      obtain ⟨q, there, state⟩ := Option.map_eq_some_iff.mp (opened List.mem_cons_self)
      have taken := pushAccepted state event
      rw [if_neg fresh] at tail
      simp only [acceptedAt] at tail ⊢
      simp [there, Pushed.acceptedAt?, taken, tail, places]
    · have elsewhere : p ∈ places (entry :: rest) ↔ p ∈ places rest := by simp [places, same]
      simp only [elsewhere, acceptedAt] at tail ⊢
      cases there : queues[entry.place]? <;>
        simp [there, Pushed.acceptedAt?, Ne.symm same, tail]

theorem acceptedAct (h : e.Tracked m) (mine : s ∈ m) (a : Act) :
    acceptedAt s.place (e.pushes a) =
      if s.entry ∈ e.backend.registry.lists.get s.topic then (a.heard? s.topic).toList else [] := by
  cases a with
  | frame f =>
    simp only [pushes, Act.heard?]
    cases f.decode with
    | error why => simp [acceptedAt]
    | ok n =>
      have opened : s.place ∈ places (e.backend.registry.lists.get n.topic) →
          shut? e.backend.registry.queues s.place = some false := by
        intro there
        exact (h.shut s mine).trans (by simp [((h.listedAt mine).mp there).2])
      refine (acceptedEach n.event (h.wired.once n.topic) opened).trans ?_
      simp only [h.listedAt mine]
      by_cases topic : n.topic = s.topic <;> simp [topic]
  | _ => simp [pushes, acceptedAt, Act.heard?]

theorem listedAct (h : e.Tracked m) (mine : s ∈ m) (a : Act) :
    s.entry ∈ (e.act a).backend.registry.lists.get s.topic ↔
      s.entry ∈ e.backend.registry.lists.get s.topic ∧ a.removes s = false := by
  have change := e.changes a
  generalize e.tell a = told at change
  unfold Act.removes
  cases change with
  | kept lists _ _ _ _ idle stays =>
    rw [lists, stays]
    refine ⟨fun listed => ⟨listed, ?_⟩, And.left⟩
    by_contra struck
    have asked : a.strikes? = some (s.topic, s.id) := by simpa using struck
    rcases idle asked with ended | absent
    · simp [h.gone ended] at listed
    · have other : s.entry.id ≠ s.id := by simpa using List.find?_eq_none.mp absent _ listed
      exact other rfl
  | listed t asked live registry =>
    subst asked
    have other : s.entry ≠ ⟨e.backend.nextId, e.backend.registry.queues.length⟩ := fun same =>
      Nat.ne_of_lt (h.inside mine) (congrArg Entry.place same)
    rw [registry, insertLists]
    by_cases same : s.topic = t <;> simp [same, other, Act.retires, Act.strikes?]
  | struck t id entry asked live found registry =>
    rw [registry, h.afterRemoval found, asked, Act.strikesStays asked]
    by_cases same : s.topic = t
    · subst same
      by_cases me : s.id = id
      · simp [me, Subscription.entry]
      · simp [me, Ne.symm me, Subscription.entry]
    · simp [same, Ne.symm same]
  | retired asked registry =>
    rw [registry]
    simp [asked]

theorem acceptedAppend (place : Nat) (first rest : List Pushed) :
    acceptedAt place (first ++ rest) = acceptedAt place first ++ acceptedAt place rest :=
  List.filterMap_append

theorem heardAppend (t : Topic) (first rest : List Act) :
    heard t (first ++ rest) = heard t first ++ heard t rest :=
  List.filterMap_append

theorem heardRemoving {a : Act} {t : Topic} (removes : a.removes s = true) : a.heard? t = none := by
  cases a <;> first | rfl | cases removes

theorem listedRun (h : e.Tracked m) (mine : s ∈ m) (acts : List Act) :
    s.entry ∈ (e.run acts).backend.registry.lists.get s.topic ↔
      s.entry ∈ e.backend.registry.lists.get s.topic ∧ ∀ a ∈ acts, a.removes s = false := by
  induction acts using List.reverseRecOn with
  | nil => simp [run, Run.after]
  | append_singleton acts a ih =>
    rw [runSnoc, listedAct (tracksRun h acts) (List.mem_append_left _ mine), ih]
    simp [or_imp, forall_and, and_assoc]

theorem acceptedWhileListed (h : e.Tracked m) (mine : s ∈ m)
    (listed : s.entry ∈ e.backend.registry.lists.get s.topic) (acts : List Act) :
    (s.entry ∈ (e.run acts).backend.registry.lists.get s.topic ↔
      ∀ a ∈ acts, a.removes s = false) ∧
    acceptedAt s.place (e.pushed acts) = heard s.topic (acts.takeWhile fun a => !a.removes s) := by
  refine ⟨(listedRun h mine acts).trans (and_iff_right listed), ?_⟩
  induction acts using List.reverseRecOn with
  | nil => rfl
  | append_singleton acts a accepted =>
    have still := (listedRun h mine acts).trans (and_iff_right listed)
    have now := acceptedAct (tracksRun h acts) (List.mem_append_left _ mine) a
    rw [pushed] at accepted
    rw [pushed, historySnoc, acceptedAppend, accepted, now, List.takeWhile_append]
    -- whether this act still falls into the span is settled by the acts before it
    by_cases all : ∀ a ∈ acts, a.removes s = false
    · have whole : (acts.takeWhile fun a => !a.removes s) = acts :=
        List.takeWhile_eq_self_iff.mpr fun a listed => by simp [all a listed]
      rw [whole, if_pos rfl, if_pos (still.mpr all), heardAppend]
      refine congrArg _ ?_
      cases gone : a.removes s with
      | true => simp [heard, gone, heardRemoving gone]
      | false => cases due : a.heard? s.topic <;> simp [heard, gone, due]
    · have part : (acts.takeWhile fun a => !a.removes s).length ≠ acts.length := fun same =>
        all fun a listed => by
          have whole := (List.takeWhile_prefix fun a : Act => !a.removes s).eq_of_length same
          simpa using List.takeWhile_eq_self_iff.mp whole a listed
      rw [if_neg part, if_neg (mt still.mp all), List.append_nil]

theorem pushesInside (e : Engine) (a : Act) :
    ∀ told ∈ e.pushes a, told.place < e.backend.registry.queues.length := by
  cases a with
  | frame f =>
    simp only [pushes]
    cases f.decode with
    | error why => exact fun _ none => nomatch none
    | ok n =>
      intro told listed
      obtain ⟨answer, given, rfl⟩ := List.mem_map.mp listed
      exact onEachInside _ answer given
  | _ => exact fun _ none => nomatch none

theorem pushedInside (e : Engine) (acts : List Act) :
    ∀ told ∈ e.pushed acts, told.place < (e.run acts).backend.registry.queues.length := by
  induction acts using List.reverseRecOn with
  | nil => exact fun _ none => nomatch none
  | append_singleton acts a ih =>
    intro told listed
    rw [pushed, historySnoc] at listed
    have now : told.place < (e.run acts).backend.registry.queues.length := by
      rcases List.mem_append.mp listed with old | new
      · exact ih told old
      · exact pushesInside _ a told new
    rw [runSnoc]
    exact Nat.lt_of_lt_of_le now ((e.run acts).changes a).grows

theorem acceptedBefore (e : Engine) (acts : List Act) {place : Nat}
    (later : (e.run acts).backend.registry.queues.length ≤ place) :
    acceptedAt place (e.pushed acts) = [] := by
  refine List.filterMap_eq_nil_iff.mpr fun told listed => if_neg fun here => ?_
  have inside := pushedInside e acts told listed
  omega

structure MadeAt (start : Engine) (acts before after : List Act) (s : Subscription) : Prop where
  split : acts = before ++ .subscribe s.topic :: after
  answer : ((start.run before).backend.subscribe s.topic).answer = .added s

theorem madeBy {a : Act} (new : s ∈ (e.tell a).made) :
    a = .subscribe s.topic ∧ (e.backend.subscribe s.topic).answer = .added s := by
  have change := e.changes a
  generalize same : e.tell a = told at change new
  cases change with
  | kept => cases new
  | listed t asked =>
    cases List.mem_singleton.mp new
    subst asked
    refine ⟨rfl, ?_⟩
    have made : (e.backend.subscribe t).answer.made =
        [⟨t, e.backend.nextId, e.backend.registry.queues.length⟩] := congrArg Told.made same
    cases answer : (e.backend.subscribe t).answer <;> rw [answer] at made <;> cases made
    rfl
  | struck => cases new
  | retired => cases new

theorem madeSomewhere {start : Engine} {acts : List Act} (mine : s ∈ start.made acts) :
    ∃ before after, MadeAt start acts before after s := by
  induction acts using List.reverseRecOn with
  | nil => cases mine
  | append_singleton acts a ih =>
    rw [made, historySnoc] at mine
    rcases List.mem_append.mp mine with old | new
    · obtain ⟨before, after, split, answer⟩ := ih old
      exact ⟨before, after ++ [a], by simp [split], answer⟩
    · obtain ⟨asked, answer⟩ := madeBy new
      exact ⟨acts, [], by rw [asked], answer⟩

theorem subscribeListed {t : Topic} (added : (e.backend.subscribe t).answer = .added s) :
    s = ⟨t, e.backend.nextId, e.backend.registry.queues.length⟩ ∧
      s.entry ∈ (e.act (.subscribe t)).backend.registry.lists.get t := by
  have told : e.tell (.subscribe t) = { made := [s] } := by simp [tell, added, Subscribed.made]
  have change := e.changes (.subscribe t)
  rw [told] at change
  cases change with
  | listed u asked _ registry =>
    cases asked
    exact ⟨rfl, by rw [registry, insertLists]; simp [Subscription.entry]⟩

theorem acceptedSpan (capacity : Nat) (filters : Filters) (before after : List Act)
    (answer : (((opening capacity filters).run before).backend.subscribe s.topic).answer = .added s) :
    (s.entry ∈ ((opening capacity filters).run (before ++ .subscribe s.topic :: after)).backend.registry.lists.get
      s.topic ↔ ∀ a ∈ after, a.removes s = false) ∧
    acceptedAt s.place ((opening capacity filters).pushed (before ++ .subscribe s.topic :: after)) =
      heard s.topic (after.takeWhile fun a => !a.removes s) := by
  obtain ⟨fresh, listed⟩ := subscribeListed answer
  have tracks := tracksAct (tracksOpened capacity filters before) (.subscribe s.topic)
  have told : (((opening capacity filters).run before).tell (.subscribe s.topic)).made = [s] := by
    simp [tell, answer, Subscribed.made]
  have mine : s ∈ (opening capacity filters).made before ++
      (((opening capacity filters).run before).tell (.subscribe s.topic)).made := by
    simp [told]
  obtain ⟨still, accepted⟩ := acceptedWhileListed tracks mine listed after
  have early : acceptedAt s.place ((opening capacity filters).pushed before) = [] :=
    acceptedBefore _ before (Nat.le_of_eq (congrArg Subscription.place fresh).symm)
  constructor
  · rw [runAppend]
    exact still
  · rw [pushed, historyAppend, acceptedAppend, ← pushed, early]
    exact accepted

end Engine
end NodeFeed
