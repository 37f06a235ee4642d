import Mathlib.Data.List.Perm.Basic
import NodeFeed.Proofs.Answers
import NodeFeed.Proofs.Contents

/-!
Any number of cancels and drops of receivers while the link takes what is sent. What they leave behind
depends on the set of subscriptions they name: a call that finds its subscription gone does nothing, and
the call that takes the last queue of a topic off its list sends the command, whichever call that is. So
neither the order of the calls nor their repetition shows, apart from the order of those commands.
-/

namespace NodeFeed

open Registry

def unsubscribes (topics : List Topic) : List Frame :=
  topics.map fun t => (Command.unsubscribe t).encode

def struck (calls : List Act) : List (Topic × QueueId) := calls.filterMap Act.strikes?

namespace Engine

def cancelAnswer (e : Engine) : Act → List (Except SubscribeError Unit)
  | .cancel t id => [(e.backend.cancel t id).answer]
  | _ => []

def cancelAnswers (e : Engine) (calls : List Act) : List (Except SubscribeError Unit) :=
  e.history cancelAnswer calls

def withPending (e : Engine) (pending : List Frame) : Engine :=
  { e with backend := { e.backend with link := { e.backend.link with pending } } }

structure Strikes (m : List Subscription) (e : Engine) (ids : List (Topic × QueueId)) (next : Engine) :
    Prop where
  lists : ∀ t, next.backend.registry.lists.get t =
    (e.backend.registry.lists.get t).filter fun entry => (t, entry.id) ∉ ids
  queues : ∀ s ∈ m, next.queue? s.place = (e.queue? s.place).map fun q =>
    { q with closed := q.closed || decide ((s.topic, s.id) ∈ ids) }
  places : next.backend.registry.queues.length = e.backend.registry.queues.length
  sent : ∃ topics : List Topic, topics.Nodup ∧ (∀ t, t ∈ topics ↔ 0 < e.live t ∧ next.live t = 0) ∧
    next.backend.link.pending = e.backend.link.pending ++ unsubscribes topics
  rest : next = { e with backend := { e.backend with registry := next.backend.registry } }.withPending
    next.backend.link.pending

variable {e f g : Engine} {m : List Subscription} {s : Subscription} {ids more : List (Topic × QueueId)}

namespace Strikes

theorem fewer (h : Strikes m e ids f) (t : Topic) : f.live t ≤ e.live t := by
  unfold live Registry.live
  rw [h.lists t]
  exact List.length_filter_le _ _

theorem still (m : List Subscription) (e : Engine) : Strikes m e [] e where
  lists t := by simp
  queues s _ := by simp
  places := rfl
  sent := ⟨[], .nil, fun t => ⟨nofun, fun both => absurd both.2 (Nat.ne_of_gt both.1)⟩,
    (List.append_nil _).symm⟩
  rest := rfl

theorem trans (first : Strikes m e ids f) (last : Strikes m f more g) : Strikes m e (ids ++ more) g where
  lists t := by
    rw [last.lists, first.lists, List.filter_filter]
    exact List.filter_congr fun entry _ => by simp [Bool.and_comm]
  queues s mine := by
    rw [last.queues s mine, first.queues s mine, Option.map_map]
    congr 1
    funext q
    simp [Bool.or_assoc]
  places := last.places.trans first.places
  sent := by
    obtain ⟨early, once, emptied, sent⟩ := first.sent
    obtain ⟨late, onceLater, emptiedLater, sentLater⟩ := last.sent
    refine ⟨early ++ late, ?_, fun t => ?_, ?_⟩
    · refine List.nodup_append.mpr ⟨once, onceLater, fun t before u after same => ?_⟩
      subst same
      have none := ((emptied t).mp before).2
      have some := ((emptiedLater t).mp after).1
      omega
    · have fewer := first.fewer t
      have fewest := last.fewer t
      rw [List.mem_append, emptied, emptiedLater]
      omega
    · rw [sentLater, sent, List.append_assoc]
      exact congrArg _ List.map_append.symm
  rest := last.rest.trans (by rw [first.rest]; rfl)

end Strikes

structure Takes (b : Backend) : Prop where
  live : b.exited = false
  front : b.link.front = true
  sends : b.link.fault = none

theorem Takes.sending {b : Backend} (h : Takes b) : b.Sending where
  sends := h.sends
  front := by rw [h.front, h.live]; rfl

theorem Strikes.takes (h : Strikes m e ids f) (takes : Takes e.backend) : Takes f.backend := by
  rw [h.rest]
  exact ⟨takes.live, takes.front, takes.sends⟩

theorem strikeAct {a : Act} {t : Topic} {id : QueueId} (asked : a.strikes? = some (t, id)) :
    e.act a = { e with backend := (e.backend.cancel t id).state } := by
  cases a with
  | cancel u other =>
    cases asked
    rfl
  | release u other =>
    cases asked
    simp only [act, Backend.releaseState]
  | _ => cases asked

theorem absentUnlisted {r : Registry} {t : Topic} {id : QueueId} (absent : r.entry? t id = none)
    (u : Topic) : (r.lists.get u).filter (fun entry => (u, entry.id) ∉ [(t, id)]) = r.lists.get u := by
  refine List.filter_eq_self.mpr fun entry listed => ?_
  have other : u = t → entry.id ≠ id := fun same => by
    subst same
    simpa using List.find?_eq_none.mp absent entry listed
  simpa [imp_iff_not_or] using other

theorem removedUnlisted (h : e.Tracked m) {t : Topic} {id : QueueId} {entry : Entry}
    (found : e.backend.registry.entry? t id = some entry) (u : Topic) :
    (e.backend.registry.remove t id).2.lists.get u =
      (e.backend.registry.lists.get u).filter fun entry => (u, entry.id) ∉ [(t, id)] := by
  rw [h.afterRemoval found]
  split
  case isTrue same =>
    subst same
    exact List.filter_congr fun entry _ => by simp [bne, beq_eq_decide]
  case isFalse other => exact (List.filter_eq_self.mpr fun entry _ => by simp [other]).symm

theorem strikeStrikes (h : e.Tracked m) (takes : Takes e.backend) {a : Act} {t : Topic} {id : QueueId}
    (asked : a.strikes? = some (t, id)) : Strikes m e [(t, id)] (e.act a) := by
  have queues : ∀ s ∈ m, (e.act a).queue? s.place = (e.queue? s.place).map fun q =>
      { q with closed := q.closed || decide ((s.topic, s.id) ∈ [(t, id)]) } := by
    intro s mine
    rw [strikeAct asked]
    refine (cancelQueue h mine t id).trans ?_
    simp [eq_comm]
  rw [strikeAct asked] at queues ⊢
  rcases e.backend.cancelCases t id with ⟨gone, -⟩ | ⟨-, absent, done⟩ | ⟨-, entry, found, rest⟩
  · cases takes.live.symm.trans gone
  · rw [done] at queues ⊢
    exact {
      lists := fun u => (absentUnlisted absent u).symm
      queues := queues
      places := rfl
      sent := ⟨[], .nil, fun u => ⟨nofun, fun both => absurd both.2 (Nat.ne_of_gt both.1)⟩,
        (List.append_nil _).symm⟩
      rest := rfl }
  · have lists := removedUnlisted h found
    have places : (e.backend.registry.remove t id).2.queues.length =
        e.backend.registry.queues.length := by
      rw [removeFound _ found]
      exact onEachLength _
    have fewer := removeLive _ found
    rcases rest with ⟨some, done⟩ | ⟨none, link, sent, done⟩ | ⟨-, why, failed, -⟩
    · rw [done] at queues ⊢
      have last : (e.backend.registry.remove t id).2.live t ≠ 0 := fun zero => by
        rw [(isEmptyLive _ t).mpr zero] at some
        cases some
      refine ⟨lists, queues, places, ⟨[], .nil, fun u => ⟨nofun, fun both => ?_⟩,
        (List.append_nil _).symm⟩, rfl⟩
      simp only [live] at both
      by_cases same : t = u
      · exact absurd (same ▸ both.2) last
      · have untouched := fewer u
        rw [if_neg same] at untouched
        omega
    · rw [done] at queues ⊢
      have last : (e.backend.registry.remove t id).2.live t = 0 := (isEmptyLive _ t).mp none
      cases sent.symm.trans (Link.sendOpen takes.front takes.sends (.unsubscribe t))
      refine ⟨lists, queues, places, ⟨[t], List.nodup_singleton t, fun u => ?_, rfl⟩, rfl⟩
      have count := fewer u
      simp only [live, List.mem_singleton]
      by_cases same : u = t
      · subst same
        rw [if_pos rfl] at count
        exact ⟨fun _ => ⟨by omega, last⟩, fun _ => rfl⟩
      · rw [if_neg (Ne.symm same)] at count
        exact ⟨fun here => absurd here same, fun both => by omega⟩
    · exact absurd failed (takes.sending.send takes.live)

theorem strikeTracked (h : e.Tracked m) {a : Act} {t : Topic} {id : QueueId}
    (asked : a.strikes? = some (t, id)) : (e.act a).Tracked m := by
  have tracks := tracksAct h a
  have told : e.tell a = e.backend.tellCancel t id := by
    cases a <;> cases asked <;> rfl
  have none : (e.backend.tellCancel t id).made = [] := by
    unfold Backend.tellCancel
    split
    · rfl
    · split <;> rfl
  rw [told, none, List.append_nil] at tracks
  exact tracks

theorem strikesRun (h : e.Tracked m) (takes : Takes e.backend) {calls : List Act}
    (asked : ∀ a ∈ calls, a.strikes?.isSome) :
    (e.run calls).Tracked m ∧ Strikes m e (struck calls) (e.run calls) ∧
      ∀ r ∈ e.cancelAnswers calls, r = .ok () := by
  induction calls using List.reverseRecOn with
  | nil => exact ⟨h, .still m e, fun _ none => nomatch none⟩
  | append_singleton calls a ih =>
    obtain ⟨before, last⟩ := List.forall_mem_append.mp asked
    obtain ⟨tracks, strikes, answers⟩ := ih before
    obtain ⟨⟨t, id⟩, queue⟩ := Option.isSome_iff_exists.mp (last a List.mem_cons_self)
    have taking := strikes.takes takes
    have named : struck (calls ++ [a]) = struck calls ++ [(t, id)] := by simp [struck, queue]
    rw [runSnoc, cancelAnswers, historySnoc, named]
    refine ⟨strikeTracked tracks queue, strikes.trans (strikeStrikes tracks taking queue), ?_⟩
    refine List.forall_mem_append.mpr ⟨answers, fun r told => ?_⟩
    cases a with
    | cancel u other =>
      rw [List.mem_singleton.mp told, taking.sending.cancelAnswer, taking.live]
      rfl
    | _ => cases told

theorem sameRegistry (h : e.Tracked m) (first : Strikes m e ids f) (second : Strikes m e more g)
    (same : ∀ queue, queue ∈ ids ↔ queue ∈ more) : f.backend.registry = g.backend.registry := by
  have lists : f.backend.registry.lists = g.backend.registry.lists := Topic.Table.tableExt fun t => by
    rw [first.lists, second.lists]
    exact List.filter_congr fun entry _ => by simp [same]
  have queues : f.backend.registry.queues = g.backend.registry.queues := List.ext_getElem? fun place => by
    cases there : e.queue? place with
    | none =>
      have beyond : e.backend.registry.queues.length ≤ place := List.getElem?_eq_none_iff.mp there
      rw [List.getElem?_eq_none (first.places ▸ beyond), List.getElem?_eq_none (second.places ▸ beyond)]
    | some q =>
      obtain ⟨s, mine, rfl⟩ := placeOwned h there
      exact (first.queues s mine).trans ((second.queues s mine).trans (by simp [same])).symm
  exact congrArg₂ Registry.mk lists queues

structure Cancels (e : Engine) (calls : List Act) : Prop where
  answered : ∀ r ∈ e.cancelAnswers calls, r = .ok ()
  lists : ∀ t, (e.run calls).backend.registry.lists.get t =
    (e.backend.registry.lists.get t).filter fun entry => (t, entry.id) ∉ struck calls
  removed : ∀ t, ∀ entry ∈ e.backend.registry.lists.get t, (t, entry.id) ∈ struck calls →
    ∃ q, e.queue? entry.place = some q ∧ q.closed = false ∧
      (e.run calls).queue? entry.place = some { q with closed := true }
  kept : ∀ place, (∀ t, ∀ entry ∈ e.backend.registry.lists.get t, entry.place = place →
    (t, entry.id) ∉ struck calls) → (e.run calls).queue? place = e.queue? place
  sent : ∃ topics : List Topic, topics.Nodup ∧
    (∀ t, t ∈ topics ↔ 0 < e.live t ∧ (e.run calls).live t = 0) ∧
    (e.run calls).backend.link.pending = e.backend.link.pending ++ unsubscribes topics
  rest : e.run calls = { e with backend := { e.backend with
    registry := (e.run calls).backend.registry } }.withPending (e.run calls).backend.link.pending
  anyOrder : ∀ others, (∀ a ∈ others, a.strikes?.isSome) →
    (∀ queue, queue ∈ struck others ↔ queue ∈ struck calls) →
    ∃ topics order : List Topic, topics.Perm order ∧
      (e.run calls).backend.link.pending = e.backend.link.pending ++ unsubscribes topics ∧
      e.run others = (e.run calls).withPending (e.backend.link.pending ++ unsubscribes order)

theorem shutAlready (q : Queue Event) {now : Bool} (shut : now = true → q.closed = true) :
    { q with closed := q.closed || now } = q := by
  obtain ⟨capacity, buffer, closed⟩ := q
  cases now <;> simp_all

theorem cancelsRun (h : e.Tracked m) (takes : Takes e.backend) {calls : List Act}
    (asked : ∀ a ∈ calls, a.strikes?.isSome) : Cancels e calls := by
  obtain ⟨tracks, strikes, answers⟩ := strikesRun h takes asked
  exact {
    answered := answers
    lists := strikes.lists
    removed := fun t entry listed named => by
      obtain ⟨s, mine, rfl, rfl⟩ := h.owner listed
      obtain ⟨q, there, closed⟩ := h.queue mine
      have after := strikes.queues s mine
      refine ⟨q, there, by simpa [listed] using closed, after.trans ?_⟩
      have struck : (s.topic, s.id) ∈ struck calls := named
      simp [there, struck]
    kept := fun place others => by
      cases there : e.queue? place with
      | none =>
        have beyond : e.backend.registry.queues.length ≤ place := List.getElem?_eq_none_iff.mp there
        exact List.getElem?_eq_none (strikes.places ▸ beyond)
      | some q =>
        obtain ⟨s, mine, rfl⟩ := placeOwned h there
        obtain ⟨p, same, closed⟩ := h.queue mine
        cases there.symm.trans same
        refine (strikes.queues s mine).trans ?_
        have shut : (s.topic, s.id) ∈ struck calls → q.closed = true := fun named =>
          closed.mpr fun listed => others s.topic s.entry listed rfl named
        rw [there, Option.map_some, shutAlready q fun named => shut (of_decide_eq_true named)]
    sent := strikes.sent
    rest := strikes.rest
    anyOrder := fun others alsoAsked same => by
      obtain ⟨-, otherStrikes, -⟩ := strikesRun h takes alsoAsked
      have registry := sameRegistry h otherStrikes strikes same
      obtain ⟨topics, once, emptied, sent⟩ := strikes.sent
      obtain ⟨order, onceToo, emptiedToo, sentToo⟩ := otherStrikes.sent
      have live : ∀ t, (e.run others).live t = (e.run calls).live t := fun t =>
        congrArg (Registry.live · t) registry
      have members : ∀ t, t ∈ topics ↔ t ∈ order := fun t => by rw [emptied, emptiedToo, live]
      have left := otherStrikes.rest
      rw [registry, sentToo] at left
      have right := congrArg (·.withPending (e.backend.link.pending ++ unsubscribes order)) strikes.rest
      exact ⟨topics, order, (List.perm_ext_iff_of_nodup once onceToo).mpr members, sent,
        left.trans right.symm⟩ }

/-- What cancels and drops of receivers do depends on the set of subscriptions they name, and is done once
for each of these, whatever the order of the calls and however often they are repeated. -/
theorem cancelsInAnyOrder (capacity : Nat) (filters : Filters) (before calls : List Act)
    (live : ((opening capacity filters).run before).backend.exited = false)
    (front : ((opening capacity filters).run before).backend.link.front = true)
    (sends : ((opening capacity filters).run before).backend.link.fault = none)
    (asked : ∀ a ∈ calls, a.strikes?.isSome) : Cancels ((opening capacity filters).run before) calls :=
  cancelsRun (tracksOpened capacity filters before) ⟨live, front, sends⟩ asked

theorem cancelsOnceEach :
    let e := (opening 1 .fresh).run [.subscribe .hashTx, .subscribe .rawTx, .subscribe .hashTx]
    let calls := [.cancel .hashTx 0, .release .rawTx 1, .cancel .hashTx 0, .cancel .hashTx 9,
      .release .hashTx 2, .cancel .rawTx 1]
    (∀ a ∈ calls, a.strikes?.isSome) ∧ Cancels e calls ∧
      e.cancelAnswers calls = List.replicate 4 (.ok ()) ∧
      (e.run calls).backend.link.pending.drop 2 = unsubscribes [.rawTx, .hashTx] := by
  intro e calls
  have asked : ∀ a ∈ calls, a.strikes?.isSome := by decide
  exact ⟨asked, cancelsInAnyOrder 1 .fresh _ calls (by decide) (by decide) (by decide) asked, by decide,
    by decide⟩

end Engine
end NodeFeed
