import NodeFeed.Proofs.FilterAgreement

/-!
The filters when sends fail, at any point of a run and for any time. A subscribe that cannot send its
command leaves no trace. A cancel that cannot send has closed its queue all the same, and the filter it
meant to take away stays; so the filters drift from the lists, by one for each such cancel, and upwards
only: a topic that is heard always has its filter, or has it on its way.

The one other drift comes from queues that cannot be made, whose command has gone out before.
-/

namespace NodeFeed

open Registry

namespace Verb

theorem tallyAppend (count : Int) (first rest : List Verb) :
    tally count (first ++ rest) = tally (tally count first) rest := by
  induction first generalizing count with
  | nil => rfl
  | cons v first ih => exact ih (count + v.change)

theorem tallyFalls (count : Int) {vs : List Verb} (none : subscribe ∉ vs) :
    tally count vs ≤ count := by
  induction vs generalizing count with
  | nil => exact Int.le_refl _
  | cons v vs ih =>
    obtain ⟨other, later⟩ := not_or.mp (mt List.mem_cons.mpr none)
    have rest := ih (count + v.change) later
    cases v with
    | subscribe => exact absurd rfl other
    | unsubscribe =>
      simp only [tally, change] at rest ⊢
      omega

end Verb

namespace Backend

def misses (b : Backend) (t : Topic) (id : QueueId) : List Topic :=
  match (b.cancel t id).answer with
  | .error (.control _ _ _) => [t]
  | .error _ | .ok () => []

def wastes (b : Backend) (t : Topic) : List Topic :=
  match (b.subscribe t).answer with
  | .overflow => [t]
  | .added _ | .refused _ => []

end Backend

namespace Engine

def misses (e : Engine) : Act → List Topic
  | .cancel t id | .release t id => e.backend.misses t id
  | _ => []

def wastes (e : Engine) : Act → List Topic
  | .subscribe t => e.backend.wastes t
  | _ => []

def missed (e : Engine) (acts : List Act) : List Topic := e.history misses acts

def wasted (e : Engine) (acts : List Act) : List Topic := e.history wastes acts

structure Steady (capacity : Nat) (t : Topic) (e : Engine) : Prop where
  installs : e.filters.refusal = none
  room : e.backend.capacity = capacity
  able : e.live t ≠ 0 → t.canReserve capacity = true

inductive Drifts (t : Topic) (e next : Engine) : Nat → Nat → Prop where
  | kept
      (count : next.count t = e.count t)
      (asked : next.asked t = e.asked t)
      (live : next.live t = 0 ↔ e.live t = 0) :
      Drifts t e next 0 0
  | wanted
      (count : next.count t = e.count t)
      (asked : next.asked t = e.asked t ++ [.subscribe])
      (before : e.live t = 0)
      (after : next.live t ≠ 0) :
      Drifts t e next 0 0
  | unwanted
      (count : next.count t = e.count t)
      (asked : next.asked t = e.asked t ++ [.unsubscribe])
      (before : e.live t ≠ 0)
      (after : next.live t = 0) :
      Drifts t e next 0 0
  | missed
      (count : next.count t = e.count t)
      (asked : next.asked t = e.asked t)
      (before : e.live t ≠ 0)
      (after : next.live t = 0) :
      Drifts t e next 1 0
  | wasted
      (count : next.count t = e.count t)
      (asked : next.asked t = e.asked t ++ [.subscribe])
      (before : e.live t = 0)
      (after : next.live t = 0) :
      Drifts t e next 0 1
  | read (v : Verb)
      (asked : e.asked t = v :: next.asked t)
      (count : next.count t =
        match v with
        | .subscribe => e.count t + 1
        | .unsubscribe => e.count t - 1)
      (live : next.live t = e.live t) :
      Drifts t e next 0 0

variable {capacity : Nat} {e : Engine} {t : Topic}

theorem askedSame {a : Act} {cmds : List Command} (sent : e.backend.Sends (e.act a).backend cmds)
    (others : cmds.filterMap (Command.on? t) = []) : (e.act a).asked t = e.asked t := by
  have asked := (sendsThese (t := t) cmds sent.pending).2
  rwa [others, List.append_nil] at asked

theorem wastesIff {b : Backend} {u : Topic} {fits : Bool}
    (large : (b.subscribe u).answer = .overflow ↔ fits = false) :
    b.wastes u = if fits = true then [] else [u] := by
  unfold Backend.wastes
  cases fits with
  | true =>
    cases answer : (b.subscribe u).answer with
    | overflow => cases large.mp answer
    | added s => rfl
    | refused why => rfl
  | false => simp [large.mpr rfl]

theorem driftsSubscribe (h : e.Steady capacity t) (live : e.backend.exited = false) (u : Topic) :
    (e.act (.subscribe u)).Steady capacity t ∧
      Drifts t e (e.act (.subscribe u)) 0 ((e.backend.wastes u).count t) := by
  rcases Backend.subscribeEffect live u t with
    ⟨why, -, done⟩ | ⟨(sent : e.backend.Sends (e.act (.subscribe u)).backend _), listed, large⟩
  · have same : e.act (.subscribe u) = e := by simp [act, done]
    have none : e.backend.wastes u = [] := by simp [Backend.wastes, done]
    rw [same, none]
    exact ⟨h, .kept rfl rfl Iff.rfl⟩
  have after : (e.act (.subscribe u)).live t = e.live t + _ := listed
  rw [h.room] at after large
  rw [wastesIff large]
  by_cases mine : u = t
  case neg =>
    have others : (if e.backend.registry.live u = 0 then [Command.subscribe u] else []).filterMap
        (Command.on? t) = [] := by split <;> simp [Command.on?, mine]
    have same : (e.act (.subscribe u)).live t = e.live t := by simpa [mine] using after
    have apart : (if u.canReserve capacity = true then [] else [u]).count t = 0 := by
      split <;> simp [mine]
    rw [apart]
    exact ⟨⟨h.installs, sent.capacity.trans h.room, same ▸ h.able⟩,
      .kept rfl (askedSame sent others) (same ▸ Iff.rfl)⟩
  case pos =>
    subst mine
    simp only [true_and] at after
    have commanded : [Command.subscribe u].filterMap (Command.on? u) = [.subscribe] := by
      simp [Command.on?]
    have asked := (sendsThese (t := u) _ sent.pending).2
    cases fits : u.canReserve capacity with
    | true =>
      have more : (e.act (.subscribe u)).live u = e.live u + 1 := by rw [after, fits, if_pos rfl]
      refine ⟨⟨h.installs, sent.capacity.trans h.room, fun _ => fits⟩, ?_⟩
      by_cases none : e.backend.registry.live u = 0
      · rw [if_pos none, commanded] at asked
        exact .wanted rfl asked none (by omega)
      · have some : e.live u ≠ 0 := none
        rw [if_neg none] at sent
        exact .kept rfl (askedSame sent rfl) (by omega)
    | false =>
      have none : e.backend.registry.live u = 0 := by
        by_contra some
        cases fits.symm.trans (h.able some)
      rw [if_pos none, commanded] at asked
      have same : (e.act (.subscribe u)).live u = e.live u := by simpa [fits] using after
      have still : (e.act (.subscribe u)).live u = 0 := same.trans none
      have drift : Drifts u e (e.act (.subscribe u)) 0 1 := .wasted rfl asked none still
      refine ⟨⟨h.installs, sent.capacity.trans h.room, fun some => absurd still some⟩, ?_⟩
      simpa using drift

theorem driftsCancel (h : e.Steady capacity t) (live : e.backend.exited = false) {a : Act} {u : Topic}
    {id : QueueId} (shape : e.act a = { e with backend := (e.backend.cancel u id).state }) :
    (e.act a).Steady capacity t ∧ Drifts t e (e.act a) ((e.backend.misses u id).count t) 0 := by
  obtain ⟨gone, few, listed, outcome⟩ := Backend.cancelEffect live u t id
  have backend : (e.act a).backend = (e.backend.cancel u id).state := congrArg Engine.backend shape
  have filters : (e.act a).filters = e.filters := by rw [shape]
  have count : (e.act a).count t = e.count t := by rw [Engine.count, filters, Engine.count]
  have before : (e.act a).live t + (if u = t then gone else 0) = e.live t := by
    rw [Engine.live, backend]
    exact listed
  rw [← backend] at outcome
  have steady {cmds : List Command} (sent : e.backend.Sends (e.act a).backend cmds) :
      (e.act a).Steady capacity t :=
    ⟨filters ▸ h.installs, sent.capacity.trans h.room, fun some => h.able (by omega)⟩
  rcases outcome with ⟨sent, answer⟩ | ⟨one, last, sent, why, -, answer⟩
  · have none : e.backend.misses u id = [] := by simp [Backend.misses, answer]
    rw [none]
    refine ⟨steady sent, ?_⟩
    by_cases mine : u = t
    · subst mine
      rw [if_pos rfl] at before
      by_cases last : gone = 1 ∧ e.backend.registry.live u = 1
      · have was : e.live u = 1 := last.2
        have asked := (sendsThese (t := u) _ sent.pending).2
        rw [if_pos last] at asked
        exact .unwanted count (by simpa [Command.on?] using asked) (by omega) (by omega)
      · have others : gone = 1 → e.live u ≠ 1 := fun one was => last ⟨one, was⟩
        rw [if_neg last] at sent
        exact .kept count (askedSame sent rfl) (by omega)
    · rw [if_neg mine] at before
      have others : (if gone = 1 ∧ e.backend.registry.live u = 1 then [Command.unsubscribe u]
          else []).filterMap (Command.on? t) = [] := by split <;> simp [Command.on?, mine]
      exact .kept count (askedSame sent others) (before ▸ Iff.rfl)
  · have missed : e.backend.misses u id = [u] := by simp [Backend.misses, answer]
    rw [missed]
    refine ⟨steady sent, ?_⟩
    have asked : (e.act a).asked t = e.asked t := askedSame sent rfl
    by_cases mine : u = t
    · subst mine
      have was : e.live u = 1 := last
      rw [if_pos rfl] at before
      simpa using Drifts.missed count asked (by omega) (by omega)
    · rw [if_neg mine] at before
      simpa [mine] using Drifts.kept count asked (before ▸ Iff.rfl)

theorem driftsAct (h : e.Steady capacity t) {a : Act} (running : (e.act a).backend.exited = false) :
    (e.act a).Steady capacity t ∧
      Drifts t e (e.act a) ((e.misses a).count t) ((e.wastes a).count t) := by
  have before : e.backend.exited = false ∧ a.retires = false := by
    simpa [(e.changes a).exitedAfter] using running
  cases quiet : a.quiet with
  | true =>
    obtain ⟨cmds, sent, others, filters, lists⟩ := e.quietAct quiet
    have live : (e.act a).live t = e.live t := congrArg (fun l => (l.get t).length) lists
    have calm : e.misses a = [] ∧ e.wastes a = [] := by
      cases a <;> first | exact ⟨rfl, rfl⟩ | cases quiet
    rw [calm.1, calm.2]
    exact ⟨⟨filters ▸ h.installs, sent.capacity.trans h.room, live ▸ h.able⟩,
      .kept (by simp [count, filters]) (askedSame sent (others t)) (live ▸ Iff.rfl)⟩
  | false =>
    cases a with
    | subscribe u => exact driftsSubscribe h before.1 u
    | cancel u id => exact driftsCancel h before.1 rfl
    | release u id =>
      have shape : e.act (.release u id) = { e with backend := (e.backend.cancel u id).state } :=
        congrArg (fun b => { e with backend := b }) (e.backend.releaseState u id)
      exact driftsCancel h before.1 shape
    | control =>
      obtain ⟨installs, -, -, room⟩ := controlKeeps h.installs
      obtain ⟨-, live, reads⟩ := controlReads h.installs t
      refine ⟨⟨installs, room.trans h.room, live ▸ h.able⟩, ?_⟩
      rcases reads with ⟨count, asked⟩ | ⟨v, asked, count⟩
      · exact .kept count asked (live ▸ Iff.rfl)
      · exact .read v asked (by cases v <;> exact count) live
    | fault cause => exact ⟨⟨h.installs, h.room, h.able⟩, .kept rfl rfl Iff.rfl⟩
    | pass stage =>
      cases stage with
      | emptying => exact absurd before.2 (by decide)
      | guarding => exact absurd before.2 (by decide)
      | _ => cases quiet
    | _ => cases quiet

structure Drifted (e : Engine) (t : Topic) (missed wasted : Nat) : Prop where
  total : Verb.tally (e.count t) (e.asked t) = e.due t + missed + wasted
  whole : ∀ n, 0 ≤ Verb.tally (e.count t) ((e.asked t).take n)

theorem driftedSnoc {next : Engine} {v : Verb} {missed wasted m w : Nat}
    (h : e.Drifted t missed wasted) (count : next.count t = e.count t)
    (asked : next.asked t = e.asked t ++ [v])
    (total : (e.due t : Int) + v.change + missed + wasted = next.due t + m + w) :
    next.Drifted t m w := by
  have all : Verb.tally (next.count t) (next.asked t) = next.due t + m + w := by
    rw [count, asked, Verb.tallyAppend, h.total]
    simp only [Verb.tally]
    omega
  refine ⟨all, fun n => ?_⟩
  by_cases short : n ≤ (e.asked t).length
  · rw [count, asked, List.take_append_of_le_length short]
    exact h.whole n
  · rw [List.take_of_length_le (by simp [asked]; omega), all]
    omega

theorem driftedAct {next : Engine} {missed wasted m w : Nat} (h : e.Drifted t missed wasted)
    (drifts : Drifts t e next m w) : next.Drifted t (missed + m) (wasted + w) := by
  cases drifts with
  | kept count asked live =>
    refine ⟨?_, fun n => by rw [count, asked]; exact h.whole n⟩
    rw [count, asked, dueSame live]
    exact h.total
  | wanted count asked before after =>
    refine driftedSnoc h count asked ?_
    rw [dueNone before, dueSome after]
    simp only [Verb.change]
    omega
  | unwanted count asked before after =>
    refine driftedSnoc h count asked ?_
    rw [dueSome before, dueNone after]
    simp only [Verb.change]
    omega
  | missed count asked before after =>
    refine ⟨?_, fun n => by rw [count, asked]; exact h.whole n⟩
    rw [count, asked, h.total, dueSome before, dueNone after]
    omega
  | wasted count asked before after =>
    refine driftedSnoc h count asked ?_
    rw [dueNone before, dueNone after]
    simp only [Verb.change]
    omega
  | read v asked count live =>
    have first : (next.count t : Int) = e.count t + v.change := by
      have enough := h.whole 1
      rw [asked] at enough
      cases v with
      | subscribe => simp only [count, Verb.change]; omega
      | unsubscribe =>
        simp only [List.take_succ_cons, List.take_zero, Verb.tally, Verb.change] at enough
        simp only [count, Verb.change]
        omega
    have total := h.total
    rw [asked, Verb.tally, ← first, ← dueSame (live ▸ Iff.rfl : next.live t = 0 ↔ e.live t = 0)] at total
    refine ⟨total, fun n => ?_⟩
    have later := h.whole (n + 1)
    rwa [asked, List.take_succ_cons, Verb.tally, ← first] at later

theorem driftedRun {acts : List Act}
    (live : ((opening capacity .fresh).run acts).backend.exited = false) (t : Topic) :
    ((opening capacity .fresh).run acts).Steady capacity t ∧
      ((opening capacity .fresh).run acts).Drifted t
        (((opening capacity .fresh).missed acts).count t)
        (((opening capacity .fresh).wasted acts).count t) := by
  induction acts using List.reverseRecOn with
  | nil =>
    have none : (opening capacity .fresh).live t = 0 := by cases t <;> rfl
    have calm : (opening capacity .fresh).asked t = [] := rfl
    refine ⟨⟨rfl, rfl, fun some => absurd none some⟩, by cases t <;> rfl, fun n => ?_⟩
    have zero : (opening capacity .fresh).count t = 0 := by cases t <;> rfl
    simp [run, Run.after, calm, zero, Verb.tally]
  | append_singleton acts a ih =>
    obtain ⟨before, after⟩ := openAct live
    obtain ⟨steady, drifted⟩ := ih before
    obtain ⟨next, drifts⟩ := driftsAct steady after
    rw [runSnoc, missed, wasted, historySnoc, historySnoc, List.count_append, List.count_append]
    exact ⟨next, driftedAct drifted drifts⟩

end Engine

namespace Backend

theorem refusedWhole {b : Backend} {t : Topic} {why : SubscribeError}
    (refused : (b.subscribe t).answer = .refused why) : b.subscribe t = ⟨.refused why, b, []⟩ := by
  have never (c : Backend) : (c.enlist t).answer ≠ .refused why := by
    rcases c.enlistCases t with ⟨-, done⟩ | ⟨-, done⟩ <;> simp [done]
  rcases b.subscribeCases t with
    ⟨-, done⟩ | ⟨-, -, cause, -, done⟩ | ⟨-, -, link, -, done⟩ | ⟨-, -, done⟩ <;> rw [done] at refused ⊢
  · cases refused
    rfl
  · cases refused
    rfl
  · exact absurd refused (never _)
  · exact absurd refused (never _)

theorem cancelledHalf {b : Backend} {t u : Topic} {id : QueueId} {verb : String} {why : Errno}
    (missed : (b.cancel t id).answer = .error (.control verb u why)) :
    b.exited = false ∧ verb = Verb.unsubscribe.name ∧ u = t ∧
      b.link.send (.unsubscribe t) = .error why ∧
      ∃ entry, entry.id = id ∧ b.registry.lists.get t = [entry] ∧
        (b.cancel t id).state = { b with registry :=
          ⟨b.registry.lists.set t [], (closeEach [entry] b.registry.queues).2⟩ } := by
  rcases b.cancelCases t id with ⟨-, done⟩ | ⟨-, -, done⟩ | ⟨live, entry, found, rest⟩
  · rw [done] at missed
    cases missed
  · rw [done] at missed
    cases missed
  · rcases rest with ⟨-, done⟩ | ⟨-, link, -, done⟩ | ⟨none, cause, failed, done⟩ <;> rw [done] at missed ⊢
    · cases missed
    · cases missed
    · cases missed
      obtain ⟨listed, sameId⟩ := b.registry.entryListed found
      have fewer := List.length_eraseP_of_mem (p := fun e => e.id == id) listed (by simp [sameId])
      rw [b.registry.removeFound found] at none ⊢
      have emptied : (b.registry.lists.get t).eraseP (fun e => e.id == id) = [] := by
        simpa [Registry.isEmpty, Topic.Table.getSet] using none
      rw [emptied, List.length_nil] at fewer
      have one : (b.registry.lists.get t).length = 1 := by
        have some := List.length_pos_of_mem listed
        omega
      obtain ⟨only, list⟩ := List.length_eq_one_iff.mp one
      rw [list] at listed
      cases List.mem_singleton.mp listed
      exact ⟨live, rfl, rfl, failed, entry, sameId, list, by rw [emptied]⟩

end Backend

namespace Engine

variable {capacity : Nat} {t : Topic}

theorem goneStays {filters : Filters} {acts : List Act} {s : Subscription}
    (mine : s ∈ (opening capacity filters).made acts)
    (shut : ((opening capacity filters).run acts).isShut s.place = true) (more : List Act) :
    ((opening capacity filters).run (acts ++ more)).backend.registry.entry? s.topic s.id = none := by
  have tracks := tracksOpened capacity filters (acts ++ more)
  have later : ((opening capacity filters).run (acts ++ more)).isShut s.place = true := by
    rw [runAppend]
    exact shutStays shut more
  have still : s ∈ (opening capacity filters).made (acts ++ more) := by
    rw [made, historyAppend]
    exact List.mem_append_left _ mine
  cases found : ((opening capacity filters).run (acts ++ more)).backend.registry.entry? s.topic s.id with
  | none => rfl
  | some entry =>
    obtain ⟨listed, sameId⟩ := Registry.entryListed _ found
    obtain ⟨u, yours, topic, rfl⟩ := tracks.owner listed
    cases tracks.sameId yours still sameId
    rw [isShut, tracks.shut s still] at later
    simp [listed] at later

structure Halfway (start : Engine) (acts : List Act) (t : Topic) (id : QueueId) : Prop where
  mine : ∃ s ∈ start.made acts, s.topic = t ∧ s.id = id ∧
    (start.run acts).backend.registry.lists.get t = [s.entry] ∧
    ∃ q, (start.run acts).backend.registry.queue? s.place = some q ∧ q.closed = false ∧
      ((start.run acts).backend.cancel t id).state = { (start.run acts).backend with
        registry := {
          lists := (start.run acts).backend.registry.lists.set t []
          queues := (start.run acts).backend.registry.queues.set s.place { q with closed := true } } }
  again : ∀ more, (start.run (acts ++ .cancel t id :: more)).backend.exited = false →
    (start.run (acts ++ .cancel t id :: more)).backend.cancel t id =
      ⟨.ok (), (start.run (acts ++ .cancel t id :: more)).backend, []⟩

theorem halfway {filters : Filters} {acts : List Act} {u : Topic} {id : QueueId} {verb : String}
    {why : Errno} (missed : (((opening capacity filters).run acts).backend.cancel t id).answer =
      .error (.control verb u why)) :
    Halfway (opening capacity filters) acts t id := by
  have tracks := tracksOpened capacity filters acts
  obtain ⟨live, -, -, -, entry, sameId, list, state⟩ := Backend.cancelledHalf missed
  obtain ⟨s, mine, rfl, rfl⟩ := tracks.owner (list ▸ List.mem_singleton_self entry)
  have sameId : s.id = id := sameId
  subst sameId
  obtain ⟨q, there, closed⟩ := Option.map_eq_some_iff.mp (tracks.shut s mine)
  have opened : q.closed = false := by simpa [list] using closed
  have closing :
      (closeEach [s.entry] ((opening capacity filters).run acts).backend.registry.queues).2 =
      ((opening capacity filters).run acts).backend.registry.queues.set s.place
        { q with closed := true } := by
    simp [closeEach, onEach, Subscription.entry, there, Queue.close]
  rw [closing] at state
  refine ⟨⟨s, mine, rfl, rfl, list, q, there, opened, state⟩, fun more later => ?_⟩
  have shut :
      ((opening capacity filters).run (acts ++ [.cancel s.topic s.id])).isShut s.place = true := by
    have backend : ((opening capacity filters).run (acts ++ [.cancel s.topic s.id])).backend = _ :=
      (congrArg Engine.backend (runSnoc _ _ _)).trans state
    simp [isShut, backend, shutSet _ (placeThere there)]
  have still : s ∈ (opening capacity filters).made (acts ++ [.cancel s.topic s.id]) := by
    rw [made, historySnoc]
    exact List.mem_append_left _ mine
  have gone := goneStays still shut more
  rw [List.append_assoc] at gone
  rcases Backend.cancelCases _ s.topic s.id with ⟨ended, -⟩ | ⟨-, -, done⟩ | ⟨-, entry, found, -⟩
  · cases later.symm.trans ended
  · exact done
  · cases gone.symm.trans found

structure Withstands (start : Engine) (acts : List Act) (t : Topic) : Prop where
  refused : ∀ why, ((start.run acts).backend.subscribe t).answer = .refused why →
    (start.run acts).backend.subscribe t = ⟨.refused why, (start.run acts).backend, []⟩
  halfway : ∀ id verb u why,
    ((start.run acts).backend.cancel t id).answer = .error (.control verb u why) →
      Halfway start acts t id
  counted : Verb.tally ((start.run acts).count t) ((start.run acts).asked t) =
    (start.run acts).due t + (start.missed acts).count t
  installed : 0 < (start.run acts).live t →
    0 < (start.run acts).count t ∨ .subscribe ∈ (start.run acts).asked t

theorem onItsWay {e : Engine} {missed wasted : Nat} (h : e.Drifted t missed wasted)
    (some : 0 < e.live t) :
    0 < e.count t ∨ .subscribe ∈ e.asked t := by
  by_contra neither
  obtain ⟨none, never⟩ := not_or.mp neither
  have falls := Verb.tallyFalls (e.count t) never
  rw [h.total, dueSome (Nat.ne_of_gt some)] at falls
  omega

theorem filtersDriftExactly (capacity : Nat) (acts : List Act) (t : Topic)
    (live : ((opening capacity .fresh).run acts).backend.exited = false) :
    ((opening capacity .fresh).run acts).Drifted t
        (((opening capacity .fresh).missed acts).count t)
        (((opening capacity .fresh).wasted acts).count t) ∧
      (Withstands (opening capacity .fresh) acts t ↔ t ∉ (opening capacity .fresh).wasted acts) := by
  obtain ⟨-, drifted⟩ := driftedRun live t
  refine ⟨drifted, fun withstands => ?_, fun none => ?_⟩
  · have counted := withstands.counted
    rw [drifted.total] at counted
    exact List.count_eq_zero.mp (by omega)
  · have total := drifted.total
    rw [List.count_eq_zero.mpr none] at total
    exact {
      refused := fun why => Backend.refusedWhole
      halfway := fun id verb u why => halfway
      counted := by simpa using total
      installed := onItsWay drifted }

theorem filtersDriftOnce :
    let acts := [.subscribe .rawTx, .control, .fault (some .eagain), .cancel .rawTx 0, .subscribe .rawTx,
      .fault none, .subscribe .rawTx]
    Verb.tally (((opening 2 .fresh).run acts).count .rawTx)
        (((opening 2 .fresh).run acts).asked .rawTx) = 2 ∧
      Withstands (opening 2 .fresh) acts .rawTx := by
  intro acts
  have live : ((opening 2 .fresh).run acts).backend.exited = false := by decide
  exact ⟨by decide, (filtersDriftExactly 2 acts .rawTx live).2.mpr (by decide)⟩

theorem driftWithoutMissed :
    ((opening 0x8000000000000000 .fresh).run [.subscribe .hashTx]).backend.exited = false ∧
      ¬ Withstands (opening 0x8000000000000000 .fresh) [.subscribe .hashTx] .hashTx := by
  refine ⟨by decide, fun withstands => ?_⟩
  exact absurd withstands.counted (by decide)

end Engine
end NodeFeed
