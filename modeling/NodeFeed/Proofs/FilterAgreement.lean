import NodeFeed.Proofs.Listing

/-!
The filters at the publisher against the lists of the registry. They agree once the commands still in
the link are counted in, and this is the invariant: from the present count of a topic's filter, the
commands in the link lead through 0 and 1 alone to whether anybody listens. A step either leaves that
path as it is, takes its first command off, or adds one at its end together with the change of the list.
`tally` counts as the handler's socket does; `follow?` is strict, so that a path which it accepts never
adds a filter that is there or takes away one that is not.

A queue too large to be made breaks it: the command has gone out when making the queue fails.
-/

namespace NodeFeed

open Registry

namespace Verb

def change : Verb → Int
  | subscribe => 1
  | unsubscribe => -1

def follow? : Nat → Verb → Option Nat
  | 0, subscribe => some 1
  | 1, unsubscribe => some 0
  | _, _ => none

def tally (count : Int) : List Verb → Int
  | [] => count
  | v :: vs => tally (count + v.change) vs

def Alternate (vs : List Verb) : Prop :=
  ∀ i (inside : i < vs.length), vs[i] = if i % 2 = 0 then subscribe else unsubscribe

theorem tallySubscribes (count : Int) {vs : List Verb} (only : ∀ v ∈ vs, v = subscribe) :
    tally count vs = count + vs.length := by
  induction vs generalizing count with
  | nil => simp [tally]
  | cons v vs ih =>
    obtain ⟨rfl, rest⟩ := List.forall_mem_cons.mp only
    rw [tally, ih _ rest]
    simp only [change, List.length_cons]
    omega

theorem followCases {n m : Nat} {v : Verb} (h : follow? n v = some m) :
    (n = 0 ∧ v = subscribe ∧ m = 1) ∨ (n = 1 ∧ v = unsubscribe ∧ m = 0) := by
  unfold follow? at h
  split at h
  · exact .inl ⟨rfl, rfl, (Option.some.inj h).symm⟩
  · exact .inr ⟨rfl, rfl, (Option.some.inj h).symm⟩
  · cases h

theorem followCons {n k : Nat} {v : Verb} {vs : List Verb}
    (h : (v :: vs).foldlM follow? n = some k) :
    ∃ m, follow? n v = some m ∧ vs.foldlM follow? m = some k := by
  rw [List.foldlM_cons] at h
  exact Option.bind_eq_some_iff.mp h

theorem followSnoc {n k m : Nat} {v : Verb} {vs : List Verb} (h : vs.foldlM follow? n = some k)
    (last : follow? k v = some m) : (vs ++ [v]).foldlM follow? n = some m := by
  rw [List.foldlM_append, h]
  simp [last]

theorem followTally {n m : Nat} {vs : List Verb} (h : vs.foldlM follow? n = some m) :
    tally n vs = m := by
  induction vs generalizing n with
  | nil =>
    cases Option.some.inj h
    rfl
  | cons v vs ih =>
    obtain ⟨k, first, rest⟩ := followCons h
    have next : (n : Int) + v.change = k := by
      rcases followCases first with ⟨rfl, rfl, rfl⟩ | ⟨rfl, rfl, rfl⟩ <;> rfl
    rw [tally, next]
    exact ih rest

theorem followFrom {n m : Nat} {vs : List Verb} (h : vs.foldlM follow? n = some m) (small : m ≤ 1) :
    n ≤ 1 := by
  cases vs with
  | nil =>
    cases Option.some.inj h
    exact small
  | cons v vs =>
    obtain ⟨k, first, -⟩ := followCons h
    rcases followCases first with ⟨rfl, -⟩ | ⟨rfl, -⟩ <;> omega

theorem followTake {n m : Nat} {vs : List Verb} (h : vs.foldlM follow? n = some m) (small : m ≤ 1)
    (k : Nat) : tally n (vs.take k) = 0 ∨ tally n (vs.take k) = 1 := by
  rw [← vs.take_append_drop k, List.foldlM_append] at h
  obtain ⟨between, first, rest⟩ := Option.bind_eq_some_iff.mp h
  have there := followFrom rest small
  rw [followTally first]
  omega

theorem followFromAlternates {n m : Nat} {vs : List Verb} (h : vs.foldlM follow? n = some m) :
    ∀ i (inside : i < vs.length), vs[i] = if (n + i) % 2 = 0 then subscribe else unsubscribe := by
  induction vs generalizing n with
  | nil => exact fun i inside => absurd inside (Nat.not_lt_zero i)
  | cons v vs ih =>
    obtain ⟨k, first, rest⟩ := followCons h
    intro i inside
    cases i with
    | zero => rcases followCases first with ⟨rfl, rfl, -⟩ | ⟨rfl, rfl, -⟩ <;> rfl
    | succ i =>
      have later := ih rest i (Nat.lt_of_succ_lt_succ inside)
      rw [List.getElem_cons_succ, later]
      rcases followCases first with ⟨rfl, -, rfl⟩ | ⟨rfl, -, rfl⟩
      · rw [Nat.zero_add, Nat.add_comm]
      · have parity : (0 + i) % 2 = (1 + (i + 1)) % 2 := by omega
        rw [parity]

theorem followAlternates {vs : List Verb} {m : Nat} (h : vs.foldlM follow? 0 = some m) :
    Alternate vs := by
  intro i inside
  simpa using followFromAlternates h i inside

end Verb

def Command.on? (t : Topic) : Command → Option Verb
  | subscribe u => if u = t then some .subscribe else none
  | unsubscribe u => if u = t then some .unsubscribe else none
  | term => none

def verbs (t : Topic) (frames : List Frame) : List Verb :=
  frames.filterMap fun f => (Command.decode? f).bind (Command.on? t)

theorem verbsEncoded (t : Topic) (cmds : List Command) :
    verbs t (cmds.map Command.encode) = cmds.filterMap (Command.on? t) := by
  simp [verbs, List.filterMap_map, Command.encodedCommandRead]

namespace Backend

structure Sends (b next : Backend) (cmds : List Command) : Prop where
  pending : next.link.pending = b.link.pending ++ cmds.map Command.encode
  front : next.link.front = b.link.front
  fault : next.link.fault = b.link.fault
  capacity : next.capacity = b.capacity

theorem sendsNone {b next : Backend} (link : next.link = b.link) (capacity : next.capacity = b.capacity) :
    b.Sends next [] :=
  ⟨link ▸ (List.append_nil _).symm, link ▸ rfl, link ▸ rfl, capacity⟩

theorem enlistEffect (b : Backend) (u t : Topic) :
    (b.enlist u).state.link = b.link ∧ (b.enlist u).state.capacity = b.capacity ∧
      (b.enlist u).state.registry.live t =
        b.registry.live t + (if u = t ∧ u.canReserve b.capacity = true then 1 else 0) ∧
      ((b.enlist u).answer = .overflow ↔ u.canReserve b.capacity = false) := by
  rcases b.enlistCases u with ⟨fits, done⟩ | ⟨large, done⟩ <;> rw [done]
  · exact ⟨rfl, rfl, by rw [insertLive]; simp [fits], by simp [fits]⟩
  · exact ⟨rfl, rfl, by simp [large], by simp [large]⟩

theorem subscribeEffect {b : Backend} (live : b.exited = false) (u t : Topic) :
    (∃ why, b.link.send (.subscribe u) = .error why ∧
      b.subscribe u = ⟨.refused (.control Verb.subscribe.name u why), b, []⟩) ∨
    (b.Sends (b.subscribe u).state (if b.registry.live u = 0 then [.subscribe u] else []) ∧
      (b.subscribe u).state.registry.live t =
        b.registry.live t + (if u = t ∧ u.canReserve b.capacity = true then 1 else 0) ∧
      ((b.subscribe u).answer = .overflow ↔ u.canReserve b.capacity = false)) := by
  rcases b.subscribeCases u with
    ⟨gone, -⟩ | ⟨-, empty, why, failed, done⟩ | ⟨-, empty, link, sent, done⟩ | ⟨-, some, done⟩
  · cases live.symm.trans gone
  · exact .inl ⟨why, failed, done⟩
  · obtain ⟨-, -, longer⟩ := Link.sentOnly sent
    have none : b.registry.live u = 0 := (isEmptyLive _ u).mp empty
    obtain ⟨kept, capacity, count, large⟩ := enlistEffect { b with link } u t
    rw [done, if_pos none]
    exact .inr ⟨⟨by rw [kept, longer]; rfl, by rw [kept, longer], by rw [kept, longer], capacity⟩,
      count, large⟩
  · have listed : b.registry.live u ≠ 0 := fun none => by
      simp [(isEmptyLive _ u).mpr none] at some
    obtain ⟨link, capacity, count, large⟩ := b.enlistEffect u t
    rw [done, if_neg listed]
    exact .inr ⟨sendsNone link capacity, count, large⟩

theorem cancelEffect {b : Backend} (live : b.exited = false) (u t : Topic) (id : QueueId) :
    ∃ gone : Nat, gone ≤ 1 ∧
      (b.cancel u id).state.registry.live t + (if u = t then gone else 0) = b.registry.live t ∧
      ((b.Sends (b.cancel u id).state
          (if gone = 1 ∧ b.registry.live u = 1 then [.unsubscribe u] else []) ∧
        (b.cancel u id).answer = .ok ()) ∨
      (gone = 1 ∧ b.registry.live u = 1 ∧ b.Sends (b.cancel u id).state [] ∧
        ∃ why, b.link.send (.unsubscribe u) = .error why ∧
          (b.cancel u id).answer = .error (.control Verb.unsubscribe.name u why))) := by
  rcases b.cancelCases u id with ⟨ended, -⟩ | ⟨-, -, done⟩ | ⟨-, entry, found, rest⟩
  · cases live.symm.trans ended
  · exact ⟨0, Nat.zero_le 1, by rw [done]; simp, by rw [done]; simpa using sendsNone rfl rfl⟩
  · have fewer := b.registry.removeLive found t
    have own := b.registry.removeLive found u
    rw [if_pos rfl] at own
    have last (none : (b.registry.remove u id).2.isEmpty u = true) : b.registry.live u = 1 := by
      rw [← own, (isEmptyLive _ u).mp none]
    refine ⟨1, Nat.le_refl 1, ?_⟩
    rcases rest with ⟨some, done⟩ | ⟨none, link, sent, done⟩ | ⟨none, why, failed, done⟩ <;> rw [done]
    · have others : b.registry.live u ≠ 1 := fun one => by
        have none : (b.registry.remove u id).2.live u = 0 := by omega
        simp [(isEmptyLive _ u).mpr none] at some
      have apart : ¬(1 = 1 ∧ b.registry.live u = 1) := mt And.right others
      rw [if_neg apart]
      exact ⟨fewer, .inl ⟨sendsNone rfl rfl, rfl⟩⟩
    · obtain ⟨-, -, rfl⟩ := Link.sentOnly sent
      have both : 1 = 1 ∧ b.registry.live u = 1 := ⟨rfl, last none⟩
      rw [if_pos both]
      exact ⟨fewer, .inl ⟨⟨rfl, rfl, rfl, rfl⟩, rfl⟩⟩
    · exact ⟨fewer, .inr ⟨rfl, last none, sendsNone rfl rfl, why, failed, rfl⟩⟩

end Backend

def Act.quiet : Act → Bool
  | .subscribe _ | .cancel _ _ | .release _ _ | .control | .fault _ => false
  | .pass .emptying | .pass .guarding => false
  | _ => true

namespace Engine

def count (e : Engine) (t : Topic) : Nat := e.filters.counts.get t

def asked (e : Engine) (t : Topic) : List Verb := verbs t e.backend.link.pending

def sends (e : Engine) (a : Act) : List Frame :=
  (e.act a).backend.link.pending.drop e.backend.link.pending.length

def sent (e : Engine) (acts : List Act) : List Frame := e.history sends acts

def reads (t : Topic) (e : Engine) : Act → List (Nat × Verb)
  | .control => (verbs t (e.backend.link.pending.take 1)).map fun v => (e.count t, v)
  | _ => []

def hasRead (e : Engine) (t : Topic) (acts : List Act) : List (Nat × Verb) := e.history (reads t) acts

structure Sound (capacity : Nat) (e : Engine) : Prop where
  front : e.backend.link.front = true
  sends : e.backend.link.fault = none
  installs : e.filters.refusal = none
  room : e.backend.capacity = capacity

inductive Guided (t : Topic) (capacity : Nat) (e : Engine) (a : Act) (next : Engine) :
    List Verb → Prop where
  | kept
      (count : next.count t = e.count t)
      (asked : next.asked t = e.asked t)
      (live : next.live t = 0 ↔ e.live t = 0)
      (quiet : a = .subscribe t → e.live t ≠ 0) :
      Guided t capacity e a next []
  | wanted
      (asks : a = .subscribe t)
      (fits : t.canReserve capacity = true)
      (count : next.count t = e.count t)
      (asked : next.asked t = e.asked t ++ [.subscribe])
      (before : e.live t = 0)
      (after : next.live t ≠ 0) :
      Guided t capacity e a next [.subscribe]
  | unwanted
      (other : a ≠ .subscribe t)
      (count : next.count t = e.count t)
      (asked : next.asked t = e.asked t ++ [.unsubscribe])
      (before : e.live t ≠ 0)
      (after : next.live t = 0) :
      Guided t capacity e a next [.unsubscribe]
  | read (v : Verb)
      (reads : a = .control)
      (asked : e.asked t = v :: next.asked t)
      (count : next.count t =
        match v with
        | .subscribe => e.count t + 1
        | .unsubscribe => e.count t - 1)
      (live : next.live t = e.live t) :
      Guided t capacity e a next []
  | failed
      (asks : a = .subscribe t)
      (large : t.canReserve capacity = false)
      (count : next.count t = e.count t)
      (asked : next.asked t = e.asked t ++ [.subscribe])
      (before : e.live t = 0)
      (after : next.live t = 0) :
      Guided t capacity e a next [.subscribe]

variable {capacity : Nat} {e : Engine} {t : Topic}

theorem sendsThese {a : Act} (cmds : List Command)
    (pending : (e.act a).backend.link.pending = e.backend.link.pending ++ cmds.map Command.encode) :
    verbs t (e.sends a) = cmds.filterMap (Command.on? t) ∧
      (e.act a).asked t = e.asked t ++ cmds.filterMap (Command.on? t) := by
  unfold sends asked
  rw [pending, List.drop_left, verbsEncoded, ← verbsEncoded]
  exact ⟨rfl, List.filterMap_append⟩

theorem soundNext (h : e.Sound capacity) {a : Act} {cmds : List Command}
    (sent : e.backend.Sends (e.act a).backend cmds)
    (refusal : (e.act a).filters.refusal = e.filters.refusal) : (e.act a).Sound capacity where
  front := sent.front.trans h.front
  sends := sent.fault.trans h.sends
  installs := refusal.trans h.installs
  room := sent.capacity.trans h.room

theorem guidedStill {a : Act} {cmds : List Command} (sent : e.backend.Sends (e.act a).backend cmds)
    (others : cmds.filterMap (Command.on? t) = []) (count : (e.act a).count t = e.count t)
    (live : (e.act a).live t = 0 ↔ e.live t = 0) (quiet : a = .subscribe t → e.live t ≠ 0) :
    Guided t capacity e a (e.act a) (verbs t (e.sends a)) := by
  obtain ⟨told, asked⟩ := sendsThese (t := t) cmds sent.pending
  rw [others] at told asked
  rw [told]
  exact .kept count (asked.trans (List.append_nil _)) live quiet

theorem guidedSubscribe (h : e.Sound capacity) (live : e.backend.exited = false) (u : Topic) :
    (e.act (.subscribe u)).Sound capacity ∧
      Guided t capacity e (.subscribe u) (e.act (.subscribe u)) (verbs t (e.sends (.subscribe u))) := by
  obtain ⟨why, failed, -⟩ | ⟨(sent : e.backend.Sends (e.act (.subscribe u)).backend _), listed, -⟩ :=
    Backend.subscribeEffect live u t
  · cases (Link.sendOpen h.front h.sends _).symm.trans failed
  refine ⟨soundNext h sent rfl, ?_⟩
  obtain ⟨told, asked⟩ := sendsThese (t := t) _ sent.pending
  have after : (e.act (.subscribe u)).live t = _ := listed
  rw [h.room] at after
  by_cases mine : u = t
  · subst mine
    by_cases none : e.backend.registry.live u = 0
    · have commanded : [Command.subscribe u].filterMap (Command.on? u) = [.subscribe] := by
        simp [Command.on?]
      rw [if_pos none, commanded] at told asked
      rw [told]
      cases fits : u.canReserve capacity with
      | true => exact .wanted rfl fits rfl asked none (by simp [after, fits])
      | false => exact .failed rfl fits rfl asked none (by simpa [after, fits] using none)
    · have still : (e.act (.subscribe u)).live u ≠ 0 := by
        rw [after]
        exact Nat.ne_of_gt (Nat.add_pos_left (Nat.pos_of_ne_zero none) _)
      rw [if_neg none] at sent
      exact guidedStill sent rfl rfl ⟨fun ended => absurd ended still, fun ended => absurd ended none⟩
        fun _ => none
  · refine guidedStill sent ?_ rfl ?_ fun same => absurd (Act.subscribe.inj same) mine
    · split <;> simp [Command.on?, mine]
    · simp only [after, mine, false_and, if_false]
      exact Iff.rfl

theorem guidedCancel (h : e.Sound capacity) (live : e.backend.exited = false) {a : Act} {u : Topic}
    {id : QueueId} (shape : e.act a = { e with backend := (e.backend.cancel u id).state })
    (other : a ≠ .subscribe t) :
    (e.act a).Sound capacity ∧ Guided t capacity e a (e.act a) (verbs t (e.sends a)) := by
  obtain ⟨gone, few, listed, ⟨sent, -⟩ | ⟨-, -, -, why, failed, -⟩⟩ :=
    Backend.cancelEffect live u t id
  case inr => cases (Link.sendOpen h.front h.sends _).symm.trans failed
  have backend : (e.act a).backend = (e.backend.cancel u id).state := congrArg Engine.backend shape
  have filters : (e.act a).filters = e.filters := by rw [shape]
  have count : (e.act a).count t = e.count t := by rw [Engine.count, filters, Engine.count]
  rw [← backend] at sent listed
  refine ⟨soundNext h sent (by rw [filters]), ?_⟩
  have before : (e.act a).live t + _ = e.live t := listed
  by_cases mine : u = t
  · subst mine
    rw [if_pos rfl] at before
    by_cases last : gone = 1 ∧ e.backend.registry.live u = 1
    · have was : e.live u = 1 := last.2
      have commanded : [Command.unsubscribe u].filterMap (Command.on? u) = [.unsubscribe] := by
        simp [Command.on?]
      rw [if_pos last] at sent
      obtain ⟨told, asked⟩ := sendsThese (t := u) _ sent.pending
      rw [commanded] at told asked
      rw [told]
      exact .unwanted other count asked (by omega) (by omega)
    · rw [if_neg last] at sent
      refine guidedStill sent rfl count ?_ fun same => absurd same other
      have others : gone = 1 → e.live u ≠ 1 := fun one was => last ⟨one, was⟩
      omega
  · refine guidedStill sent ?_ count ?_ fun same => absurd same other
    · split <;> simp [Command.on?, mine]
    · rw [if_neg mine] at before
      exact before ▸ Iff.rfl

theorem controlEffect (installs : e.filters.refusal = none) {f : Frame} {rest : List Frame}
    (next : e.backend.link.pending = f :: rest) :
    (e.act .control).backend = { e.backend with link := { e.backend.link with pending := rest } } ∧
      (e.act .control).filters.refusal = e.filters.refusal ∧
      (e.act .control).count t =
        match (Command.decode? f).bind (Command.on? t) with
        | some .subscribe => e.count t + 1
        | some .unsubscribe => e.count t - 1
        | none => e.count t := by
  simp only [act, onControl, Link.next?, next, count]
  rcases read : Command.decode? f with _ | (u | u | _)
  · simp [Filters.obey, read]
  · simp only [Filters.obey, read, Filters.install, installs, Topic.Table.getSet]
    by_cases same : u = t
    · simp [Command.on?, same]
    · simp [Command.on?, same, Ne.symm same]
  · simp only [Filters.obey, read, Filters.remove, installs, Topic.Table.getSet]
    by_cases same : u = t
    · simp [Command.on?, same]
    · simp [Command.on?, same, Ne.symm same]
  · simp [Filters.obey, read, Command.on?]

theorem controlReads (installs : e.filters.refusal = none) (t : Topic) :
    e.sends .control = [] ∧ (e.act .control).live t = e.live t ∧
      (((e.act .control).count t = e.count t ∧ (e.act .control).asked t = e.asked t) ∨
        ∃ v, e.asked t = v :: (e.act .control).asked t ∧
          (e.act .control).count t =
            match v with
            | .subscribe => e.count t + 1
            | .unsubscribe => e.count t - 1) := by
  cases pending : e.backend.link.pending with
  | nil =>
    have same : e.act .control = e := by simp [act, onControl, Link.next?, pending]
    exact ⟨by simp [sends, same], by rw [same], .inl ⟨by rw [same], by rw [same]⟩⟩
  | cons f rest =>
    obtain ⟨backend, -, counted⟩ := controlEffect (t := t) installs pending
    have silent : e.sends .control = [] := by
      simp only [sends, backend, pending]
      exact List.drop_eq_nil_of_le (Nat.le_succ _)
    refine ⟨silent, by simp [Engine.live, backend], ?_⟩
    cases read : (Command.decode? f).bind (Command.on? t) with
    | none =>
      rw [read] at counted
      exact .inl ⟨counted, by simp [asked, backend, pending, verbs, read]⟩
    | some v =>
      rw [read] at counted
      exact .inr ⟨v, by simp [asked, backend, pending, verbs, read], by cases v <;> exact counted⟩

theorem controlKeeps (installs : e.filters.refusal = none) :
    (e.act .control).filters.refusal = none ∧
      (e.act .control).backend.link.front = e.backend.link.front ∧
      (e.act .control).backend.link.fault = e.backend.link.fault ∧
      (e.act .control).backend.capacity = e.backend.capacity := by
  cases pending : e.backend.link.pending with
  | nil =>
    have same : e.act .control = e := by simp [act, onControl, Link.next?, pending]
    rw [same]
    exact ⟨installs, rfl, rfl, rfl⟩
  | cons f rest =>
    obtain ⟨backend, refusal, -⟩ := controlEffect (t := .hashTx) installs pending
    exact ⟨refusal.trans installs, by rw [backend], by rw [backend], by rw [backend]⟩

theorem guidedControl (h : e.Sound capacity) :
    (e.act .control).Sound capacity ∧
      Guided t capacity e .control (e.act .control) (verbs t (e.sends .control)) := by
  obtain ⟨installs, front, fault, room⟩ := controlKeeps h.installs
  obtain ⟨silent, live, reads⟩ := controlReads h.installs t
  refine ⟨⟨front.trans h.front, fault.trans h.sends, installs, room.trans h.room⟩, ?_⟩
  rw [silent]
  rcases reads with ⟨count, asked⟩ | ⟨v, asked, count⟩
  · exact .kept count asked (live ▸ Iff.rfl) (by simp)
  · exact .read v rfl asked (by cases v <;> exact count) live

theorem quietAct (e : Engine) {a : Act} (quiet : a.quiet = true) :
    ∃ cmds, e.backend.Sends (e.act a).backend cmds ∧ (∀ t, cmds.filterMap (Command.on? t) = []) ∧
      (e.act a).filters = e.filters ∧
      (e.act a).backend.registry.lists = e.backend.registry.lists := by
  have silent {next : Engine} (link : next.backend.link = e.backend.link)
      (capacity : next.backend.capacity = e.backend.capacity) (filters : next.filters = e.filters)
      (lists : next.backend.registry.lists = e.backend.registry.lists) :
      ∃ cmds, e.backend.Sends next.backend cmds ∧ (∀ t, cmds.filterMap (Command.on? t) = []) ∧
        next.filters = e.filters ∧ next.backend.registry.lists = e.backend.registry.lists :=
    ⟨[], Backend.sendsNone link capacity, fun _ => rfl, filters, lists⟩
  cases a with
  | requestTerm =>
    rcases e.backend.askedCases with done | ⟨link, sent, done⟩
    · have same : (e.act .requestTerm).backend = e.backend := done
      exact silent (by rw [same]) (by rw [same]) rfl (by rw [same])
    · obtain ⟨-, -, rfl⟩ := Link.sentOnly sent
      have next : (e.act .requestTerm).backend = _ := done
      rw [next]
      exact ⟨[.term], ⟨rfl, rfl, rfl, rfl⟩, fun _ => rfl, rfl, rfl⟩
  | receive place =>
    have kept : (e.backend.receive place).link = e.backend.link ∧
        (e.backend.receive place).capacity = e.backend.capacity ∧
        (e.backend.receive place).registry.lists = e.backend.registry.lists := by
      unfold Backend.receive
      split <;> exact ⟨rfl, rfl, rfl⟩
    exact silent kept.1 kept.2.1 rfl kept.2.2
  | frame f =>
    have kept : (e.onFrame f).1.backend.link = e.backend.link ∧
        (e.onFrame f).1.backend.capacity = e.backend.capacity ∧
        (e.onFrame f).1.filters = e.filters ∧
        (e.onFrame f).1.backend.registry.lists = e.backend.registry.lists := by
      rcases e.onFrameCases f with ⟨why, -, done⟩ | ⟨n, -, done⟩ <;> rw [done] <;>
        exact ⟨rfl, rfl, rfl, rfl⟩
    exact silent kept.1 kept.2.1 kept.2.2.1 kept.2.2.2
  | pass stage => cases stage with
    | emptying => cases quiet
    | guarding => cases quiet
    | _ => exact silent rfl rfl rfl rfl
  | start => exact silent rfl rfl rfl rfl
  | fail why => exact silent rfl rfl rfl rfl
  | panic => exact silent rfl rfl rfl rfl
  | subscribe u => cases quiet
  | cancel u id => cases quiet
  | release u id => cases quiet
  | control => cases quiet
  | fault cause => cases quiet

theorem guidedAct (h : e.Sound capacity) {a : Act} (healthy : ∀ cause, a ≠ .fault cause)
    (running : (e.act a).backend.exited = false) :
    (e.act a).Sound capacity ∧ Guided t capacity e a (e.act a) (verbs t (e.sends a)) := by
  have before : e.backend.exited = false ∧ a.retires = false := by
    simpa [(e.changes a).exitedAfter] using running
  cases quiet : a.quiet with
  | true =>
    obtain ⟨cmds, sent, others, filters, lists⟩ := e.quietAct quiet
    have live : (e.act a).live t = e.live t := congrArg (fun l => (l.get t).length) lists
    have other : a ≠ .subscribe t := fun same => by cases same ▸ quiet
    exact ⟨soundNext h sent (by rw [filters]), guidedStill sent (others t) (by simp [count, filters])
      (live ▸ Iff.rfl) fun same => absurd same other⟩
  | false =>
    cases a with
    | subscribe u => exact guidedSubscribe h before.1 u
    | cancel u id => exact guidedCancel h before.1 rfl (by simp)
    | release u id =>
      have shape : e.act (.release u id) = { e with backend := (e.backend.cancel u id).state } :=
        congrArg (fun b => { e with backend := b }) (e.backend.releaseState u id)
      exact guidedCancel h before.1 shape (by simp)
    | control => exact guidedControl h
    | fault cause => exact absurd rfl (healthy cause)
    | pass stage =>
      cases stage with
      | emptying => exact absurd before.2 (by decide)
      | guarding => exact absurd before.2 (by decide)
      | _ => cases quiet
    | _ => cases quiet

def due (e : Engine) (t : Topic) : Nat := if e.live t = 0 then 0 else 1

theorem dueNone (none : e.live t = 0) : e.due t = 0 := if_pos none

theorem dueSome (some : e.live t ≠ 0) : e.due t = 1 := if_neg some

theorem dueSame {next : Engine} (same : next.live t = 0 ↔ e.live t = 0) : next.due t = e.due t := by
  simp only [due, same]

structure Led (e : Engine) (t : Topic) (commanded : List Verb) : Prop where
  pending : (e.asked t).foldlM Verb.follow? (e.count t) = some (e.due t)
  sent : commanded.foldlM Verb.follow? 0 = some (e.due t)

theorem ledAct {a : Act} {next : Engine} {commanded told : List Verb} (h : e.Led t commanded)
    (guided : Guided t capacity e a next told)
    (able : t.canReserve capacity = true ∨ a ≠ .subscribe t) : next.Led t (commanded ++ told) := by
  obtain ⟨pending, sent⟩ := h
  cases guided with
  | kept count asked live =>
    rw [← dueSame live] at pending sent
    exact ⟨by rw [count, asked]; exact pending, (List.append_nil commanded).symm ▸ sent⟩
  | wanted _ _ count asked before after =>
    have first : Verb.follow? (e.due t) .subscribe = some (next.due t) := by
      rw [dueNone before, dueSome after]
      rfl
    exact ⟨by rw [count, asked]; exact Verb.followSnoc pending first, Verb.followSnoc sent first⟩
  | unwanted _ count asked before after =>
    have last : Verb.follow? (e.due t) .unsubscribe = some (next.due t) := by
      rw [dueSome before, dueNone after]
      rfl
    exact ⟨by rw [count, asked]; exact Verb.followSnoc pending last, Verb.followSnoc sent last⟩
  | read v _ asked count live =>
    -- the strict path fixes the count before the command, so nothing is truncated at zero
    rw [← dueSame (live ▸ Iff.rfl : next.live t = 0 ↔ e.live t = 0)] at pending sent
    rw [asked] at pending
    obtain ⟨k, first, rest⟩ := Verb.followCons pending
    refine ⟨?_, (List.append_nil commanded).symm ▸ sent⟩
    rw [count]
    rcases Verb.followCases first with ⟨was, rfl, rfl⟩ | ⟨was, rfl, rfl⟩ <;>
      simpa only [was] using rest
  | failed asks large =>
    rcases able with fits | other
    · cases large.symm.trans fits
    · exact absurd asks other

theorem openAct {acts : List Act} {a : Act}
    (live : (e.run (acts ++ [a])).backend.exited = false) :
    (e.run acts).backend.exited = false ∧ ((e.run acts).act a).backend.exited = false := by
  rw [runSnoc] at live
  have before := ((e.run acts).changes a).exitedAfter
  rw [live] at before
  exact ⟨(Bool.or_eq_false_iff.mp before.symm).1, live⟩

theorem soundRun {acts : List Act} (healthy : ∀ cause, .fault cause ∉ acts)
    (live : ((opening capacity .fresh).run acts).backend.exited = false) :
    ((opening capacity .fresh).run acts).Sound capacity := by
  induction acts using List.reverseRecOn with
  | nil => exact ⟨rfl, rfl, rfl, rfl⟩
  | append_singleton acts a ih =>
    obtain ⟨before, after⟩ := openAct live
    have sound := ih (fun cause given => healthy cause (List.mem_append_left _ given)) before
    rw [runSnoc]
    exact (guidedAct (t := .hashTx) sound (fun cause same => healthy cause (by simp [same])) after).1

theorem guidedRun {acts : List Act} {a : Act} (healthy : ∀ cause, .fault cause ∉ acts ++ [a])
    (live : ((opening capacity .fresh).run (acts ++ [a])).backend.exited = false) (t : Topic) :
    Guided t capacity ((opening capacity .fresh).run acts) a
      ((opening capacity .fresh).run (acts ++ [a]))
      (verbs t (((opening capacity .fresh).run acts).sends a)) := by
  obtain ⟨before, after⟩ := openAct live
  have sound := soundRun (fun cause given => healthy cause (List.mem_append_left _ given)) before
  rw [runSnoc]
  exact (guidedAct sound (fun cause same => healthy cause (by simp [same])) after).2

theorem verbsAppend (t : Topic) (first rest : List Frame) :
    verbs t (first ++ rest) = verbs t first ++ verbs t rest :=
  List.filterMap_append

theorem ledRun {acts : List Act} (healthy : ∀ cause, .fault cause ∉ acts)
    (live : ((opening capacity .fresh).run acts).backend.exited = false)
    (able : t.canReserve capacity = true ∨ .subscribe t ∉ acts) :
    ((opening capacity .fresh).run acts).Led t (verbs t ((opening capacity .fresh).sent acts)) := by
  induction acts using List.reverseRecOn with
  | nil => exact ⟨by cases t <;> rfl, by cases t <;> rfl⟩
  | append_singleton acts a ih =>
    have led := ih (fun cause given => healthy cause (List.mem_append_left _ given)) (openAct live).1
      (able.imp id fun never given => never (List.mem_append_left _ given))
    rw [sent, historySnoc, verbsAppend]
    exact ledAct led (guidedRun healthy live t)
      (able.imp id fun never same => never (by simp [same]))

theorem readsFit {commanded : List Verb} (h : e.Led t commanded) (a : Act) :
    ∀ r ∈ e.reads t a, r = (0, .subscribe) ∨ r = (1, .unsubscribe) := by
  intro r given
  cases a with
  | control =>
    obtain ⟨v, next, rfl⟩ := List.mem_map.mp given
    have path := h.pending
    unfold asked at path
    rw [← List.take_append_drop 1 e.backend.link.pending, verbsAppend] at path
    have one : verbs t (e.backend.link.pending.take 1) = [v] := by
      have short : (verbs t (e.backend.link.pending.take 1)).length ≤ 1 :=
        Nat.le_trans (List.length_filterMap_le _ _) (List.length_take_le 1 _)
      obtain ⟨first, rest, held⟩ := List.exists_cons_of_ne_nil (List.ne_nil_of_mem next)
      rw [held] at short next ⊢
      cases List.eq_nil_of_length_eq_zero (Nat.le_zero.mp (Nat.le_of_succ_le_succ short))
      rw [List.mem_singleton.mp next]
    rw [one] at path
    obtain ⟨k, first, -⟩ := Verb.followCons path
    rcases Verb.followCases first with ⟨was, rfl, -⟩ | ⟨was, rfl, -⟩ <;> simp [was]
  | _ => cases given

theorem readsFitRun {acts : List Act} (healthy : ∀ cause, .fault cause ∉ acts)
    (live : ((opening capacity .fresh).run acts).backend.exited = false)
    (able : t.canReserve capacity = true ∨ .subscribe t ∉ acts) :
    ∀ r ∈ (opening capacity .fresh).hasRead t acts, r = (0, .subscribe) ∨ r = (1, .unsubscribe) := by
  induction acts using List.reverseRecOn with
  | nil => exact List.forall_mem_nil _
  | append_singleton acts a ih =>
    have sane : ∀ cause, .fault cause ∉ acts := fun cause given =>
      healthy cause (List.mem_append_left _ given)
    have ableBefore : t.canReserve capacity = true ∨ .subscribe t ∉ acts :=
      able.imp id fun never given => never (List.mem_append_left _ given)
    intro r given
    rw [hasRead, historySnoc] at given
    rcases List.mem_append.mp given with old | new
    · exact ih sane (openAct live).1 ableBefore r old
    · exact readsFit (ledRun sane (openAct live).1 ableBefore) a r new

structure Unserved (e : Engine) (t : Topic) (calls : Nat) : Prop where
  none : e.live t = 0
  only : ∀ v ∈ e.asked t, v = .subscribe
  pending : e.count t + (e.asked t).length = calls

theorem unservedAct {a : Act} {next : Engine} {told : List Verb} {calls : Nat}
    (h : e.Unserved t calls) (guided : Guided t capacity e a next told)
    (large : t.canReserve capacity = false) :
    next.Unserved t (calls + [a].count (.subscribe t)) := by
  obtain ⟨none, only, pending⟩ := h
  cases guided with
  | kept count asked live quiet =>
    have other : [a].count (.subscribe t) = 0 :=
      List.count_eq_zero.mpr fun same => quiet (List.mem_singleton.mp same).symm none
    exact ⟨live.mpr none, asked ▸ only, by rw [count, asked, other]; exact pending⟩
  | wanted _ fits => cases large.symm.trans fits
  | unwanted _ _ _ before => exact absurd none before
  | read v reads asked count live =>
    subst reads
    have first := only v (asked ▸ List.mem_cons_self)
    subst first
    refine ⟨live.trans none, fun u given => only u (asked ▸ List.mem_cons_of_mem _ given), ?_⟩
    rw [asked, List.length_cons] at pending
    simp only [count, List.count_cons, List.count_nil]
    simp
    omega
  | failed asks _ count asked _ after =>
    subst asks
    refine ⟨after, fun u given => ?_, ?_⟩
    · rw [asked] at given
      rcases List.mem_append.mp given with old | new
      · exact only u old
      · exact List.mem_singleton.mp new
    · rw [count, asked, List.length_append]
      simp
      omega

theorem unservedRun {acts : List Act} (healthy : ∀ cause, .fault cause ∉ acts)
    (live : ((opening capacity .fresh).run acts).backend.exited = false)
    (large : t.canReserve capacity = false) :
    ((opening capacity .fresh).run acts).Unserved t (acts.count (.subscribe t)) := by
  induction acts using List.reverseRecOn with
  | nil =>
    have calm : (opening capacity .fresh).asked t = [] := rfl
    exact ⟨by cases t <;> rfl, by simp [run, Run.after, calm], by cases t <;> rfl⟩
  | append_singleton acts a ih =>
    have unserved := ih (fun cause given => healthy cause (List.mem_append_left _ given))
      (openAct live).1
    rw [List.count_append]
    exact unservedAct unserved (guidedRun healthy live t) large

structure Agrees (start : Engine) (acts : List Act) (t : Topic) : Prop where
  within : ∀ n, Verb.tally ((start.run acts).count t) (((start.run acts).asked t).take n) = 0 ∨
    Verb.tally ((start.run acts).count t) (((start.run acts).asked t).take n) = 1
  wanted : Verb.tally ((start.run acts).count t) ((start.run acts).asked t) = 1 ↔
    0 < (start.run acts).live t
  unwanted : Verb.tally ((start.run acts).count t) ((start.run acts).asked t) = 0 ↔
    (start.run acts).live t = 0
  alternate : Verb.Alternate (verbs t (start.sent acts))
  fits : ∀ r ∈ start.hasRead t acts, r = (0, .subscribe) ∨ r = (1, .unsubscribe)

/-- Before shutdown a topic's filter agrees with its list, unless a queue was asked for that cannot be
made. -/
theorem filtersAgreeExactly (capacity : Nat) (acts : List Act) (t : Topic)
    (healthy : ∀ cause, .fault cause ∉ acts)
    (live : ((opening capacity .fresh).run acts).backend.exited = false) :
    Agrees (opening capacity .fresh) acts t ↔
      t.canReserve capacity = true ∨ .subscribe t ∉ acts := by
  constructor
  · intro agrees
    by_contra both
    obtain ⟨large, asked⟩ := not_or.mp both
    obtain ⟨none, only, pending⟩ := unservedRun (t := t) healthy live (by simpa using large)
    have calls : 0 < acts.count (.subscribe t) := List.count_pos_iff.mpr (not_not.mp asked)
    have total := agrees.unwanted.mpr none
    rw [Verb.tallySubscribes _ only] at total
    omega
  · intro able
    obtain ⟨pending, sent⟩ := ledRun healthy live able
    have total := Verb.followTally pending
    have small : ((opening capacity .fresh).run acts).due t ≤ 1 := by
      unfold due
      split <;> omega
    refine ⟨Verb.followTake pending small, ?_, ?_, Verb.followAlternates sent,
      readsFitRun healthy live able⟩
    · rw [total, due]
      split <;> omega
    · rw [total, due]
      split <;> omega

theorem filtersAgreeBehind :
    let acts := [.subscribe .rawTx, .subscribe .rawTx, .control, .cancel .rawTx 0, .release .rawTx 1,
      .requestTerm, .subscribe .rawTx]
    ((opening 2 .fresh).run acts).asked .rawTx = [.unsubscribe, .subscribe] ∧
      Agrees (opening 2 .fresh) acts .rawTx := by
  intro acts
  have healthy : ∀ cause, .fault cause ∉ acts := by simp [acts]
  have live : ((opening 2 .fresh).run acts).backend.exited = false := by decide
  exact ⟨by decide, (filtersAgreeExactly 2 acts .rawTx healthy live).mpr (.inl (by decide))⟩

theorem filterWithoutQueue :
    ((opening 0x8000000000000000 .fresh).run [.subscribe .hashTx]).backend.exited = false ∧
      ¬ Agrees (opening 0x8000000000000000 .fresh) [.subscribe .hashTx] .hashTx := by
  refine ⟨by decide, fun agrees => ?_⟩
  have total := agrees.unwanted.mpr (by decide)
  exact absurd total (by decide)

end Engine
end NodeFeed
