import NodeFeed.Proofs.DropOldest

/-!
No reader sleeps through a change. The feeding side changes the queue first and rings for it later; a
poll of the reader looks at the queue, and if nothing is there it listens to the bell. Each of these is
a step of its own here, so a run is any order of them, with the reader's future kept over polls or
given up in between. What the reader was told, and when it was called, is read off the run.
-/

namespace NodeFeed

inductive Reading where
  | away
  | looking
  | listening
  deriving DecidableEq, Repr

structure Relay (α : Type) where
  channel : Channel α
  reader : Reading
  changes : Nat
  owed : List Nat
  looked : Nat
  deriving DecidableEq, Repr

namespace Relay

inductive Act (α : Type) where
  | push (a : α)
  | close
  | ring (change : Nat)
  | poll
  | look
  | listen
  | leave
  | tryRecv
  deriving DecidableEq, Repr

inductive Said (α : Type) where
  | started
  | answered (answer : Poll α)
  | called
  | left
  deriving DecidableEq, Repr

variable {α : Type}

def withQueue (r : Relay α) (queue : Queue α) : Relay α :=
  { r with channel := { r.channel with queue } }

def withBell (r : Relay α) (bell : Bell) : Relay α := { r with channel := { r.channel with bell } }

def changed (r : Relay α) (queue : Queue α) : Relay α :=
  { r.withQueue queue with changes := r.changes + 1, owed := r.owed ++ [r.changes] }

def perform (r : Relay α) : Act α → List (Said α) × Relay α
  | .push a =>
    match r.channel.queue.push a with
    | (.closed, _) => ([], r)
    | (_, queue) => ([], r.changed queue)
  | .close =>
    match r.channel.queue.close with
    | (true, queue) => ([], r.changed queue)
    | (false, _) => ([], r)
  | .ring k =>
    if k ∈ r.owed then
      (if r.channel.bell.waiter = .waiting then [.called] else [],
        { r with channel := r.channel.ring, owed := r.owed.erase k })
    else ([], r)
  | .poll =>
    if r.reader = .away then
      match r.channel.bell.resume? with
      | none => ([.started, .answered .pending], r)
      | some bell => ([.started], { r.withBell bell with reader := .looking })
    else ([], r)
  | .look =>
    if r.reader = .looking then
      match r.channel.queue.poll with
      | (.pending, _) => ([], { r with reader := .listening, looked := r.changes })
      | (answer, queue) => ([.answered answer], { r.withQueue queue with reader := .away })
    else ([], r)
  | .listen =>
    if r.reader = .listening then
      match r.channel.bell.listen with
      | (true, bell) => ([], { r.withBell bell with reader := .looking })
      | (false, bell) => ([.answered .pending], { r.withBell bell with reader := .away })
    else ([], r)
  | .leave => if r.reader = .away then ([.left], { r with channel := r.channel.leave }) else ([], r)
  | .tryRecv =>
    if r.reader = .away then ([], { r with channel := r.channel.tryRecv.2 }) else ([], r)

def act (r : Relay α) (a : Act α) : Relay α := (r.perform a).2

def run (r : Relay α) (acts : List (Act α)) : Relay α := Run.after act r acts

def said (r : Relay α) (acts : List (Act α)) : List (Said α) :=
  Run.told act (fun r a => (r.perform a).1) r acts

def opened (capacity : Nat) : Relay α := ⟨.make capacity, .away, 0, [], 0⟩

def heed : Option Bool → Said α → Option Bool
  | _, .answered .pending => some false
  | _, .started | _, .answered _ | _, .left => none
  | parked, .called => parked.map fun _ => true

def parked? (said : List (Said α)) : Option Bool := said.foldl heed none

inductive Steps (r : Relay α) : List (Said α) → Relay α → Prop where
  | still : Steps r [] r
  | changed (queue : Queue α) : Steps r [] (r.changed queue)
  | rung (k : Nat) (owed : k ∈ r.owed) :
      Steps r (if r.channel.bell.waiter = .waiting then [.called] else [])
        { r with channel := r.channel.ring, owed := r.owed.erase k }
  | waits (away : r.reader = .away) (parked : r.channel.bell.waiter = .waiting) :
      Steps r [.started, .answered .pending] r
  | starts (away : r.reader = .away) (free : r.channel.bell.waiter ≠ .waiting) :
      Steps r [.started]
        { r.withBell { r.channel.bell with waiter := .absent } with reader := .looking }
  | nothing (looking : r.reader = .looking) (empty : r.channel.queue.buffer = [])
      (opened : r.channel.queue.closed = false) :
      Steps r [] { r with reader := .listening, looked := r.changes }
  | found (looking : r.reader = .looking) (answer : Poll α) (queue : Queue α)
      (some : answer ≠ .pending) :
      Steps r [.answered answer] { r.withQueue queue with reader := .away }
  | again (listening : r.reader = .listening) :
      Steps r [] { r.withBell { r.channel.bell with permit := false } with reader := .looking }
  | parks (listening : r.reader = .listening) (none : r.channel.bell.permit = false) :
      Steps r [.answered .pending]
        { r.withBell ⟨false, .waiting⟩ with reader := .away }
  | leaves (away : r.reader = .away) : Steps r [.left] { r with channel := r.channel.leave }
  | takes (away : r.reader = .away) (queue : Queue α)
      (closed : queue.closed = r.channel.queue.closed)
      (fewer : r.channel.queue.buffer = [] → queue.buffer = []) : Steps r [] (r.withQueue queue)

theorem resumed (b : Bell) :
    (b.waiter = .waiting ∧ b.resume? = none) ∨
      (b.waiter ≠ .waiting ∧ b.resume? = some { b with waiter := .absent }) := by
  unfold Bell.resume?
  cases b.waiter <;> simp

theorem steps (r : Relay α) (a : Act α) : r.Steps (r.perform a).1 (r.act a) := by
  unfold act
  cases a with
  | push a =>
    rcases r.channel.queue.pushCases a with ⟨-, done⟩ | ⟨-, -, done⟩ | ⟨-, -, done⟩
    · simpa only [perform, done] using .still
    · simpa only [perform, done] using .changed _
    · simpa only [perform, done] using .changed _
  | close =>
    simp only [perform, Queue.close]
    cases r.channel.queue.closed with
    | true => exact .still
    | false => exact .changed _
  | ring k =>
    simp only [perform]
    split
    case isTrue owed => exact .rung k owed
    case isFalse => exact .still
  | poll =>
    simp only [perform]
    split
    case isTrue away =>
      rcases resumed r.channel.bell with ⟨parked, done⟩ | ⟨free, done⟩
      · simpa only [done] using .waits away parked
      · simpa only [done] using .starts away free
    case isFalse => exact .still
  | look =>
    simp only [perform]
    split
    case isTrue looking =>
      rcases r.channel.queue.pollCases with ⟨a, rest, -, done⟩ | ⟨-, -, done⟩ | ⟨empty, opened, done⟩
      · simpa only [done] using .found looking _ _ (by simp)
      · simpa only [done] using .found looking _ _ (by simp)
      · simpa only [done] using .nothing looking empty opened
    case isFalse => exact .still
  | listen =>
    simp only [perform, Bell.listen]
    split
    case isTrue listening =>
      cases permit : r.channel.bell.permit with
      | true => exact .again listening
      | false => exact .parks listening permit
    case isFalse => exact .still
  | leave =>
    simp only [perform]
    split
    case isTrue away => exact .leaves away
    case isFalse => exact .still
  | tryRecv =>
    simp only [perform]
    split
    case isTrue away =>
      rcases r.channel.tryRecvCases with ⟨a, rest, held, done⟩ | ⟨empty, done⟩
      · rw [done]
        exact .takes away _ rfl fun empty => by cases held.symm.trans empty
      · rw [done]
        exact .still
    case isFalse => exact .still

def parkedAt (reader : Reading) (waiter : Waiter) : Option Bool :=
  match reader, waiter with
  | .away, .waiting => some false
  | .away, .woken => some true
  | _, _ => none

structure Heeds (r : Relay α) (said : List (Said α)) : Prop where
  parked : parked? said = parkedAt r.reader r.channel.bell.waiter
  polling : r.reader ≠ .away → r.channel.bell.waiter = .absent
  fresh : ∀ k ∈ r.owed, k < r.changes
  seen : r.looked ≤ r.changes
  unrung : r.channel.bell.waiter = .waiting ∨ (r.reader = .listening ∧ r.channel.bell.permit = false) →
    ∀ k, r.looked ≤ k → k < r.changes → k ∈ r.owed
  nothing : r.channel.bell.waiter = .waiting ∨ r.reader = .listening → r.looked = r.changes →
    r.channel.queue.buffer = [] ∧ r.channel.queue.closed = false

theorem parkedSaid (said more : List (Said α)) : parked? (said ++ more) = more.foldl heed (parked? said) :=
  List.foldl_append

theorem rungWaiter (b : Bell) :
    (b.waiter = .waiting ∧ b.ring = { b with waiter := .woken }) ∨
      (b.waiter ≠ .waiting ∧ b.ring = { b with permit := true }) := by
  unfold Bell.ring
  cases b.waiter <;> simp

theorem leftWaiter (b : Bell) : b.leave.waiter = .absent := by
  unfold Bell.leave
  cases absent : b.waiter <;> simp [absent]

namespace Heeds

variable {r next : Relay α} {said more : List (Said α)}

theorem rung (h : r.Heeds said) (k : Nat) :
    Heeds { r with channel := r.channel.ring, owed := r.owed.erase k }
      (said ++ if r.channel.bell.waiter = .waiting then [.called] else []) := by
  obtain ⟨parked, polling, fresh, seen, unrung, nothing⟩ := h
  have older : ∀ j ∈ r.owed.erase k, j < r.changes := fun j owed => fresh j (List.mem_of_mem_erase owed)
  rcases rungWaiter r.channel.bell with ⟨waits, done⟩ | ⟨free, done⟩
  · have away : r.reader = .away := by
      by_contra busy
      cases waits.symm.trans (polling busy)
    refine ⟨?_, fun busy => absurd away busy, older, seen, ?_, ?_⟩
    · simp [waits, parkedSaid, parked, Channel.ring, done, parkedAt, away, heed]
    · simp [Channel.ring, done, away]
    · simp [Channel.ring, done, away]
  · refine ⟨?_, ?_, older, seen, ?_, ?_⟩
    · simpa [free, Channel.ring, done] using parked
    · simpa [Channel.ring, done] using polling
    · simp [Channel.ring, done, free]
    · simpa [Channel.ring, done, free] using nothing

theorem step (h : r.Heeds said) (steps : r.Steps more next) : next.Heeds (said ++ more) := by
  cases steps with
  | still => exact (List.append_nil said).symm ▸ h
  | changed queue =>
    obtain ⟨parked, polling, fresh, seen, unrung, nothing⟩ := h
    rw [List.append_nil]
    refine ⟨parked, polling, ?_, Nat.le_succ_of_le seen, ?_, ?_⟩
    · intro k owed
      rcases List.mem_append.mp owed with old | new
      · exact Nat.lt_succ_of_lt (fresh k old)
      · cases List.mem_singleton.mp new
        exact Nat.lt_succ_self _
    · intro deaf k from_ before
      rcases Nat.lt_succ_iff_lt_or_eq.mp before with old | rfl
      · exact List.mem_append_left _ (unrung deaf k from_ old)
      · exact List.mem_append_right _ (List.mem_singleton_self _)
    · intro _ same
      exact absurd same (Nat.ne_of_lt (Nat.lt_succ_of_le seen))
  | rung k => exact h.rung k
  | waits away waits =>
    obtain ⟨parked, polling, fresh, seen, unrung, nothing⟩ := h
    refine ⟨?_, polling, fresh, seen, unrung, nothing⟩
    simp [parkedSaid, heed, parkedAt, away, waits]
  | starts away free =>
    obtain ⟨parked, polling, fresh, seen, unrung, nothing⟩ := h
    refine ⟨?_, fun _ => rfl, fresh, seen, ?_, ?_⟩
    · simp [parkedSaid, heed, parkedAt]
    · simp [withBell]
    · simp [withBell]
  | nothing looking empty opened =>
    obtain ⟨parked, polling, fresh, seen, unrung, nothing⟩ := h
    have absent := polling (by simp [looking])
    refine ⟨?_, fun _ => absent, fresh, Nat.le_refl _, ?_, fun _ _ => ⟨empty, opened⟩⟩
    · simpa [parkedAt, looking] using parked
    · exact fun _ k from_ before => absurd before (Nat.not_lt.mpr from_)
  | found looking answer queue some =>
    obtain ⟨parked, polling, fresh, seen, unrung, nothing⟩ := h
    have absent := polling (by simp [looking])
    refine ⟨?_, fun busy => absurd rfl busy, fresh, seen, ?_, ?_⟩
    · cases answer with
      | pending => exact absurd rfl some
      | ready a => simp [parkedSaid, heed, parkedAt, withQueue, absent]
      | closed => simp [parkedSaid, heed, parkedAt, withQueue, absent]
    · simp [withQueue, absent]
    · simp [withQueue, absent]
  | again listening =>
    obtain ⟨parked, polling, fresh, seen, unrung, nothing⟩ := h
    have absent := polling (by simp [listening])
    refine ⟨?_, fun _ => absent, fresh, seen, ?_, ?_⟩
    · simpa [parkedAt, listening] using parked
    · simp [withBell, absent]
    · simp [withBell, absent]
  | parks listening silent =>
    obtain ⟨parked, polling, fresh, seen, unrung, nothing⟩ := h
    refine ⟨?_, fun busy => absurd rfl busy, fresh, seen, ?_, ?_⟩
    · simp [parkedSaid, heed, parkedAt, withBell]
    · exact fun _ => unrung (.inr ⟨listening, silent⟩)
    · exact fun _ => nothing (.inr listening)
  | leaves away =>
    obtain ⟨parked, polling, fresh, seen, unrung, nothing⟩ := h
    have absent : r.channel.leave.bell.waiter = .absent := leftWaiter _
    refine ⟨?_, fun busy => absurd away busy, fresh, seen, ?_, ?_⟩
    · simp [parkedSaid, heed, parkedAt, absent, away]
    · simp [absent, away]
    · simp [absent, away]
  | takes away queue closed fewer =>
    obtain ⟨parked, polling, fresh, seen, unrung, nothing⟩ := h
    rw [List.append_nil]
    refine ⟨parked, polling, fresh, seen, unrung, ?_⟩
    intro deaf same
    obtain ⟨empty, opened⟩ := nothing deaf same
    exact ⟨fewer empty, closed.trans opened⟩

end Heeds

theorem runSnoc (r : Relay α) (acts : List (Act α)) (a : Act α) :
    r.run (acts ++ [a]) = (r.run acts).act a :=
  Run.afterSnoc r acts a

theorem saidSnoc (r : Relay α) (acts : List (Act α)) (a : Act α) :
    r.said (acts ++ [a]) = r.said acts ++ ((r.run acts).perform a).1 :=
  Run.toldSnoc r acts a

theorem heedsRun (capacity : Nat) (acts : List (Act α)) :
    ((opened capacity).run acts).Heeds ((opened capacity).said acts) := by
  induction acts using List.reverseRecOn with
  | nil => exact ⟨rfl, fun _ => rfl, by simp [run, Run.after, opened], Nat.le_refl _,
      by simp [run, Run.after, opened, Channel.make, Bell.silent],
      by simp [run, Run.after, opened, Channel.make, Bell.silent]⟩
  | append_singleton acts a ih =>
    rw [runSnoc, saidSnoc]
    exact ih.step (((opened capacity).run acts).steps a)

def Unrung (r : Relay α) : Prop :=
  r.looked < r.changes ∧ ∀ k, r.looked ≤ k → k < r.changes → k ∈ r.owed

theorem rungAttended {r : Relay α} {said : List (Said α)} (h : r.Heeds said) (rung : r.owed = []) :
    r.channel.Attended := by
  have nothing (waits : r.channel.bell.waiter = .waiting) :
      r.channel.queue.buffer = [] ∧ r.channel.queue.closed = false := by
    refine h.nothing (.inl waits) (Nat.le_antisymm h.seen (Nat.not_lt.mp fun later => ?_))
    have owed := h.unrung (.inl waits) r.looked (Nat.le_refl _) later
    rw [rung] at owed
    cases owed
  exact ⟨fun waits => (nothing waits).1, fun waits => (nothing waits).2⟩

theorem pushWhole (r : Relay α) (fresh : r.changes ∉ r.owed) (a : α) :
    (r.run [.push a, .ring r.changes]).channel = (r.channel.push a).2 := by
  rcases r.channel.queue.pushCases a with ⟨-, done⟩ | ⟨-, -, done⟩ | ⟨-, -, done⟩ <;>
    simp [run, Run.after, act, perform, Channel.push, done, changed, withQueue, fresh, Channel.ring]

theorem closeWhole (r : Relay α) (fresh : r.changes ∉ r.owed) :
    (r.run [.close, .ring r.changes]).channel = r.channel.close.2 := by
  rcases r.channel.closeCases with ⟨closed, done⟩ | ⟨opened, done⟩
  · simp [run, Run.after, act, perform, Queue.close, done, closed, fresh]
  · simp [run, Run.after, act, perform, Queue.close, done, opened, changed, withQueue, Channel.ring]

def round : List (Act α) := [.look, .listen]

def rounds : List (Act α) := .poll :: (round ++ round)

structure Ends (r : Relay α) (acts : List (Act α)) (said : List (Said α)) (reader : Reading)
    (channel : Channel α) : Prop where
  said : r.said acts = said
  reader : (r.run acts).reader = reader
  channel : (r.run acts).channel = channel

variable {r : Relay α}

theorem Ends.append {first rest : List (Act α)} {said more : List (Said α)} {reader last : Reading}
    {c d : Channel α} (h : r.Ends first said reader c) (later : (r.run first).Ends rest more last d) :
    r.Ends (first ++ rest) (said ++ more) last d where
  said := by rw [← h.said, ← later.said]; exact Run.toldAppend r first rest
  reader := by rw [← later.reader]; exact congrArg Relay.reader (Run.afterAppend r first rest)
  channel := by rw [← later.channel]; exact congrArg Relay.channel (Run.afterAppend r first rest)

theorem idleRound (away : r.reader = .away) : r.Ends round [] .away r.channel := by
  constructor <;> simp [round, said, run, Run.told, Run.after, act, perform, away]

theorem roundDone (looking : r.reader = .looking) {answer : Poll α} {d : Channel α}
    (turned : r.channel.turn = .done answer d) : r.Ends round [.answered answer] .away d := by
  rcases r.channel.queue.pollCases with
    ⟨a, rest, -, polled⟩ | ⟨-, -, polled⟩ | ⟨-, -, polled⟩
  · simp only [Channel.turn, polled, Turn.done.injEq] at turned
    obtain ⟨rfl, rfl⟩ := turned
    constructor <;>
      simp [round, said, run, Run.told, Run.after, act, perform, looking, polled, withQueue]
  · simp only [Channel.turn, polled, Turn.done.injEq] at turned
    obtain ⟨rfl, rfl⟩ := turned
    constructor <;>
      simp [round, said, run, Run.told, Run.after, act, perform, looking, polled, withQueue]
  · cases permit : r.channel.bell.permit with
    | true => simp [Channel.turn, polled, Bell.listen, permit] at turned
    | false =>
      simp only [Channel.turn, polled, Bell.listen, permit, Bool.false_eq_true, if_false,
        Turn.done.injEq] at turned
      obtain ⟨rfl, rfl⟩ := turned
      constructor <;>
        simp [round, said, run, Run.told, Run.after, act, perform, looking, polled, Bell.listen,
          permit, withBell]

theorem roundAgain (looking : r.reader = .looking) {d : Channel α}
    (turned : r.channel.turn = .again d) : r.Ends round [] .looking d := by
  rcases r.channel.queue.pollCases with
    ⟨a, rest, -, polled⟩ | ⟨-, -, polled⟩ | ⟨-, -, polled⟩
  · simp [Channel.turn, polled] at turned
  · simp [Channel.turn, polled] at turned
  · cases permit : r.channel.bell.permit with
    | false => simp [Channel.turn, polled, Bell.listen, permit] at turned
    | true =>
      simp only [Channel.turn, polled, Bell.listen, permit, if_true, Turn.again.injEq] at turned
      subst turned
      constructor <;>
        simp [round, said, run, Run.told, Run.after, act, perform, looking, polled, Bell.listen,
          permit, withBell]

theorem spentEnds {c : Channel α} (spent : c.bell.permit = false) :
    ∃ answer d, c.turn = .done answer d := by
  cases turned : c.turn with
  | done answer d => exact ⟨answer, d, rfl⟩
  | again d => cases spent.symm.trans (Channel.againSpendsPermit turned).1

theorem twoRounds (looking : r.reader = .looking) :
    r.Ends (round ++ round) [.answered r.channel.turns.1] .away r.channel.turns.2 := by
  cases turned : r.channel.turn with
  | done answer d =>
    have first := roundDone looking turned
    rw [Channel.turnsDone turned]
    simpa [first.channel] using first.append (idleRound first.reader)
  | again d =>
    have first := roundAgain looking turned
    obtain ⟨answer, last, ended⟩ := spentEnds (Channel.againSpendsPermit turned).2
    rw [Channel.turnsAgain turned, Channel.turnsDone ended]
    exact first.append (roundDone first.reader (first.channel ▸ ended))

theorem roundsPoll (away : r.reader = .away) :
    r.Ends rounds [.started, .answered r.channel.poll.1] .away r.channel.poll.2 := by
  have split : (rounds : List (Act α)) = [.poll] ++ (round ++ round) := rfl
  rw [split]
  rcases resumed r.channel.bell with ⟨-, none⟩ | ⟨-, resumes⟩
  · have first : r.Ends [.poll] [.started, .answered .pending] .away r.channel := by
      constructor <;> simp [said, run, Run.told, Run.after, act, perform, away, none]
    have idle := idleRound first.reader
    have polls : r.channel.poll = (.pending, r.channel) := by simp [Channel.poll, none]
    rw [polls]
    simpa [idle.channel, first.channel] using first.append (idle.append (idleRound idle.reader))
  · have first : r.Ends [.poll] [.started] .looking
        { r.channel with bell := { r.channel.bell with waiter := .absent } } := by
      constructor <;> simp [said, run, Run.told, Run.after, act, perform, away, resumes, withBell]
    have polls : r.channel.poll = (r.run [.poll]).channel.turns := by
      rw [first.channel]
      simp [Channel.poll, resumes]
    rw [polls]
    exact first.append (twoRounds first.reader)

def pollOf : Except RecvError α → Poll α
  | .ok a => .ready a
  | .error .closed => .closed
  | .error .empty => .pending

structure PollsHead (c : Channel α) : Prop where
  ready : ∀ a, c.poll.1 = .ready a ↔ c.queue.buffer.head? = some a
  closed : c.poll.1 = .closed ↔ c.queue.buffer = [] ∧ c.queue.closed = true
  pending : c.poll.1 = .pending ↔ c.queue.buffer = [] ∧ c.queue.closed = false
  agrees : c.poll.1 = pollOf c.tryRecv.1
  takes : c.poll.2.queue = c.tryRecv.2.queue

theorem pollsHead {c : Channel α} (attended : c.Attended) : PollsHead c := by
  rcases c.pollSteps with
    ⟨waiting, polled⟩ | ⟨a, rest, bell, held, -, polled⟩ | ⟨bell, empty, closed, -, polled⟩ |
      ⟨bell, empty, opened, polled⟩
  · have empty := attended.empty waiting
    have opened := attended.opened waiting
    constructor <;> simp [polled, empty, opened, Channel.tryRecv, Queue.tryRecv, pollOf]
  · constructor <;> simp [polled, held, Channel.tryRecv, Queue.tryRecv, pollOf]
  · constructor <;> simp [polled, empty, closed, Channel.tryRecv, Queue.tryRecv, pollOf]
  · constructor <;> simp [polled, empty, opened, Channel.tryRecv, Queue.tryRecv, pollOf]

structure NoLostWakeup (α : Type) (capacity : Nat) : Prop where
  called : ∀ (acts : List (Act α)) called, parked? ((opened capacity).said acts) = some called →
    ((opened capacity).run acts).channel.queue.buffer ≠ [] ∨
        ((opened capacity).run acts).channel.queue.closed = true →
      called = true ∨ ((opened capacity).run acts).Unrung
  fresh : ∀ r : Relay α, r.reader = .away → r.channel.bell.waiter ≠ .waiting →
    r.Ends rounds [.started, .answered r.channel.poll.1] .away r.channel.poll.2 ∧
      PollsHead r.channel
  parked : ∀ acts : List (Act α), ((opened capacity).run acts).reader = .away →
    ((opened capacity).run acts).owed = [] →
      ((opened capacity).run acts).Ends rounds
          [.started, .answered ((opened capacity).run acts).channel.poll.1] .away
          ((opened capacity).run acts).channel.poll.2 ∧
        PollsHead ((opened capacity).run acts).channel

theorem noLostWakeup (α : Type) (capacity : Nat) : NoLostWakeup α capacity where
  called acts called parked change := by
    have h := heedsRun capacity acts
    generalize (opened capacity).run acts = r at h change
    have at_ := h.parked.symm.trans parked
    cases called with
    | true => exact .inl rfl
    | false =>
      have waits : r.channel.bell.waiter = .waiting := by
        cases reader : r.reader <;> cases waiter : r.channel.bell.waiter <;>
          simp [parkedAt, reader, waiter] at at_ ⊢
      refine .inr ⟨Nat.lt_of_le_of_ne h.seen fun same => ?_, h.unrung (.inl waits)⟩
      obtain ⟨empty, opened⟩ := h.nothing (.inl waits) same
      rcases change with held | closed
      · exact held empty
      · cases opened.symm.trans closed
  fresh r away free :=
    ⟨roundsPoll away, pollsHead ⟨fun waits => absurd waits free, fun waits => absurd waits free⟩⟩
  parked acts away rung :=
    ⟨roundsPoll away, pollsHead (rungAttended (heedsRun capacity acts) rung)⟩

theorem parkedBetweenLookAndBell :
    parked? ((opened 1).said [.poll, .look, .push 7, .listen]) = some false ∧
      ((opened 1).run [.poll, .look, .push 7, .listen]).channel.queue.buffer = [7] ∧
      ((opened 1).run [.poll, .look, .push 7, .listen]).Unrung ∧
      parked? ((opened 1).said [.poll, .look, .push 7, .listen, .ring 0]) = some true := by
  have parked : parked? ((opened 1).said [.poll, .look, .push 7, .listen]) = some false := by decide
  have held : ((opened 1).run [.poll, .look, .push 7, .listen]).channel.queue.buffer = [7] := by decide
  refine ⟨parked, held, ?_, by decide⟩
  rcases (noLostWakeup Nat 1).called _ false parked (.inl (by simp [held])) with called | unrung
  · cases called
  · exact unrung

end Relay
end NodeFeed
