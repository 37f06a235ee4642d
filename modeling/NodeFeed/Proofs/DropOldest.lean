import NodeFeed.Queue.Waiting
import NodeFeed.Proofs.Run

/-!
The law of one consumer's queue, over every interleaving of pushes, receives and the close. What was
accepted, what was given to the consumer and what was displaced are read off the answers alone; the
buffer is then always the newest end of what was accepted, and what is missing in front of it was
either received or displaced. A receive gives the oldest event buffered and leaves the rest, so that
the receives after the close read the buffer out in order and then tell the end.
-/

namespace NodeFeed

/-- What so many looks at a closed queue tell: what it holds, and from then on its end. -/
def Queue.readOut {α : Type} (buffer : List α) (looks : Nat) : List (Option α) :=
  (buffer.take looks).map some ++ List.replicate (looks - buffer.length) none

namespace Channel

variable {α : Type}

inductive Act (α : Type) where
  | push (a : α)
  | close
  | tryRecv
  | poll
  | leave
  deriving DecidableEq, Repr

def Act.receives : Act α → Bool
  | tryRecv | poll => true
  | push _ | close | leave => false

inductive Answer (α : Type) where
  | pushed (a : α) (outcome : Push)
  | closed (first : Bool)
  | received (answer : Except RecvError α)
  | polled (answer : Poll α)
  | left

namespace Answer

def accepted? : Answer α → Option α
  | pushed a .delivered | pushed a .displacedOldest => some a
  | _ => none

def taken? : Answer α → Option α
  | received (.ok a) | polled (.ready a) => some a
  | _ => none

def receipt? : Answer α → Option (Option α)
  | received (.ok a) | polled (.ready a) => some (some a)
  | received (.error .closed) | polled .closed => some none
  | _ => none

def displaces : Answer α → Bool
  | pushed _ .displacedOldest => true
  | _ => false

def tellsEnd : Answer α → Bool
  | received (.error .closed) | polled .closed => true
  | _ => false

end Answer

def accepted (told : List (Answer α)) : List α := told.filterMap Answer.accepted?

def taken (told : List (Answer α)) : List α := told.filterMap Answer.taken?

def receipts (told : List (Answer α)) : List (Option α) := told.filterMap Answer.receipt?

def displaced (told : List (Answer α)) : Nat := told.countP Answer.displaces

def perform (c : Channel α) : Act α → Answer α × Channel α
  | .push a => let (outcome, c) := c.push a; (.pushed a outcome, c)
  | .close => let (first, c) := c.close; (.closed first, c)
  | .tryRecv => let (answer, c) := c.tryRecv; (.received answer, c)
  | .poll => let (answer, c) := c.poll; (.polled answer, c)
  | .leave => (.left, c.leave)

def act (c : Channel α) (a : Act α) : Channel α := (c.perform a).2

def run (c : Channel α) (acts : List (Act α)) : Channel α := Run.after act c acts

def answers (c : Channel α) (acts : List (Act α)) : List (Answer α) :=
  Run.told act (fun c a => [(c.perform a).1]) c acts

theorem runSnoc (c : Channel α) (acts : List (Act α)) (a : Act α) :
    c.run (acts ++ [a]) = (c.run acts).act a :=
  Run.afterSnoc c acts a

theorem answersSnoc (c : Channel α) (acts : List (Act α)) (a : Act α) :
    c.answers (acts ++ [a]) = c.answers acts ++ [((c.run acts).perform a).1] :=
  Run.toldSnoc c acts a

theorem performPush {c d : Channel α} {a : α} {outcome : Push} (h : c.push a = (outcome, d)) :
    c.perform (.push a) = (.pushed a outcome, d) := by
  simp only [perform, h]

theorem performClose {c d : Channel α} {first : Bool} (h : c.close = (first, d)) :
    c.perform .close = (.closed first, d) := by
  simp only [perform, h]

theorem performTryRecv {c d : Channel α} {answer : Except RecvError α}
    (h : c.tryRecv = (answer, d)) : c.perform .tryRecv = (.received answer, d) := by
  simp only [perform, h]

theorem performPoll {c d : Channel α} {answer : Poll α} (h : c.poll = (answer, d)) :
    c.perform .poll = (.polled answer, d) := by
  simp only [perform, h]

structure Attended (c : Channel α) : Prop where
  empty : c.bell.waiter = .waiting → c.queue.buffer = []
  opened : c.bell.waiter = .waiting → c.queue.closed = false

theorem ringWakes (c : Channel α) : c.ring.bell.waiter ≠ .waiting := by
  unfold ring Bell.ring
  cases c.bell.waiter <;> simp

theorem pollSteps (c : Channel α) :
    (c.bell.waiter = .waiting ∧ c.poll = (.pending, c)) ∨
    (∃ a rest bell, c.queue.buffer = a :: rest ∧ bell.waiter = .absent ∧
      c.poll = (.ready a, ⟨{ c.queue with buffer := rest }, bell⟩)) ∨
    (∃ bell, c.queue.buffer = [] ∧ c.queue.closed = true ∧ bell.waiter = .absent ∧
      c.poll = (.closed, ⟨c.queue, bell⟩)) ∨
    (∃ bell, c.queue.buffer = [] ∧ c.queue.closed = false ∧ c.poll = (.pending, ⟨c.queue, bell⟩)) := by
  have looks (h : c.bell.waiter ≠ .waiting) :
      c.poll = turns { c with bell := { c.bell with waiter := .absent } } := by
    unfold poll Bell.resume?
    cases place : c.bell.waiter <;> simp_all
  by_cases parked : c.bell.waiter = .waiting
  · exact .inl ⟨parked, by simp [poll, Bell.resume?, parked]⟩
  · rw [looks parked]
    rcases turnsCases { c with bell := { c.bell with waiter := .absent } } with
      ⟨a, rest, held, turned⟩ | ⟨empty, closed, turned⟩ | ⟨empty, opened, turned⟩
    · exact .inr (.inl ⟨a, rest, _, held, rfl, turned⟩)
    · exact .inr (.inr (.inl ⟨_, empty, closed, rfl, turned⟩))
    · exact .inr (.inr (.inr ⟨_, empty, opened, turned⟩))

theorem acceptedSnoc (told : List (Answer α)) (x : Answer α) :
    accepted (told ++ [x]) = accepted told ++ x.accepted?.toList := by
  cases h : x.accepted? <;> simp [accepted, h]

theorem takenSnoc (told : List (Answer α)) (x : Answer α) :
    taken (told ++ [x]) = taken told ++ x.taken?.toList := by
  cases h : x.taken? <;> simp [taken, h]

theorem displacedSnoc (told : List (Answer α)) (x : Answer α) :
    displaced (told ++ [x]) = displaced told + x.displaces.toNat := by
  cases h : x.displaces <;> simp [displaced, h]

structure Balanced (room : Nat) (told : List (Answer α)) (c : Channel α) : Prop where
  capacity : c.queue.capacity = room
  bounded : c.queue.buffer.length ≤ room
  newest : c.queue.buffer <:+ accepted told
  kept : (taken told ++ c.queue.buffer).Sublist (accepted told)
  counted : (accepted told).length = (taken told).length + c.queue.buffer.length + displaced told

namespace Balanced

variable {room : Nat} {told : List (Answer α)} {c d : Channel α} {x : Answer α}

theorem still (b : Balanced room told c) (capacity : d.queue.capacity = c.queue.capacity)
    (buffer : d.queue.buffer = c.queue.buffer) (accepts : x.accepted? = none)
    (takes : x.taken? = none) (displaces : x.displaces = false) : Balanced room (told ++ [x]) d := by
  obtain ⟨hc, hb, hn, hk, hs⟩ := b
  constructor
  · exact capacity.trans hc
  · rw [buffer]
    exact hb
  · simpa [acceptedSnoc, accepts, buffer] using hn
  · simpa [acceptedSnoc, takenSnoc, accepts, takes, buffer] using hk
  · simpa [acceptedSnoc, takenSnoc, displacedSnoc, accepts, takes, displaces, buffer] using hs

theorem take (b : Balanced room told c) {a : α} {rest : List α} (held : c.queue.buffer = a :: rest)
    (capacity : d.queue.capacity = c.queue.capacity) (buffer : d.queue.buffer = rest)
    (accepts : x.accepted? = none) (takes : x.taken? = some a) (displaces : x.displaces = false) :
    Balanced room (told ++ [x]) d := by
  obtain ⟨hc, hb, hn, hk, hs⟩ := b
  rw [held] at hb hn hk hs
  simp only [List.length_cons] at hb hs
  constructor
  · exact capacity.trans hc
  · rw [buffer]
    omega
  · simpa [acceptedSnoc, accepts, buffer] using (List.suffix_cons a rest).trans hn
  · simpa [acceptedSnoc, takenSnoc, accepts, takes, buffer] using hk
  · simp only [acceptedSnoc, takenSnoc, displacedSnoc, accepts, takes, displaces, buffer,
      List.length_append, Option.toList_none, Option.toList_some, List.length_nil,
      List.length_singleton, Bool.toNat_false]
    omega

theorem append (b : Balanced room told c) {a : α} (space : c.queue.buffer.length < c.queue.capacity)
    (capacity : d.queue.capacity = c.queue.capacity) (buffer : d.queue.buffer = c.queue.buffer ++ [a])
    (accepts : x.accepted? = some a) (takes : x.taken? = none) (displaces : x.displaces = false) :
    Balanced room (told ++ [x]) d := by
  obtain ⟨hc, hb, ⟨front, hn⟩, hk, hs⟩ := b
  constructor
  · exact capacity.trans hc
  · simp only [buffer, List.length_append, List.length_singleton]
    omega
  · exact ⟨front, by simp [acceptedSnoc, accepts, buffer, ← hn]⟩
  · simpa [acceptedSnoc, takenSnoc, accepts, takes, buffer] using hk.append (List.Sublist.refl [a])
  · simp only [acceptedSnoc, takenSnoc, displacedSnoc, accepts, takes, displaces, buffer,
      List.length_append, Option.toList_none, Option.toList_some, List.length_nil,
      List.length_singleton, Bool.toNat_false]
    omega

theorem displace (b : Balanced room told c) {a oldest : α} {rest : List α}
    (held : c.queue.buffer = oldest :: rest) (capacity : d.queue.capacity = c.queue.capacity)
    (buffer : d.queue.buffer = rest ++ [a]) (accepts : x.accepted? = some a) (takes : x.taken? = none)
    (displaces : x.displaces = true) : Balanced room (told ++ [x]) d := by
  obtain ⟨hc, hb, hn, hk, hs⟩ := b
  rw [held] at hb hn hk hs
  simp only [List.length_cons] at hb hs
  constructor
  · exact capacity.trans hc
  · simp only [buffer, List.length_append, List.length_singleton]
    omega
  · obtain ⟨front, hn⟩ := (List.suffix_cons oldest rest).trans hn
    exact ⟨front, by simp [acceptedSnoc, accepts, buffer, ← hn]⟩
  · have shorter : (taken told ++ rest).Sublist (accepted told) :=
      ((List.Sublist.refl _).append (List.sublist_cons_self oldest rest)).trans hk
    simpa [acceptedSnoc, takenSnoc, accepts, takes, buffer] using
      shorter.append (List.Sublist.refl [a])
  · simp only [acceptedSnoc, takenSnoc, displacedSnoc, accepts, takes, displaces, buffer,
      List.length_append, Option.toList_none, Option.toList_some, List.length_nil,
      List.length_singleton, Bool.toNat_true]
    omega

theorem act (b : Balanced room told c) (positive : 0 < room) (a : Act α) :
    Balanced room (told ++ [(c.perform a).1]) (c.act a) := by
  unfold Channel.act
  cases a with
  | push a =>
    rcases c.pushCases a with ⟨_, done⟩ | ⟨_, full, done⟩ | ⟨_, space, done⟩
    · rw [performPush done]
      exact b.still rfl rfl rfl rfl rfl
    · obtain ⟨oldest, rest, held⟩ : ∃ oldest rest, c.queue.buffer = oldest :: rest :=
        List.exists_cons_of_length_pos (by have := b.capacity; omega)
      rw [performPush done]
      exact b.displace held rfl (by simp [ring, held]) rfl rfl rfl
    · rw [performPush done]
      exact b.append space rfl rfl rfl rfl rfl
  | close =>
    rcases c.closeCases with ⟨_, done⟩ | ⟨_, done⟩
    · rw [performClose done]
      exact b.still rfl rfl rfl rfl rfl
    · rw [performClose done]
      exact b.still rfl rfl rfl rfl rfl
  | tryRecv =>
    rcases c.tryRecvCases with ⟨a, rest, held, done⟩ | ⟨_, done⟩
    · rw [performTryRecv done]
      exact b.take held rfl rfl rfl rfl rfl
    · rw [performTryRecv done]
      exact b.still rfl rfl rfl rfl rfl
  | poll =>
    rcases c.pollSteps with ⟨_, done⟩ | ⟨a, rest, bell, held, _, done⟩ | ⟨bell, _, _, _, done⟩ |
      ⟨bell, _, _, done⟩
    · rw [performPoll done]
      exact b.still rfl rfl rfl rfl rfl
    · rw [performPoll done]
      exact b.take held rfl rfl rfl rfl rfl
    · rw [performPoll done]
      exact b.still rfl rfl rfl rfl rfl
    · rw [performPoll done]
      exact b.still rfl rfl rfl rfl rfl
  | leave => exact b.still rfl rfl rfl rfl rfl

theorem run (capacity : Nat) (acts : List (Act α)) :
    Balanced (max capacity 1) ((make capacity).answers acts) ((make capacity).run acts) := by
  induction acts using List.reverseRecOn with
  | nil => exact ⟨rfl, by simp [Channel.run, Run.after, make, Queue.make], List.nil_suffix,
      List.Sublist.refl _, rfl⟩
  | append_singleton acts a ih =>
    rw [runSnoc, answersSnoc]
    exact ih.act (by omega) a

end Balanced

theorem attendedAct {c : Channel α} (attended : Attended c) (a : Act α) : Attended (c.act a) := by
  unfold act
  -- an act that rings leaves nobody waiting, and one that does not leaves the queue as it is
  have rung (d : Channel α) : Attended d.ring :=
    ⟨fun waits => absurd waits d.ringWakes, fun waits => absurd waits d.ringWakes⟩
  cases a with
  | push a =>
    rcases c.pushCases a with ⟨_, done⟩ | ⟨_, _, done⟩ | ⟨_, _, done⟩
    · rw [performPush done]
      exact attended
    · rw [performPush done]
      exact rung _
    · rw [performPush done]
      exact rung _
  | close =>
    rcases c.closeCases with ⟨_, done⟩ | ⟨_, done⟩
    · rw [performClose done]
      exact attended
    · rw [performClose done]
      exact rung _
  | tryRecv =>
    rcases c.tryRecvCases with ⟨a, rest, held, done⟩ | ⟨_, done⟩
    · rw [performTryRecv done]
      have nobody : c.bell.waiter ≠ .waiting := fun waits => by simp [attended.empty waits] at held
      exact ⟨fun waits => absurd waits nobody, fun waits => absurd waits nobody⟩
    · rw [performTryRecv done]
      exact attended
  | poll =>
    rcases c.pollSteps with ⟨_, done⟩ | ⟨a, rest, bell, _, absent, done⟩ | ⟨bell, _, _, absent, done⟩ |
      ⟨bell, empty, opened, done⟩
    · rw [performPoll done]
      exact attended
    · rw [performPoll done]
      exact ⟨fun waits => by simp [absent] at waits, fun waits => by simp [absent] at waits⟩
    · rw [performPoll done]
      exact ⟨fun waits => by simp [absent] at waits, fun waits => by simp [absent] at waits⟩
    · rw [performPoll done]
      exact ⟨fun _ => empty, fun _ => opened⟩
  | leave =>
    have nobody : c.leave.bell.waiter ≠ .waiting := by
      unfold leave Bell.leave
      cases place : c.bell.waiter <;> simp [place]
    exact ⟨fun waits => absurd waits nobody, fun waits => absurd waits nobody⟩

theorem attendedRun (capacity : Nat) (acts : List (Act α)) :
    Attended ((make capacity).run acts) := by
  induction acts using List.reverseRecOn with
  | nil => exact ⟨fun waits => (nomatch waits), fun waits => (nomatch waits)⟩
  | append_singleton acts a ih =>
    rw [runSnoc]
    exact attendedAct ih a

theorem closedAct {c : Channel α} (closed : c.queue.closed = true) (a : Act α) :
    (c.act a).queue.closed = true ∧ (c.perform a).1.accepted? = none ∧
    (c.perform a).1.taken?.toList ++ (c.act a).queue.buffer = c.queue.buffer := by
  unfold act
  cases a with
  | push a =>
    rcases c.pushCases a with ⟨_, done⟩ | ⟨opened, _⟩ | ⟨opened, _⟩
    · rw [performPush done]
      exact ⟨closed, rfl, rfl⟩
    · simp [closed] at opened
    · simp [closed] at opened
  | close =>
    rcases c.closeCases with ⟨_, done⟩ | ⟨opened, _⟩
    · rw [performClose done]
      exact ⟨closed, rfl, rfl⟩
    · simp [closed] at opened
  | tryRecv =>
    rcases c.tryRecvCases with ⟨a, rest, held, done⟩ | ⟨_, done⟩
    · rw [performTryRecv done]
      exact ⟨closed, rfl, held.symm⟩
    · rw [performTryRecv done]
      exact ⟨closed, rfl, rfl⟩
  | poll =>
    rcases c.pollSteps with ⟨_, done⟩ | ⟨a, rest, bell, held, _, done⟩ | ⟨bell, _, _, _, done⟩ |
      ⟨bell, _, opened, _⟩
    · rw [performPoll done]
      exact ⟨closed, rfl, rfl⟩
    · rw [performPoll done]
      exact ⟨closed, rfl, held.symm⟩
    · rw [performPoll done]
      exact ⟨closed, rfl, rfl⟩
    · simp [closed] at opened
  | leave => exact ⟨closed, rfl, rfl⟩

theorem closedRun {c : Channel α} (closed : c.queue.closed = true) (acts : List (Act α)) :
    (c.run acts).queue.closed = true ∧ accepted (c.answers acts) = [] ∧
    taken (c.answers acts) ++ (c.run acts).queue.buffer = c.queue.buffer := by
  induction acts using List.reverseRecOn with
  | nil => exact ⟨closed, rfl, rfl⟩
  | append_singleton acts a ih =>
    rw [runSnoc, answersSnoc]
    obtain ⟨closed, refused, drained⟩ := ih
    obtain ⟨closedStill, refusedStill, drainedStill⟩ := closedAct closed a
    refine ⟨closedStill, ?_, ?_⟩
    · simp [acceptedSnoc, refused, refusedStill]
    · rw [takenSnoc, List.append_assoc, drainedStill, drained]

theorem closedByClose (c : Channel α) (a : Act α) :
    (c.act a).queue.closed = true ↔ c.queue.closed = true ∨ a = .close := by
  cases closed : c.queue.closed with
  | true => simp [(closedAct closed a).1]
  | false =>
    unfold act
    cases a with
    | push a =>
      rcases c.pushCases a with ⟨_, done⟩ | ⟨_, _, done⟩ | ⟨_, _, done⟩ <;>
        simp [performPush done, ring, closed]
    | close =>
      rcases c.closeCases with ⟨_, done⟩ | ⟨_, done⟩
      · simp_all
      · simp [performClose done, ring]
    | tryRecv =>
      rcases c.tryRecvCases with ⟨_, _, _, done⟩ | ⟨_, done⟩ <;>
        simp [performTryRecv done, closed]
    | poll =>
      rcases c.pollSteps with ⟨_, done⟩ | ⟨_, _, _, _, _, done⟩ | ⟨_, _, _, _, done⟩ | ⟨_, _, _, done⟩ <;>
        simp [performPoll done, closed]
    | leave => simp [perform, leave, closed]

theorem closedIff (capacity : Nat) (acts : List (Act α)) :
    ((make capacity).run acts).queue.closed = true ↔ .close ∈ acts := by
  induction acts using List.reverseRecOn with
  | nil => exact ⟨fun closed => (nomatch closed), fun there => (nomatch there)⟩
  | append_singleton acts a ih =>
    rw [runSnoc, closedByClose, ih]
    simp [eq_comm]

theorem endTold (c : Channel α) (a : Act α) (told : (c.perform a).1.tellsEnd = true) :
    c.queue.closed = true ∧ c.queue.buffer = [] := by
  cases a with
  | push a => simp [perform, Answer.tellsEnd] at told
  | close => simp [perform, Answer.tellsEnd] at told
  | tryRecv =>
    rcases c.tryRecvCases with ⟨a, rest, held, done⟩ | ⟨empty, done⟩
    · simp [performTryRecv done, Answer.tellsEnd] at told
    · cases closed : c.queue.closed with
      | true => exact ⟨rfl, empty⟩
      | false => simp [performTryRecv done, Answer.tellsEnd, closed] at told
  | poll =>
    rcases c.pollSteps with ⟨_, done⟩ | ⟨_, _, _, _, _, done⟩ | ⟨_, empty, closed, _, _⟩ | ⟨_, _, _, done⟩
    · simp [performPoll done, Answer.tellsEnd] at told
    · simp [performPoll done, Answer.tellsEnd] at told
    · exact ⟨closed, empty⟩
    · simp [performPoll done, Answer.tellsEnd] at told
  | leave => simp [perform, Answer.tellsEnd] at told

theorem endStays {c : Channel α} (closed : c.queue.closed = true) (empty : c.queue.buffer = [])
    (a : Act α) : (c.act a).queue.closed = true ∧ (c.act a).queue.buffer = [] := by
  obtain ⟨closedStill, _, drained⟩ := closedAct closed a
  rw [empty, List.append_eq_nil_iff] at drained
  exact ⟨closedStill, drained.2⟩

theorem endOfRun (capacity : Nat) (acts : List (Act α))
    (told : ((make capacity).answers acts).any Answer.tellsEnd = true) :
    ((make capacity).run acts).queue.closed = true ∧ ((make capacity).run acts).queue.buffer = [] := by
  induction acts using List.reverseRecOn with
  | nil => simp [answers, Run.told] at told
  | append_singleton acts a ih =>
    rw [answersSnoc, List.any_append, Bool.or_eq_true] at told
    rw [runSnoc]
    have ended : ((make capacity).run acts).queue.closed = true ∧
        ((make capacity).run acts).queue.buffer = [] := by
      rcases told with before | now
      · exact ih before
      · exact endTold _ a (by simpa using now)
    exact endStays ended.1 ended.2 a

theorem headReceived {c : Channel α} (attended : Attended c) {a : α} {rest : List α}
    (held : c.queue.buffer = a :: rest) :
    c.tryRecv.1 = .ok a ∧ c.tryRecv.2.queue = { c.queue with buffer := rest } ∧
    c.poll.1 = .ready a ∧ c.poll.2.queue = { c.queue with buffer := rest } := by
  have taken : c.tryRecv = (.ok a, { c with queue := { c.queue with buffer := rest } }) := by
    rcases c.tryRecvCases with ⟨_, _, there, done⟩ | ⟨empty, _⟩
    · cases held.symm.trans there
      exact done
    · cases held.symm.trans empty
  rcases c.pollSteps with ⟨waits, _⟩ | ⟨_, _, _, there, _, done⟩ | ⟨_, empty, _⟩ | ⟨_, empty, _⟩
  · cases held.symm.trans (attended.empty waits)
  · cases held.symm.trans there
    simp [taken, done]
  · cases held.symm.trans empty
  · cases held.symm.trans empty

theorem nothingReceived {c : Channel α} (attended : Attended c) (empty : c.queue.buffer = []) :
    c.tryRecv = (.error (if c.queue.closed then .closed else .empty), c) ∧
    c.poll.1 = (if c.queue.closed then .closed else .pending) ∧ c.poll.2.queue = c.queue := by
  have missed : c.tryRecv = (.error (if c.queue.closed then .closed else .empty), c) := by
    rcases c.tryRecvCases with ⟨_, _, held, _⟩ | ⟨_, done⟩
    · cases empty.symm.trans held
    · exact done
  refine ⟨missed, ?_⟩
  rcases c.pollSteps with ⟨waits, done⟩ | ⟨_, _, _, held, _⟩ | ⟨_, _, closed, _, done⟩ |
    ⟨_, _, opened, done⟩
  · simp [done, attended.opened waits]
  · cases empty.symm.trans held
  · simp [done, closed]
  · simp [done, opened]

theorem endAnswered {c : Channel α} (attended : Attended c) (closed : c.queue.closed = true)
    (empty : c.queue.buffer = []) : c.tryRecv.1 = .error .closed ∧ c.poll.1 = .closed := by
  obtain ⟨missed, ended, -⟩ := nothingReceived attended empty
  exact ⟨by simp [missed, closed], by simp [ended, closed]⟩

theorem closedReceives {c : Channel α} (attended : Attended c) (closed : c.queue.closed = true)
    (a : Act α) :
    (a.receives = false ∧ (c.perform a).1.receipt? = none ∧
      (c.act a).queue.buffer = c.queue.buffer) ∨
    (a.receives = true ∧ c.queue.buffer = [] ∧ (c.perform a).1.receipt? = some none ∧
      (c.act a).queue.buffer = []) ∨
    (a.receives = true ∧ ∃ item rest, c.queue.buffer = item :: rest ∧
      (c.perform a).1.receipt? = some (some item) ∧ (c.act a).queue.buffer = rest) := by
  have drained := (closedAct closed a).2.2
  unfold act at drained ⊢
  cases a with
  | push a => exact .inl ⟨rfl, rfl, drained⟩
  | close => exact .inl ⟨rfl, rfl, drained⟩
  | leave => exact .inl ⟨rfl, rfl, drained⟩
  | tryRecv =>
    refine .inr ?_
    cases held : c.queue.buffer with
    | nil =>
      have done := (nothingReceived attended held).1
      rw [performTryRecv done]
      exact .inl ⟨rfl, rfl, by simp [closed, Answer.receipt?], held⟩
    | cons item rest =>
      obtain ⟨answer, left, -⟩ := headReceived attended held
      exact .inr ⟨rfl, item, rest, rfl, by simp [perform, answer, Answer.receipt?],
        by simp [perform, left]⟩
  | poll =>
    refine .inr ?_
    cases held : c.queue.buffer with
    | nil =>
      obtain ⟨-, answer, left⟩ := nothingReceived attended held
      exact .inl ⟨rfl, rfl, by simp [perform, answer, closed, Answer.receipt?],
        by simp [perform, left, held]⟩
    | cons item rest =>
      obtain ⟨-, -, answer, left⟩ := headReceived attended held
      exact .inr ⟨rfl, item, rest, rfl, by simp [perform, answer, Answer.receipt?],
        by simp [perform, left]⟩

theorem closedReceipts {c : Channel α} (attended : Attended c) (closed : c.queue.closed = true)
    (acts : List (Act α)) :
    receipts (c.answers acts) = Queue.readOut c.queue.buffer (acts.countP Act.receives) := by
  induction acts generalizing c with
  | nil => simp [answers, Run.told, receipts, Queue.readOut]
  | cons a acts ih =>
    have first : c.answers (a :: acts) = (c.perform a).1 :: (c.act a).answers acts := rfl
    have rest := ih (attendedAct attended a) (closedAct closed a).1
    rw [receipts] at rest
    rw [receipts, first, List.filterMap_cons, List.countP_cons]
    rcases closedReceives attended closed a with
      ⟨apart, told, still⟩ | ⟨receives, empty, told, still⟩ | ⟨receives, item, left, held, told, taken⟩
    · simp [told, apart, rest, still]
    · simp [told, receives, rest, still, empty, Queue.readOut, List.replicate_succ]
    · simp [told, receives, rest, held, taken, Queue.readOut, Nat.add_sub_add_right]

theorem pushDisplaces {c : Channel α} {room : Nat} (size : c.queue.capacity = room)
    (bounded : c.queue.buffer.length ≤ room) (a : α) :
    (c.push a).1 = .displacedOldest ↔ c.queue.closed = false ∧ c.queue.buffer.length = room := by
  rcases c.pushCases a with ⟨closed, done⟩ | ⟨opened, full, done⟩ | ⟨opened, space, done⟩
  · simp [done, closed]
  · simp only [done, opened, true_and, true_iff]
    omega
  · simp only [done, opened, true_and, reduceCtorEq, false_iff]
    omega

theorem pushLoses {c : Channel α} (room : 0 < c.queue.capacity) {a : α}
    (lost : (c.push a).1 = .displacedOldest) :
    ∃ oldest rest, c.queue.buffer = oldest :: rest ∧ (c.push a).2.queue.buffer = rest ++ [a] := by
  rcases c.pushCases a with ⟨_, done⟩ | ⟨_, full, done⟩ | ⟨_, _, done⟩
  · simp [done] at lost
  · obtain ⟨oldest, rest, held⟩ := List.exists_cons_of_length_pos (Nat.lt_of_lt_of_le room full)
    exact ⟨oldest, rest, held, by simp [done, ring, held]⟩
  · simp [done] at lost

theorem pushRefuses (c : Channel α) (a : α) :
    ((c.push a).1 = .closed ↔ c.queue.closed = true) ∧
      ((c.push a).1 = .closed → (c.push a).2 = c) := by
  rcases c.pushCases a with ⟨closed, done⟩ | ⟨opened, _, done⟩ | ⟨opened, _, done⟩
  · simp [done, closed]
  · simp [done, opened]
  · simp [done, opened]

structure DropsOldest (capacity : Nat) (acts : List (Act α)) (told : List (Answer α))
    (c : Channel α) : Prop where
  bounded : c.queue.buffer.length ≤ max capacity 1
  newest : c.queue.buffer <:+ accepted told
  kept : (taken told ++ c.queue.buffer).Sublist (accepted told)
  onceEach : (accepted told).Nodup → (taken told ++ c.queue.buffer).Nodup
  counted : (accepted told).length = (taken told).length + c.queue.buffer.length + displaced told
  closed : c.queue.closed = true ↔ .close ∈ acts
  displacesIff : ∀ a, (c.push a).1 = .displacedOldest ↔
    c.queue.closed = false ∧ c.queue.buffer.length = max capacity 1
  losesOldest : ∀ a, (c.push a).1 = .displacedOldest →
    ∃ oldest rest, c.queue.buffer = oldest :: rest ∧ (c.push a).2.queue.buffer = rest ++ [a]
  refusesIff : ∀ a, (c.push a).1 = .closed ↔ c.queue.closed = true
  refusalKeeps : ∀ a, (c.push a).1 = .closed → (c.push a).2 = c
  head : ∀ a rest, c.queue.buffer = a :: rest →
    c.tryRecv.1 = .ok a ∧ c.tryRecv.2.queue = { c.queue with buffer := rest } ∧
    c.poll.1 = .ready a ∧ c.poll.2.queue = { c.queue with buffer := rest }
  nothing : c.queue.buffer = [] →
    c.tryRecv = (.error (if c.queue.closed then .closed else .empty), c) ∧
    c.poll.1 = (if c.queue.closed then .closed else .pending) ∧ c.poll.2.queue = c.queue
  afterClose : c.queue.closed = true → ∀ later, accepted (c.answers later) = [] ∧
    taken (c.answers later) ++ (c.run later).queue.buffer = c.queue.buffer ∧
    receipts (c.answers later) = Queue.readOut c.queue.buffer (later.countP Act.receives)
  afterEnd : told.any Answer.tellsEnd = true → c.tryRecv.1 = .error .closed ∧ c.poll.1 = .closed

theorem dropOldestLaw (capacity : Nat) (acts : List (Act α)) :
    DropsOldest capacity acts ((make capacity).answers acts) ((make capacity).run acts) := by
  have balanced := Balanced.run capacity acts
  have attended := attendedRun capacity acts
  have size := balanced.capacity
  exact {
    bounded := balanced.bounded
    newest := balanced.newest
    kept := balanced.kept
    onceEach := fun distinct => balanced.kept.nodup distinct
    counted := balanced.counted
    closed := closedIff capacity acts
    displacesIff := pushDisplaces size balanced.bounded
    losesOldest := fun a lost => pushLoses (by omega) lost
    refusesIff := fun a => (pushRefuses _ a).1
    refusalKeeps := fun a => (pushRefuses _ a).2
    head := fun a rest held => headReceived attended held
    nothing := nothingReceived attended
    afterClose := fun closed later => by
      obtain ⟨-, refused, drained⟩ := closedRun closed later
      exact ⟨refused, drained, closedReceipts attended closed later⟩
    afterEnd := fun told => by
      obtain ⟨closed, empty⟩ := endOfRun capacity acts told
      exact endAnswered attended closed empty }

theorem dropOldestFullThenClosed :
    let acts : List (Act Nat) := [.push 1, .push 2, .push 3, .tryRecv, .close, .push 4, .tryRecv,
      .tryRecv]
    let told := (make 2).answers acts
    let closed := (make 2).run (acts.take 5)
    accepted told = [1, 2, 3] ∧ taken told = [2, 3] ∧ displaced told = 1 ∧
    told.any Answer.tellsEnd = true ∧ ((make 2).run acts).tryRecv.1 = .error .closed ∧
    closed.tryRecv.1 = .ok 3 ∧ closed.poll.1 = .ready 3 ∧
    receipts (closed.answers [.push 4, .poll, .tryRecv, .poll]) = [some 3, none, none] := by
  intro acts told closed
  have ended : told.any Answer.tellsEnd = true := rfl
  have law := dropOldestLaw 2 (acts.take 5)
  obtain ⟨received, -, polled, -⟩ := law.head 3 [] rfl
  exact ⟨rfl, rfl, rfl, ended, ((dropOldestLaw 2 acts).afterEnd ended).1, received, polled,
    (law.afterClose rfl _).2.2⟩

end Channel
end NodeFeed
