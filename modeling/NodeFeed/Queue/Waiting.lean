import NodeFeed.Queue

/-!
Waiting for an event. A `Bell` wakes the one reader of a queue: a ring wakes a reader that waits, and
otherwise is kept as a permit, of which there is at most one. A push or a close first changes the
queue and then rings. A reader takes what is there, and listens to the bell only when nothing is.
-/

namespace NodeFeed

inductive Waiter where
  | absent
  | waiting
  | woken
  deriving DecidableEq, Repr

structure Bell where
  permit : Bool
  waiter : Waiter
  deriving DecidableEq, Repr

namespace Bell

def silent : Bell := ⟨false, .absent⟩

def ring (b : Bell) : Bell :=
  match b.waiter with
  | .waiting => { b with waiter := .woken }
  | .absent | .woken => { b with permit := true }

def listen (b : Bell) : Bool × Bell :=
  if b.permit then (true, { b with permit := false }) else (false, { b with waiter := .waiting })

def resume? (b : Bell) : Option Bell :=
  match b.waiter with
  | .waiting => none
  | .absent | .woken => some { b with waiter := .absent }

/-- A reader gives up. A wake it has not used is kept as a permit. -/
def leave (b : Bell) : Bell :=
  match b.waiter with
  | .absent => b
  | .waiting => { b with waiter := .absent }
  | .woken => ⟨true, .absent⟩

end Bell

structure Channel (α : Type) where
  queue : Queue α
  bell : Bell
  deriving DecidableEq, Repr

inductive Turn (α : Type) where
  | done (answer : Poll α) (channel : Channel α)
  | again (channel : Channel α)

namespace Channel

variable {α : Type}

def make (capacity : Nat) : Channel α := ⟨Queue.make capacity, .silent⟩

def ring (c : Channel α) : Channel α := { c with bell := c.bell.ring }

def push (c : Channel α) (a : α) : Push × Channel α :=
  match c.queue.push a with
  | (.closed, _) => (.closed, c)
  | (outcome, queue) => (outcome, ring { c with queue })

def close (c : Channel α) : Bool × Channel α :=
  match c.queue.close with
  | (true, queue) => (true, ring { c with queue })
  | (false, queue) => (false, { c with queue })

def tryRecv (c : Channel α) : Except RecvError α × Channel α :=
  let (answer, queue) := c.queue.tryRecv
  (answer, { c with queue })

def turn (c : Channel α) : Turn α :=
  match c.queue.poll with
  | (.pending, queue) =>
    match c.bell.listen with
    | (true, bell) => .again ⟨queue, bell⟩
    | (false, bell) => .done .pending ⟨queue, bell⟩
  | (answer, queue) => .done answer { c with queue }

theorem againSpendsPermit {c d : Channel α} (h : c.turn = .again d) :
    c.bell.permit = true ∧ d.bell.permit = false := by
  unfold turn Bell.listen at h
  grind

def turns (c : Channel α) : Poll α × Channel α :=
  match _again : c.turn with
  | .done answer channel => (answer, channel)
  | .again channel => turns channel
termination_by c.bell.permit.toNat
decreasing_by simp [againSpendsPermit _again]

def poll (c : Channel α) : Poll α × Channel α :=
  match c.bell.resume? with
  | none => (.pending, c)
  | some bell => turns { c with bell }

def leave (c : Channel α) : Channel α := { c with bell := c.bell.leave }

def recv (c : Channel α) : Poll α × Channel α :=
  let (answer, c) := c.poll
  (answer, c.leave)

def drain (c : Channel α) : (List α × RecvError) × Channel α :=
  let (answer, queue) := c.queue.drain
  (answer, { c with queue })

def isWoken (c : Channel α) : Bool := c.bell.waiter == .woken

theorem pushCases (c : Channel α) (a : α) :
    (c.queue.closed = true ∧ c.push a = (.closed, c)) ∨
    (c.queue.closed = false ∧ c.queue.capacity ≤ c.queue.buffer.length ∧ c.push a =
      (.displacedOldest, ring { c with queue := { c.queue with buffer := c.queue.buffer.tail ++ [a] } })) ∨
    (c.queue.closed = false ∧ c.queue.buffer.length < c.queue.capacity ∧ c.push a =
      (.delivered, ring { c with queue := { c.queue with buffer := c.queue.buffer ++ [a] } })) := by
  rcases c.queue.pushCases a with ⟨closed, pushed⟩ | ⟨opened, full, pushed⟩ | ⟨opened, room, pushed⟩
  · exact .inl ⟨closed, by simp [push, pushed]⟩
  · exact .inr (.inl ⟨opened, full, by simp [push, pushed]⟩)
  · exact .inr (.inr ⟨opened, room, by simp [push, pushed]⟩)

theorem closeCases (c : Channel α) :
    (c.queue.closed = true ∧ c.close = (false, c)) ∨
    (c.queue.closed = false ∧ c.close = (true, ring { c with queue := { c.queue with closed := true } })) := by
  obtain ⟨⟨capacity, buffer, closed⟩, bell⟩ := c
  cases closed with
  | true => exact .inl ⟨rfl, rfl⟩
  | false => exact .inr ⟨rfl, rfl⟩

theorem tryRecvCases (c : Channel α) :
    (∃ a rest, c.queue.buffer = a :: rest ∧
      c.tryRecv = (.ok a, { c with queue := { c.queue with buffer := rest } })) ∨
    (c.queue.buffer = [] ∧
      c.tryRecv = (.error (if c.queue.closed then .closed else .empty), c)) := by
  rcases c.queue.tryRecvCases with ⟨a, rest, held, taken⟩ | ⟨empty, taken⟩
  · exact .inl ⟨a, rest, held, by simp [tryRecv, taken]⟩
  · exact .inr ⟨empty, by simp [tryRecv, taken]⟩

theorem turnsDone {c d : Channel α} {answer : Poll α} (h : c.turn = .done answer d) :
    c.turns = (answer, d) := by
  rw [turns]
  split
  · rename_i done
    cases h.symm.trans done
    rfl
  · rename_i again
    cases h.symm.trans again

theorem turnsAgain {c d : Channel α} (h : c.turn = .again d) : c.turns = d.turns := by
  rw [turns]
  split
  · rename_i done
    cases h.symm.trans done
  · rename_i again
    cases h.symm.trans again
    rfl

theorem turnsCases (c : Channel α) :
    (∃ a rest, c.queue.buffer = a :: rest ∧
      c.turns = (.ready a, { c with queue := { c.queue with buffer := rest } })) ∨
    (c.queue.buffer = [] ∧ c.queue.closed = true ∧ c.turns = (.closed, c)) ∨
    (c.queue.buffer = [] ∧ c.queue.closed = false ∧
      c.turns = (.pending, ⟨c.queue, ⟨false, .waiting⟩⟩)) := by
  rcases c.queue.pollCases with ⟨a, rest, held, polled⟩ | ⟨empty, closed, polled⟩ | ⟨empty, opened, polled⟩
  · exact .inl ⟨a, rest, held, turnsDone (by simp [turn, polled])⟩
  · exact .inr (.inl ⟨empty, closed, turnsDone (by simp [turn, polled])⟩)
  · refine .inr (.inr ⟨empty, opened, ?_⟩)
    have waits (bell : Bell) (spent : bell.permit = false) :
        turns ⟨c.queue, bell⟩ = (.pending, ⟨c.queue, ⟨false, .waiting⟩⟩) :=
      turnsDone (by simp [turn, polled, Bell.listen, spent])
    cases permit : c.bell.permit with
    | false => exact waits c.bell permit
    | true =>
      -- the permit is used up by a second turn, which finds nothing new
      have again : c.turn = .again ⟨c.queue, { c.bell with permit := false }⟩ := by
        simp [turn, polled, Bell.listen, permit]
      exact (turnsAgain again).trans (waits _ rfl)

end Channel
end NodeFeed
