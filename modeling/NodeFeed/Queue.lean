import NodeFeed.Text.Form

/-!
The queue between the handler and one consumer. It holds at most `capacity` events; a push into a
full queue drops the oldest one. Closing is final: nothing more is accepted, and what is buffered can
still be taken.
-/

namespace NodeFeed

structure Queue (α : Type) where
  capacity : Nat
  /-- Oldest first. -/
  buffer : List α
  closed : Bool
  deriving DecidableEq, Repr

inductive Push where
  | delivered
  | displacedOldest
  | closed
  deriving DecidableEq, Repr

inductive RecvError where
  | empty
  | closed
  deriving DecidableEq, Repr

inductive Poll (α : Type) where
  | ready (a : α)
  | closed
  | pending
  deriving DecidableEq, Repr

inductive Overflow where
  | overflow
  deriving DecidableEq, Repr

def Overflow.message : Overflow → String
  | overflow => "capacity overflow"

namespace Push

def title : Push → String
  | delivered => "Delivered"
  | displacedOldest => "DisplacedOldest"
  | closed => "Closed"

end Push

namespace RecvError

def label : RecvError → String
  | empty => "empty"
  | closed => "closed"

def message : RecvError → String
  | empty => "queue empty"
  | closed => "queue closed"

end RecvError

namespace Queue

variable {α : Type}

/-- A queue can be made with room for so many events of that size: a reservation of `2 ^ 63` bytes or
more is refused. -/
def canReserve (eventSize capacity : Nat) : Bool := max capacity 1 * eventSize < 0x8000000000000000

def make (capacity : Nat) : Queue α := ⟨max capacity 1, [], false⟩

def isFull (q : Queue α) : Bool := q.capacity ≤ q.buffer.length

def push (q : Queue α) (a : α) : Push × Queue α :=
  if q.closed then (.closed, q)
  else if q.isFull then (.displacedOldest, { q with buffer := q.buffer.tail ++ [a] })
  else (.delivered, { q with buffer := q.buffer ++ [a] })

def close (q : Queue α) : Bool × Queue α := (!q.closed, { q with closed := true })

def tryRecv (q : Queue α) : Except RecvError α × Queue α :=
  match q.buffer with
  | a :: rest => (.ok a, { q with buffer := rest })
  | [] => (.error (if q.closed then .closed else .empty), q)

def poll (q : Queue α) : Poll α × Queue α :=
  match q.tryRecv with
  | (.ok a, q) => (.ready a, q)
  | (.error .closed, q) => (.closed, q)
  | (.error .empty, q) => (.pending, q)

def drain (q : Queue α) : (List α × RecvError) × Queue α :=
  ((q.buffer, if q.closed then .closed else .empty), { q with buffer := [] })

theorem pushCases (q : Queue α) (a : α) :
    (q.closed = true ∧ q.push a = (.closed, q)) ∨
    (q.closed = false ∧ q.capacity ≤ q.buffer.length ∧
      q.push a = (.displacedOldest, { q with buffer := q.buffer.tail ++ [a] })) ∨
    (q.closed = false ∧ q.buffer.length < q.capacity ∧
      q.push a = (.delivered, { q with buffer := q.buffer ++ [a] })) := by
  cases closed : q.closed with
  | true => exact .inl ⟨rfl, by simp [push, closed]⟩
  | false =>
    by_cases full : q.capacity ≤ q.buffer.length
    · exact .inr (.inl ⟨rfl, full, by simp [push, closed, isFull, full]⟩)
    · exact .inr (.inr ⟨rfl, by omega, by simp [push, closed, isFull, full]⟩)

theorem tryRecvCases (q : Queue α) :
    (∃ a rest, q.buffer = a :: rest ∧ q.tryRecv = (.ok a, { q with buffer := rest })) ∨
    (q.buffer = [] ∧ q.tryRecv = (.error (if q.closed then .closed else .empty), q)) := by
  cases held : q.buffer with
  | nil => exact .inr ⟨rfl, by simp [tryRecv, held]⟩
  | cons a rest => exact .inl ⟨a, rest, rfl, by simp [tryRecv, held]⟩

theorem pollCases (q : Queue α) :
    (∃ a rest, q.buffer = a :: rest ∧ q.poll = (.ready a, { q with buffer := rest })) ∨
    (q.buffer = [] ∧ q.closed = true ∧ q.poll = (.closed, q)) ∨
    (q.buffer = [] ∧ q.closed = false ∧ q.poll = (.pending, q)) := by
  rcases q.tryRecvCases with ⟨a, rest, held, taken⟩ | ⟨empty, taken⟩
  · exact .inl ⟨a, rest, held, by simp [poll, taken]⟩
  · cases closed : q.closed with
    | true => exact .inr (.inl ⟨empty, rfl, by simp [poll, taken, closed]⟩)
    | false => exact .inr (.inr ⟨empty, rfl, by simp [poll, taken, closed]⟩)

def form (q : Queue α) : String :=
  Text.Form.fields "EventReceiver" [
    ("len", toString q.buffer.length), ("capacity", toString q.capacity),
    ("closed", Text.Form.flag q.closed)]

end Queue
end NodeFeed
