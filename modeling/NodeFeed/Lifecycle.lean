/-!
The life of a subscriber, in one direction: a request to go back is ignored.
-/

namespace NodeFeed

inductive Lifecycle where
  | initializing
  | running
  | shuttingDown
  | exited
  deriving DecidableEq, Repr

namespace Lifecycle

def all : List Lifecycle := [initializing, running, shuttingDown, exited]

def rank : Lifecycle → Nat
  | initializing => 0
  | running => 1
  | shuttingDown => 2
  | exited => 3

def title : Lifecycle → String
  | initializing => "Initializing"
  | running => "Running"
  | shuttingDown => "ShuttingDown"
  | exited => "Exited"

def ofTitle? (title : String) : Option Lifecycle := all.find? fun s => s.title == title

def advance (now next : Lifecycle) : Lifecycle := if now.rank < next.rank then next else now

def trace (now : Lifecycle) : List Lifecycle → List Lifecycle
  | [] => [now]
  | next :: rest => now :: trace (now.advance next) rest

theorem advanceRank (now next : Lifecycle) : (now.advance next).rank = max now.rank next.rank := by
  unfold advance; split <;> omega

theorem rankDistinct {s t : Lifecycle} (h : s.rank = t.rank) : s = t := by
  revert h; cases s <;> cases t <;> decide

end Lifecycle
end NodeFeed
