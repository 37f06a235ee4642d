import NodeFeed.Queue.Waiting

/-!
The consuming end of a queue: a receiver, later perhaps a stream that owns it. A release hook runs
once, when the end is dropped or when the stream comes to its end; installing a hook forgets the one
before. `calls` counts the runs of every hook ever installed, so a hook that was replaced shows as
never run.
-/

namespace NodeFeed

inductive Owner where
  | receiver
  | stream
  | ended
  | nobody
  deriving DecidableEq, Repr

structure Endpoint (α : Type) where
  channel : Channel α
  owner : Owner
  hook : Option Nat
  calls : List Nat
  deriving DecidableEq, Repr

namespace Endpoint

variable {α : Type}

def make (capacity : Nat) : Endpoint α := ⟨Channel.make capacity, .receiver, none, []⟩

def onRelease (e : Endpoint α) : Endpoint α :=
  { e with hook := some e.calls.length, calls := e.calls ++ [0] }

def release (e : Endpoint α) : Endpoint α :=
  match e.hook with
  | none => e
  | some k => { e with hook := none, calls := e.calls.modify k (· + 1) }

def dropReceiver (e : Endpoint α) : Endpoint α :=
  match e.owner with
  | .receiver => { e.release with owner := .nobody }
  | .stream | .ended | .nobody => e

def intoStream (e : Endpoint α) : Endpoint α := { e with owner := .stream }

def next (e : Endpoint α) : Poll α × Endpoint α :=
  let (answer, channel) := e.channel.poll
  let e := { e with channel }
  match answer with
  | .closed => (.closed, { e.release with owner := .ended })
  | .ready _ | .pending => (answer, e)

def dropStream (e : Endpoint α) : Endpoint α :=
  match e.owner with
  | .stream => { e.release with owner := .nobody, channel := e.channel.leave }
  | .ended => { e with owner := .nobody }
  | .receiver | .nobody => e

end Endpoint
end NodeFeed
