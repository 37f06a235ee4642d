import NodeFeed.Text.Form

/-!
What a subscriber is built from: the publisher's address, empty to disable subscriptions, and the
size of every queue, zero for the usual one.
-/

namespace NodeFeed

structure Config where
  address : String
  capacity : UInt64
  deriving DecidableEq, Repr

namespace Config

def usualCapacity : UInt64 := 2

def empty : Config := ⟨"", 0⟩

def ofAddress (address : String) : Config := ⟨address, 0⟩

def withCapacity (c : Config) (capacity : UInt64) : Config := { c with capacity }

def isEnabled (c : Config) : Bool := !c.address.isEmpty

def queueCapacity (c : Config) : Nat :=
  if c.capacity = 0 then usualCapacity.toNat else c.capacity.toNat

def form (c : Config) : String :=
  Text.Form.fields "Config" [
    ("address", Text.quote c.address), ("capacity", toString c.capacity.toNat)]

theorem queueCapacityPositive (c : Config) : 0 < c.queueCapacity := by
  unfold queueCapacity
  split
  · decide
  · next h =>
    have : c.capacity.toNat ≠ 0 := fun e => h (UInt64.toNat_inj.1 e)
    omega

end Config
end NodeFeed
