import NodeFeed.Topic
import NodeFeed.Bytes
import NodeFeed.Text.Form

/-!
What a node announces. A topic fixes the shape of its events: a hash and a counter, an opaque payload
and a counter, or a change of the chain or the mempool. `Notification` is an event under its topic.
-/

namespace NodeFeed

structure Hash where
  bytes : Bytes
  length_eq : bytes.length = 32
  deriving DecidableEq, Repr

namespace Hash

def size : Nat := 32

def zero : Hash := ⟨List.replicate 32 0, by decide⟩

def ofBytes? (s : Bytes) : Option Hash :=
  if h : s.length = 32 then some ⟨s, h⟩ else none

def text (h : Hash) : String := Bytes.hex h.bytes

def form (h : Hash) : String := Text.Form.around "Hash" h.text

end Hash

structure HashEvent where
  hash : Hash
  counter : UInt32
  deriving DecidableEq, Repr

structure RawEvent where
  payload : Bytes
  counter : UInt32
  deriving DecidableEq, Repr

inductive ChangeKind where
  | blockConnected
  | blockDisconnected
  | transactionRemoved
  | transactionAdded
  deriving DecidableEq, Repr

namespace ChangeKind

def all : List ChangeKind :=
  [blockConnected, blockDisconnected, transactionRemoved, transactionAdded]

def tag : ChangeKind → UInt8
  | blockConnected => 0x43
  | blockDisconnected => 0x44
  | transactionRemoved => 0x52
  | transactionAdded => 0x41

def ofTag? (tag : UInt8) : Option ChangeKind := all.find? fun k => k.tag == tag

def countsMempool : ChangeKind → Bool
  | blockConnected | blockDisconnected => false
  | transactionRemoved | transactionAdded => true

def title : ChangeKind → String
  | blockConnected => "BlockConnected"
  | blockDisconnected => "BlockDisconnected"
  | transactionRemoved => "TransactionRemovedFromMempool"
  | transactionAdded => "TransactionAddedToMempool"

theorem tagRead (k : ChangeKind) : ofTag? k.tag = some k := by cases k <;> decide

theorem tagExact {tag : UInt8} {k : ChangeKind} : ofTag? tag = some k ↔ tag = k.tag := by
  constructor
  · intro h
    have := List.find?_some (p := fun k : ChangeKind => k.tag == tag) h
    exact (beq_iff_eq.1 this).symm
  · rintro rfl
    exact tagRead k

end ChangeKind

structure SequenceEvent where
  hash : Hash
  kind : ChangeKind
  mempoolCounter : Option UInt64
  deriving DecidableEq, Repr

inductive Event where
  | hash (e : HashEvent)
  | raw (e : RawEvent)
  | sequence (e : SequenceEvent)
  deriving DecidableEq, Repr

inductive Notification where
  | hashTx (e : HashEvent)
  | hashBlock (e : HashEvent)
  | rawTx (e : RawEvent)
  | rawBlock (e : RawEvent)
  | sequence (e : SequenceEvent)
  deriving DecidableEq, Repr

namespace HashEvent

def form (e : HashEvent) : String :=
  Text.Form.fields "HashEvent" [("hash", e.hash.form), ("sequence", toString e.counter.toNat)]

end HashEvent

namespace RawEvent

def form (e : RawEvent) : String :=
  Text.Form.fields "RawEvent" [
    ("payload", Text.Form.list (e.payload.map fun b => toString b.toNat)),
    ("sequence", toString e.counter.toNat)]

end RawEvent

namespace SequenceEvent

def mempoolForm (e : SequenceEvent) : String :=
  Text.Form.optional (e.mempoolCounter.map fun n => toString n.toNat)

def form (e : SequenceEvent) : String :=
  Text.Form.fields "SequenceEvent" [
    ("hash", e.hash.form), ("kind", e.kind.title), ("mempool_sequence", e.mempoolForm)]

end SequenceEvent

namespace Notification

def topic : Notification → Topic
  | hashTx _ => .hashTx
  | hashBlock _ => .hashBlock
  | rawTx _ => .rawTx
  | rawBlock _ => .rawBlock
  | sequence _ => .sequence

def event : Notification → Event
  | hashTx e | hashBlock e => .hash e
  | rawTx e | rawBlock e => .raw e
  | sequence e => .sequence e

def form (n : Notification) : String :=
  Text.Form.around n.topic.title <| match n with
    | hashTx e | hashBlock e => e.form
    | rawTx e | rawBlock e => e.form
    | sequence e => e.form

end Notification
end NodeFeed
