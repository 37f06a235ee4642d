import NodeFeed.Event
import NodeFeed.Text.Utf8

/-!
The multipart frame of one announcement: the topic's label, the body, and for all topics but
`sequence` a four-byte counter. `Frame.decode` reads one and names the first defect of a frame it
refuses; `Notification.encode` writes the frame that carries just what is read.
-/

namespace NodeFeed

abbrev Frame := List Bytes

inductive Field where
  | hash
  | counter
  | tag
  | mempoolCounter
  deriving DecidableEq, Repr

namespace Field

def name : Field → String
  | hash => "hash"
  | counter => "sequence"
  | tag => "tag"
  | mempoolCounter => "mempool sequence"

def offset : Field → Nat
  | hash | counter => 0
  | tag => 32
  | mempoolCounter => 33

def width : Field → Nat
  | hash => 32
  | counter => 4
  | tag => 1
  | mempoolCounter => 8

def need (f : Field) : Nat := f.offset + f.width

def read? (f : Field) (part : Bytes) : Option Bytes :=
  if f.need ≤ part.length then some ((part.drop f.offset).take f.width) else none

theorem unreadIff {f : Field} {part : Bytes} : f.read? part = none ↔ part.length < f.need := by
  unfold read?; split <;> simp <;> omega

theorem readLength {f : Field} {part bytes : Bytes} (h : f.read? part = some bytes) :
    bytes.length = f.width := by
  unfold read? at h
  split at h
  · next enough =>
    cases Option.some.inj h
    simp only [List.length_take, List.length_drop, need] at enough ⊢
    omega
  · contradiction

end Field

inductive DecodeError where
  | empty
  | unknownTopic (label : String)
  | missingPart (topic : Topic) (index : Nat)
  | truncated (topic : Topic) (field : String) (need got : Nat)
  | unknownTag (tag : UInt8)
  deriving DecidableEq, Repr

namespace DecodeError

def label : DecodeError → String
  | empty => "decode_empty"
  | unknownTopic _ => "decode_unknown_topic"
  | missingPart .. => "decode_missing_part"
  | truncated .. => "decode_truncated"
  | unknownTag _ => "decode_unknown_sequence_tag"

def message : DecodeError → String
  | empty => "empty frame"
  | unknownTopic label => "unknown topic " ++ Text.quote label
  | missingPart topic index => topic.name ++ ": missing part " ++ toString index
  | truncated topic field need got =>
    topic.name ++ ": " ++ field ++ " needs " ++ toString need ++ " bytes, got " ++ toString got
  | unknownTag tag => "unknown sequence tag 0x" ++ Bytes.hex [tag]

def isUnrecognized : DecodeError → Bool
  | unknownTopic _ | unknownTag _ => true
  | empty | missingPart .. | truncated .. => false

end DecodeError

namespace Frame

def part (topic : Topic) (f : Frame) (index : Nat) : Except DecodeError Bytes :=
  match f[index]? with
  | some bytes => .ok bytes
  | none => .error (.missingPart topic index)

def readField (topic : Topic) (field : Field) (bytes : Bytes) : Except DecodeError Bytes :=
  match field.read? bytes with
  | some value => .ok value
  | none => .error (.truncated topic field.name field.need bytes.length)

def readHash (topic : Topic) (body : Bytes) : Except DecodeError Hash :=
  match h : Field.hash.read? body with
  | some value => .ok ⟨value, Field.readLength h⟩
  | none => .error (.truncated topic Field.hash.name Field.hash.need body.length)

def readCounter (topic : Topic) (f : Frame) : Except DecodeError UInt32 := do
  let bytes ← readField topic .counter (← f.part topic 2)
  return UInt32.ofNat (Bytes.toNatLE bytes)

def decodeHash (topic : Topic) (f : Frame) : Except DecodeError HashEvent := do
  let body ← f.part topic 1
  let hash ← readHash topic body
  let counter ← f.readCounter topic
  return { hash, counter }

def decodeRaw (topic : Topic) (f : Frame) : Except DecodeError RawEvent := do
  let payload ← f.part topic 1
  let counter ← f.readCounter topic
  return { payload, counter }

def readKind (body : Bytes) : Except DecodeError ChangeKind :=
  match body[Field.tag.offset]? with
  | none => .error (.truncated .sequence Field.tag.name Field.tag.need body.length)
  | some tag =>
    match ChangeKind.ofTag? tag with
    | some kind => .ok kind
    | none => .error (.unknownTag tag)

def decodeSequence (f : Frame) : Except DecodeError SequenceEvent := do
  let body ← f.part .sequence 1
  let hash ← readHash .sequence body
  let kind ← readKind body
  if kind.countsMempool then
    let bytes ← readField .sequence .mempoolCounter body
    return { hash, kind, mempoolCounter := some (UInt64.ofNat (Bytes.toNatLE bytes)) }
  else
    return { hash, kind, mempoolCounter := none }

/-- Reads a frame. Checks run in wire order, so the error is the first defect. -/
def decode (f : Frame) : Except DecodeError Notification :=
  match f with
  | [] => .error .empty
  | label :: _ =>
    match Topic.ofLabel? label with
    | none => .error (.unknownTopic (String.ofList (Text.ofUtf8Lossy label)))
    | some .hashTx => (decodeHash .hashTx f).map .hashTx
    | some .hashBlock => (decodeHash .hashBlock f).map .hashBlock
    | some .rawTx => (decodeRaw .rawTx f).map .rawTx
    | some .rawBlock => (decodeRaw .rawBlock f).map .rawBlock
    | some .sequence => (decodeSequence f).map .sequence

end Frame

namespace Event

def encodeParts : Event → List Bytes
  | .hash e => [e.hash.bytes, Bytes.littleEndian 4 e.counter.toNat]
  | .raw e => [e.payload, Bytes.littleEndian 4 e.counter.toNat]
  | .sequence e =>
    let counter := match e.mempoolCounter with
      | some n => Bytes.littleEndian 8 n.toNat
      | none => []
    [e.hash.bytes ++ e.kind.tag :: counter]

end Event

namespace Notification

def encode (n : Notification) : Frame := n.topic.label :: n.event.encodeParts

end Notification
end NodeFeed
