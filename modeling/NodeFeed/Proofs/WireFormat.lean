import Mathlib.Data.List.Basic
import NodeFeed.Frame
import NodeFeed.Proofs.LittleEndian

/-!
Frames against the events they carry. `Frame.Carries` says part by part what a frame of each topic
looks like, and reading accepts exactly that. A reader here takes the bytes it needs from the start of
a part, so what follows them is free, and the payload of a raw topic alone is a part from end to end.
Each reader has one statement of what it accepts; nothing below those opens a reader.
-/

namespace NodeFeed

namespace Event

def Proper : Event → Prop
  | .hash _ | .raw _ => True
  | .sequence e => e.mempoolCounter.isSome = e.kind.countsMempool

def counter? : Event → Option UInt32
  | .hash e => some e.counter
  | .raw e => some e.counter
  | .sequence _ => none

def FillsBody (body : Bytes) : Event → Prop
  | .hash e => e.hash.bytes <+: body
  | .raw e => body = e.payload
  | .sequence e =>
    if e.kind.countsMempool then
      ∃ n, e.mempoolCounter = some n ∧
        e.hash.bytes ++ e.kind.tag :: Bytes.littleEndian 8 n.toNat <+: body
    else e.mempoolCounter = none ∧ e.hash.bytes ++ [e.kind.tag] <+: body

end Event

structure Frame.Carries (f : Frame) (n : Notification) : Prop where
  label : f[0]? = some n.topic.label
  body : ∃ body, f[1]? = some body ∧ n.event.FillsBody body
  counter : ∀ c, n.event.counter? = some c →
    ∃ part, f[2]? = some part ∧ Bytes.littleEndian 4 c.toNat <+: part

def Topic.isRaw : Topic → Bool
  | .rawTx | .rawBlock => true
  | .hashTx | .hashBlock | .sequence => false

structure Frame.Extends (g f : Frame) : Prop where
  label : ∀ label, f[0]? = some label → g[0]? = some label
  part : ∀ (i : Nat) (part : Bytes), f[i]? = some part → ∃ more, g[i]? = some (part ++ more)
  payload : ∀ t : Topic, t.isRaw = true → f[0]? = some t.label →
    ∀ body, f[1]? = some body → g[1]? = some body

theorem bindOk {ε α β : Type} {x : Except ε α} {next : α → Except ε β} {b : β} :
    (x >>= next) = .ok b ↔ ∃ a, x = .ok a ∧ next a = .ok b := by
  cases x with
  | error why => simp [bind, Except.bind]
  | ok a => simp [bind, Except.bind]

theorem mapOk {ε α β : Type} {x : Except ε α} {g : α → β} {b : β} :
    x.map g = .ok b ↔ ∃ a, x = .ok a ∧ g a = b := by
  cases x with
  | error why => simp [Except.map]
  | ok a => simp [Except.map]

namespace Bytes

theorem appendStarts {a b s : Bytes} : a ++ b <+: s ↔ a <+: s ∧ b <+: s.drop a.length := by
  constructor
  · rintro ⟨rest, rfl⟩
    refine ⟨⟨b ++ rest, (List.append_assoc a b rest).symm⟩, ⟨rest, ?_⟩⟩
    rw [List.append_assoc, List.drop_left]
  · rintro ⟨⟨rest, rfl⟩, starts⟩
    rw [List.drop_left] at starts
    exact (List.prefix_append_right_inj a).mpr starts

theorem consStarts {b : UInt8} {a s : Bytes} : b :: a <+: s ↔ s[0]? = some b ∧ a <+: s.drop 1 := by
  cases s <;> simp [eq_comm]

theorem littleEndianIs {width n : Nat} {s : Bytes} (size : s.length = width)
    (small : n < 256 ^ width) : toNatLE s = n ↔ s = littleEndian width n := by
  constructor
  · rintro rfl
    rw [← size]
    exact (littleEndianRestored s).symm
  · rintro rfl
    rw [littleEndianRead, Nat.mod_eq_of_lt small]

theorem counterIs {s : Bytes} (size : s.length = 4) (c : UInt32) :
    UInt32.ofNat (toNatLE s) = c ↔ s = littleEndian 4 c.toNat := by
  have bound := toNatBounded s
  rw [size, show 256 ^ 4 = 2 ^ 32 by decide] at bound
  rw [← littleEndianIs size c.toNat_lt, ← UInt32.toNat_inj, UInt32.toNat_ofNat', Nat.mod_eq_of_lt bound]

theorem longCounterIs {s : Bytes} (size : s.length = 8) (c : UInt64) :
    UInt64.ofNat (toNatLE s) = c ↔ s = littleEndian 8 c.toNat := by
  have bound := toNatBounded s
  rw [size, show 256 ^ 8 = 2 ^ 64 by decide] at bound
  rw [← littleEndianIs size c.toNat_lt, ← UInt64.toNat_inj, UInt64.toNat_ofNat', Nat.mod_eq_of_lt bound]

end Bytes

namespace Frame

variable {f : Frame} {t : Topic} {body : Bytes}

theorem fieldRead {field : Field} {part bytes : Bytes} :
    field.read? part = some bytes ↔ bytes.length = field.width ∧ bytes <+: part.drop field.offset := by
  have some : 0 < field.width := by cases field <;> decide
  constructor
  · intro read
    refine ⟨Field.readLength read, ?_⟩
    unfold Field.read? at read
    split at read
    · cases Option.some.inj read
      exact List.take_prefix _ _
    · cases read
  · rintro ⟨size, starts⟩
    have inside := starts.length_le
    rw [List.length_drop, size] at inside
    have enough : field.need ≤ part.length := by unfold Field.need; omega
    rw [Field.read?, if_pos enough, ← size, ← List.prefix_iff_eq_take.mp starts]

theorem partRead {i : Nat} {bytes : Bytes} : f.part t i = .ok bytes ↔ f[i]? = some bytes := by
  unfold part
  cases f[i]? with
  | none => simp
  | some held => simp

theorem readFieldOk {field : Field} {part bytes : Bytes} :
    readField t field part = .ok bytes ↔ field.read? part = some bytes := by
  unfold readField
  cases field.read? part with
  | none => simp
  | some held => simp

theorem hashRead {h : Hash} : readHash t body = .ok h ↔ h.bytes <+: body := by
  have starts : Field.hash.read? body = some h.bytes ↔ h.bytes <+: body := by
    rw [fieldRead]
    exact ⟨And.right, fun starts => ⟨h.length_eq, starts⟩⟩
  rw [← starts]
  unfold readHash
  split
  case h_1 value read =>
    constructor
    · intro same
      exact read.trans (congrArg (fun h : Hash => some h.bytes) (Except.ok.inj same))
    · intro also
      obtain ⟨bytes, size⟩ := h
      cases Option.some.inj (read.symm.trans also)
      rfl
  case h_2 unread => simp [unread]

theorem counterRead {c : UInt32} : f.readCounter t = .ok c ↔
    ∃ part, f[2]? = some part ∧ Bytes.littleEndian 4 c.toNat <+: part := by
  simp only [readCounter, bindOk, partRead, readFieldOk, fieldRead]
  constructor
  · rintro ⟨part, there, bytes, ⟨size, starts⟩, value⟩
    refine ⟨part, there, ?_⟩
    rw [← (Bytes.counterIs size c).mp (Except.ok.inj value)]
    exact starts
  · rintro ⟨part, there, starts⟩
    have size := Bytes.littleEndianLength 4 c.toNat
    exact ⟨part, there, _, ⟨size, starts⟩, congrArg Except.ok ((Bytes.counterIs size c).mpr rfl)⟩

theorem kindRead {k : ChangeKind} : readKind body = .ok k ↔ body[Field.tag.offset]? = some k.tag := by
  unfold readKind
  split
  case h_1 none => simp [none]
  case h_2 tag there =>
    rw [there, Option.some.injEq, ← ChangeKind.tagExact]
    cases ChangeKind.ofTag? tag with
    | none => simp
    | some known => simp

theorem hashDecoded {e : HashEvent} : f.decodeHash t = .ok e ↔
    (∃ body, f[1]? = some body ∧ Event.FillsBody body (.hash e)) ∧
      ∃ part, f[2]? = some part ∧ Bytes.littleEndian 4 e.counter.toNat <+: part := by
  simp only [decodeHash, bindOk, partRead, hashRead, counterRead, Event.FillsBody]
  constructor
  · rintro ⟨body, there, hash, starts, counter, counted, same⟩
    cases same
    exact ⟨⟨body, there, starts⟩, counted⟩
  · rintro ⟨⟨body, there, starts⟩, counted⟩
    exact ⟨body, there, e.hash, starts, e.counter, counted, rfl⟩

theorem rawDecoded {e : RawEvent} : f.decodeRaw t = .ok e ↔
    (∃ body, f[1]? = some body ∧ Event.FillsBody body (.raw e)) ∧
      ∃ part, f[2]? = some part ∧ Bytes.littleEndian 4 e.counter.toNat <+: part := by
  simp only [decodeRaw, bindOk, partRead, counterRead, Event.FillsBody]
  constructor
  · rintro ⟨payload, there, counter, counted, same⟩
    cases same
    exact ⟨⟨payload, there, rfl⟩, counted⟩
  · rintro ⟨⟨body, there, rfl⟩, counted⟩
    exact ⟨e.payload, there, e.counter, counted, rfl⟩

theorem mempoolCounterRead {c : UInt64} :
    (∃ bytes, Field.mempoolCounter.read? body = some bytes ∧ UInt64.ofNat (Bytes.toNatLE bytes) = c) ↔
      Bytes.littleEndian 8 c.toNat <+: body.drop Field.mempoolCounter.offset := by
  simp only [fieldRead]
  constructor
  · rintro ⟨bytes, ⟨size, starts⟩, value⟩
    exact (Bytes.longCounterIs size c).mp value ▸ starts
  · intro starts
    have size := Bytes.littleEndianLength 8 c.toNat
    exact ⟨_, ⟨size, starts⟩, (Bytes.longCounterIs size c).mpr rfl⟩

theorem changeStarts {h : Hash} {tag : UInt8} {more : Bytes} :
    h.bytes ++ tag :: more <+: body ↔
      h.bytes <+: body ∧ body[Field.tag.offset]? = some tag ∧
        more <+: body.drop Field.mempoolCounter.offset := by
  have tagged : (body.drop h.bytes.length)[0]? = body[Field.tag.offset]? := by
    rw [List.getElem?_drop, h.length_eq]
    rfl
  have behind : (body.drop h.bytes.length).drop 1 = body.drop Field.mempoolCounter.offset := by
    rw [List.drop_drop, h.length_eq]
    rfl
  rw [Bytes.appendStarts, Bytes.consStarts, tagged, behind]

theorem sequenceDecoded {e : SequenceEvent} : f.decodeSequence = .ok e ↔
    ∃ body, f[1]? = some body ∧ Event.FillsBody body (.sequence e) := by
  simp only [decodeSequence, bindOk, partRead, hashRead, kindRead, Event.FillsBody]
  constructor
  · rintro ⟨body, there, hash, starts, kind, tagged, rest⟩
    refine ⟨body, there, ?_⟩
    cases counts : kind.countsMempool with
    | true =>
      simp only [counts, if_true, bindOk, readFieldOk] at rest
      obtain ⟨bytes, read, same⟩ := rest
      cases same
      rw [if_pos counts]
      exact ⟨_, rfl, changeStarts.mpr ⟨starts, tagged, mempoolCounterRead.mp ⟨bytes, read, rfl⟩⟩⟩
    | false =>
      simp only [counts, Bool.false_eq_true, if_false] at rest
      cases rest
      rw [if_neg (by simp [counts])]
      exact ⟨rfl, changeStarts.mpr ⟨starts, tagged, List.nil_prefix⟩⟩
  · rintro ⟨body, there, filled⟩
    obtain ⟨hash, kind, counter⟩ := e
    cases counts : kind.countsMempool with
    | true =>
      simp only [counts, if_true] at filled
      obtain ⟨n, rfl, whole⟩ := filled
      obtain ⟨starts, tagged, counted⟩ := changeStarts.mp whole
      obtain ⟨bytes, read, value⟩ := mempoolCounterRead.mpr counted
      refine ⟨body, there, hash, starts, kind, tagged, ?_⟩
      simp only [counts, if_true, bindOk, readFieldOk]
      exact ⟨bytes, read, by rw [value]; rfl⟩
    | false =>
      simp only [counts, Bool.false_eq_true, if_false] at filled
      obtain ⟨rfl, whole⟩ := filled
      obtain ⟨starts, tagged, -⟩ := changeStarts.mp whole
      refine ⟨body, there, hash, starts, kind, tagged, ?_⟩
      simp only [counts, Bool.false_eq_true, if_false]
      rfl

def readAs : Topic → Frame → Except DecodeError Notification
  | .hashTx, f => (decodeHash .hashTx f).map .hashTx
  | .hashBlock, f => (decodeHash .hashBlock f).map .hashBlock
  | .rawTx, f => (decodeRaw .rawTx f).map .rawTx
  | .rawBlock, f => (decodeRaw .rawBlock f).map .rawBlock
  | .sequence, f => (decodeSequence f).map .sequence

theorem decodeLabelled (there : f[0]? = some t.label) : f.decode = readAs t f := by
  cases f with
  | nil => cases there
  | cons label rest =>
    cases Option.some.inj there
    simp only [decode, Topic.labelRead]
    cases t <;> rfl

theorem decodedLabelled {n : Notification} (decoded : f.decode = .ok n) :
    ∃ t : Topic, f[0]? = some t.label := by
  unfold decode at decoded
  split at decoded
  case h_1 => cases decoded
  case h_2 label rest =>
    cases known : Topic.ofLabel? label with
    | none =>
      rw [known] at decoded
      cases decoded
    | some t => exact ⟨t, congrArg some (Topic.labelExact.mp known)⟩

theorem readAsExactly {n : Notification} : readAs t f = .ok n ↔
    n.topic = t ∧ (∃ body, f[1]? = some body ∧ n.event.FillsBody body) ∧
      ∀ c, n.event.counter? = some c →
        ∃ part, f[2]? = some part ∧ Bytes.littleEndian 4 c.toNat <+: part := by
  cases t with
  | hashTx | hashBlock =>
    simp only [readAs, mapOk, hashDecoded]
    constructor
    · rintro ⟨e, ⟨filled, counted⟩, rfl⟩
      exact ⟨rfl, filled, fun c same => Option.some.inj same ▸ counted⟩
    · rintro ⟨topic, filled, counted⟩
      cases n <;> cases topic
      exact ⟨_, ⟨filled, counted _ rfl⟩, rfl⟩
  | rawTx | rawBlock =>
    simp only [readAs, mapOk, rawDecoded]
    constructor
    · rintro ⟨e, ⟨filled, counted⟩, rfl⟩
      exact ⟨rfl, filled, fun c same => Option.some.inj same ▸ counted⟩
    · rintro ⟨topic, filled, counted⟩
      cases n <;> cases topic
      exact ⟨_, ⟨filled, counted _ rfl⟩, rfl⟩
  | sequence =>
    simp only [readAs, mapOk, sequenceDecoded]
    constructor
    · rintro ⟨e, filled, rfl⟩
      exact ⟨rfl, filled, fun c none => nomatch none⟩
    · rintro ⟨topic, filled, -⟩
      cases n <;> cases topic
      exact ⟨_, filled, rfl⟩

theorem decodedExactly {n : Notification} : f.decode = .ok n ↔ f.Carries n := by
  constructor
  · intro decoded
    obtain ⟨t, labelled⟩ := decodedLabelled decoded
    rw [decodeLabelled labelled] at decoded
    obtain ⟨rfl, filled, counted⟩ := readAsExactly.mp decoded
    exact ⟨labelled, filled, counted⟩
  · rintro ⟨labelled, filled, counted⟩
    rw [decodeLabelled labelled]
    exact readAsExactly.mpr ⟨rfl, filled, counted⟩

theorem fillsLonger {e : Event} {more : Bytes} (filled : e.FillsBody body)
    (free : ∀ r, e ≠ .raw r) : e.FillsBody (body ++ more) := by
  cases e with
  | hash e => exact List.prefix_append_of_prefix filled
  | raw e => exact absurd rfl (free e)
  | sequence e =>
    simp only [Event.FillsBody] at filled ⊢
    split at filled
    case isTrue counts =>
      obtain ⟨n, there, starts⟩ := filled
      exact if_pos counts ▸ ⟨n, there, List.prefix_append_of_prefix starts⟩
    case isFalse counts =>
      exact if_neg counts ▸ ⟨filled.1, List.prefix_append_of_prefix filled.2⟩

theorem payloadless {n : Notification} (free : n.topic.isRaw = false) (r : RawEvent) :
    n.event ≠ .raw r := by
  intro same
  cases n <;> cases same <;> cases free

theorem carriesExtended {g : Frame} {n : Notification} (carries : f.Carries n) (extended : g.Extends f) :
    g.Carries n := by
  obtain ⟨labelled, ⟨body, there, filled⟩, counted⟩ := carries
  refine ⟨extended.label _ labelled, ?_, fun c due => ?_⟩
  · cases raw : n.topic.isRaw with
    | true => exact ⟨body, extended.payload _ raw labelled body there, filled⟩
    | false =>
      obtain ⟨more, longer⟩ := extended.part 1 body there
      exact ⟨body ++ more, longer, fillsLonger filled (payloadless raw)⟩
  · obtain ⟨part, there, starts⟩ := counted c due
    obtain ⟨more, longer⟩ := extended.part 2 part there
    exact ⟨part ++ more, longer, List.prefix_append_of_prefix starts⟩

theorem extendedByParts (f : Frame) (more : List Bytes) : (f ++ more : Frame).Extends f := by
  have kept : ∀ {i : Nat} {part : Bytes}, f[i]? = some part → (f ++ more)[i]? = some part := by
    intro i part there
    rw [List.getElem?_append_left (List.getElem?_eq_some_iff.mp there).1]
    exact there
  exact ⟨fun _ there => kept there,
    fun i part there => ⟨[], (List.append_nil part).symm ▸ kept there⟩, fun _ _ _ _ there => kept there⟩

theorem extendedInPart (f : Frame) (more : Bytes) {i : Nat} (later : i ≠ 0)
    (free : i = 1 → ∀ t : Topic, t.isRaw = true → f[0]? ≠ some t.label) :
    Frame.Extends (f.modify i (· ++ more)) f := by
  refine ⟨fun label there => ?_, fun j part there => ?_, fun t raw labelled body there => ?_⟩
  · rw [List.getElem?_modify_ne _ _ later]
    exact there
  · by_cases same : i = j
    · subst same
      exact ⟨more, by rw [List.getElem?_modify_eq, there]; rfl⟩
    · exact ⟨[], by rw [List.getElem?_modify_ne _ _ same, there, List.append_nil]⟩
  · have other : i ≠ 1 := fun one => free one t raw labelled
    rw [List.getElem?_modify_ne _ _ other]
    exact there

theorem properOfFilled {e : Event} (filled : e.FillsBody body) : e.Proper := by
  cases e with
  | hash e => trivial
  | raw e => trivial
  | sequence e =>
    simp only [Event.FillsBody] at filled
    split at filled
    case isTrue counts =>
      obtain ⟨n, there, -⟩ := filled
      simp [Event.Proper, there, counts]
    case isFalse counts => simpa [Event.Proper, filled.1] using counts

theorem encodedFills {e : Event} (proper : e.Proper) :
    ∃ body, e.encodeParts[0]? = some body ∧ e.FillsBody body := by
  cases e with
  | hash e => exact ⟨_, rfl, List.prefix_refl _⟩
  | raw e => exact ⟨_, rfl, rfl⟩
  | sequence e =>
    refine ⟨_, rfl, ?_⟩
    obtain ⟨hash, kind, counter⟩ := e
    have proper : counter.isSome = kind.countsMempool := proper
    cases counter with
    | none => simp [Event.FillsBody, ← proper]
    | some n => simp [Event.FillsBody, ← proper]

theorem encodedCounter {e : Event} {c : UInt32} (due : e.counter? = some c) :
    e.encodeParts[1]? = some (Bytes.littleEndian 4 c.toNat) := by
  cases e <;> cases due <;> rfl

theorem encodedCarries {n : Notification} (proper : n.event.Proper) : n.encode.Carries n := by
  obtain ⟨body, there, filled⟩ := encodedFills proper
  exact ⟨rfl, ⟨body, there, filled⟩, fun c due => ⟨_, encodedCounter due, List.prefix_refl _⟩⟩

/-- A frame is read as a notification exactly if it carries it, what is written is read back, and
whatever is appended, but for the payload of a raw topic, makes no difference. -/
theorem readsWhatIsCarried (f : Frame) (n : Notification) :
    (f.decode = .ok n ↔ f.Carries n) ∧
    (n.event.Proper → ∀ more, Frame.decode (n.encode ++ more) = .ok n) ∧
    (f.decode = .ok n → n.event.Proper) ∧
    (f.decode = .ok n →
      (∀ parts, Frame.decode (f ++ parts) = .ok n) ∧
      (∀ more, Frame.decode (f.modify 2 (· ++ more)) = .ok n) ∧
      (n.topic.isRaw = false → ∀ more, Frame.decode (f.modify 1 (· ++ more)) = .ok n)) := by
  refine ⟨decodedExactly, fun proper more => ?_, fun decoded => ?_, fun decoded => ?_⟩
  · exact decodedExactly.mpr (carriesExtended (encodedCarries proper) (extendedByParts n.encode more))
  · obtain ⟨-, ⟨body, -, filled⟩, -⟩ := decodedExactly.mp decoded
    exact properOfFilled filled
  · have carries := decodedExactly.mp decoded
    have still {g : Frame} (longer : g.Extends f) : g.decode = .ok n :=
      decodedExactly.mpr (carriesExtended carries longer)
    refine ⟨fun parts => still (extendedByParts f parts), fun more => ?_, fun free more => ?_⟩
    · exact still (extendedInPart f more (by decide) (fun other => nomatch other))
    · refine still (extendedInPart f more (by decide) fun _ t raw labelled => ?_)
      have same := Topic.labelDistinct (Option.some.inj (labelled.symm.trans carries.label))
      rw [same, free] at raw
      cases raw

-- What follows a hash or a counter is not looked at; a payload is all of its part.
example : (decode [Topic.rawTx.label, [1, 2], [7, 0, 0, 0, 9], [3]]).toOption = some (.rawTx ⟨[1, 2], 7⟩) ∧
    (decode [Topic.hashTx.label, Hash.zero.bytes ++ [1, 2], [7, 0, 0, 0]]).toOption =
      some (.hashTx ⟨.zero, 7⟩) := by
  decide

end Frame
end NodeFeed
