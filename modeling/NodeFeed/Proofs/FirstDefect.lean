import NodeFeed.Proofs.WireFormat

/-!
Why a frame is refused. What is looked at in a frame, and in which order, depends on its label and, for a
change, on its tag; each check says something of the number of parts, of the length of one of them, or of
the tag. A frame can fail several checks. Reading stops at the first of them and names it, with the lengths
of the frame at hand: `Stops` is that rule, and a reader `Follows` a list of checks if it answers when all
of them pass and fails as the rule says otherwise. Readers that run one after the other follow the one list
and then the other, so each reader is looked at alone.
-/

namespace NodeFeed

inductive Check where
  | notEmpty
  | known
  | part (index : Nat)
  | field (field : Field)
  | kind
  deriving DecidableEq, Repr

def Field.place : Field → Nat
  | .hash | .tag | .mempoolCounter => 1
  | .counter => 2

def ChangeKind.checks (kind : Option ChangeKind) : List Check :=
  if kind.any ChangeKind.countsMempool then [.field .mempoolCounter] else []

def Topic.checks (kind : Option ChangeKind) : Topic → List Check
  | .hashTx | .hashBlock => [.part 1, .field .hash, .part 2, .field .counter]
  | .rawTx | .rawBlock => [.part 1, .part 2, .field .counter]
  | .sequence => .part 1 :: .field .hash :: .field .tag :: .kind :: ChangeKind.checks kind

namespace Frame

def tag? (f : Frame) : Option UInt8 := f[1]?.bind fun body => body[Field.tag.offset]?

def kind? (f : Frame) : Option ChangeKind := f.tag?.bind ChangeKind.ofTag?

def topic? (f : Frame) : Option Topic := f[0]?.bind Topic.ofLabel?

def checks (f : Frame) : List Check :=
  .notEmpty :: .known :: match f.topic? with
    | none => []
    | some t => t.checks f.kind?

theorem topicThere {f : Frame} {t : Topic} : f.topic? = some t ↔ f[0]? = some t.label := by
  simp [topic?, Option.bind_eq_some_iff, Topic.labelExact]

end Frame

namespace Check

def Passes (f : Frame) : Check → Prop
  | .notEmpty => f ≠ []
  | .known => ∃ t : Topic, f[0]? = some t.label
  | .part index => index < f.length
  | .field x => ∃ bytes : Bytes, f[x.place]? = some bytes ∧ x.need ≤ bytes.length
  | .kind => ∃ k : ChangeKind, f.tag? = some k.tag

def blame (f : Frame) : Check → Option DecodeError
  | .notEmpty => some .empty
  | .known => f[0]?.map fun label => .unknownTopic (String.ofList (Text.ofUtf8Lossy label))
  | .part index => f.topic?.map fun t => .missingPart t index
  | .field x => f.topic?.bind fun t => f[x.place]?.map fun bytes => .truncated t x.name x.need bytes.length
  | .kind => f.tag?.map .unknownTag

variable {f : Frame} {e : DecodeError}

@[simp] theorem blamesEmpty : blame f .notEmpty = some e ↔ .empty = e := Option.some_inj

@[simp] theorem blamesLabel : blame f .known = some e ↔
    ∃ label, f[0]? = some label ∧ .unknownTopic (String.ofList (Text.ofUtf8Lossy label)) = e :=
  Option.map_eq_some_iff

@[simp] theorem blamesPart {index : Nat} : blame f (.part index) = some e ↔
    ∃ t : Topic, f[0]? = some t.label ∧ .missingPart t index = e := by
  simp only [blame, Option.map_eq_some_iff, Frame.topicThere]

@[simp] theorem blamesField {x : Field} : blame f (.field x) = some e ↔
    ∃ (t : Topic) (bytes : Bytes), f[0]? = some t.label ∧ f[x.place]? = some bytes ∧
      .truncated t x.name x.need bytes.length = e := by
  simp only [blame, Option.bind_eq_some_iff, Option.map_eq_some_iff, Frame.topicThere, exists_and_left]

@[simp] theorem blamesKind : blame f .kind = some e ↔ ∃ tag, f.tag? = some tag ∧ .unknownTag tag = e :=
  Option.map_eq_some_iff

end Check

inductive Stops (f : Frame) : List Check → DecodeError → Prop where
  | here {c : Check} {rest : List Check} {e : DecodeError}
      (fails : ¬ c.Passes f) (blames : c.blame f = some e) : Stops f (c :: rest) e
  | later {c : Check} {rest : List Check} {e : DecodeError}
      (passes : c.Passes f) (stops : Stops f rest e) : Stops f (c :: rest) e

namespace Stops

variable {f : Frame} {c : Check} {first rest : List Check} {e : DecodeError}

theorem none : ¬ Stops f [] e := by
  intro stops
  cases stops

theorem atFirst : Stops f (c :: rest) e ↔
    ¬ c.Passes f ∧ c.blame f = some e ∨ c.Passes f ∧ Stops f rest e := by
  constructor
  · rintro (⟨fails, blames⟩ | ⟨passes, stops⟩)
    · exact .inl ⟨fails, blames⟩
    · exact .inr ⟨passes, stops⟩
  · rintro (⟨fails, blames⟩ | ⟨passes, stops⟩)
    · exact .here fails blames
    · exact .later passes stops

theorem after (passed : ∀ c ∈ first, c.Passes f) (stops : Stops f rest e) : Stops f (first ++ rest) e := by
  induction first with
  | nil => exact stops
  | cons c first ih =>
    obtain ⟨now, later⟩ := List.forall_mem_cons.mp passed
    exact .later now (ih later)

theorem extend (stops : Stops f first e) (rest : List Check) : Stops f (first ++ rest) e := by
  induction stops with
  | here fails blames => exact .here fails blames
  | later passes _ ih => exact .later passes ih

theorem split (stops : Stops f (first ++ rest) e) :
    Stops f first e ∨ (∀ c ∈ first, c.Passes f) ∧ Stops f rest e := by
  induction first with
  | nil => exact .inr ⟨List.forall_mem_nil _, stops⟩
  | cons c first ih =>
    cases stops with
    | here fails blames => exact .inl (.here fails blames)
    | later passes stops =>
      rcases ih stops with within | ⟨passed, behind⟩
      · exact .inl (.later passes within)
      · exact .inr ⟨List.forall_mem_cons.mpr ⟨passes, passed⟩, behind⟩

theorem blamed (stops : Stops f first e) :
    ∃ passed c rest, first = passed ++ c :: rest ∧ (∀ d ∈ passed, d.Passes f) ∧
      ¬ c.Passes f ∧ c.blame f = some e := by
  induction stops with
  | @here c rest e fails blames => exact ⟨[], c, rest, rfl, List.forall_mem_nil _, fails, blames⟩
  | @later c rest e passes _ ih =>
    obtain ⟨passed, d, behind, rfl, all, fails, blames⟩ := ih
    exact ⟨c :: passed, d, behind, rfl, List.forall_mem_cons.mpr ⟨passes, all⟩, fails, blames⟩

theorem fails (stops : Stops f first e) : ∃ c ∈ first, ¬ c.Passes f := by
  obtain ⟨passed, c, rest, rfl, -, fails, -⟩ := stops.blamed
  exact ⟨c, by simp, fails⟩

end Stops

structure Follows {α : Type} (x : Except DecodeError α) (f : Frame) (checks : List Check) : Prop where
  answers : ∀ a, x = .ok a → ∀ c ∈ checks, c.Passes f
  stops : ∀ e, x = .error e ↔ Stops f checks e

namespace Follows

variable {α β : Type} {f : Frame} {x : Except DecodeError α} {first rest : List Check} {c : Check}

theorem answered (a : α) : Follows (.ok a) f [] where
  answers _ _ := List.forall_mem_nil _
  stops e := by
    constructor <;> intro failed <;> cases failed

theorem single (ok : ∀ a, x = .ok a → c.Passes f)
    (error : ∀ e, x = .error e → ¬ c.Passes f ∧ c.blame f = some e) : Follows x f [c] := by
  refine ⟨fun a same => List.forall_mem_singleton.mpr (ok a same), fun e => ⟨fun same => ?_, fun stops => ?_⟩⟩
  · obtain ⟨fails, blames⟩ := error e same
    exact .here fails blames
  · cases stops with
    | later _ none => cases none
    | here fails blames =>
      cases x with
      | ok a => exact absurd (ok a rfl) fails
      | error why => rw [Option.some.inj ((error why rfl).2.symm.trans blames)]

theorem andThen {next : α → Except DecodeError β} (now : Follows x f first)
    (later : ∀ a, x = .ok a → Follows (next a) f rest) : Follows (x >>= next) f (first ++ rest) := by
  cases x with
  | ok a =>
    have passed := now.answers a rfl
    obtain ⟨answers, stops⟩ := later a rfl
    refine ⟨fun b same => List.forall_mem_append.mpr ⟨passed, answers b same⟩, fun e => ?_⟩
    refine (stops e).trans ⟨Stops.after passed, fun stopped => ?_⟩
    rcases stopped.split with within | ⟨-, behind⟩
    · cases (now.stops e).mpr within
    · exact behind
  | error why =>
    have stopped := (now.stops why).mp rfl
    refine ⟨fun b read => (by cases read), fun e => ⟨fun same => ?_, fun stops => ?_⟩⟩
    · cases same
      exact stopped.extend rest
    · rcases stops.split with within | ⟨passed, -⟩
      · cases (now.stops e).mpr within
        rfl
      · obtain ⟨c, listed, fails⟩ := stopped.fails
        exact absurd (passed c listed) fails

theorem past (passes : c.Passes f) (follows : Follows x f rest) : Follows x f (c :: rest) :=
  (single (x := .ok ()) (fun _ _ => passes) (fun _ failed => nomatch failed)).andThen fun _ _ => follows

theorem refused {e : DecodeError} (follows : Follows (.error e : Except DecodeError α) f first) :
    Follows (.error e : Except DecodeError β) f (first ++ rest) :=
  @andThen α β f _ first rest (fun _ => .error e) follows fun _ answered => nomatch answered

theorem returned (g : α → β) (follows : Follows x f first) :
    Follows (x >>= fun a => pure (g a)) f first := by
  have all := follows.andThen fun a _ => answered (f := f) (g a)
  rwa [List.append_nil] at all

theorem mapped (g : α → β) (follows : Follows x f first) : Follows (x.map g) f first := by
  have same : x.map g = x >>= fun a => pure (g a) := by cases x <;> rfl
  exact same ▸ follows.returned g

end Follows

namespace Frame

variable {f : Frame} {t : Topic} {body : Bytes}

theorem partFollows (labelled : f[0]? = some t.label) (index : Nat) :
    Follows (f.part t index) f [.part index] := by
  refine .single (fun bytes read => ?_) fun e failed => ?_
  · exact (List.getElem?_eq_some_iff.mp (partRead.mp read)).1
  · unfold part at failed
    cases there : f[index]? with
    | some bytes =>
      rw [there] at failed
      cases failed
    | none =>
      rw [there] at failed
      cases failed
      exact ⟨Nat.not_lt.mpr (List.getElem?_eq_none_iff.mp there),
        Check.blamesPart.mpr ⟨t, labelled, rfl⟩⟩

theorem fieldFollows {α : Type} {field : Field} {part : Bytes} {x : Except DecodeError α}
    (labelled : f[0]? = some t.label) (there : f[field.place]? = some part)
    (ok : ∀ a, x = .ok a → ∃ bytes, field.read? part = some bytes)
    (error : ∀ e, x = .error e → field.read? part = none ∧
      e = .truncated t field.name field.need part.length) : Follows x f [.field field] := by
  refine .single (fun a same => ?_) fun e same => ?_
  · obtain ⟨bytes, read⟩ := ok a same
    refine ⟨part, there, Nat.not_lt.mp fun short => ?_⟩
    cases read.symm.trans (Field.unreadIff.mpr short)
  · obtain ⟨unread, rfl⟩ := error e same
    refine ⟨?_, Check.blamesField.mpr ⟨t, part, labelled, there, rfl⟩⟩
    rintro ⟨also, held, enough⟩
    cases Option.some.inj (there.symm.trans held)
    exact Nat.not_lt.mpr enough (Field.unreadIff.mp unread)

theorem readFieldFollows (field : Field) {part : Bytes} (labelled : f[0]? = some t.label)
    (there : f[field.place]? = some part) : Follows (readField t field part) f [.field field] := by
  refine fieldFollows labelled there (fun bytes read => ⟨bytes, readFieldOk.mp read⟩) fun e failed => ?_
  unfold readField at failed
  cases read : field.read? part with
  | some bytes =>
    rw [read] at failed
    cases failed
  | none =>
    rw [read] at failed
    exact ⟨rfl, (Except.error.inj failed).symm⟩

theorem hashFollows (labelled : f[0]? = some t.label) (there : f[1]? = some body) :
    Follows (readHash t body) f [.field .hash] := by
  refine fieldFollows labelled there (fun hash read => ?_) fun e failed => ?_
  · exact ⟨hash.bytes, fieldRead.mpr ⟨hash.length_eq, hashRead.mp read⟩⟩
  · unfold readHash at failed
    split at failed
    case h_1 => cases failed
    case h_2 unread => exact ⟨unread, (Except.error.inj failed).symm⟩

theorem counterFollows (labelled : f[0]? = some t.label) :
    Follows (f.readCounter t) f [.part 2, .field .counter] := by
  refine .andThen (partFollows labelled 2) fun part read => ?_
  exact .returned _ (readFieldFollows .counter labelled (partRead.mp read))

theorem tagThere (there : f[1]? = some body) : f.tag? = body[Field.tag.offset]? := by
  simp [tag?, there]

theorem kindFollows (labelled : f[0]? = some Topic.sequence.label) (there : f[1]? = some body) :
    Follows (readKind body) f [.field .tag, .kind] := by
  have tagged := tagThere there
  unfold readKind
  cases held : body[Field.tag.offset]? with
  | none =>
    have short : body.length < Field.tag.need := Nat.lt_succ_of_le (List.getElem?_eq_none_iff.mp held)
    have cut : Follows (.error (.truncated .sequence Field.tag.name Field.tag.need body.length) :
        Except DecodeError ChangeKind) f [.field .tag] :=
      fieldFollows labelled there (fun _ read => nomatch read) fun e failed =>
        ⟨Field.unreadIff.mpr short, (Except.error.inj failed).symm⟩
    exact cut.refused
  | some tag =>
    have long : Field.tag.need ≤ body.length := (List.getElem?_eq_some_iff.mp held).1
    rw [held] at tagged
    refine .past ⟨body, there, long⟩ (.single (fun k read => ?_) fun e failed => ?_)
    · dsimp only at read
      split at read
      case h_2 => cases read
      case h_1 kind known =>
        exact ⟨kind, tagged.trans (congrArg some (ChangeKind.tagExact.mp known))⟩
    · dsimp only at failed
      split at failed
      case h_1 => cases failed
      case h_2 unknown =>
        cases failed
        refine ⟨?_, Check.blamesKind.mpr ⟨tag, tagged, rfl⟩⟩
        rintro ⟨k, same⟩
        cases Option.some.inj (tagged.symm.trans same)
        cases unknown.symm.trans (ChangeKind.tagRead k)

theorem decodeHashFollows (labelled : f[0]? = some t.label) :
    Follows (f.decodeHash t) f [.part 1, .field .hash, .part 2, .field .counter] := by
  refine .andThen (partFollows labelled 1) fun body read => ?_
  refine .andThen (hashFollows labelled (partRead.mp read)) fun hash _ => ?_
  exact .returned _ (counterFollows labelled)

theorem decodeRawFollows (labelled : f[0]? = some t.label) :
    Follows (f.decodeRaw t) f [.part 1, .part 2, .field .counter] := by
  refine .andThen (partFollows labelled 1) fun payload _ => ?_
  exact .returned _ (counterFollows labelled)

theorem kindThere {k : ChangeKind} (there : f[1]? = some body) (read : readKind body = .ok k) :
    f.kind? = some k := by
  rw [kind?, tagThere there, kindRead.mp read]
  exact ChangeKind.tagRead k

theorem decodeSequenceFollows (labelled : f[0]? = some Topic.sequence.label) :
    Follows f.decodeSequence f (Topic.sequence.checks f.kind?) := by
  refine .andThen (partFollows labelled 1) fun body read => ?_
  have there := partRead.mp read
  refine .andThen (hashFollows labelled there) fun hash _ => ?_
  change Follows _ f ([.field .tag, .kind] ++ ChangeKind.checks f.kind?)
  refine .andThen (kindFollows labelled there) fun kind known => ?_
  rw [kindThere there known, ChangeKind.checks, Option.any_some]
  cases kind.countsMempool with
  | true =>
    simp only [if_true]
    exact .returned _ (readFieldFollows .mempoolCounter labelled there)
  | false =>
    simp only [Bool.false_eq_true, if_false]
    exact .answered _

theorem readAsFollows (labelled : f[0]? = some t.label) : Follows (readAs t f) f (t.checks f.kind?) := by
  cases t with
  | hashTx | hashBlock => exact .mapped _ (decodeHashFollows labelled)
  | rawTx | rawBlock => exact .mapped _ (decodeRawFollows labelled)
  | sequence => exact .mapped _ (decodeSequenceFollows labelled)

theorem decodeFollows (f : Frame) : Follows f.decode f f.checks := by
  cases f with
  | nil =>
    refine .refused (α := Notification) (.single (fun _ read => nomatch read) fun e failed => ?_)
    cases failed
    exact ⟨fun present => present rfl, rfl⟩
  | cons label rest =>
    have present : (label :: rest : Frame) ≠ [] := List.cons_ne_nil _ _
    refine .past present ?_
    cases known : Topic.ofLabel? label with
    | none =>
      have topic : topic? (label :: rest) = none := known
      rw [topic]
      refine .single (fun n read => decodedLabelled read) fun e failed => ?_
      rw [decode, known] at failed
      cases failed
      refine ⟨?_, rfl⟩
      rintro ⟨t, same⟩
      cases Option.some.inj same
      cases known.symm.trans (Topic.labelRead t)
    | some t =>
      have labelled : (label :: rest)[0]? = some t.label := congrArg some (Topic.labelExact.mp known)
      rw [decodeLabelled labelled, topicThere.mpr labelled]
      exact .past ⟨t, labelled⟩ (readAsFollows labelled)

theorem firstDefect {e : DecodeError} (rejected : f.decode = .error e) :
    ∃ passed c rest, f.checks = passed ++ c :: rest ∧ (∀ d ∈ passed, d.Passes f) ∧
      ¬ c.Passes f ∧ c.blame f = some e :=
  (((decodeFollows f).stops e).mp rejected).blamed

theorem tagExtended {g : Frame} {tag : UInt8} (extended : g.Extends f) (held : f.tag? = some tag) :
    g.tag? = some tag := by
  obtain ⟨body, there, byte⟩ := Option.bind_eq_some_iff.mp held
  obtain ⟨more, longer⟩ := extended.part 1 body there
  rw [tagThere longer, List.getElem?_append_left (List.getElem?_eq_some_iff.mp byte).1]
  exact byte

theorem kindExtended {g : Frame} {k : ChangeKind} (extended : g.Extends f) (held : f.kind? = some k) :
    g.kind? = some k := by
  obtain ⟨tag, tagged, read⟩ := Option.bind_eq_some_iff.mp held
  rw [kind?, tagExtended extended tagged]
  exact read

theorem passesExtended {g : Frame} {c : Check} (extended : g.Extends f) (passes : c.Passes f) :
    c.Passes g := by
  cases c with
  | notEmpty =>
    rintro rfl
    cases f with
    | nil => exact passes rfl
    | cons label rest => cases extended.label label rfl
  | known =>
    obtain ⟨t, labelled⟩ := passes
    exact ⟨t, extended.label _ labelled⟩
  | part index =>
    obtain ⟨more, longer⟩ := extended.part index _ (List.getElem?_eq_getElem passes)
    exact (List.getElem?_eq_some_iff.mp longer).1
  | field x =>
    obtain ⟨bytes, there, enough⟩ := passes
    obtain ⟨more, longer⟩ := extended.part x.place bytes there
    exact ⟨bytes ++ more, longer, by rw [List.length_append]; omega⟩
  | kind =>
    obtain ⟨k, tagged⟩ := passes
    exact ⟨k, tagExtended extended tagged⟩

theorem checksLabelled (labelled : f[0]? = some t.label) :
    f.checks = .notEmpty :: .known :: t.checks f.kind? := by
  simp [checks, topic?, labelled, Topic.labelRead]

theorem checksExtended {g : Frame} (extended : g.Extends f) (labelled : f[0]? = some t.label) :
    f.checks <+: g.checks := by
  rw [checksLabelled labelled, checksLabelled (extended.label _ labelled)]
  refine (List.prefix_cons_inj _).mpr ((List.prefix_cons_inj _).mpr ?_)
  cases held : f.kind? with
  | some k => exact (kindExtended extended held).symm ▸ List.prefix_refl _
  | none => cases t <;> simp [Topic.checks, ChangeKind.checks]

theorem rawField {kind : Option ChangeKind} {x : Field} (raw : t.isRaw = true)
    (listed : .field x ∈ t.checks kind) : x = .counter := by
  cases t with
  | rawTx | rawBlock => simpa [Topic.checks] using listed
  | hashTx | hashBlock | sequence => cases raw

theorem fieldNamed {x y : Field} (same : x.name = y.name) : x = y := by
  revert same
  cases x <;> cases y <;> decide

structure CutShort (f : Frame) (t : Topic) (x : Field) (got : Nat) : Prop where
  label : f[0]? = some t.label
  part : ∃ bytes : Bytes, f[x.place]? = some bytes ∧ got = bytes.length
  short : got < x.need
  earlier : ∃ passed rest, f.checks = passed ++ .field x :: rest ∧ ∀ c ∈ passed, c.Passes f
  least : ∀ more : Bytes, x.need ≤ got + more.length ↔
    ∀ less, decode (f.modify x.place (· ++ more)) ≠ .error (.truncated t x.name x.need less)

theorem truncatedShort {name : String} {need got : Nat}
    (rejected : f.decode = .error (.truncated t name need got)) :
    ∃ x : Field, name = x.name ∧ need = x.need ∧ f[0]? = some t.label ∧
      (∃ bytes : Bytes, f[x.place]? = some bytes ∧ got = bytes.length) ∧ got < x.need ∧
      ∃ passed rest, f.checks = passed ++ .field x :: rest ∧ ∀ c ∈ passed, c.Passes f := by
  obtain ⟨passed, c, rest, split, all, fails, blames⟩ := firstDefect rejected
  cases c with
  | field x =>
    obtain ⟨u, bytes, labelled, there, same⟩ := Check.blamesField.mp blames
    cases same
    exact ⟨x, rfl, rfl, labelled, ⟨bytes, there, rfl⟩,
      Nat.lt_of_not_le fun enough => fails ⟨bytes, there, enough⟩, passed, rest, split, all⟩
  | _ => simp at blames

theorem extendedAt {x : Field} (listed : .field x ∈ f.checks) (more : Bytes) :
    Extends (f.modify x.place (· ++ more)) f := by
  refine extendedInPart f more (by cases x <;> decide) fun one u raw other => ?_
  rw [checksLabelled other] at listed
  have last : x = .counter := rawField raw (by simpa using listed)
  rw [last] at one
  cases one

theorem truncatedLeast {x : Field} {bytes : Bytes} (labelled : f[0]? = some t.label)
    (there : f[x.place]? = some bytes) {passed rest : List Check}
    (split : f.checks = passed ++ .field x :: rest) (all : ∀ c ∈ passed, c.Passes f) (more : Bytes) :
    x.need ≤ bytes.length + more.length ↔
      ∀ less, decode (f.modify x.place (· ++ more)) ≠ .error (.truncated t x.name x.need less) := by
  have extended := extendedAt (split ▸ List.mem_append_right passed List.mem_cons_self) more
  have longer : (f.modify x.place (· ++ more))[x.place]? = some (bytes ++ more) := by
    rw [List.getElem?_modify_eq, there]
    rfl
  constructor
  · intro enough less rejected
    obtain ⟨y, name, -, -, ⟨held, also, rfl⟩, short, -⟩ := truncatedShort rejected
    cases fieldNamed name
    cases Option.some.inj (longer.symm.trans also)
    rw [List.length_append] at short
    omega
  · intro never
    by_contra short
    have stops : Stops (f.modify x.place (· ++ more)) (passed ++ .field x :: rest)
        (.truncated t x.name x.need (bytes ++ more).length) := by
      refine .after (fun c before => passesExtended extended (all c before)) (.here ?_ ?_)
      · rintro ⟨held, also, enough⟩
        cases Option.some.inj (longer.symm.trans also)
        exact short (by rwa [List.length_append] at enough)
      · exact Check.blamesField.mpr ⟨t, bytes ++ more, extended.label _ labelled, longer, rfl⟩
    obtain ⟨behind, whole⟩ := checksExtended extended labelled
    rw [split] at whole
    exact never _ (((decodeFollows _).stops _).mpr (whole ▸ stops.extend behind))

def UnknownLabel (f : Frame) (label : Bytes) : Prop :=
  f[0]? = some label ∧ ∀ t : Topic, label ≠ t.label

def UnknownChange (f : Frame) (tag : UInt8) : Prop :=
  f[0]? = some Topic.sequence.label ∧ ∃ body, f[1]? = some body ∧ 33 ≤ body.length ∧ body[32]? = some tag ∧
    ∀ k : ChangeKind, tag ≠ k.tag

structure Diagnosed (f : Frame) (e : DecodeError) : Prop where
  first : ∃ passed c rest, f.checks = passed ++ c :: rest ∧ (∀ d ∈ passed, d.Passes f) ∧
    ¬ c.Passes f ∧ c.blame f = some e
  empty : e = .empty ↔ f = []
  unknownTopic : ∀ text, e = .unknownTopic text ↔
    ∃ label, f.UnknownLabel label ∧ text = String.ofList (Text.ofUtf8Lossy label)
  missing : ∀ t index, e = .missingPart t index → f.length = index ∧ f[0]? = some t.label ∧
    (index = 1 ∨ index = 2 ∧ t ≠ .sequence ∧
      ∃ body, f[1]? = some body ∧ (t.isRaw = false → 32 ≤ body.length))
  truncated : ∀ t name need got, e = .truncated t name need got →
    ∃ x : Field, name = x.name ∧ need = x.need ∧ f.CutShort t x got ∧
      (name, need) ∈ [("hash", 32), ("tag", 33), ("mempool sequence", 41), ("sequence", 4)]
  unknownTag : ∀ tag, e = .unknownTag tag ↔ f.UnknownChange tag
  unrecognized : e.isUnrecognized = true ↔ (∃ label, f.UnknownLabel label) ∨ ∃ tag, f.UnknownChange tag

theorem emptyOnly (rejected : f.decode = .error .empty) : f = [] := by
  obtain ⟨passed, c, rest, -, -, fails, blames⟩ := firstDefect rejected
  cases c with
  | notEmpty => exact not_not.mp fails
  | _ => simp at blames

theorem unknownTopicExactly {text : String} : f.decode = .error (.unknownTopic text) ↔
    ∃ label, f.UnknownLabel label ∧ text = String.ofList (Text.ofUtf8Lossy label) := by
  constructor
  · intro rejected
    obtain ⟨passed, c, rest, -, -, fails, blames⟩ := firstDefect rejected
    cases c with
    | known =>
      obtain ⟨label, there, same⟩ := Check.blamesLabel.mp blames
      cases same
      exact ⟨label, ⟨there, fun t same => fails ⟨t, same ▸ there⟩⟩, rfl⟩
    | _ => simp at blames
  · rintro ⟨label, ⟨there, unknown⟩, rfl⟩
    refine ((decodeFollows f).stops _).mpr (.later ?_ (.here ?_ (Check.blamesLabel.mpr ⟨label, there, rfl⟩)))
    · rintro rfl
      cases there
    · rintro ⟨t, same⟩
      exact unknown t (Option.some.inj (there.symm.trans same))

theorem kindListed (listed : .kind ∈ f.checks) : f[0]? = some Topic.sequence.label := by
  cases label : f.topic? with
  | none => simp [checks, label] at listed
  | some t =>
    cases t with
    | sequence => exact topicThere.mp label
    | _ => simp [checks, label, Topic.checks] at listed

theorem unknownTagExactly {tag : UInt8} : f.decode = .error (.unknownTag tag) ↔ f.UnknownChange tag := by
  constructor
  · intro rejected
    obtain ⟨passed, c, rest, split, -, fails, blames⟩ := firstDefect rejected
    cases c with
    | kind =>
      have labelled := kindListed (split ▸ List.mem_append_right passed List.mem_cons_self)
      obtain ⟨held, tagged, same⟩ := Check.blamesKind.mp blames
      cases same
      obtain ⟨body, there, byte⟩ := Option.bind_eq_some_iff.mp tagged
      refine ⟨labelled, body, there, (List.getElem?_eq_some_iff.mp byte).1, byte, fun k same => ?_⟩
      exact fails ⟨k, same ▸ tagged⟩
    | _ => simp at blames
  · rintro ⟨labelled, body, there, long, byte, unknown⟩
    have tagged : f.tag? = some tag := (tagThere there).trans byte
    rw [(decodeFollows f).stops, checksLabelled labelled]
    have present : f ≠ [] := by
      rintro rfl
      cases labelled
    refine .later present (.later ⟨_, labelled⟩ (.later (List.getElem?_eq_some_iff.mp there).1 ?_))
    refine .later ⟨body, there, Nat.le_of_succ_le long⟩ (.later ⟨body, there, long⟩ (.here ?_ ?_))
    case refine_2 => exact Check.blamesKind.mpr ⟨tag, tagged, rfl⟩
    rintro ⟨k, same⟩
    exact unknown k (Option.some.inj (tagged.symm.trans same))

theorem missingWithin {kind : Option ChangeKind} {index : Nat}
    (stops : Stops f (t.checks kind) (.missingPart t index)) :
    index = 1 ∧ f.length ≤ 1 ∨ index = 2 ∧ f.length = 2 ∧ t ≠ .sequence ∧
      (t.isRaw = false → Check.Passes f (.field .hash)) := by
  have atPart {i : Nat} (blames : Check.blame f (.part i) = some (.missingPart t index)) : index = i := by
    obtain ⟨u, -, same⟩ := Check.blamesPart.mp blames
    cases same
    rfl
  have atField {x : Field} : Check.blame f (.field x) ≠ some (.missingPart t index) := by simp
  cases t with
  | sequence =>
    have only : ¬ Stops f (.field .hash :: .field .tag :: .kind :: ChangeKind.checks kind)
        (.missingPart .sequence index) := by
      unfold ChangeKind.checks
      split <;> simp [Stops.atFirst, Stops.none]
    rcases Stops.atFirst.mp stops with ⟨fails, blames⟩ | ⟨-, behind⟩
    · exact .inl ⟨atPart blames, Nat.not_lt.mp fails⟩
    · exact absurd behind only
  | hashTx | hashBlock =>
    simp only [Topic.checks, Stops.atFirst, Stops.none, atField, and_false, or_false, false_or] at stops
    rcases stops with ⟨fails, blames⟩ | ⟨there, hash, fails, blames⟩
    · exact .inl ⟨atPart blames, Nat.not_lt.mp fails⟩
    · exact .inr ⟨atPart blames, Nat.le_antisymm (Nat.not_lt.mp fails) there, by decide, fun _ => hash⟩
  | rawTx | rawBlock =>
    simp only [Topic.checks, Stops.atFirst, Stops.none, atField, and_false, or_false] at stops
    rcases stops with ⟨fails, blames⟩ | ⟨there, fails, blames⟩
    · exact .inl ⟨atPart blames, Nat.not_lt.mp fails⟩
    · exact .inr ⟨atPart blames, Nat.le_antisymm (Nat.not_lt.mp fails) there, by decide,
        fun cooked => nomatch cooked⟩

theorem missingPlace {index : Nat} (rejected : f.decode = .error (.missingPart t index)) :
    f.length = index ∧ f[0]? = some t.label ∧ (index = 1 ∨ index = 2 ∧ t ≠ .sequence ∧
      ∃ body, f[1]? = some body ∧ (t.isRaw = false → 32 ≤ body.length)) := by
  have stops := ((decodeFollows f).stops _).mp rejected
  have labelled : f[0]? = some t.label := by
    obtain ⟨passed, c, rest, -, -, -, blames⟩ := firstDefect rejected
    cases c with
    | part i =>
      obtain ⟨u, labelled, same⟩ := Check.blamesPart.mp blames
      cases same
      exact labelled
    | _ => simp at blames
  rw [checksLabelled labelled] at stops
  simp only [Stops.atFirst, Check.blamesEmpty, Check.blamesLabel, reduceCtorEq, and_false, exists_false,
    false_or] at stops
  obtain ⟨present, -, stops⟩ := stops
  rcases missingWithin stops with ⟨rfl, short⟩ | ⟨rfl, two, hashed, long⟩
  · exact ⟨Nat.le_antisymm short (List.length_pos_iff.mpr present), labelled, .inl rfl⟩
  · refine ⟨two, labelled, .inr ⟨rfl, hashed, ?_⟩⟩
    cases raw : t.isRaw with
    | true => exact ⟨f[1], List.getElem?_eq_getElem _, fun cooked => nomatch cooked⟩
    | false =>
      obtain ⟨body, there, enough⟩ := long raw
      exact ⟨body, there, fun _ => enough⟩

theorem truncatedExactly {name : String} {need got : Nat}
    (rejected : f.decode = .error (.truncated t name need got)) :
    ∃ x : Field, name = x.name ∧ need = x.need ∧ f.CutShort t x got ∧
      (name, need) ∈ [("hash", 32), ("tag", 33), ("mempool sequence", 41), ("sequence", 4)] := by
  obtain ⟨x, rfl, rfl, labelled, ⟨bytes, there, rfl⟩, short, passed, rest, split, all⟩ :=
    truncatedShort rejected
  refine ⟨x, rfl, rfl, ⟨labelled, ⟨bytes, there, rfl⟩, short, ⟨passed, rest, split, all⟩, ?_⟩, ?_⟩
  · exact truncatedLeast labelled there split all
  · cases x <;> decide

theorem unrecognizedExactly {e : DecodeError} (rejected : f.decode = .error e) :
    e.isUnrecognized = true ↔ (∃ label, f.UnknownLabel label) ∨ ∃ tag, f.UnknownChange tag := by
  constructor
  · intro benign
    cases e with
    | unknownTopic text =>
      obtain ⟨label, unknown, -⟩ := unknownTopicExactly.mp rejected
      exact .inl ⟨label, unknown⟩
    | unknownTag tag => exact .inr ⟨tag, unknownTagExactly.mp rejected⟩
    | empty | missingPart | truncated => cases benign
  · rintro (⟨label, unknown⟩ | ⟨tag, unknown⟩)
    · cases rejected.symm.trans (unknownTopicExactly.mpr ⟨label, unknown, rfl⟩)
      rfl
    · cases rejected.symm.trans (unknownTagExactly.mpr unknown)
      rfl

/-- A frame that is refused is refused for the first check it fails, whatever else is wrong with it. -/
theorem rejectedByFirstDefect (f : Frame) :
    Follows f.decode f f.checks ∧ ∀ e, f.decode = .error e → Diagnosed f e := by
  refine ⟨decodeFollows f, fun e rejected => ?_⟩
  have only {d : DecodeError} : e = d ↔ f.decode = .error d :=
    ⟨fun same => same ▸ rejected, fun other => Except.error.inj (rejected.symm.trans other)⟩
  exact {
    first := firstDefect rejected
    empty := ⟨fun same => emptyOnly (only.mp same), fun same => only.mpr (same ▸ rfl)⟩
    unknownTopic := fun _ => only.trans unknownTopicExactly
    missing := fun _ _ same => missingPlace (only.mp same)
    truncated := fun _ _ _ _ same => truncatedExactly (only.mp same)
    unknownTag := fun _ => only.trans unknownTagExactly
    unrecognized := unrecognizedExactly rejected }

theorem rejectedByShortHash :
    Diagnosed [Topic.hashTx.label, List.replicate 31 0] (.truncated .hashTx "hash" 32 31) ∧
    Diagnosed [Topic.sequence.label, List.replicate 32 0 ++ [0x58]] (.unknownTag 0x58) :=
  ⟨(rejectedByFirstDefect _).2 _ rfl, (rejectedByFirstDefect _).2 _ rfl⟩

end Frame
end NodeFeed
