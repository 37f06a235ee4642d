import NodeFeed.Text.Utf8
import Mathlib.Tactic.SplitIfs

/-!
The lossy reading of bytes against the encoder of the standard library. A byte sequence that encodes a
character is read as that character, so well-formed text is read back as it is. What is replaced is a
longest beginning of some character's bytes which the text does not complete, or one byte with which
no character begins.
-/

namespace NodeFeed.Text

theorem isContinuationIff (b : UInt8) :
    isContinuation b = true ↔ 0x80 ≤ b.toNat ∧ b.toNat ≤ 0xBF := by
  simp [isContinuation, UInt8.le_iff_toNat_le]

theorem mayFollowIff (a b : UInt8) :
    mayFollow a b = true ↔ 0xC2 ≤ a.toNat ∧ a.toNat ≤ 0xF4 ∧ 0x80 ≤ b.toNat ∧ b.toNat ≤ 0xBF ∧
      (a.toNat = 0xE0 → 0xA0 ≤ b.toNat) ∧ (a.toNat = 0xED → b.toNat ≤ 0x9F) ∧
      (a.toNat = 0xF0 → 0x90 ≤ b.toNat) ∧ (a.toNat = 0xF4 → b.toNat ≤ 0x8F) := by
  simp only [mayFollow, isContinuation, beq_iff_eq, ← UInt8.toNat_inj, UInt8.lt_iff_toNat_lt,
    UInt8.le_iff_toNat_le, UInt8.reduceToNat]
  split_ifs <;> simp <;> omega

inductive Spelling : Bytes → Char → Prop where
  | one {a : UInt8} (ascii : a.toNat < 0x80) : Spelling [a] (Char.ofNat a.toNat)
  | two {a b : UInt8} (short : a.toNat < 0xE0) (follows : mayFollow a b = true) :
      Spelling [a, b] (twoBytes a b)
  | three {a b c : UInt8} (long : 0xE0 ≤ a.toNat) (short : a.toNat < 0xF0)
      (follows : mayFollow a b = true) (third : isContinuation c = true) :
      Spelling [a, b, c] (threeBytes a b c)
  | four {a b c d : UInt8} (long : 0xF0 ≤ a.toNat) (follows : mayFollow a b = true)
      (third : isContinuation c = true) (fourth : isContinuation d = true) :
      Spelling [a, b, c, d] (fourBytes a b c d)

theorem byteIs {n : Nat} {b : UInt8} (same : n = b.toNat) : UInt8.ofNat n = b := by
  rw [same, UInt8.ofNat_toNat]

theorem codeOf {n : Nat} (valid : n.isValidChar) : (Char.ofNat n).toNat = n := by
  rw [Char.ofNat, dif_pos valid]
  rfl

theorem encodeCode {n : Nat} (valid : n.isValidChar) :
    String.utf8EncodeChar (Char.ofNat n) =
      if n ≤ 127 then [UInt8.ofNat n]
      else if n ≤ 2047 then [UInt8.ofNat (n / 64 % 32 + 192), UInt8.ofNat (n % 64 + 128)]
      else if n ≤ 65535 then
        [UInt8.ofNat (n / 4096 % 16 + 224), UInt8.ofNat (n / 64 % 64 + 128), UInt8.ofNat (n % 64 + 128)]
      else
        [UInt8.ofNat (n / 262144 % 8 + 240), UInt8.ofNat (n / 4096 % 64 + 128),
          UInt8.ofNat (n / 64 % 64 + 128), UInt8.ofNat (n % 64 + 128)] := by
  have code : (Char.ofNat n).val.toNat = n := codeOf valid
  simp only [String.utf8EncodeChar, code]

theorem Spelling.sound {s : Bytes} {c : Char} (spelled : Spelling s c) :
    String.utf8EncodeChar c = s := by
  cases spelled with
  | @one a ascii =>
    have valid : a.toNat.isValidChar := by unfold Nat.isValidChar; omega
    rw [encodeCode valid, if_pos (by omega), UInt8.ofNat_toNat]
  | @two a b short follows =>
    rw [mayFollowIff] at follows
    unfold twoBytes tailBits
    generalize value : a.toNat % 32 * 64 + b.toNat % 64 = n
    have valid : n.isValidChar := by unfold Nat.isValidChar; omega
    rw [encodeCode valid, if_neg (by omega), if_pos (by omega), byteIs (b := a) (by omega),
      byteIs (b := b) (by omega)]
  | @three a b c long short follows third =>
    rw [mayFollowIff] at follows
    rw [isContinuationIff] at third
    unfold threeBytes tailBits
    generalize value : (a.toNat % 16 * 64 + b.toNat % 64) * 64 + c.toNat % 64 = n
    have valid : n.isValidChar := by unfold Nat.isValidChar; omega
    rw [encodeCode valid, if_neg (by omega), if_neg (by omega), if_pos (by omega),
      byteIs (b := a) (by omega), byteIs (b := b) (by omega), byteIs (b := c) (by omega)]
  | @four a b c d long follows third fourth =>
    rw [mayFollowIff] at follows
    rw [isContinuationIff] at third fourth
    unfold fourBytes tailBits
    generalize value :
      ((a.toNat % 8 * 64 + b.toNat % 64) * 64 + c.toNat % 64) * 64 + d.toNat % 64 = n
    have valid : n.isValidChar := by unfold Nat.isValidChar; omega
    rw [encodeCode valid, if_neg (by omega), if_neg (by omega), if_neg (by omega),
      byteIs (b := a) (by omega), byteIs (b := b) (by omega), byteIs (b := c) (by omega),
      byteIs (b := d) (by omega)]

theorem byteOf {n : Nat} (small : n < 256) : ∃ b : UInt8, UInt8.ofNat n = b ∧ b.toNat = n :=
  ⟨_, rfl, UInt8.toNat_ofNat_of_lt small⟩

theorem Spelling.complete (c : Char) : Spelling (String.utf8EncodeChar c) c := by
  have code : Char.ofNat c.toNat = c := Char.ofNat_toNat c
  have valid : c.toNat.isValidChar := c.valid
  rw [← code, encodeCode valid]
  generalize c.toNat = n at valid
  unfold Nat.isValidChar at valid
  split_ifs with ascii two three
  · obtain ⟨a, first, va⟩ := byteOf (n := n) (by omega)
    rw [first, ← va]
    exact .one (by omega)
  · obtain ⟨a, first, va⟩ := byteOf (n := n / 64 % 32 + 192) (by omega)
    obtain ⟨b, second, vb⟩ := byteOf (n := n % 64 + 128) (by omega)
    have whole : twoBytes a b = Char.ofNat n := congrArg Char.ofNat (by unfold tailBits; omega)
    rw [first, second, ← whole]
    exact .two (by omega) ((mayFollowIff a b).mpr (by omega))
  · obtain ⟨a, first, va⟩ := byteOf (n := n / 4096 % 16 + 224) (by omega)
    obtain ⟨b, second, vb⟩ := byteOf (n := n / 64 % 64 + 128) (by omega)
    obtain ⟨c, third, vc⟩ := byteOf (n := n % 64 + 128) (by omega)
    have whole : threeBytes a b c = Char.ofNat n := congrArg Char.ofNat (by unfold tailBits; omega)
    rw [first, second, third, ← whole]
    exact .three (by omega) (by omega) ((mayFollowIff a b).mpr (by omega))
      ((isContinuationIff c).mpr (by omega))
  · obtain ⟨a, first, va⟩ := byteOf (n := n / 262144 % 8 + 240) (by omega)
    obtain ⟨b, second, vb⟩ := byteOf (n := n / 4096 % 64 + 128) (by omega)
    obtain ⟨c, third, vc⟩ := byteOf (n := n / 64 % 64 + 128) (by omega)
    obtain ⟨d, fourth, vd⟩ := byteOf (n := n % 64 + 128) (by omega)
    have whole : fourBytes a b c d = Char.ofNat n := congrArg Char.ofNat (by unfold tailBits; omega)
    rw [first, second, third, fourth, ← whole]
    exact .four (by omega) ((mayFollowIff a b).mpr (by omega)) ((isContinuationIff c).mpr (by omega))
      ((isContinuationIff d).mpr (by omega))

theorem firstCharSpelled {lead : UInt8} {tail : Bytes} {c : Char} (spelled : Spelling (lead :: tail) c)
    (rest : Bytes) : firstChar lead (tail ++ rest) = (c, tail.length) := by
  unfold firstChar
  simp only [UInt8.lt_iff_toNat_lt, UInt8.reduceToNat]
  cases spelled with
  | one ascii => rw [if_pos ascii]; rfl
  | two short follows =>
    have bounds := (mayFollowIff _ _).mp follows
    simp [follows, short, show ¬ lead.toNat < 128 by omega]
  | three long short follows third =>
    simp [follows, third, short, show ¬ lead.toNat < 128 by omega, show ¬ lead.toNat < 224 by omega]
  | four long follows third fourth =>
    simp [follows, third, fourth, show ¬ lead.toNat < 128 by omega, show ¬ lead.toNat < 224 by omega,
      show ¬ lead.toNat < 240 by omega]

theorem readSpent (spent rest : Bytes) :
    readLossy spent.length (spent ++ rest) = readLossy 0 rest := by
  induction spent with
  | nil => rfl
  | cons b spent ih => exact ih

theorem readWhole {s : Bytes} {c : Char} (spelled : Spelling s c) (rest : Bytes) :
    ofUtf8Lossy (s ++ rest) = c :: ofUtf8Lossy rest := by
  cases s with
  | nil => cases spelled
  | cons lead tail =>
    simp only [ofUtf8Lossy, List.cons_append, readLossy, firstCharSpelled spelled, readSpent]

theorem lossyOfUtf8 (s : List Char) : ofUtf8Lossy (toUtf8 s) = s := by
  induction s with
  | nil => rfl
  | cons c s ih =>
    have split : toUtf8 (c :: s) = String.utf8EncodeChar c ++ toUtf8 s := rfl
    rw [split, readWhole (.complete c), ih]

def IsUtf8 (s : Bytes) : Prop := ∃ text, s = toUtf8 text

def Begins (part : Bytes) : Prop := ∃ more c, Spelling (part ++ more) c

structure Broken (part rest : Bytes) : Prop where
  something : part ≠ []
  begun : 1 < part.length → Begins part
  unfinished : ∀ s c, Spelling s c → ¬ s <+: part ++ rest
  longest : ∀ b, rest.head? = some b → ¬ Begins (part ++ [b])

inductive Reads : Bytes → List Char → Prop where
  | done : Reads [] []
  | whole {s rest : Bytes} {c : Char} {text : List Char} (spelled : Spelling s c)
      (next : Reads rest text) : Reads (s ++ rest) (c :: text)
  | broken {part rest : Bytes} {text : List Char} (broken : Broken part rest)
      (next : Reads rest text) : Reads (part ++ rest) (replacement :: text)

namespace Spelling

variable {a b x y : UInt8} {tail more : Bytes} {c : Char}

theorem size (spelled : Spelling (a :: tail) c) :
    (0x80 ≤ a.toNat → 0 < tail.length) ∧ (0xE0 ≤ a.toNat → 1 < tail.length) ∧
    (0xF0 ≤ a.toNat → 2 < tail.length) := by
  cases spelled <;> simp <;> omega

theorem second (spelled : Spelling (a :: b :: more) c) : mayFollow a b = true := by
  cases spelled <;> assumption

theorem third (spelled : Spelling (a :: b :: x :: more) c) : isContinuation x = true := by
  cases spelled <;> assumption

theorem fourth (spelled : Spelling (a :: b :: x :: y :: more) c) : isContinuation y = true := by
  cases spelled
  assumption

end Spelling

namespace Broken

variable {front rest : Bytes} {a b x : UInt8}

theorem of (begun : front ≠ [] → Begins (a :: front))
    (short : ∀ tail c, Spelling (a :: tail) c → front.length < tail.length)
    (longest : ∀ b, rest.head? = some b → ¬ Begins (a :: front ++ [b])) :
    Broken (a :: front) rest := by
  refine ⟨by simp, fun more => begun (by simpa [List.length_pos_iff] using more), ?_, longest⟩
  intro s c spelled within
  have inside : ¬ s <+: a :: front := fun inFront => by
    rcases List.prefix_cons_iff.mp inFront with rfl | ⟨tail, rfl, fits⟩
    · cases spelled
    · exact absurd fits.length_le (Nat.not_le.mpr (short tail c spelled))
  -- a character's bytes at the front of the text lie within the part, or go on behind it
  rcases List.prefix_or_prefix_of_prefix within (List.prefix_append (a :: front) rest) with
    before | ⟨after, rfl⟩
  · exact inside before
  · cases after with
    | nil => exact inside (by simp)
    | cons b after =>
      obtain ⟨later, rfl⟩ := (List.prefix_append_right_inj (a :: front)).mp within
      exact longest b rfl ⟨after, c, by simpa using spelled⟩

theorem afterOne (high : 0x80 ≤ a.toNat) (stops : ∀ b, rest.head? = some b → mayFollow a b = false) :
    Broken [a] rest := by
  refine of (by simp) (fun tail c spelled => spelled.size.1 high) ?_
  rintro b next ⟨more, c, spelled⟩
  simpa [stops b next] using spelled.second

theorem afterTwo (long : 0xE0 ≤ a.toNat) (follows : mayFollow a b = true)
    (stops : ∀ x, rest.head? = some x → isContinuation x = false) : Broken [a, b] rest := by
  refine of (fun _ => ?_) (fun tail c spelled => spelled.size.2.1 long) ?_
  · rcases Nat.lt_or_ge a.toNat 0xF0 with three | four
    · exact ⟨[0x80], _, .three long three follows rfl⟩
    · exact ⟨[0x80, 0x80], _, .four four follows rfl rfl⟩
  · rintro x next ⟨more, c, spelled⟩
    simpa [stops x next] using spelled.third

theorem afterThree (long : 0xF0 ≤ a.toNat) (follows : mayFollow a b = true)
    (third : isContinuation x = true) (stops : ∀ y, rest.head? = some y → isContinuation y = false) :
    Broken [a, b, x] rest := by
  refine of (fun _ => ⟨[0x80], _, .four long follows third rfl⟩)
    (fun tail c spelled => spelled.size.2.2 long) ?_
  rintro y next ⟨more, c, spelled⟩
  simpa [stops y next] using spelled.fourth

end Broken

inductive Front (lead : UInt8) : Bytes → Char × Nat → Prop where
  | whole {tail : Bytes} {c : Char} (spelled : Spelling (lead :: tail) c) (after : Bytes) :
      Front lead (tail ++ after) (c, tail.length)
  | broken (tail : Bytes) {after : Bytes} (broken : Broken (lead :: tail) after) :
      Front lead (tail ++ after) (replacement, tail.length)

namespace Front

variable {a b x : UInt8} {rest : Bytes}

theorem spelled {tail : Bytes} {c : Char} (spelled : Spelling (a :: tail) c) (after : Bytes) :
    Front a (tail ++ after) (firstChar a (tail ++ after)) := by
  rw [firstCharSpelled spelled]
  exact .whole spelled after

theorem afterOne (high : 0x80 ≤ a.toNat) (stops : ∀ b, rest.head? = some b → mayFollow a b = false) :
    Front a rest (firstChar a rest) := by
  have read : firstChar a rest = (replacement, 0) := by
    unfold firstChar
    rw [if_neg (by rw [UInt8.lt_iff_toNat_lt]; exact Nat.not_lt.mpr high)]
    cases rest with
    | nil => rfl
    | cons b rest => simp [stops b rfl]
  rw [read]
  exact .broken [] (.afterOne high stops)

theorem afterTwo (long : 0xE0 ≤ a.toNat) (follows : mayFollow a b = true)
    (stops : ∀ x, rest.head? = some x → isContinuation x = false) :
    Front a (b :: rest) (firstChar a (b :: rest)) := by
  have read : firstChar a (b :: rest) = (replacement, 1) := by
    have one : ¬ a < 0x80 := by rw [UInt8.lt_iff_toNat_lt]; simp; omega
    have two : ¬ a < 0xE0 := by rw [UInt8.lt_iff_toNat_lt]; exact Nat.not_lt.mpr long
    cases rest with
    | nil => simp [firstChar, one, two, follows]
    | cons x rest => simp [firstChar, one, two, follows, stops x rfl]
  rw [read]
  exact .broken [b] (.afterTwo long follows stops)

theorem afterThree (long : 0xF0 ≤ a.toNat) (follows : mayFollow a b = true)
    (third : isContinuation x = true) (stops : ∀ y, rest.head? = some y → isContinuation y = false) :
    Front a (b :: x :: rest) (firstChar a (b :: x :: rest)) := by
  have read : firstChar a (b :: x :: rest) = (replacement, 2) := by
    have one : ¬ a < 0x80 := by rw [UInt8.lt_iff_toNat_lt]; simp; omega
    have two : ¬ a < 0xE0 := by rw [UInt8.lt_iff_toNat_lt]; simp; omega
    have three : ¬ a < 0xF0 := by rw [UInt8.lt_iff_toNat_lt]; exact Nat.not_lt.mpr long
    cases rest with
    | nil => simp [firstChar, one, two, three, follows, third]
    | cons y rest => simp [firstChar, one, two, three, follows, third, stops y rfl]
  rw [read]
  exact .broken [b, x] (.afterThree long follows third stops)

end Front

theorem firstCharFront (lead : UInt8) (rest : Bytes) : Front lead rest (firstChar lead rest) := by
  rcases Nat.lt_or_ge lead.toNat 0x80 with one | high
  · exact .spelled (.one one) rest
  rcases rest with _ | ⟨b, rest⟩
  · exact .afterOne high nofun
  cases follows : mayFollow lead b with
  | false => exact .afterOne high (by simpa using follows)
  | true =>
    rcases Nat.lt_or_ge lead.toNat 0xE0 with two | long
    · exact .spelled (.two two follows) rest
    rcases rest with _ | ⟨x, rest⟩
    · exact .afterTwo long follows nofun
    cases third : isContinuation x with
    | false => exact .afterTwo long follows (by simpa using third)
    | true =>
      rcases Nat.lt_or_ge lead.toNat 0xF0 with three | longest
      · exact .spelled (.three long three follows third) rest
      rcases rest with _ | ⟨y, rest⟩
      · exact .afterThree longest follows third nofun
      cases fourth : isContinuation y with
      | false => exact .afterThree longest follows third (by simpa using fourth)
      | true => exact .spelled (.four longest follows third fourth) rest

theorem Reads.dropped (spent : Nat) (s : Bytes) : Reads (s.drop spent) (readLossy spent s) := by
  -- the reader goes byte by byte over what a character has used up, so this is said behind it
  fun_induction readLossy spent s with
  | case1 spent => simpa using Reads.done
  | case2 spent b rest ih => exact ih
  | case3 lead rest ih =>
    generalize first : firstChar lead rest = front at ih ⊢
    cases first ▸ firstCharFront lead rest with
    | whole spelled after => exact .whole spelled (by simpa using ih)
    | broken tail broken => exact .broken broken (by simpa using ih)

theorem Reads.sound (s : Bytes) : Reads s (ofUtf8Lossy s) := Reads.dropped 0 s

theorem Broken.noLonger {part more rest : Bytes} (short : Broken part (more ++ rest))
    (long : Broken (part ++ more) rest) : more = [] := by
  cases more with
  | nil => rfl
  | cons b more =>
    have two : 1 < (part ++ b :: more).length := by
      have := List.length_pos_iff.mpr short.something
      simp only [List.length_append, List.length_cons]
      omega
    obtain ⟨after, c, spelled⟩ := long.begun two
    exact absurd ⟨more ++ after, c, by simpa using spelled⟩ (short.longest b rfl)

theorem Broken.unique {part rest other after : Bytes} (broken : Broken part rest)
    (again : Broken other after) (same : other ++ after = part ++ rest) : other = part := by
  rcases List.append_eq_append_iff.mp same with ⟨more, rfl, rfl⟩ | ⟨more, rfl, rfl⟩
  · simp [again.noLonger broken]
  · simp [broken.noLonger again]

theorem readBroken {part rest : Bytes} (broken : Broken part rest) :
    ofUtf8Lossy (part ++ rest) = replacement :: ofUtf8Lossy rest := by
  obtain ⟨lead, tail, rfl⟩ := List.exists_cons_of_ne_nil broken.something
  rw [ofUtf8Lossy, List.cons_append, readLossy]
  generalize text : tail ++ rest = following
  generalize first : firstChar lead following = front
  cases first ▸ firstCharFront lead following with
  | whole spelled after =>
    exact absurd ⟨after, by simp [← text]⟩ (broken.unfinished _ _ spelled)
  | broken other again =>
    have same := broken.unique again (by simp [← text])
    cases same
    rw [← text, readSpent, ofUtf8Lossy]

theorem Reads.complete {s : Bytes} {text : List Char} (reads : Reads s text) : ofUtf8Lossy s = text := by
  induction reads with
  | done => rfl
  | whole spelled next ih => rw [readWhole spelled, ih]
  | broken broken next ih => rw [readBroken broken, ih]

theorem lossyExact (s : Bytes) (text : List Char) : ofUtf8Lossy s = text ↔ Reads s text :=
  ⟨fun read => read ▸ Reads.sound s, Reads.complete⟩

end NodeFeed.Text
