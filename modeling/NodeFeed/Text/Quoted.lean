import NodeFeed.Bytes
import NodeFeed.Text.Shown

/-!
Quoted text: double quotes around characters that are shown, named by an escape, or given by number.
`unescape` undoes the escapes and refuses what no escape could have produced. Main statement: it reads
back all that `escape` writes, so two texts never look the same inside quotes.
-/

namespace NodeFeed.Text

def named : List (Char × Char) :=
  [('\x00', '0'), ('\t', 't'), ('\n', 'n'), ('\r', 'r'), ('\x22', '\x22'), ('\\', '\\')]

def namedEscape? (c : Char) : Option Char := (named.find? fun n => n.1 == c).map (·.2)

def ofNamedEscape? (name : Char) : Option Char := (named.find? fun n => n.2 == name).map (·.1)

def codeDigits (n : Nat) : List Nat :=
  [n / 0x100000 % 16, n / 0x10000 % 16, n / 0x1000 % 16, n / 0x100 % 16, n / 16 % 16,
    n % 16].dropWhile (· == 0)

def numberEscape (c : Char) : List Char :=
  '\\' :: 'u' :: '\x7b' :: ((codeDigits c.toNat).map Bytes.hexDigit ++ ['\x7d'])

def escapeChar (c : Char) : List Char :=
  match namedEscape? c with
  | some name => ['\\', name]
  | none => if isShown c then [c] else numberEscape c

def escape (s : List Char) : List Char := s.flatMap escapeChar

def quoteChars (s : List Char) : List Char := '\x22' :: (escape s ++ ['\x22'])

def quote (s : String) : String := String.ofList (quoteChars s.toList)

inductive Reading where
  | plain
  | afterBackslash
  | afterLetter
  | inNumber (value : Nat)
  deriving DecidableEq, Repr

def Reading.next? (r : Reading) (c : Char) : Option (Reading × List Char) :=
  match r with
  | plain =>
    if c = '\\' then some (afterBackslash, [])
    else if c = '\x22' then none
    else some (plain, [c])
  | afterBackslash =>
    if c = 'u' then some (afterLetter, [])
    else (ofNamedEscape? c).map fun d => (plain, [d])
  | afterLetter => if c = '\x7b' then some (inNumber 0, []) else none
  | inNumber value =>
    if c = '\x7d' then
      if value.isValidChar then some (plain, [Char.ofNat value]) else none
    else (Bytes.hexValue? c).map fun d => (inNumber (16 * value + d), [])

def unescapeFrom : Reading → List Char → Option (List Char)
  | .plain, [] => some []
  | _, [] => none
  | r, c :: rest => do
    let (r, read) ← r.next? c
    return read ++ (← unescapeFrom r rest)

def unescape (s : List Char) : Option (List Char) := unescapeFrom .plain s

def withDigits (value : Nat) (ds : List Nat) : Nat := ds.foldl (fun v d => 16 * v + d) value

theorem leadingZerosFree (ds : List Nat) :
    withDigits 0 (ds.dropWhile (· == 0)) = withDigits 0 ds := by
  induction ds with
  | nil => rfl
  | cons d rest ih =>
    by_cases zero : d = 0
    · subst zero; simpa [withDigits] using ih
    · simp [zero]

theorem codeDigitsRead {n : Nat} (h : n < 0x1000000) : withDigits 0 (codeDigits n) = n := by
  rw [codeDigits, leadingZerosFree]
  simp only [withDigits, List.foldl_cons, List.foldl_nil]
  omega

theorem codeDigitBound {n d : Nat} (h : d ∈ codeDigits n) : d < 16 := by
  have all := (List.dropWhile_sublist (p := fun d => d == 0)).mem h
  simp only [List.mem_cons, List.not_mem_nil, or_false] at all
  omega

theorem digitsUnescaped (ds : List Nat) (small : ∀ d ∈ ds, d < 16) (value : Nat)
    (rest : List Char) :
    unescapeFrom (.inNumber value) (ds.map Bytes.hexDigit ++ rest) =
      unescapeFrom (.inNumber (withDigits value ds)) rest := by
  induction ds generalizing value with
  | nil => rfl
  | cons d ds ih =>
    have hd : d < 16 := small d (by simp)
    have noBrace : ∀ i : Fin 16, Bytes.hexDigit i ≠ '\x7d' := by decide
    have step : Reading.next? (.inNumber value) (Bytes.hexDigit d) =
        some (.inNumber (16 * value + d), []) := by
      simp [Reading.next?, noBrace ⟨d, hd⟩, Bytes.hexDigitRead hd]
    rw [List.map_cons, List.cons_append, unescapeFrom.eq_def]
    simp only [step, Option.bind_eq_bind, Option.bind_some, List.nil_append, Option.pure_def,
      Option.bind_fun_some]
    exact ih (fun d h => small d (by simp [h])) _

theorem namedEscapeRead {c name : Char} (h : namedEscape? c = some name) :
    name ≠ 'u' ∧ ofNamedEscape? name = some c := by
  obtain ⟨n, found, rfl⟩ := Option.map_eq_some_iff.1 h
  have same : n.1 = c := by simpa using List.find?_some found
  have all : ∀ n ∈ named, n.2 ≠ 'u' ∧ ofNamedEscape? n.2 = some n.1 := by decide
  exact same ▸ all n (List.mem_of_find?_eq_some found)

theorem unnamedPlain {c : Char} (h : namedEscape? c = none) :
    c ≠ '\\' ∧ c ≠ '\x22' := by
  constructor
  · rintro rfl; revert h; decide
  · rintro rfl; revert h; decide

theorem escapeCharRead (c : Char) (rest : List Char) :
    unescapeFrom .plain (escapeChar c ++ rest) = (unescapeFrom .plain rest).map (c :: ·) := by
  have kept : (unescapeFrom .plain rest).map (c :: ·) =
      (unescapeFrom .plain rest).bind fun more => some (c :: more) := by
    cases unescapeFrom .plain rest <;> rfl
  rw [kept]
  unfold escapeChar
  split
  · next name named =>
    obtain ⟨notLetter, back⟩ := namedEscapeRead named
    simp [unescapeFrom, Reading.next?, notLetter, back]
  · next unnamed =>
    have plain := unnamedPlain unnamed
    split
    · simp [unescapeFrom, Reading.next?, plain.1, plain.2]
    · have bound : c.toNat < 0x1000000 := by
        have := c.valid
        unfold UInt32.isValidChar Nat.isValidChar at this
        have e : c.toNat = c.val.toNat := rfl
        omega
      have whole := codeDigitsRead bound
      simp only [numberEscape, List.cons_append, List.append_assoc, List.nil_append]
      rw [unescapeFrom.eq_def]
      simp only [Reading.next?, if_true, Option.bind_eq_bind, Option.bind_some]
      rw [unescapeFrom.eq_def]
      simp only [Reading.next?, if_true, Option.bind_eq_bind, Option.bind_some]
      rw [unescapeFrom.eq_def]
      simp only [Reading.next?, if_true, Option.bind_eq_bind, Option.bind_some]
      rw [digitsUnescaped _ (fun d h => codeDigitBound h), whole, unescapeFrom.eq_def]
      have valid : c.toNat.isValidChar := c.valid
      simp [Reading.next?, valid]

theorem escapeRead (s : List Char) : unescape (escape s) = some s := by
  unfold unescape
  induction s with
  | nil => rfl
  | cons c rest ih =>
    have split : escape (c :: rest) = escapeChar c ++ escape rest := by simp [escape]
    rw [split, escapeCharRead, ih, Option.map_some]

theorem escapeInjective {s t : List Char} (h : escape s = escape t) : s = t := by
  have := escapeRead s
  rw [h, escapeRead] at this
  exact (Option.some.inj this).symm

end NodeFeed.Text
