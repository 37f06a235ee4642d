import NodeFeed.Frame
import NodeFeed.Text.Quoted
import NodeFeed.Proofs.LossyText

/-!
What a publisher can bring into the text of an error by a label that is no topic. The label stands
between quotes, every quote and every backslash of it behind a backslash of its own, and no control
comes through; so the text cannot be left, and where the label is UTF-8 it can be read off again.
-/

namespace NodeFeed.Text

inductive Escaped : List Char → Prop where
  | done : Escaped []
  | plain {c : Char} {rest : List Char} (notBackslash : c ≠ '\\') (notQuote : c ≠ '\x22')
      (next : Escaped rest) : Escaped (c :: rest)
  | pair {c : Char} {rest : List Char} (next : Escaped rest) : Escaped ('\\' :: c :: rest)

theorem Escaped.quoteEscaped {s before after : List Char} (escaped : Escaped s)
    (split : s = before ++ '\x22' :: after) : ∃ front, before = front ++ ['\\'] ∧ Escaped front := by
  induction escaped generalizing before with
  | done => simp at split
  | @plain c rest notBackslash notQuote next ih =>
    rcases List.cons_eq_append_iff.mp split with ⟨rfl, quote⟩ | ⟨before, rfl, later⟩
    · cases quote
      contradiction
    · obtain ⟨front, rfl, escaped⟩ := ih later
      exact ⟨c :: front, rfl, .plain notBackslash notQuote escaped⟩
  | @pair c tail next ih =>
    rcases List.cons_eq_append_iff.mp split with ⟨rfl, quote⟩ | ⟨before, rfl, later⟩
    · simp at quote
    · rcases List.cons_eq_append_iff.mp later with ⟨rfl, _⟩ | ⟨before, rfl, rest⟩
      · exact ⟨[], rfl, .done⟩
      · obtain ⟨front, rfl, escaped⟩ := ih rest
        exact ⟨'\\' :: c :: front, rfl, .pair escaped⟩

def isControl (c : Char) : Bool := c.toNat < 0x20 || c.toNat == 0x7F

theorem shownIsNoControl {c : Char} (shown : isShown c = true) : isControl c = false := by
  unfold isShown at shown
  rcases Nat.lt_trichotomy c.toNat 0x7F with low | delete | high
  · rw [if_pos low, decide_eq_true_eq] at shown
    simp [isControl]
    omega
  · have listed : (0x7F, 0xA0) ∈ hiddenRanges := by
      have first : (0x7F, 0xA0) ∈ hiddenLatinToIndic := List.mem_cons_self
      simp [hiddenRanges, first]
    have hidden : (hiddenRanges.any fun r => r.1 ≤ c.toNat && c.toNat ≤ r.2) = true :=
      List.any_eq_true.mpr ⟨_, listed, by simp [delete]⟩
    rw [if_neg (by omega), hidden] at shown
    contradiction
  · simp [isControl]
    omega

theorem namedEscapeSafe {c name : Char} (h : namedEscape? c = some name) : isControl name = false := by
  obtain ⟨n, found, rfl⟩ := Option.map_eq_some_iff.mp h
  have all : ∀ n ∈ named, isControl n.2 = false := by decide
  exact all n (List.mem_of_find?_eq_some found)

structure Harmless (c : Char) : Prop where
  noControl : isControl c = false
  notBackslash : c ≠ '\\'
  notQuote : c ≠ '\x22'

theorem hexDigitHarmless {d : Nat} (small : d < 16) : Harmless (Bytes.hexDigit d) := by
  have all : ∀ i : Fin 16, isControl (Bytes.hexDigit i) = false ∧ Bytes.hexDigit i ≠ '\\' ∧
      Bytes.hexDigit i ≠ '\x22' := by decide
  obtain ⟨noControl, notBackslash, notQuote⟩ := all ⟨d, small⟩
  exact ⟨noControl, notBackslash, notQuote⟩

theorem escapeCharCases (c : Char) :
    (∃ name, isControl name = false ∧ escapeChar c = ['\\', name]) ∨
    (Harmless c ∧ escapeChar c = [c]) ∨
    (∃ more, (∀ d ∈ more, Harmless d) ∧ escapeChar c = '\\' :: 'u' :: more) := by
  unfold escapeChar
  cases known : namedEscape? c with
  | some name => exact .inl ⟨name, namedEscapeSafe known, rfl⟩
  | none =>
    obtain ⟨notBackslash, notQuote⟩ := unnamedPlain known
    cases shown : isShown c with
    | true => exact .inr (.inl ⟨⟨shownIsNoControl shown, notBackslash, notQuote⟩, rfl⟩)
    | false =>
      refine .inr (.inr ⟨_, ?_, rfl⟩)
      intro d there
      simp only [List.mem_cons, List.mem_append, List.mem_map, List.not_mem_nil, or_false] at there
      rcases there with rfl | ⟨digit, listed, rfl⟩ | rfl
      · exact ⟨rfl, by decide, by decide⟩
      · exact hexDigitHarmless (codeDigitBound listed)
      · exact ⟨rfl, by decide, by decide⟩

theorem harmlessEscaped {more rest : List Char} (harmless : ∀ d ∈ more, Harmless d)
    (next : Escaped rest) : Escaped (more ++ rest) := by
  induction more with
  | nil => exact next
  | cons d more ih =>
    obtain ⟨_, notBackslash, notQuote⟩ := harmless d (by simp)
    exact .plain notBackslash notQuote (ih fun e there => harmless e (by simp [there]))

theorem escapeCharEscaped (c : Char) {rest : List Char} (next : Escaped rest) :
    Escaped (escapeChar c ++ rest) := by
  rcases escapeCharCases c with ⟨name, _, done⟩ | ⟨harmless, done⟩ | ⟨more, harmless, done⟩
  · rw [done]
    exact .pair next
  · rw [done]
    exact .plain harmless.notBackslash harmless.notQuote next
  · rw [done]
    exact .pair (harmlessEscaped harmless next)

theorem escapeCharNoControl (c : Char) : ∀ d ∈ escapeChar c, isControl d = false := by
  rcases escapeCharCases c with ⟨name, safe, done⟩ | ⟨harmless, done⟩ | ⟨more, harmless, done⟩
  · have backslash : isControl '\\' = false := rfl
    simp [done, backslash, safe]
  · simp [done, harmless.noControl]
  · have backslash : isControl '\\' = false := rfl
    have letter : isControl 'u' = false := rfl
    simpa [done, backslash, letter] using fun d there => (harmless d there).noControl

theorem escapeEscaped (s : List Char) : Escaped (escape s) := by
  induction s with
  | nil => exact .done
  | cons c s ih => exact escapeCharEscaped c ih

theorem escapeNoControl (s : List Char) : ∀ d ∈ escape s, isControl d = false := by
  intro d inside
  obtain ⟨c, _, there⟩ := List.mem_flatMap.mp inside
  exact escapeCharNoControl c d there

structure Quotes (label : Bytes) (inside : List Char) : Prop where
  noControl : ∀ c ∈ inside, isControl c = false
  escaped : Escaped inside
  quoteEscaped : ∀ before after, inside = before ++ '\x22' :: after →
    ∃ front, before = front ++ ['\\'] ∧ Escaped front
  readOff : ∃ text, unescape inside = some text ∧ Reads label text
  undone : IsUtf8 label → (unescape inside).map toUtf8 = some label

theorem escapeQuotes (label : Bytes) : Quotes label (escape (ofUtf8Lossy label)) := by
  have read := escapeRead (ofUtf8Lossy label)
  constructor
  · exact escapeNoControl _
  · exact escapeEscaped _
  · exact fun before after split => (escapeEscaped _).quoteEscaped split
  · exact ⟨_, read, .sound label⟩
  · rintro ⟨text, rfl⟩
    rw [read, lossyOfUtf8, Option.map_some]

theorem quoteOfList (s : List Char) :
    quote (String.ofList s) = String.ofList ('\x22' :: (escape s ++ ['\x22'])) := by
  have read : (String.ofList s).toList = s := String.toList_ofList
  rw [quote, read, quoteChars]

end NodeFeed.Text

namespace NodeFeed.Frame

theorem unknownDecoded {label : Bytes} (unknown : ∀ t : Topic, label ≠ t.label) (rest : Frame) :
    decode (label :: rest) = .error (.unknownTopic (String.ofList (Text.ofUtf8Lossy label))) := by
  have none : Topic.ofLabel? label = none := by
    cases known : Topic.ofLabel? label with
    | none => rfl
    | some t => exact absurd (Topic.labelExact.mp known) (unknown t)
  simp only [decode]
  rw [none]

theorem unknownMessage (label : Bytes) :
    (DecodeError.unknownTopic (String.ofList (Text.ofUtf8Lossy label))).message =
      "unknown topic " ++
        String.ofList ('\x22' :: (Text.escape (Text.ofUtf8Lossy label) ++ ['\x22'])) := by
  have message (text : String) :
      (DecodeError.unknownTopic text).message = "unknown topic " ++ Text.quote text := rfl
  rw [message, Text.quoteOfList]

theorem sameMessage {label other : Bytes} (valid : Text.IsUtf8 label) (otherValid : Text.IsUtf8 other)
    (same : (DecodeError.unknownTopic (String.ofList (Text.ofUtf8Lossy label))).message =
      (DecodeError.unknownTopic (String.ofList (Text.ofUtf8Lossy other))).message) : label = other := by
  obtain ⟨text, rfl⟩ := valid
  obtain ⟨otherText, rfl⟩ := otherValid
  rw [unknownMessage, unknownMessage, String.append_right_inj, String.ofList_inj, List.cons.injEq,
    List.append_left_inj] at same
  have read := Text.escapeInjective same.2
  rw [Text.lossyOfUtf8, Text.lossyOfUtf8] at read
  rw [read]

/-- A label that is no topic shows in the message as one quoted text. Two labels that are UTF-8 never show
alike. -/
theorem unknownLabelQuoted (label : Bytes) (unknown : ∀ t : Topic, label ≠ t.label) (rest : Frame) :
    ∃ why inside, decode (label :: rest) = .error why ∧
      why.message = "unknown topic " ++ String.ofList ('\x22' :: (inside ++ ['\x22'])) ∧
      Text.Quotes label inside ∧
      ∀ (other : Bytes) (otherRest : Frame) (otherWhy : DecodeError), (∀ t : Topic, other ≠ t.label) →
        decode (other :: otherRest) = .error otherWhy → Text.IsUtf8 label → Text.IsUtf8 other →
        why.message = otherWhy.message → label = other := by
  refine ⟨_, _, unknownDecoded unknown rest, unknownMessage label, Text.escapeQuotes label, ?_⟩
  intro other otherRest otherWhy otherUnknown refused valid otherValid same
  rw [unknownDecoded otherUnknown] at refused
  cases refused
  exact sameMessage valid otherValid same

theorem unknownLabelQuotedAlike :
    let quote : Bytes := [0x22]
    let escapedQuote : Bytes := [0x5C, 0x22]
    (∀ t : Topic, quote ≠ t.label) ∧ (∀ t : Topic, escapedQuote ≠ t.label) ∧
    Text.IsUtf8 quote ∧ Text.IsUtf8 escapedQuote ∧
    ∃ why otherWhy, decode [quote] = .error why ∧ decode [escapedQuote] = .error otherWhy ∧
      why.message ≠ otherWhy.message := by
  intro quote escapedQuote
  have unknown : ∀ t : Topic, quote ≠ t.label := by intro t; cases t <;> decide
  have otherUnknown : ∀ t : Topic, escapedQuote ≠ t.label := by intro t; cases t <;> decide
  have valid : Text.IsUtf8 quote := ⟨['\x22'], rfl⟩
  have otherValid : Text.IsUtf8 escapedQuote := ⟨['\\', '\x22'], rfl⟩
  obtain ⟨why, _, refused, _, _, apart⟩ := unknownLabelQuoted quote unknown []
  have otherRefused := unknownDecoded otherUnknown []
  refine ⟨unknown, otherUnknown, valid, otherValid, why, _, refused, otherRefused, fun same => ?_⟩
  have equal : quote = escapedQuote :=
    apart escapedQuote [] _ otherUnknown otherRefused valid otherValid same
  simp [quote, escapedQuote] at equal

end NodeFeed.Frame
