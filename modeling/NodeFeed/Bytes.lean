/-!
Byte strings as they travel in frames, the little-endian numbers in them, and their hexadecimal
text. A byte string read back from its hexadecimal digits is the one written.
-/

namespace NodeFeed

abbrev Bytes := List UInt8

namespace Bytes

def toNatLE : Bytes → Nat
  | [] => 0
  | b :: rest => b.toNat + 256 * toNatLE rest

def littleEndian : (width : Nat) → (n : Nat) → Bytes
  | 0, _ => []
  | width + 1, n => UInt8.ofNat n :: littleEndian width (n / 256)

@[simp] theorem littleEndianLength (width n : Nat) : (littleEndian width n).length = width := by
  induction width generalizing n with
  | zero => rfl
  | succ width ih => simp [littleEndian, ih]

def hexDigit (n : Nat) : Char := if n < 10 then Char.ofNat (48 + n) else Char.ofNat (87 + n)

def hexValue? (c : Char) : Option Nat :=
  if 48 ≤ c.toNat ∧ c.toNat ≤ 57 then some (c.toNat - 48)
  else if 97 ≤ c.toNat ∧ c.toNat ≤ 102 then some (c.toNat - 87)
  else if 65 ≤ c.toNat ∧ c.toNat ≤ 70 then some (c.toNat - 55)
  else none

theorem hexDigitRead {n : Nat} (h : n < 16) : hexValue? (hexDigit n) = some n := by
  have all : ∀ i : Fin 16, hexValue? (hexDigit i) = some i.val := by decide
  exact all ⟨n, h⟩

def hexPair (b : UInt8) : List Char := [hexDigit (b.toNat / 16), hexDigit (b.toNat % 16)]

def hex (s : Bytes) : String := String.ofList (s.flatMap hexPair)

def ofHexChars? : List Char → Option Bytes
  | [] => some []
  | [_] => none
  | a :: b :: rest => do
    let high ← hexValue? a
    let low ← hexValue? b
    let bytes ← ofHexChars? rest
    return UInt8.ofNat (16 * high + low) :: bytes

def ofHex? (s : String) : Option Bytes := ofHexChars? s.toList

theorem hexRead (s : Bytes) : ofHex? s.hex = some s := by
  have chars : ofHexChars? (s.flatMap hexPair) = some s := by
    induction s with
    | nil => rfl
    | cons b rest ih =>
      have small : b.toNat < 256 := b.toNat_lt
      have high : hexValue? (hexDigit (b.toNat / 16)) = some (b.toNat / 16) :=
        hexDigitRead (by omega)
      have low : hexValue? (hexDigit (b.toNat % 16)) = some (b.toNat % 16) :=
        hexDigitRead (by omega)
      have byte : UInt8.ofNat (16 * (b.toNat / 16) + b.toNat % 16) = b := by
        rw [Nat.div_add_mod, UInt8.ofNat_toNat]
      simp only [List.flatMap_cons, hexPair, List.cons_append, List.nil_append, ofHexChars?, high,
        low, ih, byte, Option.bind_eq_bind, Option.bind_some, Option.pure_def]
  simpa [ofHex?, hex] using chars

def ofAscii (s : String) : Bytes := s.toList.map fun c => UInt8.ofNat c.toNat

end Bytes
end NodeFeed
