import NodeFeed.Bytes

/-!
Text from bytes that need not be UTF-8. Well-formed sequences give their characters. Of what is not
well formed, each longest beginning of a sequence, or else each single byte, gives one replacement
character.
-/

namespace NodeFeed.Text

def replacement : Char := '\uFFFD'

def isContinuation (b : UInt8) : Bool := 0x80 ≤ b && b ≤ 0xBF

/-- Whether `next` may stand second after the lead byte `lead`. Overlong forms, surrogates and
values above U+10FFFF are excluded here, so the bytes after the second are free. -/
def mayFollow (lead next : UInt8) : Bool :=
  if lead < 0xC2 then false
  else if lead < 0xE0 then isContinuation next
  else if lead == 0xE0 then 0xA0 ≤ next && next ≤ 0xBF
  else if lead == 0xED then 0x80 ≤ next && next ≤ 0x9F
  else if lead < 0xF0 then isContinuation next
  else if lead == 0xF0 then 0x90 ≤ next && next ≤ 0xBF
  else if lead < 0xF4 then isContinuation next
  else if lead == 0xF4 then 0x80 ≤ next && next ≤ 0x8F
  else false

def tailBits (b : UInt8) : Nat := b.toNat % 64

def twoBytes (a b : UInt8) : Char := Char.ofNat (a.toNat % 32 * 64 + tailBits b)

def threeBytes (a b c : UInt8) : Char :=
  Char.ofNat ((a.toNat % 16 * 64 + tailBits b) * 64 + tailBits c)

def fourBytes (a b c d : UInt8) : Char :=
  Char.ofNat (((a.toNat % 8 * 64 + tailBits b) * 64 + tailBits c) * 64 + tailBits d)

/-- The character that starts with the byte `lead`, and how many of the bytes after it belong to
the character. -/
def firstChar (lead : UInt8) (rest : Bytes) : Char × Nat :=
  if lead < 0x80 then (Char.ofNat lead.toNat, 0)
  else match rest with
    | [] => (replacement, 0)
    | b :: rest =>
      if !mayFollow lead b then (replacement, 0)
      else if lead < 0xE0 then (twoBytes lead b, 1)
      else match rest with
        | [] => (replacement, 1)
        | c :: rest =>
          if !isContinuation c then (replacement, 1)
          else if lead < 0xF0 then (threeBytes lead b c, 2)
          else match rest with
            | [] => (replacement, 2)
            | d :: _ =>
              if !isContinuation d then (replacement, 2) else (fourBytes lead b c d, 3)

def readLossy : (spent : Nat) → Bytes → List Char
  | _, [] => []
  | spent + 1, _ :: rest => readLossy spent rest
  | 0, lead :: rest => (firstChar lead rest).1 :: readLossy (firstChar lead rest).2 rest

def ofUtf8Lossy (s : Bytes) : List Char := readLossy 0 s

def toUtf8 (s : List Char) : Bytes := s.flatMap String.utf8EncodeChar

end NodeFeed.Text
