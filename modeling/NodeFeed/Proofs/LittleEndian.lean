import Mathlib.Algebra.Group.Nat.Defs
import NodeFeed.Bytes

/-!
Little-endian numbers, both ways. A number read back is the one written modulo `256 ^ width`; bytes
written back from the number they stand for are the same bytes.
-/

namespace NodeFeed.Bytes

theorem littleEndianRead (width n : Nat) : toNatLE (littleEndian width n) = n % 256 ^ width := by
  induction width generalizing n with
  | zero => simp [littleEndian, toNatLE, Nat.mod_one]
  | succ width ih =>
    have low : (UInt8.ofNat n).toNat = n % 256 := by simp [UInt8.toNat_ofNat']
    rw [littleEndian, toNatLE, ih, low, Nat.pow_succ, Nat.mul_comm (256 ^ width), Nat.mod_mul]

theorem toNatBounded (s : Bytes) : toNatLE s < 256 ^ s.length := by
  induction s with
  | nil => simp [toNatLE]
  | cons b rest ih =>
    have hb : b.toNat < 256 := b.toNat_lt
    simp only [toNatLE, List.length_cons, Nat.pow_succ]
    omega

theorem littleEndianRestored (s : Bytes) : littleEndian s.length (toNatLE s) = s := by
  induction s with
  | nil => rfl
  | cons b rest ih =>
    have hb : b.toNat < 256 := b.toNat_lt
    have hd : (b.toNat + 256 * toNatLE rest) / 256 = toNatLE rest := by omega
    have hm : UInt8.ofNat (b.toNat + 256 * toNatLE rest) = b := by
      apply UInt8.toNat_inj.1
      simp only [UInt8.toNat_ofNat']
      omega
    simp only [List.length_cons, littleEndian, toNatLE, hd, hm, ih]

end NodeFeed.Bytes
