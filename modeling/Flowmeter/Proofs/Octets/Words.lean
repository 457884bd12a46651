import Flowmeter.Octets.BigEndian
import Mathlib.Algebra.Group.Nat.Defs

/-!
# Big-endian numbers in words

`BigEndian.appendWord` reads octets into a word of `w` bits as a register takes them in: all bits
move up by one octet, then the octet is laid over the lowest ones. A number that fits the word is
read without losing a bit, and the word holds it after each octet (`toNat_appendWord`).

Of an octet that carries marks in its highest bits, a mask leaves the digit (`toNat_and_ones`).
-/

namespace Flowmeter.BigEndian

/-- The word after the octets have been shifted into it, one after the other. -/
def appendWord {w : Nat} (read : BitVec w) (octets : Octets) : BitVec w :=
  octets.foldl (fun acc b => acc <<< 8 ||| b.toBitVec.setWidth w) read

@[simp] theorem appendWord_nil {w : Nat} (read : BitVec w) : appendWord read [] = read := rfl

@[simp] theorem appendWord_cons {w : Nat} (read : BitVec w) (b : UInt8) (rest : Octets) :
    appendWord read (b :: rest) = appendWord (read <<< 8 ||| b.toBitVec.setWidth w) rest := rfl

/-! ## Numbers and their sizes -/

theorem weight_eq_pow (count : Nat) : weight count = 256 ^ count := by
  induction count with
  | zero => rfl
  | succ count ih => rw [weight, ih, Nat.pow_succ]

/-- Reading on never makes a number smaller. -/
theorem le_append (read : Nat) (octets : Octets) : read ≤ append read octets := by
  have hle := (append_bounds read octets).1
  have hpos := weight_pos octets.length
  exact Nat.le_trans (Nat.le_mul_of_pos_right read hpos) hle

/-- A number that starts below `limit` is below `limit * 256 ^ count` when `count` octets have been
read on. -/
theorem append_lt {read limit count : Nat} {octets : Octets} (hread : read < limit)
    (hlength : octets.length ≤ count) : append read octets < limit * 256 ^ count := by
  have hlt := (append_bounds read octets).2
  rw [weight_eq_pow] at hlt
  calc append read octets
      < (read + 1) * 256 ^ octets.length := hlt
    _ ≤ limit * 256 ^ octets.length := Nat.mul_le_mul_right _ hread
    _ ≤ limit * 256 ^ count :=
      Nat.mul_le_mul_left _ (Nat.pow_le_pow_right (by decide) hlength)

/-- What stands in front of a number counts by the weight of its octets. -/
theorem append_add (front read : Nat) (octets : Octets) :
    append (front + read) octets = front * weight octets.length + append read octets := by
  induction octets generalizing front read with
  | nil => simp [weight]
  | cons b rest ih =>
    rw [append_cons, append_cons, List.length_cons, weight, Nat.add_mul, Nat.add_assoc, ih,
      Nat.mul_assoc, Nat.mul_comm 256]

/-! ## Reading into a word -/

/-- One octet shifted in, with nothing lost at the top. -/
theorem toNat_shiftLeft_or {w : Nat} {acc : BitVec w} {b : UInt8}
    (h : acc.toNat * 256 + b.toNat < 2 ^ w) :
    (acc <<< 8 ||| b.toBitVec.setWidth w).toNat = acc.toNat * 256 + b.toNat := by
  have hb : b.toNat < 2 ^ 8 := b.toNat_lt
  have hshift : acc.toNat <<< 8 % 2 ^ w = 2 ^ 8 * acc.toNat := by
    rw [Nat.shiftLeft_eq, Nat.mul_comm]
    apply Nat.mod_eq_of_lt
    omega
  have hoctet : b.toNat % 2 ^ w = b.toNat := by
    apply Nat.mod_eq_of_lt
    omega
  rw [BitVec.toNat_or, BitVec.toNat_shiftLeft, BitVec.toNat_setWidth, UInt8.toNat_toBitVec, hshift,
    hoctet, ← Nat.two_pow_add_eq_or_of_lt hb, Nat.mul_comm]

/-- A word that the number fits holds the number. -/
theorem toNat_appendWord {w : Nat} {read : BitVec w} {octets : Octets}
    (h : append read.toNat octets < 2 ^ w) :
    (appendWord read octets).toNat = append read.toNat octets := by
  induction octets generalizing read with
  | nil => rfl
  | cons b rest ih =>
    rw [append_cons] at h ⊢
    have hstep := toNat_shiftLeft_or (Nat.lt_of_le_of_lt (le_append _ rest) h)
    rw [← hstep] at h ⊢
    rw [appendWord_cons]
    exact ih h

/-! ## Digits under marks -/

/-- A mask of `k` ones leaves the lowest `k` bits of an octet. -/
theorem toNat_and_ones (b mask : UInt8) {k : Nat} (h : mask.toNat = 2 ^ k - 1) :
    (b &&& mask).toNat = b.toNat % 2 ^ k := by
  rw [UInt8.toNat_and, h, Nat.and_two_pow_sub_one_eq_mod]

end Flowmeter.BigEndian
