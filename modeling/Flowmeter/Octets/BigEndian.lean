import Flowmeter.Octets.Search

/-!
# Big-endian numbers

`ofOctets` reads octets as the base-256 digits of a number, most significant first; `toOctets`
writes a number in a given count of octets.
-/

namespace Flowmeter.BigEndian

/-- The number with the given base-256 digits, continuing a number already read. -/
def append (read : Nat) (octets : Octets) : Nat :=
  octets.foldl (fun acc b => acc * 256 + b.toNat) read

/-- The number with the given base-256 digits. -/
def ofOctets (octets : Octets) : Nat :=
  append 0 octets

/-- The lowest `count` base-256 digits of a number. -/
def toOctets : (count : Nat) → Nat → Octets
  | 0, _ => []
  | count + 1, n => toOctets count (n / 256) ++ [UInt8.ofNat n]

@[simp] theorem length_toOctets (count n : Nat) : (toOctets count n).length = count := by
  induction count generalizing n with
  | zero => rfl
  | succ count ih => simp [toOctets, ih]

@[simp] theorem append_nil (read : Nat) : append read [] = read := rfl

@[simp] theorem append_cons (read : Nat) (b : UInt8) (rest : Octets) :
    append read (b :: rest) = append (read * 256 + b.toNat) rest := rfl

theorem append_append (read : Nat) (left right : Octets) :
    append read (left ++ right) = append (append read left) right :=
  List.foldl_append

/-- The weight of a digit that stands before `count` others. -/
def weight : (count : Nat) → Nat
  | 0 => 1
  | count + 1 => weight count * 256

theorem weight_pos (count : Nat) : 0 < weight count := by
  induction count with
  | zero => exact Nat.one_pos
  | succ count ih => exact Nat.mul_pos ih (by decide)

/-- Reading on over written digits gives the number modulo what they can hold. -/
theorem append_toOctets (read count n : Nat) :
    append read (toOctets count n) = read * weight count + n % weight count := by
  induction count generalizing n with
  | zero => simp [toOctets, weight, Nat.mod_one]
  | succ count ih =>
    have hmod : n % (weight count * 256) = n % 256 + 256 * (n / 256 % weight count) := by
      rw [Nat.mul_comm, Nat.mod_mul]
    rw [toOctets, append_append, ih, append_cons, append_nil, UInt8.toNat_ofNat', weight, hmod,
      Nat.add_mul, Nat.mul_assoc]
    omega

theorem ofOctets_toOctets {count n : Nat} (h : n < weight count) :
    ofOctets (toOctets count n) = n := by
  rw [ofOctets, append_toOctets, Nat.zero_mul, Nat.zero_add, Nat.mod_eq_of_lt h]

theorem toOctets_succ (count n : Nat) :
    toOctets (count + 1) n = UInt8.ofNat (n / weight count) :: toOctets count n := by
  induction count generalizing n with
  | zero => simp [toOctets, weight]
  | succ count ih =>
    rw [toOctets, ih, Nat.div_div_eq_div_mul, Nat.mul_comm]
    rfl

/-- A number that has been read lies between its leading part and the next one. -/
theorem append_bounds (read : Nat) (octets : Octets) :
    read * weight octets.length ≤ append read octets ∧
      append read octets < (read + 1) * weight octets.length := by
  induction octets generalizing read with
  | nil => simp [weight]
  | cons b rest ih =>
    obtain ⟨hle, hlt⟩ := ih (read * 256 + b.toNat)
    have hb : b.toNat + 1 ≤ 256 := b.toNat_lt
    have hweight : weight (b :: rest).length = 256 * weight rest.length := Nat.mul_comm ..
    rw [append_cons, hweight, ← Nat.mul_assoc, ← Nat.mul_assoc]
    constructor
    · exact Nat.le_trans (Nat.mul_le_mul_right _ (Nat.le_add_right ..)) hle
    · exact Nat.lt_of_lt_of_le hlt (Nat.mul_le_mul_right _ (by omega))

theorem ofOctets_lt {octets : Octets} {count : Nat} (h : octets.length = count) :
    ofOctets octets < weight count := by
  have hlt := (append_bounds 0 octets).2
  rwa [Nat.zero_add, Nat.one_mul, h] at hlt

/-- The digits that have been read are written again. -/
theorem toOctets_append (read : Nat) (octets : Octets) :
    toOctets octets.length (append read octets) = octets := by
  induction octets generalizing read with
  | nil => rfl
  | cons b rest ih =>
    obtain ⟨hle, hlt⟩ := append_bounds (read * 256 + b.toNat) rest
    have hdiv : append (read * 256 + b.toNat) rest / weight rest.length = read * 256 + b.toNat :=
      Nat.div_eq_of_lt_le hle hlt
    have hdigit : UInt8.ofNat (read * 256 + b.toNat) = b := by
      apply UInt8.toNat_inj.1
      have hb : b.toNat < 256 := b.toNat_lt
      rw [UInt8.toNat_ofNat']
      omega
    rw [append_cons, List.length_cons, toOctets_succ, hdiv, hdigit, ih]

theorem toOctets_ofOctets {octets : Octets} {count : Nat} (h : octets.length = count) :
    toOctets count (ofOctets octets) = octets :=
  h ▸ toOctets_append 0 octets

end Flowmeter.BigEndian
