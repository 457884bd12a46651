import Flowmeter.Proofs.Octets.Words
import Flowmeter.Varint.Sized

/-!
# Reading integers that announce their size

A value written in a size that holds it is read back, whatever follows it
(`readSized?_encodeSized`). The first octet written is the mark of the size and the top six bits of
the value (`encodeSized_eq_cons`).

Nothing else is read: what is read off the front of some octets is written there, in the size that
the first octet announces (`readSized?_eq_some_iff`), and nothing is read only where octets are
missing (`readSized?_eq_none_iff`).
-/

namespace Flowmeter.Varint

namespace Size

variable (s : Size)

theorem octets_eq_succ : s.octets = s.octets - 1 + 1 := by
  cases s <;> rfl

/-- Six bits of the first octet carry the value, besides all of the others. -/
theorem limit_eq : s.limit = 0x40 * BigEndian.weight (s.octets - 1) := by
  cases s <;> rfl

/-- The mark of a size takes two bits. -/
theorem mark_lt : s.mark < 4 := by
  cases s <;> decide

/-- The top two bits of the first octet announce the size. -/
theorem announcedBy_of_div {first : UInt8} (h : first.toNat / 0x40 = s.mark) :
    announcedBy first = s := by
  have hone : first < 0x40 ↔ first.toNat < 0x40 := UInt8.lt_iff_toNat_lt
  have htwo : first < 0x80 ↔ first.toNat < 0x80 := UInt8.lt_iff_toNat_lt
  have hfour : first < 0xC0 ↔ first.toNat < 0xC0 := UInt8.lt_iff_toNat_lt
  have hlt : first.toNat < 256 := first.toNat_lt
  simp only [announcedBy, hone, htwo, hfour]
  cases s with
  | one =>
    have h : first.toNat / 0x40 = 0 := h
    rw [if_pos (by omega)]
  | two =>
    have h : first.toNat / 0x40 = 1 := h
    rw [if_neg (by omega), if_pos (by omega)]
  | four =>
    have h : first.toNat / 0x40 = 2 := h
    rw [if_neg (by omega), if_neg (by omega), if_pos (by omega)]
  | eight =>
    have h : first.toNat / 0x40 = 3 := h
    rw [if_neg (by omega), if_neg (by omega), if_neg (by omega)]

theorem octets_eq_two_pow : s.octets = 2 ^ s.mark := by
  cases s <;> rfl

theorem limit_eq_two_pow : s.limit = 2 ^ (8 * s.octets - 2) := by
  cases s <;> rfl

/-- Every pair of bits is the mark of a size. -/
theorem exists_mark_eq {n : Nat} (h : n < 4) : ∃ s : Size, s.mark = n := by
  match n with
  | 0 => exact ⟨.one, rfl⟩
  | 1 => exact ⟨.two, rfl⟩
  | 2 => exact ⟨.four, rfl⟩
  | 3 => exact ⟨.eight, rfl⟩

theorem mark_announcedBy (first : UInt8) : (announcedBy first).mark = first.toNat / 0x40 := by
  have hlt : first.toNat < 256 := first.toNat_lt
  obtain ⟨s, hs⟩ := exists_mark_eq (n := first.toNat / 0x40) (by omega)
  rw [announcedBy_of_div s hs.symm, hs]

/-- The first octet announces 1, 2, 4 or 8 octets. -/
theorem octets_announcedBy (first : UInt8) :
    (announcedBy first).octets = 2 ^ (first.toNat / 0x40) := by
  rw [octets_eq_two_pow, mark_announcedBy]

end Size

@[simp] theorem length_encodeSized (s : Size) (value : Nat) :
    (encodeSized s value).length = s.octets :=
  BigEndian.length_toOctets ..

/-- The top of a value that a size holds fits the first octet, beside the mark. -/
theorem div_lt_of_lt_limit {s : Size} {value : Nat} (h : value < s.limit) :
    value / BigEndian.weight (s.octets - 1) < 0x40 := by
  rw [s.limit_eq] at h
  exact Nat.div_lt_of_lt_mul (by rwa [Nat.mul_comm] at h)

/-- The first octet as mark and top of the value, the others as what is below. -/
theorem encodeSized_eq_cons {s : Size} {value : Nat} (h : value < s.limit) :
    ∃ first : UInt8, first.toNat = s.mark * 0x40 + value / BigEndian.weight (s.octets - 1) ∧
      encodeSized s value =
        first :: BigEndian.toOctets (s.octets - 1) (s.mark * s.limit + value) := by
  have hpos := BigEndian.weight_pos (s.octets - 1)
  have hquot : (s.mark * s.limit + value) / BigEndian.weight (s.octets - 1) =
      s.mark * 0x40 + value / BigEndian.weight (s.octets - 1) := by
    rw [s.limit_eq, ← Nat.mul_assoc, Nat.add_comm, Nat.add_mul_div_right _ _ hpos, Nat.add_comm]
  have hvalue := div_lt_of_lt_limit h
  have hmark := s.mark_lt
  refine ⟨UInt8.ofNat (s.mark * 0x40 + value / BigEndian.weight (s.octets - 1)), ?_, ?_⟩
  · rw [UInt8.toNat_ofNat']
    exact Nat.mod_eq_of_lt (by omega)
  · rw [encodeSized, s.octets_eq_succ, BigEndian.toOctets_succ, Nat.add_sub_cancel, hquot]

/-- What is written is read back. -/
theorem readSized?_encodeSized {s : Size} {value : Nat} (h : value < s.limit) (rest : Octets) :
    readSized? (encodeSized s value ++ rest) = some ⟨value, s.octets⟩ := by
  obtain ⟨first, hfirst, hencode⟩ := encodeSized_eq_cons h
  have hquot := div_lt_of_lt_limit h
  have hannounced : Size.announcedBy first = s := by
    apply Size.announcedBy_of_div
    rw [hfirst, Nat.add_comm, Nat.add_mul_div_right _ _ (by decide), Nat.div_eq_of_lt hquot,
      Nat.zero_add]
  have htop : first.toNat % 64 = value / BigEndian.weight (s.octets - 1) := by
    rw [hfirst, Nat.mul_add_mod_self_right, Nat.mod_eq_of_lt hquot]
  have hlow : (s.mark * s.limit + value) % BigEndian.weight (s.octets - 1) =
      value % BigEndian.weight (s.octets - 1) := by
    rw [s.limit_eq, ← Nat.mul_assoc, Nat.mul_add_mod_self_right]
  have hoctets := s.octets_eq_succ
  have hsize : s.octets ≤
      (BigEndian.toOctets (s.octets - 1) (s.mark * s.limit + value) ++ rest).length + 1 := by
    rw [List.length_append, BigEndian.length_toOctets]
    omega
  have htake : (BigEndian.toOctets (s.octets - 1) (s.mark * s.limit + value) ++ rest).take
      (s.octets - 1) = BigEndian.toOctets (s.octets - 1) (s.mark * s.limit + value) :=
    List.take_left' (BigEndian.length_toOctets ..)
  rw [hencode, List.cons_append]
  simp only [readSized?, hannounced, hsize, htake, ↓reduceIte]
  rw [BigEndian.append_toOctets, htop, hlow, Nat.div_add_mod']

/-- The octets of an integer write its value in the size that the first one announces. -/
theorem encodeSized_append {first : UInt8} {low : Octets}
    (h : low.length + 1 = (Size.announcedBy first).octets) :
    encodeSized (Size.announcedBy first) (BigEndian.append (first.toNat % 64) low) =
      first :: low := by
  have hweight : BigEndian.weight ((Size.announcedBy first).octets - 1) =
      BigEndian.weight low.length := by rw [← h, Nat.add_sub_cancel]
  have hfirst : first.toNat = first.toNat / 64 * 64 + first.toNat % 64 :=
    (Nat.div_add_mod' ..).symm
  have hnumber : BigEndian.ofOctets (first :: low) =
      (Size.announcedBy first).mark * (Size.announcedBy first).limit +
        BigEndian.append (first.toNat % 64) low := by
    rw [Size.mark_announcedBy, Size.limit_eq, hweight, ← Nat.mul_assoc, ← BigEndian.append_add,
      ← hfirst, BigEndian.ofOctets, BigEndian.append_cons, Nat.zero_mul, Nat.zero_add]
  rw [encodeSized, ← hnumber]
  exact BigEndian.toOctets_ofOctets h

/-- An integer is read where it is written. -/
theorem readSized?_eq_some_iff {octets : Octets} {n : Varint} :
    readSized? octets = some n ↔
      ∃ (s : Size) (following : Octets), n.value < s.limit ∧ n.size = s.octets ∧
        octets = encodeSized s n.value ++ following := by
  constructor
  · intro h
    cases octets with
    | nil => cases h
    | cons first rest =>
      simp only [readSized?] at h
      split at h
      · next hle =>
        cases h
        have hsize := (Size.announcedBy first).octets_eq_succ
        have hlength : (rest.take ((Size.announcedBy first).octets - 1)).length + 1 =
            (Size.announcedBy first).octets := by
          rw [List.length_take]
          omega
        have htop : first.toNat % 64 < 64 := Nat.mod_lt _ (by decide)
        refine ⟨Size.announcedBy first, rest.drop ((Size.announcedBy first).octets - 1), ?_, rfl, ?_⟩
        · rw [Size.limit_eq, BigEndian.weight_eq_pow]
          exact BigEndian.append_lt htop (List.length_take_le ..)
        · rw [encodeSized_append hlength, List.cons_append, List.take_append_drop]
      · cases h
  · rintro ⟨s, following, hvalue, hsize, rfl⟩
    obtain ⟨value, size⟩ := n
    cases hsize
    exact readSized?_encodeSized hvalue following

/-- Nothing is read only where there is no octet, or fewer than the first one announces. -/
theorem readSized?_eq_none_iff {octets : Octets} :
    readSized? octets = none ↔
      ∀ first, octets.head? = some first → octets.length < 2 ^ (first.toNat / 0x40) := by
  cases octets with
  | nil => simp [readSized?]
  | cons first rest =>
    simp only [readSized?, Size.octets_announcedBy, List.head?_cons, Option.some.injEq,
      forall_eq', List.length_cons]
    split
    · next hle => simpa using hle
    · next hlt => simpa using hlt

/-- No more octets are read than there are. -/
theorem size_le_of_readSized? {octets : Octets} {n : Varint} (h : readSized? octets = some n) :
    n.size ≤ octets.length := by
  obtain ⟨s, following, -, hsize, rfl⟩ := readSized?_eq_some_iff.1 h
  rw [hsize, List.length_append, length_encodeSized]
  exact Nat.le_add_right ..

end Flowmeter.Varint
