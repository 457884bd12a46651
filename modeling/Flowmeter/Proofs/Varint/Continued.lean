import Flowmeter.Proofs.Octets.Words
import Flowmeter.Varint.Continued

/-!
# Reading integers with a continuation bit

What is read is exactly what is written: a continued integer is read off the front of some octets
if and only if these begin with its digits, all but the last marked, and there are at most
`maxOctets` of them (`readContinued?_eq_some_iff`).

Said of the octets themselves: the integer ends at the first octet without the continuation bit, if
this is one of the first `maxOctets`, and its digits are what the bit leaves
(`readContinued?_eq_some_iff_marked`); else there is none (`readContinued?_eq_none_iff`).
-/

namespace Flowmeter.Varint

/-! ## Marked digits -/

/-- The digit of an octet: all of it but the continuation bit. -/
def digit (b : UInt8) : UInt8 :=
  b &&& 0x7F

theorem toNat_digit (b : UInt8) : (digit b).toNat = b.toNat % 128 :=
  BigEndian.toNat_and_ones b 0x7F (k := 7) rfl

theorem digit_lt (b : UInt8) : digit b < 0x80 := by
  rw [UInt8.lt_iff_toNat_lt, toNat_digit]
  exact Nat.mod_lt _ (by decide)

theorem digit_of_lt {b : UInt8} (h : b < 0x80) : digit b = b := by
  apply UInt8.toNat_inj.1
  rw [toNat_digit]
  exact Nat.mod_eq_of_lt (UInt8.lt_iff_toNat_lt.1 h)

theorem toNat_marked {d : UInt8} (h : d < 0x80) : (d ||| 0x80).toNat = d.toNat + 0x80 := by
  have hd : d.toNat < 2 ^ 7 := UInt8.lt_iff_toNat_lt.1 h
  have hor := Nat.two_pow_add_eq_or_of_lt hd 1
  rw [UInt8.toNat_or, Nat.or_comm]
  change 0x80 ||| d.toNat = _
  rw [← hor, Nat.add_comm]

theorem not_marked_lt {d : UInt8} (h : d < 0x80) : ¬ (d ||| 0x80) < 0x80 := by
  rw [UInt8.lt_iff_toNat_lt, toNat_marked h]
  exact Nat.not_lt.2 (Nat.le_add_left ..)

/-- An octet with the continuation bit is its digit, marked. -/
theorem digit_or_mark {b : UInt8} (h : 0x80 ≤ b) : digit b ||| 0x80 = b := by
  have hle : 0x80 ≤ b.toNat := UInt8.le_iff_toNat_le.1 h
  have hlt : b.toNat < 256 := b.toNat_lt
  apply UInt8.toNat_inj.1
  rw [toNat_marked (digit_lt b), toNat_digit]
  omega

/-! ## Written digits -/

@[simp] theorem length_encodeContinued (digits : Octets) :
    (encodeContinued digits).length = digits.length := by
  fun_induction encodeContinued digits with
  | case1 => rfl
  | case2 => rfl
  | case3 d rest hrest ih => rw [List.length_cons, List.length_cons, ih]

theorem encodeContinued_cons {d : UInt8} {rest : Octets} (h : rest ≠ []) :
    encodeContinued (d :: rest) = (d ||| 0x80) :: encodeContinued rest := by
  cases rest with
  | nil => exact absurd rfl h
  | cons e rest => rfl

theorem map_digit_append_singleton_ne_nil (marked : Octets) (last : UInt8) :
    (marked ++ [last]).map digit ≠ [] := by
  simp

theorem length_map_digit_append_singleton (marked : Octets) (last : UInt8) :
    ((marked ++ [last]).map digit).length = marked.length + 1 := by
  rw [List.length_map, List.length_append, List.length_singleton]

/-- Marked octets and one that is not marked are what their digits are written as. -/
theorem encodeContinued_map_digit {marked : Octets} {last : UInt8}
    (hmarked : ∀ b ∈ marked, 0x80 ≤ b) (hlast : last < 0x80) :
    encodeContinued ((marked ++ [last]).map digit) = marked ++ [last] := by
  induction marked with
  | nil => rw [List.nil_append, List.map_singleton, digit_of_lt hlast, encodeContinued]
  | cons b marked ih =>
    have hrest : ∀ c ∈ marked, 0x80 ≤ c := fun c hc => hmarked c (List.mem_cons_of_mem _ hc)
    rw [List.cons_append, List.map_cons,
      encodeContinued_cons (map_digit_append_singleton_ne_nil marked last),
      digit_or_mark (hmarked b List.mem_cons_self), ih hrest]

theorem forall_mem_map_digit_lt (octets : Octets) : ∀ d ∈ octets.map digit, d < 0x80 := by
  intro d hd
  obtain ⟨b, -, rfl⟩ := List.mem_map.1 hd
  exact digit_lt b

/-! ## Reading -/

theorem readContinuedFrom_of_lt {budget read : Nat} {b : UInt8} {rest : Octets} (h : b < 0x80) :
    readContinuedFrom (budget + 1) read (b :: rest) = some ⟨read * 256 + b.toNat, 1⟩ := by
  have hmod : b.toNat % 128 = b.toNat := Nat.mod_eq_of_lt (UInt8.lt_iff_toNat_lt.1 h)
  simp only [readContinuedFrom, h, hmod, ↓reduceIte]

theorem readContinuedFrom_of_marked {budget read : Nat} {d : UInt8} {rest : Octets}
    (h : d < 0x80) :
    readContinuedFrom (budget + 1) read ((d ||| 0x80) :: rest) =
      (readContinuedFrom budget (read * 256 + d.toNat) rest).map
        fun v => { v with size := v.size + 1 } := by
  have hd : d.toNat < 128 := UInt8.lt_iff_toNat_lt.1 h
  have hmod : (d ||| 0x80).toNat % 128 = d.toNat := by
    rw [toNat_marked h]
    omega
  simp only [readContinuedFrom, not_marked_lt h, hmod, ↓reduceIte]

theorem readContinuedFrom_encodeContinued {digits : Octets} (hne : digits ≠ [])
    (hlt : ∀ d ∈ digits, d < 0x80) (budget read : Nat) (hlength : digits.length ≤ budget)
    (rest : Octets) :
    readContinuedFrom budget read (encodeContinued digits ++ rest) =
      some ⟨BigEndian.append read digits, digits.length⟩ := by
  induction digits generalizing budget read with
  | nil => exact absurd rfl hne
  | cons d digits ih =>
    have hd := hlt d List.mem_cons_self
    obtain ⟨budget, rfl⟩ : ∃ b, budget = b + 1 := by
      refine ⟨budget - 1, ?_⟩
      rw [List.length_cons] at hlength
      omega
    by_cases hdigits : digits = []
    · subst hdigits
      exact readContinuedFrom_of_lt hd
    · have hih := ih hdigits (fun e he => hlt e (List.mem_cons_of_mem _ he)) budget
        (read * 256 + d.toNat) (Nat.le_of_succ_le_succ hlength)
      rw [encodeContinued_cons hdigits, List.cons_append, readContinuedFrom_of_marked hd, hih]
      rfl

section Reading

variable {budget read : Nat} {marked following octets : Octets} {last : UInt8} {n : Varint}

/-- Marked octets and one that is not marked are an integer. -/
theorem readContinuedFrom_marked (hmarked : ∀ b ∈ marked, 0x80 ≤ b) (hlast : last < 0x80)
    (hlength : marked.length < budget) :
    readContinuedFrom budget read (marked ++ last :: following) =
      some ⟨BigEndian.append read ((marked ++ [last]).map digit), marked.length + 1⟩ := by
  have hdigits := length_map_digit_append_singleton marked last
  have hread := readContinuedFrom_encodeContinued (map_digit_append_singleton_ne_nil marked last)
    (forall_mem_map_digit_lt _) budget read (hdigits ▸ hlength) following
  rwa [encodeContinued_map_digit hmarked hlast, hdigits, List.append_assoc,
    List.singleton_append] at hread

/-- As long as all octets are marked, there is no integer. -/
theorem readContinuedFrom_eq_none (h : ∀ b ∈ octets.take budget, 0x80 ≤ b) :
    readContinuedFrom budget read octets = none := by
  induction budget generalizing read octets with
  | zero => rfl
  | succ budget ih =>
    cases octets with
    | nil => rfl
    | cons b octets =>
      rw [List.take_succ_cons] at h
      have hb : ¬ b < 0x80 := UInt8.not_lt.2 (h b List.mem_cons_self)
      simp only [readContinuedFrom, hb, ↓reduceIte]
      rw [ih fun c hc => h c (List.mem_cons_of_mem _ hc)]
      rfl

/-- Either the first octets are all marked, or one of them is the first that is not. -/
theorem marked_or_exists_last (budget : Nat) (octets : Octets) :
    (∀ b ∈ octets.take budget, 0x80 ≤ b) ∨
      ∃ marked last following, octets = marked ++ last :: following ∧ marked.length < budget ∧
        (∀ b ∈ marked, 0x80 ≤ b) ∧ last < 0x80 := by
  induction budget generalizing octets with
  | zero => exact .inl fun b hb => absurd hb List.not_mem_nil
  | succ budget ih =>
    cases octets with
    | nil => exact .inl fun b hb => absurd hb List.not_mem_nil
    | cons b octets =>
      by_cases hb : b < 0x80
      · exact .inr ⟨[], b, octets, rfl, Nat.succ_pos _, fun c hc => absurd hc List.not_mem_nil, hb⟩
      · have hb : 0x80 ≤ b := UInt8.not_lt.1 hb
        rcases ih octets with hall | ⟨marked, last, following, rfl, hlength, hmarked, hlast⟩
        · left
          rw [List.take_succ_cons, List.forall_mem_cons]
          exact ⟨hb, hall⟩
        · refine .inr ⟨b :: marked, last, following, rfl, Nat.succ_lt_succ hlength, ?_, hlast⟩
          rw [List.forall_mem_cons]
          exact ⟨hb, hmarked⟩

/-- A continued integer is read up to the first octet that is not marked. -/
theorem readContinued?_eq_some_iff_marked :
    readContinued? octets = some n ↔
      ∃ marked last following, octets = marked ++ last :: following ∧
        marked.length < maxOctets ∧ (∀ b ∈ marked, 0x80 ≤ b) ∧ last < 0x80 ∧
        n = ⟨BigEndian.ofOctets ((marked ++ [last]).map digit), marked.length + 1⟩ := by
  constructor
  · intro h
    rcases marked_or_exists_last maxOctets octets with
      hall | ⟨marked, last, following, rfl, hlength, hmarked, hlast⟩
    · rw [readContinued?, readContinuedFrom_eq_none hall] at h
      cases h
    · rw [readContinued?, readContinuedFrom_marked hmarked hlast hlength] at h
      cases h
      exact ⟨marked, last, following, rfl, hlength, hmarked, hlast, rfl⟩
  · rintro ⟨marked, last, following, rfl, hlength, hmarked, hlast, rfl⟩
    exact readContinuedFrom_marked hmarked hlast hlength

/-- There is no integer where the first octets are all marked. -/
theorem readContinued?_eq_none_iff :
    readContinued? octets = none ↔ ∀ b ∈ octets.take maxOctets, 0x80 ≤ b := by
  constructor
  · intro h
    rcases marked_or_exists_last maxOctets octets with
      hall | ⟨marked, last, following, rfl, hlength, hmarked, hlast⟩
    · exact hall
    · rw [readContinued?, readContinuedFrom_marked hmarked hlast hlength] at h
      cases h
  · exact readContinuedFrom_eq_none

/-- A continued integer is read where its digits are written. -/
theorem readContinued?_eq_some_iff :
    readContinued? octets = some n ↔
      ∃ digits rest, digits ≠ [] ∧ digits.length ≤ maxOctets ∧ (∀ d ∈ digits, d < 0x80) ∧
        octets = encodeContinued digits ++ rest ∧
        n = ⟨BigEndian.ofOctets digits, digits.length⟩ := by
  constructor
  · intro h
    obtain ⟨marked, last, following, rfl, hlength, hmarked, hlast, rfl⟩ :=
      readContinued?_eq_some_iff_marked.1 h
    have hdigits := length_map_digit_append_singleton marked last
    refine ⟨(marked ++ [last]).map digit, following, map_digit_append_singleton_ne_nil _ _,
      hdigits ▸ hlength, forall_mem_map_digit_lt _, ?_, ?_⟩
    · rw [encodeContinued_map_digit hmarked hlast, List.append_assoc, List.singleton_append]
    · rw [hdigits]
  · rintro ⟨digits, rest, hne, hlength, hlt, rfl, rfl⟩
    exact readContinuedFrom_encodeContinued hne hlt maxOctets 0 hlength rest

/-! ## The octets of an integer -/

/-- The octets that are taken are written from the value and their number. -/
theorem take_size_of_readContinued? (h : readContinued? octets = some n) :
    octets.take n.size = encodeContinued (BigEndian.toOctets n.size n.value) := by
  obtain ⟨digits, rest, -, -, -, rfl, rfl⟩ := readContinued?_eq_some_iff.1 h
  rw [BigEndian.toOctets_ofOctets rfl]
  exact List.take_left' (length_encodeContinued digits)

/-- What is read does not depend on what follows it. -/
theorem readContinued?_take_append (h : readContinued? octets = some n) (following : Octets) :
    readContinued? (octets.take n.size ++ following) = some n := by
  obtain ⟨digits, rest, hne, hlength, hlt, rfl, rfl⟩ := readContinued?_eq_some_iff.1 h
  rw [List.take_left' (length_encodeContinued digits)]
  exact readContinued?_eq_some_iff.2 ⟨digits, following, hne, hlength, hlt, rfl, rfl⟩

/-- The value has room in 31 bits: the first digit has seven of them, up to three others eight. -/
theorem value_lt_of_readContinued? (h : readContinued? octets = some n) : n.value < 2 ^ 31 := by
  obtain ⟨digits, rest, hne, hlength, hlt, rfl, rfl⟩ := readContinued?_eq_some_iff.1 h
  cases digits with
  | nil => exact absurd rfl hne
  | cons d digits =>
    have hd : d.toNat < 128 := UInt8.lt_iff_toNat_lt.1 (hlt d List.mem_cons_self)
    have hvalue := BigEndian.append_lt hd (Nat.le_of_succ_le_succ hlength)
    rwa [← Nat.zero_add d.toNat, ← Nat.zero_mul 256] at hvalue

end Reading

end Flowmeter.Varint
