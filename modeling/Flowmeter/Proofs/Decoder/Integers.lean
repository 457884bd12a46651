import Flowmeter.Decoder
import Flowmeter.Proofs.Varint.Continued
import Flowmeter.Proofs.Varint.Sized

/-!
# Integers on the wire

The two encodings of integers, and the decoders that take one off a view. Both decoders are
`Decoder.integer` with a reader of their own: they take the octets that the reader counts, and
nothing when it finds no integer.

An integer that announces its size is read back from any size that holds it, and nothing but such
integers is read (`readSized?_exact`). One with continuation bits ends at the first octet without
the bit, which must be among the first four (`readContinued?_exact`). The machine words that the
readers need, of 64 and of 32 bits, hold the number after every octet.
-/

namespace Flowmeter

/-- Dropping the octets in front leaves what follows them. -/
theorem View.drop_length_eq_iff {v rest : View} {taken following : Octets}
    (h : v.bytes = taken ++ following) :
    rest = v.drop taken.length ↔
      following = rest.bytes ∧ rest.offset = v.offset + taken.length := by
  obtain ⟨offset, bytes⟩ := rest
  have hdrop : v.bytes.drop taken.length = following := by
    rw [h, List.drop_left]
  rw [View.drop, hdrop, View.mk.injEq, and_comm, eq_comm (a := bytes)]

namespace Decoder

open Varint (Size encodeSized length_encodeSized readSized?_eq_some_iff)

variable {ε : Type} {read : Octets → Option Varint} {error : ReadError} {v rest : View}
  {value : Nat} {f : Fault ε}

/-- Takes an integer off the front of a view. -/
def integer (read : Octets → Option Varint) (error : ReadError) : Decoder ε Nat := fun v =>
  match read v.bytes with
  | some n => .ok (n.value, v.drop n.size)
  | none => unreadable error v

theorem continued_eq_integer :
    (continued : Decoder ε Nat) = integer Varint.readContinued? .tooLarge := rfl

theorem sized_eq_integer : (sized : Decoder ε Nat) = integer Varint.readSized? .eof := rfl

theorem integer_eq_ok_iff :
    (integer read error : Decoder ε Nat) v = .ok (value, rest) ↔
      ∃ size, read v.bytes = some ⟨value, size⟩ ∧ rest = v.drop size := by
  unfold integer
  constructor
  · intro h
    split at h
    · next n hn =>
      cases h
      exact ⟨n.size, hn, rfl⟩
    · cases h
  · rintro ⟨size, hread, rfl⟩
    rw [hread]

theorem integer_eq_error_iff :
    (integer read error : Decoder ε Nat) v = .error f ↔
      read v.bytes = none ∧ f = ⟨.read error, v⟩ := by
  unfold integer
  constructor
  · intro h
    split at h
    · cases h
    · next hn =>
      cases h
      exact ⟨hn, rfl⟩
  · rintro ⟨hread, rfl⟩
    rw [hread]
    rfl

/-- The decoder takes the octets that an integer is written in. -/
theorem sized_eq_ok_iff :
    (sized : Decoder ε Nat) v = .ok (value, rest) ↔
      ∃ s : Size, value < s.limit ∧ v.bytes = encodeSized s value ++ rest.bytes ∧
        rest.offset = v.offset + s.octets := by
  rw [sized_eq_integer, integer_eq_ok_iff]
  constructor
  · rintro ⟨size, hread, hrest⟩
    obtain ⟨s, following, hvalue, hsize, hbytes⟩ := readSized?_eq_some_iff.1 hread
    have hsize : size = (encodeSized s value).length := by
      rw [length_encodeSized]
      exact hsize
    rw [hsize] at hrest
    obtain ⟨rfl, hoffset⟩ := (View.drop_length_eq_iff hbytes).1 hrest
    rw [length_encodeSized] at hoffset
    exact ⟨s, hvalue, hbytes, hoffset⟩
  · rintro ⟨s, hvalue, hbytes, hoffset⟩
    refine ⟨s.octets, readSized?_eq_some_iff.2 ⟨s, rest.bytes, hvalue, rfl, hbytes⟩, ?_⟩
    rw [← length_encodeSized s value] at hoffset ⊢
    exact (View.drop_length_eq_iff hbytes).2 ⟨rfl, hoffset⟩

end Decoder

namespace Varint

open BigEndian (appendWord)

/-! ## Integers that announce their size -/

section Sized

variable {first : UInt8} {rest : Octets} {value size : Nat}

/-- The lower six bits of the first octet, in a word. -/
theorem toNat_firstBits (first : UInt8) :
    ((first &&& 0x3F).toBitVec.setWidth 64).toNat = first.toNat % 64 := by
  rw [BitVec.toNat_setWidth, UInt8.toNat_toBitVec, BigEndian.toNat_and_ones first 0x3F (k := 6) rfl]
  omega

/-- Up to seven octets are read on into a word of 64 bits, none of which is lost. -/
theorem toNat_appendWord_firstBits {k : Nat} (hk : k < 8) :
    (appendWord ((first &&& 0x3F).toBitVec.setWidth 64) (rest.take k)).toNat =
      BigEndian.append (first.toNat % 64) (rest.take k) := by
  have htop : first.toNat % 64 < 64 := Nat.mod_lt _ (by decide)
  have hlength : (rest.take k).length ≤ 7 :=
    Nat.le_trans (List.length_take_le ..) (Nat.le_of_lt_succ hk)
  have hvalue := BigEndian.append_lt htop hlength
  rw [BigEndian.toNat_appendWord, toNat_firstBits]
  rw [toNat_firstBits]
  exact Nat.lt_trans hvalue (by decide)

theorem size_le_eight_of_readSized? (h : readSized? (first :: rest) = some ⟨value, size⟩) :
    size ≤ 8 := by
  obtain ⟨s, -, -, hsize, -⟩ := readSized?_eq_some_iff.1 h
  have hsize : size = s.octets := hsize
  cases s <;> exact hsize ▸ by decide

theorem value_eq_of_readSized? (h : readSized? (first :: rest) = some ⟨value, size⟩) :
    value = BigEndian.append (first.toNat % 64) (rest.take (size - 1)) := by
  simp only [readSized?] at h
  split at h
  · cases h
    rfl
  · cases h

end Sized

/-- **Integers that announce their size are read exactly as they are written.** What is read is a
value that some size holds, written in this size at the front of the octets; nothing is read only
where octets are missing; a word of 64 bits holds the number after each octet; and the decoder takes
the octets of the integer, or fails where it stands. -/
theorem readSized?_exact {ε : Type} :
    (∀ (octets : Octets) (value size : Nat), readSized? octets = some ⟨value, size⟩ ↔
      ∃ (s : Size) (following : Octets), value < 2 ^ (8 * s.octets - 2) ∧ size = s.octets ∧
        octets = encodeSized s value ++ following) ∧
    (∀ octets : Octets, readSized? octets = none ↔
      octets = [] ∨ ∃ first rest, octets = first :: rest ∧
        octets.length < 2 ^ (first.toNat / 0x40)) ∧
    (∀ (first : UInt8) (rest : Octets) (value size : Nat),
      readSized? (first :: rest) = some ⟨value, size⟩ →
        (∀ k < size, (appendWord ((first &&& 0x3F).toBitVec.setWidth 64) (rest.take k)).toNat =
          BigEndian.append (first.toNat % 64) (rest.take k)) ∧
        value = (appendWord ((first &&& 0x3F).toBitVec.setWidth 64) (rest.take (size - 1))).toNat) ∧
    (∀ (v rest : View) (value : Nat), (Decoder.sized : Decoder ε Nat) v = .ok (value, rest) ↔
      ∃ s : Size, value < 2 ^ (8 * s.octets - 2) ∧ v.bytes = encodeSized s value ++ rest.bytes ∧
        rest.offset = v.offset + s.octets) ∧
    (∀ (v : View) (f : Fault ε), Decoder.sized v = .error f ↔
      readSized? v.bytes = none ∧ f = ⟨.read .eof, v⟩) := by
  refine ⟨fun octets value size => ?_, fun octets => ?_, fun first rest value size h => ?_,
    fun v rest value => ?_, fun v f => ?_⟩
  · simp only [← Size.limit_eq_two_pow]
    exact readSized?_eq_some_iff
  · rw [readSized?_eq_none_iff]
    cases octets with
    | nil => simp
    | cons first rest => simp
  · have hsize := size_le_eight_of_readSized? h
    constructor
    · intro k hk
      exact toNat_appendWord_firstBits (Nat.lt_of_lt_of_le hk hsize)
    · rw [toNat_appendWord_firstBits (by omega)]
      exact value_eq_of_readSized? h
  · simp only [← Size.limit_eq_two_pow]
    exact Decoder.sized_eq_ok_iff
  · rw [Decoder.sized_eq_integer]
    exact Decoder.integer_eq_error_iff

/-- A sample of the encoding in eight octets, with an octet that follows it. -/
theorem readSized?_exact_sample :
    (151288809941952652 : Nat) < 2 ^ (8 * Size.eight.octets - 2) ∧
    readSized? [0xC2, 0x19, 0x7C, 0x5E, 0xFF, 0x14, 0xE8, 0x8C, 0xAA] =
      some ⟨151288809941952652, 8⟩ :=
  ⟨by decide, ((readSized?_exact (ε := Empty)).1 _ _ _).2
    ⟨.eight, [0xAA], by decide, rfl, by decide⟩⟩

/-! ## Integers with a continuation bit -/

/-- Four octets are read into a word of 32 bits, none of which is lost. -/
theorem toNat_appendWord_digits {octets : Octets} (h : octets.length ≤ 4) :
    (appendWord (0 : BitVec 32) (octets.map digit)).toNat =
      BigEndian.ofOctets (octets.map digit) := by
  have hlength : (octets.map digit).length ≤ 4 := by
    rwa [List.length_map]
  have hvalue := BigEndian.append_lt Nat.one_pos hlength
  exact BigEndian.toNat_appendWord (Nat.lt_of_lt_of_le hvalue (by decide))

/-- **Integers with a continuation bit are uniquely decodable.** An integer is read where one of the
first four octets is the first without the bit, and it is the number that the lower seven bits of
the octets up to this one spell; these octets are determined by the number and its size, and what
follows them does not count. No bit is lost in a word of 32 bits, of which 31 hold the number.
Nothing is read where the first four octets, or all that there are, have the bit; then the decoder
fails where it stands. -/
theorem readContinued?_exact {ε : Type} :
    (∀ (octets : Octets) (value size : Nat), readContinued? octets = some ⟨value, size⟩ ↔
      ∃ marked last following, octets = marked ++ last :: following ∧
        size = marked.length + 1 ∧ size ≤ 4 ∧ (∀ b ∈ marked, 0x80 ≤ b) ∧ last < 0x80 ∧
        value = BigEndian.ofOctets ((marked ++ [last]).map (· &&& 0x7F))) ∧
    (∀ (octets : Octets) (value size : Nat), readContinued? octets = some ⟨value, size⟩ →
      value < 2 ^ 31 ∧
      (∀ k ≤ size, (appendWord (0 : BitVec 32) ((octets.take k).map (· &&& 0x7F))).toNat =
        BigEndian.ofOctets ((octets.take k).map (· &&& 0x7F))) ∧
      octets.take size = encodeContinued (BigEndian.toOctets size value) ∧
      ∀ following, readContinued? (octets.take size ++ following) = some ⟨value, size⟩) ∧
    (∀ octets : Octets, readContinued? octets = none ↔ ∀ b ∈ octets.take 4, 0x80 ≤ b) ∧
    (∀ (v rest : View) (value : Nat), (Decoder.continued : Decoder ε Nat) v = .ok (value, rest) ↔
      ∃ size, readContinued? v.bytes = some ⟨value, size⟩ ∧ rest = v.drop size) ∧
    (∀ (v : View) (f : Fault ε), Decoder.continued v = .error f ↔
      readContinued? v.bytes = none ∧ f = ⟨.read .tooLarge, v⟩) := by
  refine ⟨fun octets value size => ?_, fun octets value size h => ?_,
    fun octets => readContinued?_eq_none_iff, fun v rest value => ?_, fun v f => ?_⟩
  · rw [readContinued?_eq_some_iff_marked]
    constructor
    · rintro ⟨marked, last, following, hoctets, hlength, hmarked, hlast, hn⟩
      cases hn
      exact ⟨marked, last, following, hoctets, rfl, hlength, hmarked, hlast, rfl⟩
    · rintro ⟨marked, last, following, hoctets, rfl, hlength, hmarked, hlast, rfl⟩
      exact ⟨marked, last, following, hoctets, hlength, hmarked, hlast, rfl⟩
  · have hsize : size ≤ 4 := by
      obtain ⟨marked, last, following, -, hlength, -, -, hn⟩ :=
        readContinued?_eq_some_iff_marked.1 h
      cases hn
      exact hlength
    refine ⟨value_lt_of_readContinued? h, fun k hk => ?_, take_size_of_readContinued? h,
      readContinued?_take_append h⟩
    exact toNat_appendWord_digits
      (Nat.le_trans (List.length_take_le ..) (Nat.le_trans hk hsize))
  · rw [Decoder.continued_eq_integer]
    exact Decoder.integer_eq_ok_iff
  · rw [Decoder.continued_eq_integer]
    exact Decoder.integer_eq_error_iff

/-- The greatest integer of four octets. -/
theorem readContinued?_exact_greatest :
    readContinued? [0xFF, 0xFF, 0xFF, 0x7F, 0x80] = some ⟨0x7F7F7F7F, 4⟩ ∧
    [0xFF, 0xFF, 0xFF, 0x7F] = encodeContinued (BigEndian.toOctets 4 0x7F7F7F7F) := by
  have hread : readContinued? [0xFF, 0xFF, 0xFF, 0x7F, 0x80] = some ⟨0x7F7F7F7F, 4⟩ :=
    ((readContinued?_exact (ε := Empty)).1 _ _ _).2
      ⟨[0xFF, 0xFF, 0xFF], 0x7F, [0x80], rfl, rfl, by decide, by simp, by decide, by decide⟩
  exact ⟨hread, ((readContinued?_exact (ε := Empty)).2.1 _ _ _ hread).2.2.1⟩

end Varint

end Flowmeter
