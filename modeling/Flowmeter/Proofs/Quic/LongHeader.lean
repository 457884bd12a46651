import Flowmeter.Proofs.Decoder
import Flowmeter.Quic.LongPacket

/-!
# Reading QUIC long headers

A well-formed long header packet is read back as its `LongPacket.header`, whatever follows it
(`LongHeader.reads_decoder`); whatever is read as a header is read so whatever follows it
(`LongHeader.local_decoder`). The type of a packet is read off two bits of its first octet
(`ofTypeBits_eq`), and these bits mean another type in another version.
-/

namespace Flowmeter.Quic

/-! ## The first octet -/

/-- A bit that an octet and a mask share. -/
theorem and_ne_zero_of_testBit {b mask : UInt8} {i : Nat} (h : b.toNat.testBit i = true)
    (hmask : mask.toNat.testBit i = true) : (b &&& mask != 0) = true := by
  apply bne_iff_ne.2
  intro hzero
  have hbit : (b &&& mask).toNat.testBit i = true := by
    rw [UInt8.toNat_and, Nat.testBit_and, h, hmask]
    rfl
  rw [hzero, UInt8.toNat_zero, Nat.zero_testBit] at hbit
  cases hbit

namespace FirstByte

variable {b : FirstByte}

/-- The form is the most significant bit. -/
theorem isLong_of_le (h : 0x80 ≤ b.octet.toNat) : b.isLong = true := by
  have hlt : b.octet.toNat < 256 := b.octet.toNat_lt
  have hdiv : b.octet.toNat / 2 ^ 7 % 2 = 1 := by omega
  have hbit : b.octet.toNat.testBit 7 = true := by
    rw [Nat.testBit_eq_decide_div_mod_eq, decide_eq_true hdiv]
  exact and_ne_zero_of_testBit hbit (by decide)

/-- The fixed bit is the next one. -/
theorem hasFixedBit_of_testBit (h : b.octet.toNat.testBit 6 = true) : b.hasFixedBit = true :=
  and_ne_zero_of_testBit h (by decide)

/-- The type bits as a number: the two bits behind the fixed one. -/
theorem toNat_typeBits (b : FirstByte) : b.typeBits.toNat = b.octet.toNat / 16 % 4 := by
  have hmod := Nat.and_two_pow_sub_one_eq_mod (b.octet.toNat / 16) 2
  rw [typeBits, UInt8.toNat_and, UInt8.toNat_shiftRight, Nat.shiftRight_eq_div_pow]
  exact hmod

end FirstByte

namespace PacketType

theorem codePoint_lt (t : PacketType) (version : UInt32) : t.codePoint version < 4 := by
  cases t with
  | versionNegotiation => exact Nat.succ_pos 3
  | _ =>
    simp only [codePoint]
    split <;> decide

/-- The code point of a type in a version is read back in that version. -/
theorem ofTypeBits_eq {t : PacketType} {bits : UInt8} {version : UInt32}
    (ht : t ≠ .versionNegotiation) (h : bits.toNat = t.codePoint version) :
    ofTypeBits bits version = t := by
  have hbits : (bits &&& 0x03).toNat = t.codePoint version := by
    rw [UInt8.toNat_and, h]
    exact (Nat.and_two_pow_sub_one_eq_mod _ 2).trans (Nat.mod_eq_of_lt (codePoint_lt t version))
  unfold ofTypeBits
  rw [hbits]
  cases t with
  | versionNegotiation => exact absurd rfl ht
  | _ =>
    by_cases hv : version = version2
    · rw [beq_iff_eq.2 hv]
      simp only [codePoint, hv, ↓reduceIte]
    · rw [beq_eq_false_iff_ne.2 hv]
      simp only [codePoint, hv, ↓reduceIte]

end PacketType

/-! ## Well-formed packets -/

namespace LongPacket.WellFormed

variable {p : LongPacket}

/-- A well-formed packet has a long header. -/
theorem first_le (h : p.WellFormed) : 0x80 ≤ p.firstByte.octet.toNat := by
  by_cases hv : p.version = 0
  · exact h.top_bit hv
  · have hhigh := h.high_half hv
    omega

/-- A well-formed packet has the fixed bit, unless it is a version negotiation. -/
theorem fixedBit (h : p.WellFormed) : (p.version == 0 || p.firstByte.hasFixedBit) = true := by
  by_cases hv : p.version = 0
  · rw [hv]
    rfl
  · have hhigh := h.high_half hv
    have hcode := p.type.codePoint_lt p.version
    have hdiv : p.firstByte.octet.toNat / 2 ^ 6 % 2 = 1 := by omega
    have hbit : p.firstByte.octet.toNat.testBit 6 = true := by
      rw [Nat.testBit_eq_decide_div_mod_eq, decide_eq_true hdiv]
    rw [FirstByte.hasFixedBit_of_testBit hbit, Bool.or_true]

/-- First octet and version of a well-formed packet tell its type. -/
theorem ofHeader_eq (h : p.WellFormed) :
    PacketType.ofHeader p.firstByte p.version = p.type := by
  by_cases hv : p.version = 0
  · rw [PacketType.ofHeader, if_pos hv, h.versionNegotiation_iff.2 hv]
  · have hhigh := h.high_half hv
    have hcode := p.type.codePoint_lt p.version
    have hbits : p.firstByte.typeBits.toNat = p.type.codePoint p.version := by
      rw [FirstByte.toNat_typeBits]
      omega
    rw [PacketType.ofHeader, if_neg hv]
    exact PacketType.ofTypeBits_eq (fun ht => hv (h.versionNegotiation_iff.1 ht)) hbits

end LongPacket.WellFormed

/-! ## Reading -/

theorem ConnectionId.reads_decoder (id : ConnectionId) :
    Decoder.Reads ConnectionId.decoder id.encode id := by
  have hlt : id.octets.length < 2 ^ 8 := Nat.lt_of_le_of_lt id.length_le (by decide)
  have hlength : (UInt8.ofNat id.octets.length).toNat = id.octets.length := by
    rw [UInt8.toNat_ofNat', Nat.mod_eq_of_lt hlt]
  have hid : ConnectionId.ofOctets? id.octets = some id := by
    rw [ConnectionId.ofOctets?, dif_pos id.length_le]
  refine Decoder.reads_here_bind fun place => (Decoder.reads_octet _).bind ?_
  rw [hlength]
  refine Decoder.reads_require_bind (decide_eq_true id.length_le) ?_
  refine Decoder.reads_take_bind fun offset => ?_
  simp only [hid]

namespace LongHeader

variable {p : LongPacket}

/-- A token is taken as a whole and its length kept; packets that carry none say nothing about
it. -/
theorem reads_tokenLengthDecoder (h : p.WellFormed) :
    Decoder.Reads (tokenLengthDecoder p.type) p.encodeToken p.header.tokenLength := by
  have hread := h.token_lt
  unfold tokenLengthDecoder LongPacket.encodeToken LongPacket.header
  cases ht : p.type with
  | initial =>
    exact (Decoder.reads_sized (hread ht)).bind (Decoder.reads_take_bind fun _ => rfl)
  | versionNegotiation => exact Decoder.reads_pure none
  | zeroRtt => exact Decoder.reads_pure none
  | handshake => exact Decoder.reads_pure none
  | retry => exact Decoder.reads_pure none

/-- The length is read where the type has one, and what it counts is left unread. -/
theorem reads_payloadLengthDecoder (h : p.WellFormed) :
    Decoder.Reads (payloadLengthDecoder p.type) p.encodePayloadLength p.header.payloadLength := by
  have hread := h.payload_lt
  unfold payloadLengthDecoder LongPacket.encodePayloadLength LongPacket.header
  unfold LongPacket.IsDelimited at hread
  cases ht : p.type with
  | initial => exact (Decoder.reads_sized (hread (.inl ht))).map some
  | zeroRtt => exact (Decoder.reads_sized (hread (.inr (.inl ht)))).map some
  | handshake => exact (Decoder.reads_sized (hread (.inr (.inr ht)))).map some
  | versionNegotiation => exact Decoder.reads_pure none
  | retry => exact Decoder.reads_pure none

/-- A well-formed header is read as it was written, field by field. -/
theorem reads_decoder (h : p.WellFormed) :
    Decoder.Reads decoder p.encodeHeader p.header := by
  have hoctets : p.encodeHeader = [p.firstByte.octet] ++ (BigEndian.toOctets 4 p.version.toNat ++
      (p.destinationId.encode ++ (p.sourceId.encode ++
        (p.encodeToken ++ (p.encodePayloadLength ++ []))))) := by
    simp only [LongPacket.encodeHeader, List.append_assoc, List.cons_append, List.nil_append,
      List.append_nil]
  rw [hoctets]
  refine Decoder.reads_here_bind fun start => (Decoder.reads_octet _).bind ?_
  refine Decoder.reads_require_bind (FirstByte.isLong_of_le h.first_le) ?_
  refine (Decoder.reads_uint32 _).bind (Decoder.reads_require_bind h.fixedBit ?_)
  refine (ConnectionId.reads_decoder _).bind ((ConnectionId.reads_decoder _).bind ?_)
  rw [h.ofHeader_eq]
  refine (reads_tokenLengthDecoder h).bind ((reads_payloadLengthDecoder h).bind ?_)
  exact Decoder.reads_pure p.header

end LongHeader

/-! ## What follows a header -/

theorem ConnectionId.local_decoder : Decoder.Local ConnectionId.decoder ConnectionId.decoder := by
  refine Decoder.local_here_bind fun _ _ => Decoder.local_octet.bind fun length =>
    (Decoder.local_require _ _ _ _).bind fun _ => (Decoder.local_take _).bind fun value => ?_
  cases ofOctets? value.bytes with
  | some id => exact Decoder.local_pure id
  | none => exact Decoder.local_breaks _ _ _

namespace LongHeader

/-- Whether a token is read depends on the type alone, and its length says where it ends. -/
theorem local_tokenLengthDecoder (type : PacketType) :
    Decoder.Local (tokenLengthDecoder type) (tokenLengthDecoder type) := by
  unfold tokenLengthDecoder
  split
  · exact Decoder.local_sized.bind fun n =>
      (Decoder.local_take n).bind fun _ => Decoder.local_pure _
  · exact Decoder.local_pure _

theorem local_payloadLengthDecoder (type : PacketType) :
    Decoder.Local (payloadLengthDecoder type) (payloadLengthDecoder type) := by
  unfold payloadLengthDecoder
  split
  · rw [map_eq_pure_bind]
    exact Decoder.local_sized.bind fun _ => Decoder.local_pure _
  · exact Decoder.local_pure _

/-- What is read of a header never depends on what follows the header. -/
theorem local_decoder : Decoder.Local decoder decoder :=
  Decoder.local_here_bind fun _ _ => Decoder.local_octet.bind fun _ =>
    (Decoder.local_require _ _ _ _).bind fun _ => Decoder.local_uint32.bind fun _ =>
    (Decoder.local_require _ _ _ _).bind fun _ => ConnectionId.local_decoder.bind fun _ =>
    ConnectionId.local_decoder.bind fun _ => (local_tokenLengthDecoder _).bind fun _ =>
    (local_payloadLengthDecoder _).bind fun _ => Decoder.local_pure _

end LongHeader

end Flowmeter.Quic
