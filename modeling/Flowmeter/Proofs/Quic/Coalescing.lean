import Flowmeter.Proofs.Quic.LongHeader
import Flowmeter.Proofs.Tokens
import Flowmeter.Quic.Datagram

/-!
# Coalesced QUIC packets

A payload is read back as the packets it was put together from (`parse?_coalesced`): any number of
packets that tell their length, of all types and versions, and an `Ending`. Each of the former is
cut where it ends, whatever follows (`cuts_longPacket`); an ending is read as its packets
(`tokens_ending`).
-/

namespace Flowmeter.Quic

namespace LongPacket

variable {p : LongPacket}

theorem length_encode (p : LongPacket) :
    p.encode.length = p.encodeHeader.length + p.payload.length :=
  List.length_append

theorem length_encodePayloadLength_pos (hd : p.IsDelimited) : 0 < p.encodePayloadLength.length := by
  have hpos : 0 < p.payloadSize.octets := by
    rw [p.payloadSize.octets_eq_succ]
    exact Nat.succ_pos _
  unfold encodePayloadLength
  rcases hd with ht | ht | ht <;> rw [ht, Varint.length_encodeSized] <;> exact hpos

/-- First octet, version, the lengths of both ids and the length of the payload. -/
theorem le_length_encode (hd : p.IsDelimited) : LongHeader.minPacketLength ≤ p.encode.length := by
  have hpos := length_encodePayloadLength_pos hd
  simp only [encode, encodeHeader, ConnectionId.encode, List.length_append, List.length_cons,
    BigEndian.length_toOctets, LongHeader.minPacketLength]
  omega

/-- A packet that tells its length is read with the length that it has. -/
theorem header_payloadLength (hd : p.IsDelimited) :
    p.header.payloadLength = some p.payload.length := by
  unfold header
  rcases hd with ht | ht | ht <;> rw [ht]

theorem header_payloadLength_eq_none (ht : p.type = .retry ∨ p.type = .versionNegotiation) :
    p.header.payloadLength = none := by
  unfold header
  rcases ht with ht | ht <;> rw [ht]

end LongPacket

namespace LongHeader

variable {p : LongPacket}

/-- Long header packets on the wire, and what a reader of their unprotected part gets to see. -/
def wireFormat : WireFormat LongPacket LongHeader where
  encode := LongPacket.encode
  token := fun _ p => p.header

@[simp] theorem tokenizer_step (v : View) : tokenizer.step v = step v := rfl

@[simp] theorem wireFormat_encode (p : LongPacket) : wireFormat.encode p = p.encode := rfl

@[simp] theorem wireFormat_token (offset : Nat) (p : LongPacket) :
    wireFormat.token offset p = p.header := rfl

theorem tokens_wireFormat (offset : Nat) (packets : List LongPacket) :
    wireFormat.tokens offset packets = packets.map LongPacket.header := by
  induction packets generalizing offset with
  | nil => rfl
  | cons p packets ih => exact congrArg (p.header :: ·) (ih _)

/-- The header of a packet is cut off; what is cut off with it depends on its payload length. -/
theorem step_encode (h : p.WellFormed) (hlength : minPacketLength ≤ p.encode.length)
    (offset : Nat) (rest : Octets) : step ⟨offset, p.encode ++ rest⟩ = .token p.header
      ((⟨offset + p.encodeHeader.length, p.payload ++ rest⟩ : View).drop
        (p.header.bodyLength (p.payload ++ rest).length)) := by
  have hread := reads_decoder h offset (p.payload ++ rest)
  have hlong : ¬ (⟨offset, p.encode ++ rest⟩ : View).length < minPacketLength := by
    rw [View.length, List.length_append]
    omega
  have hfirst : ((⟨offset, p.encode ++ rest⟩ : View).byte? 0).any (· < 0x80) = false := by
    have hle := h.first_le
    change decide (p.firstByte.octet < 0x80) = false
    rw [decide_eq_false_iff_not, UInt8.lt_iff_toNat_lt]
    exact Nat.not_lt.2 hle
  rw [← List.append_assoc] at hread
  rw [step, if_neg]
  · change decoder ⟨offset, p.encode ++ rest⟩ = _ at hread
    rw [hread]
    rfl
  · rw [hfirst, Bool.or_false, decide_eq_true_iff]
    exact hlong

/-- Such a packet is cut where it ends, whatever follows it. -/
theorem cuts_longPacket (h : p.WellFormed) (hd : p.IsDelimited) :
    tokenizer.Cuts wireFormat p := by
  intro offset rest
  have hbody : p.header.bodyLength (p.payload ++ rest).length = p.payload.length := by
    rw [bodyLength, LongPacket.header_payloadLength hd, List.length_append]
    exact Nat.min_eq_left (Nat.le_add_right ..)
  have hdrop : (p.payload ++ rest).drop p.payload.length = rest := List.drop_left
  have hstep := step_encode h (LongPacket.le_length_encode hd) offset rest
  rw [hbody, View.drop, hdrop, Nat.add_assoc, ← LongPacket.length_encode] at hstep
  rw [tokenizer_step, wireFormat_encode, wireFormat_token]
  exact hstep

/-- A packet without a length takes all that is left. -/
theorem step_encode_of_payloadLength_eq_none (h : p.WellFormed)
    (hlength : minPacketLength ≤ p.encode.length) (hnone : p.header.payloadLength = none)
    (offset : Nat) : step ⟨offset, p.encode⟩ = .token p.header ⟨offset + p.encode.length, []⟩ := by
  have hbody : p.header.bodyLength p.payload.length = p.payload.length := by
    rw [bodyLength, hnone]
  have hstep := step_encode h hlength offset []
  rw [List.append_nil, List.append_nil, hbody, View.drop, List.drop_length, Nat.add_assoc,
    ← LongPacket.length_encode] at hstep
  exact hstep

/-- Too few octets for a long header end the datagram. -/
theorem step_of_length_lt {v : View} (h : v.length < minPacketLength) : step v = .finished v := by
  rw [step, if_pos]
  rw [decide_eq_true h, Bool.true_or]

/-- So does a short header packet. -/
theorem step_of_lt {first : UInt8} (h : first < 0x80) (offset : Nat) (rest : Octets) :
    step ⟨offset, first :: rest⟩ = .finished ⟨offset, first :: rest⟩ := by
  have hfirst : ((⟨offset, first :: rest⟩ : View).byte? 0).any (· < 0x80) = true :=
    decide_eq_true h
  rw [step, if_pos]
  rw [hfirst, Bool.or_true]

/-- An ending is read as its packets, up to a definite end. -/
theorem tokens_ending {ending : Ending} (h : ending.WellFormed) (offset : Nat) :
    (tokenizer.tokens ⟨offset, ending.encode⟩).1 = ending.packets.map LongPacket.header ∧
      (tokenizer.tokens ⟨offset, ending.encode⟩).2.hasSucceeded = true := by
  cases ending with
  | packet p =>
    obtain ⟨hp, htype, hlength⟩ := h
    have hstep := step_encode_of_payloadLength_eq_none hp hlength
      (LongPacket.header_payloadLength_eq_none htype) offset
    have hempty : step ⟨offset + p.encode.length, []⟩ = .finished ⟨offset + p.encode.length, []⟩ :=
      step_of_length_lt (Nat.succ_pos 7)
    rw [← tokenizer_step] at hstep hempty
    rw [Ending.encode, Tokenizer.tokens_of_token hstep, Tokenizer.tokens_of_finished hempty]
    exact ⟨rfl, rfl⟩
  | tail octets =>
    have hstep : step ⟨offset, octets⟩ = .finished ⟨offset, octets⟩ := by
      rcases h with h | ⟨first, rest, rfl, hfirst⟩
      · exact step_of_length_lt h
      · exact step_of_lt hfirst offset rest
    rw [← tokenizer_step] at hstep
    rw [Ending.encode, Tokenizer.tokens_of_finished hstep]
    exact ⟨rfl, rfl⟩

/-- Delimited packets and an ending are read one after the other, and the datagram comes to a
definite end. -/
theorem tokens_coalesced {packets : List LongPacket} {ending : Ending}
    (hpackets : ∀ p ∈ packets, p.WellFormed ∧ p.IsDelimited) (hending : ending.WellFormed)
    (offset : Nat) :
    (tokenizer.tokens ⟨offset, packets.flatMap LongPacket.encode ++ ending.encode⟩).1 =
        (packets ++ ending.packets).map LongPacket.header ∧
      (tokenizer.tokens
        ⟨offset, packets.flatMap LongPacket.encode ++ ending.encode⟩).2.hasSucceeded = true := by
  have hcuts : ∀ p ∈ packets, tokenizer.Cuts wireFormat p :=
    fun p hp => cuts_longPacket (hpackets p hp).1 (hpackets p hp).2
  have hrun := Tokenizer.tokens_encodeAll hcuts offset ending.encode
  have hencode : wireFormat.encodeAll packets = packets.flatMap LongPacket.encode := rfl
  rw [hencode] at hrun
  obtain ⟨hlast, hsucceeded⟩ :=
    tokens_ending hending (offset + (packets.flatMap LongPacket.encode).length)
  rw [hrun, List.map_append, ← hlast, ← tokens_wireFormat offset packets]
  exact ⟨rfl, hsucceeded⟩

end LongHeader

namespace Datagram

theorem testBit_foldl_bit (packets : List LongHeader) (set : UInt8) (i : Nat) :
    (packets.foldl (fun set h => set ||| h.type.bit) set).toNat.testBit i = true ↔
      set.toNat.testBit i = true ∨ ∃ h ∈ packets, h.type.bit.toNat.testBit i = true := by
  induction packets generalizing set with
  | nil => simp
  | cons h packets ih =>
    simp only [List.foldl_cons, ih, UInt8.toNat_or, Nat.testBit_or, Bool.or_eq_true, or_assoc,
      List.mem_cons, exists_eq_or_imp]

/-- The set of types is the union of the types of the packets. -/
theorem testBit_types (d : Datagram) (i : Nat) :
    d.types.toNat.testBit i = true ↔ ∃ h ∈ d.packets, h.type.bit.toNat.testBit i = true := by
  rw [types, testBit_foldl_bit, UInt8.toNat_zero, Nat.zero_testBit]
  simp

/-- Standing still at the limit packet by packet comes to one limit on the number of packets. -/
theorem foldl_countZeroRtt (packets : List LongHeader) {count : Nat}
    (hcount : count ≤ counterLimit) :
    packets.foldl countZeroRtt count =
      min counterLimit (count + packets.countP (·.type == .zeroRtt)) := by
  induction packets generalizing count with
  | nil => exact (Nat.min_eq_right hcount).symm
  | cons h packets ih =>
    rw [List.foldl_cons, List.countP_cons, countZeroRtt]
    split
    · rw [ih (Nat.min_le_left ..)]
      omega
    · rw [ih hcount, Nat.add_zero]

theorem zeroRttCount_eq (d : Datagram) :
    d.zeroRttCount = min counterLimit (d.packets.countP (·.type == .zeroRtt)) := by
  rw [zeroRttCount, foldl_countZeroRtt _ (Nat.zero_le _), Nat.zero_add]

/-- **A payload is read back as the packets it was put together from**, in order, each with what its
unprotected part says. Its set of types is the union of their types, and its counter of 0-RTT
packets stands still at its limit. -/
theorem parse?_coalesced (offset : Nat) (packets : List LongPacket) (ending : Ending)
    (hpackets : ∀ p ∈ packets, p.WellFormed ∧ p.IsDelimited) (hending : ending.WellFormed) :
    ∃ d, parse? ⟨offset, packets.flatMap LongPacket.encode ++ ending.encode⟩ = some d ∧
      d.packets = (packets ++ ending.packets).map LongPacket.header ∧
      (∀ i, d.types.toNat.testBit i = true ↔
        ∃ p ∈ packets ++ ending.packets, p.type.bit.toNat.testBit i = true) ∧
      d.zeroRttCount = min 255 ((packets ++ ending.packets).countP (·.type == .zeroRtt)) := by
  obtain ⟨htokens, hend⟩ := LongHeader.tokens_coalesced hpackets hending offset
  refine ⟨⟨(packets ++ ending.packets).map LongPacket.header⟩, ?_, rfl, ?_, ?_⟩
  · simp only [parse?, hend, htokens, ↓reduceIte]
  · intro i
    rw [testBit_types]
    constructor
    · rintro ⟨h, hh, hbit⟩
      obtain ⟨p, hp, rfl⟩ := List.mem_map.1 hh
      exact ⟨p, hp, hbit⟩
    · rintro ⟨p, hp, hbit⟩
      exact ⟨p.header, List.mem_map_of_mem hp, hbit⟩
  · rw [zeroRttCount_eq, List.countP_map]
    rfl

/-- An Initial of version 1 with a token of one octet, and a 0-RTT packet of version 2. -/
def samplePackets : List LongPacket :=
  [⟨⟨0xC1⟩, 1, .initial, ⟨[0x01, 0x02], by decide⟩, ⟨[0xCC], by decide⟩, [0x55], .two, .one,
      [0xEE, 0xEE]⟩,
    ⟨⟨0xE0⟩, version2, .zeroRtt, ⟨[], by decide⟩, ⟨[0xCC], by decide⟩, [], .one, .four, [0xEE]⟩]

/-- A version negotiation that offers version 1 and leaves the fixed bit clear. -/
def sampleNegotiation : LongPacket :=
  ⟨⟨0x80⟩, 0, .versionNegotiation, ⟨[0xCC], by decide⟩, ⟨[], by decide⟩, [], .one, .one,
    [0x00, 0x00, 0x00, 0x01]⟩

theorem parse?_coalesced_sample :
    ∃ d, parse? ⟨42, [0xC1, 0x00, 0x00, 0x00, 0x01, 0x02, 0x01, 0x02, 0x01, 0xCC, 0x40, 0x01, 0x55,
        0x02, 0xEE, 0xEE, 0xE0, 0x6B, 0x33, 0x43, 0xCF, 0x00, 0x01, 0xCC, 0x80, 0x00, 0x00, 0x01,
        0xEE, 0x80, 0x00, 0x00, 0x00, 0x00, 0x01, 0xCC, 0x00, 0x00, 0x00, 0x00, 0x01]⟩ = some d ∧
      d.packets = (samplePackets ++ [sampleNegotiation]).map LongPacket.header ∧
      d.types.toNat.testBit 2 = true ∧ d.zeroRttCount = 1 := by
  have hending : (Ending.packet sampleNegotiation).WellFormed :=
    ⟨by decide, by decide, by decide⟩
  obtain ⟨d, hparse, hpackets, htypes, hzero⟩ :=
    parse?_coalesced 42 samplePackets (.packet sampleNegotiation) (by decide) hending
  refine ⟨d, hparse, hpackets, (htypes 2).2 (by decide), hzero⟩

end Datagram

end Flowmeter.Quic
