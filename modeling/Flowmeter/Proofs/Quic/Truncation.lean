import Flowmeter.Proofs.Quic.Coalescing

/-!
# Truncated long header packets

A part of a long header is no long header (`Decoder.Local.exists_error_of_take`). So a payload that
was cut off within the header of its packet is refused wherever the cut falls, as long as the octets
that are left are enough for a long header packet (`parse?_truncated`). Fewer octets are not looked
at: they end the datagram, whatever they begin with.
-/

namespace Flowmeter.Quic

/-- A packet that is cut off begins as it does. -/
theorem LongPacket.WellFormed.byte?_take {p : LongPacket} (h : p.WellFormed) {n : Nat}
    (hpos : 0 < n) (offset : Nat) :
    ((⟨offset, p.encodeHeader.take n⟩ : View).byte? 0).any (· < 0x80) = false := by
  obtain ⟨m, rfl⟩ := Nat.exists_eq_succ_of_ne_zero (Nat.ne_of_gt hpos)
  change decide (p.firstByte.octet < 0x80) = false
  rw [decide_eq_false_iff_not, UInt8.lt_iff_toNat_lt]
  exact Nat.not_lt.2 h.first_le

namespace LongHeader

variable {v : View}

/-- Octets that are enough for a packet and begin like one are read as one. -/
theorem step_of_isLong (hlength : minPacketLength ≤ v.length)
    (hfirst : (v.byte? 0).any (· < 0x80) = false) :
    step v = match decoder v with
      | .ok (h, rest) => .token h (rest.drop (h.bodyLength rest.length))
      | .error _ => .stop := by
  have hguard : ¬ (decide (v.length < minPacketLength) || (v.byte? 0).any (· < 0x80)) = true := by
    rw [hfirst, Bool.or_false, decide_eq_true_iff]
    exact Nat.not_lt.2 hlength
  exact if_neg hguard

end LongHeader

namespace Datagram

open LongHeader (minPacketLength step tokenizer tokenizer_step)

variable {payload rest : View}

theorem parse?_of_finished (hs : step payload = .finished rest) : parse? payload = some ⟨[]⟩ := by
  rw [← tokenizer_step] at hs
  rw [parse?, Tokenizer.tokens_of_finished hs]
  rfl

theorem parse?_of_stop (hs : step payload = .stop) : parse? payload = none := by
  rw [← tokenizer_step] at hs
  rw [parse?, Tokenizer.tokens_of_stop hs]
  rfl

theorem parse?_of_token {h : LongHeader} (hs : step payload = .token h rest) :
    parse? payload = (parse? rest).map fun d => ⟨h :: d.packets⟩ := by
  rw [← tokenizer_step] at hs
  unfold parse?
  rw [Tokenizer.tokens_of_token hs]
  dsimp only
  split <;> rfl

/-- What begins like a long header packet and is not too short is one, or malformed. -/
theorem parse?_ne_empty (hlength : minPacketLength ≤ payload.length)
    (hfirst : (payload.byte? 0).any (· < 0x80) = false) : parse? payload ≠ some ⟨[]⟩ := by
  have hs := LongHeader.step_of_isLong hlength hfirst
  cases hd : LongHeader.decoder payload with
  | error fault =>
    rw [hd] at hs
    rw [parse?_of_stop hs]
    exact (Option.some_ne_none _).symm
  | ok read =>
    rw [hd] at hs
    rw [parse?_of_token hs]
    cases parse? (read.2.drop (read.1.bodyLength read.2.length)) with
    | none => exact (Option.some_ne_none _).symm
    | some d => exact fun hempty => nomatch hempty

/-- **A cut within the header of a packet is noticed.** Of a well-formed long header packet of any
type that is cut off before its packet number and payload begin, at least eight octets are refused.
Fewer than the seven of the first octet, the version and the lengths of both ids are too few for a
packet and make a datagram without long header packets, even though they begin like one; what begins
like one and is not too short never does. -/
theorem parse?_truncated {p : LongPacket} (h : p.WellFormed) {n : Nat}
    (hn : n < p.encodeHeader.length) (offset : Nat) :
    (8 ≤ n → parse? ⟨offset, p.encode.take n⟩ = none) ∧
      (n < 7 → parse? ⟨offset, p.encode.take n⟩ = some ⟨[]⟩) ∧
      ∀ payload : View, 8 ≤ payload.length → (payload.byte? 0).any (· < 0x80) = false →
        parse? payload ≠ some ⟨[]⟩ := by
  have hcut : p.encode.take n = p.encodeHeader.take n :=
    List.take_append_of_le_length (Nat.le_of_lt hn)
  have hlength : (⟨offset, p.encodeHeader.take n⟩ : View).length = n :=
    List.length_take_of_le (Nat.le_of_lt hn)
  rw [hcut]
  refine ⟨fun hle => ?refused, fun hlt => ?short, fun _ => parse?_ne_empty⟩
  case refused =>
    obtain ⟨fault, hfault⟩ :=
      LongHeader.local_decoder.exists_error_of_take (LongHeader.reads_decoder h) hn offset
    have hs := LongHeader.step_of_isLong (hlength.symm ▸ hle) (h.byte?_take (by omega) offset)
    rw [hfault] at hs
    exact parse?_of_stop hs
  case short =>
    have hfew : (⟨offset, p.encodeHeader.take n⟩ : View).length < minPacketLength := by
      rw [hlength]
      exact Nat.lt_succ_of_lt hlt
    exact parse?_of_finished (LongHeader.step_of_length_lt hfew)

/-- A Handshake of version 1 with a payload length of two octets. -/
def sampleHandshake : LongPacket :=
  ⟨⟨0xE3⟩, 1, .handshake, ⟨[0x0B], by decide⟩, ⟨[0x0C, 0x0D], by decide⟩, [], .one, .two, [0xEE]⟩

/-- The cut falls between the two octets of the payload length. -/
theorem parse?_truncated_sample :
    sampleHandshake.WellFormed ∧ 11 < sampleHandshake.encodeHeader.length ∧
      parse? ⟨42, [0xE3, 0x00, 0x00, 0x00, 0x01, 0x01, 0x0B, 0x02, 0x0C, 0x0D, 0x40]⟩ = none := by
  have hsample : sampleHandshake.WellFormed := by decide
  have hcut : 11 < sampleHandshake.encodeHeader.length := by decide
  exact ⟨hsample, hcut, (parse?_truncated hsample hcut 42).1 (by decide)⟩

/-- The first octet of a packet alone is not refused. -/
theorem parse?_first_octet_of_sample :
    sampleHandshake.WellFormed ∧ 1 < sampleHandshake.encodeHeader.length ∧
      sampleHandshake.encode.take 1 = [0xE3] ∧ parse? ⟨0, [0xE3]⟩ ≠ none := by
  refine ⟨by decide, by decide, by decide, ?_⟩
  rw [parse?_of_finished (LongHeader.step_of_length_lt (by decide))]
  exact Option.some_ne_none _

end Datagram

end Flowmeter.Quic
