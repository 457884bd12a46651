import Flowmeter.Mqtt.ControlPacket
import Flowmeter.Proofs.Tokens
import Flowmeter.Proofs.Varint.Continued

/-!
# Segments of control packets

A `WirePacket` is a control packet as it is put on the wire, with the digits that its length is
written in. The tokenizer of control packets cuts exactly these (`cuts_wirePacket`,
`spells_wirePacket`), and it finishes exactly on an empty view. So a segment of whole packets reads
back as these packets, and of any segment what is read is a run of whole packets, as long as there
is one (`segment_round_trip`).
-/

namespace Flowmeter.Mqtt

/-- A control packet on the wire. -/
structure WirePacket where
  header : FixedHeader
  /-- The base-256 digits of the length of the body. -/
  digits : Octets
  body : Octets
  digits_ne_nil : digits ≠ []
  digits_length_le : digits.length ≤ 4
  digit_lt : ∀ d ∈ digits, d < 0x80
  ofOctets_digits : BigEndian.ofOctets digits = body.length

namespace ControlPacket

def wireFormat : WireFormat WirePacket ControlPacket where
  encode p := encode p.header p.digits p.body
  token offset p := ⟨p.header, ⟨offset + 1 + p.digits.length, p.body⟩⟩

/-! ## Steps -/

section Steps

variable {offset : Nat} {first : UInt8} {octets : Octets}

/-- Without a length no packet is cut off. -/
theorem step_of_readContinued?_eq_none (h : Varint.readContinued? octets = none) :
    step ⟨offset, first :: octets⟩ = .stop := by
  unfold step
  simp only [View.bytes_drop, List.drop_one, List.tail_cons, h]

/-- A packet is as long as its length says, or is not there as a whole. -/
theorem step_of_readContinued?_eq_some {n : Varint} (h : Varint.readContinued? octets = some n) :
    step ⟨offset, first :: octets⟩ =
      if n.size + n.value ≤ octets.length then
        .token ⟨⟨first⟩, ⟨offset + 1 + n.size, (octets.drop n.size).take n.value⟩⟩
          ⟨offset + 1 + (n.size + n.value), octets.drop (n.size + n.value)⟩
      else .stop := by
  unfold step
  simp only [View.bytes_drop, List.drop_one, List.tail_cons, h]
  by_cases hle : n.size + n.value ≤ octets.length
  · have hbounds : n.size ≤ n.size + n.value ∧ n.size + n.value ≤ octets.length :=
      ⟨Nat.le_add_right .., hle⟩
    simp [View.subview?, View.drop, View.take, View.length, hbounds]
  · simp [View.subview?, View.drop, View.length, hle]

end Steps

/-- A packet on the wire is cut off whatever follows it. -/
theorem cuts_wirePacket (p : WirePacket) : tokenizer.Cuts wireFormat p := by
  intro offset rest
  have hread : Varint.readContinued? (Varint.encodeContinued p.digits ++ (p.body ++ rest)) =
      some ⟨BigEndian.ofOctets p.digits, p.digits.length⟩ :=
    Varint.readContinued?_eq_some_iff.2
      ⟨p.digits, p.body ++ rest, p.digits_ne_nil, p.digits_length_le, p.digit_lt, rfl, rfl⟩
  have hwire : wireFormat.encode p ++ rest =
      p.header.octet :: (Varint.encodeContinued p.digits ++ (p.body ++ rest)) := by
    simp only [wireFormat, encode, List.cons_append, List.append_assoc]
  have hlength : (wireFormat.encode p).length = 1 + (p.digits.length + p.body.length) := by
    simp only [wireFormat, encode, List.cons_append, List.length_cons, List.length_append,
      Varint.length_encodeContinued]
    omega
  have hfits : p.digits.length + p.body.length ≤
      (Varint.encodeContinued p.digits ++ (p.body ++ rest)).length := by
    simp only [List.length_append, Varint.length_encodeContinued]
    omega
  have hdigits : (Varint.encodeContinued p.digits ++ (p.body ++ rest)).drop p.digits.length =
      p.body ++ rest :=
    List.drop_left' (Varint.length_encodeContinued _)
  change step ⟨offset, wireFormat.encode p ++ rest⟩ = _
  rw [hwire, step_of_readContinued?_eq_some hread, p.ofOctets_digits, if_pos hfits,
    ← List.drop_drop, hdigits, List.take_left, List.drop_left, hlength, ← Nat.add_assoc offset 1]
  rfl

/-- What is cut off was a packet on the wire, in the digits that were read. -/
theorem spells_wirePacket : tokenizer.Spells wireFormat := by
  rintro ⟨offset, bytes⟩ p rest h
  change step ⟨offset, bytes⟩ = .token p rest at h
  cases bytes with
  | nil => cases h
  | cons first octets =>
    cases hread : Varint.readContinued? octets with
    | none =>
      rw [step_of_readContinued?_eq_none hread] at h
      cases h
    | some n =>
      obtain ⟨digits, after, hne, hlength, hlt, rfl, rfl⟩ :=
        Varint.readContinued?_eq_some_iff.1 hread
      rw [step_of_readContinued?_eq_some hread] at h
      split at h
      · next hfits =>
        have hdigits : (Varint.encodeContinued digits ++ after).drop digits.length = after :=
          List.drop_left' (Varint.length_encodeContinued _)
        change digits.length + BigEndian.ofOctets digits ≤ _ at hfits
        rw [List.length_append, Varint.length_encodeContinued] at hfits
        -- there are as many octets left as the digits announce
        have hbody : BigEndian.ofOctets digits =
            (after.take (BigEndian.ofOctets digits)).length := by
          rw [List.length_take]
          omega
        cases h
        refine ⟨⟨⟨first⟩, digits, after.take (BigEndian.ofOctets digits), hne, hlength, hlt, hbody⟩,
          ?_, ?_, ?_⟩
        · rw [hdigits]
          rfl
        · rw [← List.drop_drop, hdigits]
          simp only [wireFormat, encode, List.cons_append, List.append_assoc,
            List.take_append_drop]
        · simp only [wireFormat, encode, List.cons_append, List.length_cons, List.length_append,
            Varint.length_encodeContinued, ← hbody]
          omega
      · cases h

/-- A segment ends where no octet is left. -/
theorem finished_step_iff {v rest : View} :
    tokenizer.step v = .finished rest ↔ v.bytes = [] ∧ rest = v := by
  obtain ⟨offset, bytes⟩ := v
  change step ⟨offset, bytes⟩ = .finished rest ↔ _
  cases bytes with
  | nil => simp [step, eq_comm]
  | cons first octets =>
    cases hread : Varint.readContinued? octets with
    | none => simp [step_of_readContinued?_eq_none hread]
    | some n =>
      rw [step_of_readContinued?_eq_some hread]
      split <;> simp

/-! ## Segments -/

/-- **Cutting a segment loses nothing and adds nothing.** A segment of whole packets reads back as
these packets, each body at its place, and nothing remains. Of any view, what has been read is a
run of whole packets; it has succeeded if nothing remains, and failed if something does, which then
does not begin with a whole packet. -/
theorem segment_round_trip :
    (∀ (packets : List WirePacket) (offset : Nat),
      tokenizer.tokens ⟨offset, wireFormat.encodeAll packets⟩ =
        (wireFormat.tokens offset packets,
          ⟨⟨offset + (wireFormat.encodeAll packets).length, []⟩, .succeeded⟩)) ∧
    ∀ v : View, ∃ (packets : List WirePacket) (remaining : View),
      (tokenizer.tokens v).1 = wireFormat.tokens v.offset packets ∧
      v.bytes = wireFormat.encodeAll packets ++ remaining.bytes ∧
      remaining.offset = v.offset + (wireFormat.encodeAll packets).length ∧
      ((tokenizer.tokens v).2 = ⟨remaining, .succeeded⟩ ∧ remaining.bytes = [] ∨
        (tokenizer.tokens v).2 = ⟨remaining, .failed⟩ ∧ remaining.bytes ≠ [] ∧
          ∀ p, ¬ wireFormat.encode p <+: remaining.bytes) := by
  constructor
  · intro packets offset
    have hend : tokenizer.tokens ⟨offset + (wireFormat.encodeAll packets).length, []⟩ =
        ([], ⟨⟨offset + (wireFormat.encodeAll packets).length, []⟩, .succeeded⟩) :=
      Tokenizer.tokens_of_finished (finished_step_iff.2 ⟨rfl, rfl⟩)
    have hrun := Tokenizer.tokens_encodeAll (fun p (_ : p ∈ packets) => cuts_wirePacket p) offset []
    rw [List.append_nil, hend, List.append_nil] at hrun
    exact hrun
  · intro v
    obtain ⟨packets, last, htokens, hbytes, hoffset, hlast⟩ :=
      Tokenizer.exists_items spells_wirePacket v
    refine ⟨packets, last, htokens, hbytes, hoffset, ?_⟩
    rcases hlast with ⟨hstop, hrun⟩ | ⟨rest, hfinished, hrun⟩
    · refine .inr ⟨hrun, ?_, fun p => Tokenizer.not_prefix_of_stop (cuts_wirePacket p) hstop⟩
      intro hnil
      have hfinished := finished_step_iff.2 ⟨hnil, rfl⟩
      rw [hstop] at hfinished
      cases hfinished
    · obtain ⟨hnil, rfl⟩ := finished_step_iff.1 hfinished
      exact .inl ⟨hrun, hnil⟩

/-- The length of the second packet is written with a leading zero digit. -/
theorem segment_round_trip_padded_length :
    tokenizer.tokens ⟨3, [0xC0, 0x00, 0x40, 0x80, 0x02, 0x00, 0x01]⟩ =
      ([⟨⟨0xC0⟩, ⟨5, []⟩⟩, ⟨⟨0x40⟩, ⟨8, [0x00, 0x01]⟩⟩], ⟨⟨10, []⟩, .succeeded⟩) := by
  have hshort : ∀ d ∈ ([0x00] : Octets), d < 0x80 := List.forall_mem_singleton.2 (by decide)
  have hpadded : ∀ d ∈ ([0x00, 0x02] : Octets), d < 0x80 :=
    List.forall_mem_cons.2 ⟨by decide, List.forall_mem_singleton.2 (by decide)⟩
  exact segment_round_trip.1
    [⟨⟨0xC0⟩, [0x00], [], List.cons_ne_nil _ _, by decide, hshort, rfl⟩,
      ⟨⟨0x40⟩, [0x00, 0x02], [0x00, 0x01], List.cons_ne_nil _ _, by decide, hpadded, rfl⟩] 3

end ControlPacket

end Flowmeter.Mqtt
