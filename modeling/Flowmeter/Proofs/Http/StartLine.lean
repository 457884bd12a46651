import Flowmeter.Http.StartLine
import Flowmeter.Proofs.Decoder.Searching

/-!
# The start lines that are read

The grammar of start lines, one constructor for each kind of line, says nothing about how a line is
read. A payload is read as a message exactly if its first line is derived by the grammar, and what
is read is what the grammar derives the line from, each part at its place in the capture
(`Message.parse?_eq_some_iff`).

No line is both: the one that starts with the mark of a version is a status line or none at all,
whatever it would be as a request line.
-/

namespace Flowmeter.Http

variable {offset : Nat} {line : Octets} {status : UInt16}

/-! ## The grammar -/

/-- A status line with the given status code: a version that ends at the first space, and a number
of 16 bits. Anything may follow its digits. -/
inductive SpellsStatus : UInt16 → Octets → Prop
  | mk {status : UInt16} {version digits after : Octets} (hv : 0x20 ∉ version)
      (hd : Decoder.LeadingDigits digits after) (hs : Decoder.decimalValue digits = status.toNat) :
      SpellsStatus status (versionMark ++ version ++ space ++ digits ++ after)

/-- A request line with the given method and target. Neither holds a space, and the target may be
empty. -/
inductive SpellsRequest : Octets → Octets → Octets → Prop
  | mk {method target after : Octets} (hne : method ≠ []) (hm : 0x20 ∉ method)
      (ht : 0x20 ∉ target) :
      SpellsRequest method target (method ++ space ++ target ++ space ++ versionMark ++ after)

/-- A line that stands at the given place of a capture, and the start line it is. -/
inductive SpellsStart (offset : Nat) : StartLine → Octets → Prop
  | response {status : UInt16} {line : Octets} (hv : versionMark <+: line)
      (hl : SpellsStatus status line) : SpellsStart offset (.response status) line
  | request {method target line : Octets} (hv : ¬ versionMark <+: line)
      (hl : SpellsRequest method target line) :
      SpellsStart offset
        (.request ⟨⟨offset, method⟩, ⟨offset + method.length + 1, target⟩⟩) line

/-! ## What is read -/

/-- A status is read off exactly the lines that have one in the grammar. -/
theorem exists_statusDecoder_iff :
    (∃ rest, statusDecoder ⟨offset, line⟩ = .ok (status, rest)) ↔ SpellsStatus status line := by
  simp only [statusDecoder, space, Decoder.literal_bind_eq_ok_iff, Decoder.upTo_bind_eq_ok_iff,
    Decoder.decimal16_eq_ok_iff]
  constructor
  · rintro ⟨_, _, rfl, version, _, rfl, hversion, _, hspace, digits, after, rfl, hdigits, hvalue, -⟩
    rw [hspace]
    simp only [← List.append_assoc]
    exact .mk hversion hdigits hvalue
  · intro h
    cases h with
    | @mk version digits after hversion hdigits hvalue =>
      refine ⟨_, version ++ 0x20 :: (digits ++ after), ?_, version, digits ++ after, rfl, hversion,
        _, rfl, digits, after, rfl, hdigits, hvalue, rfl⟩
      simp only [space, List.append_assoc, List.cons_append, List.nil_append]

/-- A request line ends for the decoder behind the mark of the version. Method and target stand
before the first and the second space. -/
theorem RequestLine.decoder_eq_ok_iff {r : RequestLine} {rest : View} :
    decoder ⟨offset, line⟩ = .ok (r, rest) ↔ ∃ method target after,
      line = method ++ space ++ target ++ space ++ versionMark ++ after ∧
      method ≠ [] ∧ 0x20 ∉ method ∧ 0x20 ∉ target ∧
      r = ⟨⟨offset, method⟩, ⟨offset + method.length + 1, target⟩⟩ ∧
      rest = ⟨offset + (method ++ space ++ target ++ space ++ versionMark).length, after⟩ := by
  simp only [decoder, space, Decoder.here_bind, Decoder.require_bind_eq_ok_iff,
    Decoder.literal_bind_eq_ok_iff, Decoder.upTo_bind_eq_ok_iff, View.isEmpty, Bool.not_eq_true',
    List.isEmpty_eq_false_iff]
  constructor
  · rintro ⟨method, _, rfl, hmethod, hne, _, hspace, target, _, rfl, htarget, _, hspace', after,
      rfl, hread⟩
    cases hread
    rw [hspace, hspace']
    refine ⟨method, target, after, ?_, hne, hmethod, htarget, rfl, ?_⟩
    · simp only [← List.append_assoc]
    · simp only [List.length_append, Nat.add_assoc]
  · rintro ⟨method, target, after, rfl, hne, hmethod, htarget, rfl, rfl⟩
    refine ⟨method, target ++ 0x20 :: (versionMark ++ after), ?_, hmethod, hne, _, rfl, target,
      versionMark ++ after, rfl, htarget, _, rfl, after, rfl, ?_⟩
    · simp only [List.append_assoc, List.cons_append, List.nil_append]
    · simp only [List.length_append, Nat.add_assoc]
      rfl

/-- A request is read off exactly the lines that have one in the grammar, method and target at their
places. -/
theorem exists_requestDecoder_iff {r : RequestLine} :
    (∃ rest, RequestLine.decoder ⟨offset, line⟩ = .ok (r, rest)) ↔
      ∃ method target, SpellsRequest method target line ∧
        r = ⟨⟨offset, method⟩, ⟨offset + method.length + 1, target⟩⟩ := by
  simp only [RequestLine.decoder_eq_ok_iff]
  constructor
  · rintro ⟨_, method, target, after, rfl, hne, hmethod, htarget, hr, -⟩
    exact ⟨method, target, .mk hne hmethod htarget, hr⟩
  · rintro ⟨method, target, ⟨hne, hmethod, htarget⟩, hr⟩
    exact ⟨_, method, target, _, rfl, hne, hmethod, htarget, hr, rfl⟩

/-- The mark of a version decides which of the two grammars a line has to be of. -/
theorem StartLine.ofLine?_eq_some_iff {s : StartLine} :
    ofLine? ⟨offset, line⟩ = some s ↔ SpellsStart offset s line := by
  have hmark : (⟨offset, line⟩ : View).startsWith versionMark = true ↔ versionMark <+: line :=
    List.isPrefixOf_iff_prefix
  by_cases h : versionMark <+: line
  · rw [ofLine?, if_pos (hmark.2 h), Decoder.toOption_map_eq_some_iff]
    simp only [exists_statusDecoder_iff]
    constructor
    · rintro ⟨status, hl, rfl⟩
      exact .response h hl
    · intro hs
      cases hs with
      | response _ hl => exact ⟨_, hl, rfl⟩
      | request hv _ => exact absurd h hv
  · rw [ofLine?, if_neg (mt hmark.1 h), Decoder.toOption_map_eq_some_iff]
    simp only [exists_requestDecoder_iff]
    constructor
    · rintro ⟨_, ⟨method, target, hl, rfl⟩, rfl⟩
      exact .request h hl
    · intro hs
      cases hs with
      | response hv _ => exact absurd hv h
      | request _ hl => exact ⟨_, ⟨_, _, hl, rfl⟩, rfl⟩

/-- **Exactly the payloads whose first line is a start line are messages.** The first line is what
stands before the first line feed; what is read is the start line that the grammar derives it from,
and the headers are all that follows the line feed. The parts keep their places in the capture. A
payload without a line feed, or with another first line, is no message. -/
theorem Message.parse?_eq_some_iff {payload : View} {m : Message} :
    parse? payload = some m ↔ ∃ line rest, payload.bytes = line ++ 0x0A :: rest ∧ 0x0A ∉ line ∧
      SpellsStart payload.offset m.startLine line ∧
      m.headers = ⟨payload.offset + line.length + 1, rest⟩ := by
  obtain ⟨offset, bytes⟩ := payload
  obtain ⟨startLine, headers⟩ := m
  have htake (line rest : Octets) : (⟨offset, line ++ 0x0A :: rest⟩ : View).take line.length =
      ⟨offset, line⟩ := by
    rw [View.take, List.take_left]
  have hdrop (line rest : Octets) : (⟨offset, line ++ 0x0A :: rest⟩ : View).drop (line.length + 1) =
      ⟨offset + line.length + 1, rest⟩ := by
    rw [View.drop, ← List.drop_drop, List.drop_left, List.drop_succ_cons, List.drop_zero,
      Nat.add_assoc]
  simp only [parse?, Option.bind_eq_bind, Option.bind_eq_some_iff, View.find?, lineFeed,
    Octets.indexOf?_singleton_eq_some_iff]
  constructor
  · rintro ⟨_, ⟨line, rest, rfl, hline, rfl⟩, s, hs, hm⟩
    rw [htake] at hs
    rw [hdrop] at hm
    cases hm
    exact ⟨line, rest, rfl, hline, StartLine.ofLine?_eq_some_iff.1 hs, rfl⟩
  · rintro ⟨line, rest, rfl, hline, hs, rfl⟩
    refine ⟨_, ⟨line, rest, rfl, hline, rfl⟩, startLine, ?_, ?_⟩
    · rw [htake]
      exact StartLine.ofLine?_eq_some_iff.2 hs
    · rw [hdrop]
      rfl

/-- A target may be empty, and parts are counted from where the payload stands. -/
example :
    Message.parse? ⟨7, [0x50, 0x55, 0x54] ++ space ++ space ++ versionMark ++ [0x0A, 0x61]⟩ =
      some ⟨.request ⟨⟨7, [0x50, 0x55, 0x54]⟩, ⟨11, []⟩⟩, ⟨18, [0x61]⟩⟩ := by
  decide

/-- The number 65536 is no status code. -/
example :
    Message.parse? (.ofBytes (versionMark ++ space ++ [0x36, 0x35, 0x35, 0x33, 0x36, 0x0A])) =
      none := by
  decide

end Flowmeter.Http
