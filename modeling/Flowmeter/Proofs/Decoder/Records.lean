import Flowmeter.Icmp.TypeCode
import Flowmeter.Link.LabelStack
import Flowmeter.Mqtt.Connect
import Flowmeter.Proofs.Decoder.Places
import Flowmeter.Proofs.Http.StartLine
import Flowmeter.Proofs.Quic.LongHeader

/-!
# Records on the wire and their places

Every decoder of a wire record tracks places (`tracksPlaces_wireRecords`). What a record is read as
holds no places, except for a request line, whose method and target are parts of the capture.

All but one of the decoders are local because their steps are. The search for the end of a method
or a target looks one octet further than it takes, so that a request line is local only as a whole
(`RequestLine.local_decoder`).
-/

namespace Flowmeter

open Decoder (Local Moves)

variable {whole : View} {n : Nat}

/-! ## Label stacks and control messages -/

theorem LabelStackEntry.local_decoder : Local decoder decoder :=
  Decoder.local_uint32.bind fun _ => Decoder.local_pure _

theorem LabelStackEntry.moves_decoder : Moves whole n Eq decoder decoder :=
  Decoder.moves_uint32.bind_eq fun _ => Decoder.moves_pure rfl

theorem Icmp.TypeCode.local_decoder : Local decoder decoder :=
  Decoder.local_octet.bind fun _ => Decoder.local_octet.bind fun _ => Decoder.local_pure _

theorem Icmp.TypeCode.moves_decoder : Moves whole n Eq decoder decoder :=
  Decoder.moves_octet.bind_eq fun _ => Decoder.moves_octet.bind_eq fun _ =>
    Decoder.moves_pure rfl

/-! ## Sessions -/

namespace Mqtt

/-- The length in front of a text says where it ends. -/
theorem local_text : Local text text := by
  refine Decoder.local_uint16.bind fun length => (Decoder.local_take _).bind fun value => ?_
  cases value.text? with
  | some s => exact Decoder.local_pure s
  | none => exact Decoder.local_breaks _ _ _

/-- A text that is not well formed is reported where its octets stand. -/
theorem moves_text : Moves whole n Eq text text := by
  refine Decoder.moves_uint16.bind_eq fun length =>
    (Decoder.moves_take _).bind fun value value' hvalue => ?_
  have htext : value'.text? = value.text? := by
    rw [hvalue.2]
    rfl
  rw [htext]
  cases value.text? with
  | some s => exact Decoder.moves_pure rfl
  | none => exact Decoder.moves_breaks _ hvalue

/-- Nothing is read behind the keep alive time, whatever the flags announce. -/
theorem Connect.local_decoder : Local decoder decoder :=
  Decoder.local_here_bind fun _ _ => local_text.bind fun _ =>
    (Decoder.local_require _ _ _ _).bind fun _ => Decoder.local_here_bind fun _ _ =>
    Decoder.local_octet.bind fun _ => (Decoder.local_require _ _ _ _).bind fun _ =>
    Decoder.local_octet.bind fun _ => Decoder.local_uint16.bind fun _ => Decoder.local_pure _

/-- A wrong protocol name shows where the packet starts, a wrong level at its octet. -/
theorem Connect.moves_decoder : Moves whole n Eq decoder decoder :=
  Decoder.moves_here.bind fun _ _ hstart => moves_text.bind_eq fun _ =>
    (Decoder.moves_require _ _ hstart).bind_eq fun _ => Decoder.moves_here.bind fun _ _ hlevel =>
    Decoder.moves_octet.bind_eq fun _ => (Decoder.moves_require _ _ hlevel).bind_eq fun _ =>
    Decoder.moves_octet.bind_eq fun _ => Decoder.moves_uint16.bind_eq fun _ =>
    Decoder.moves_pure rfl

theorem ConnAck.local_decoder : Local decoder decoder :=
  Decoder.local_octet.bind fun _ => Decoder.local_octet.bind fun _ => Decoder.local_pure _

theorem ConnAck.moves_decoder : Moves whole n Eq decoder decoder :=
  Decoder.moves_octet.bind_eq fun _ => Decoder.moves_octet.bind_eq fun _ =>
    Decoder.moves_pure rfl

end Mqtt

/-! ## Long headers -/

namespace Quic

/-- An id that is too long is reported at its length octet, which is read before the id. -/
theorem ConnectionId.moves_decoder : Moves whole n Eq decoder decoder := by
  refine Decoder.moves_here.bind fun start start' hstart => Decoder.moves_octet.bind_eq fun length =>
    (Decoder.moves_require _ _ hstart).bind_eq fun _ => (Decoder.moves_take _).bind ?_
  rintro value _ ⟨-, rfl⟩
  rw [View.bytes_moved]
  cases ofOctets? value.bytes with
  | some id => exact Decoder.moves_pure rfl
  | none => exact Decoder.moves_breaks _ hstart

namespace LongHeader

/-- Only the length of a token is kept, so no place is. -/
theorem moves_tokenLengthDecoder (type : PacketType) :
    Moves whole n Eq (tokenLengthDecoder type) (tokenLengthDecoder type) := by
  unfold tokenLengthDecoder
  split
  · exact Decoder.moves_sized.bind_eq fun length =>
      (Decoder.moves_take length).bind fun _ _ _ => Decoder.moves_pure rfl
  · exact Decoder.moves_pure rfl

/-- A length is a number and holds no place. -/
theorem moves_payloadLengthDecoder (type : PacketType) :
    Moves whole n Eq (payloadLengthDecoder type) (payloadLengthDecoder type) := by
  unfold payloadLengthDecoder
  split
  · rw [map_eq_pure_bind]
    exact Decoder.moves_sized.bind_eq fun _ => Decoder.moves_pure rfl
  · exact Decoder.moves_pure rfl

theorem moves_decoder : Moves whole n Eq decoder decoder :=
  Decoder.moves_here.bind fun _ _ hstart => Decoder.moves_octet.bind_eq fun _ =>
    (Decoder.moves_require _ _ hstart).bind_eq fun _ => Decoder.moves_uint32.bind_eq fun _ =>
    (Decoder.moves_require _ _ hstart).bind_eq fun _ => ConnectionId.moves_decoder.bind_eq fun _ =>
    ConnectionId.moves_decoder.bind_eq fun _ => (moves_tokenLengthDecoder _).bind_eq fun _ =>
    (moves_payloadLengthDecoder _).bind_eq fun _ => Decoder.moves_pure rfl

end LongHeader

end Quic

/-! ## Request lines -/

namespace Http.RequestLine

/-- The same request line, `n` octets further on. -/
def moved (r : RequestLine) (n : Nat) : RequestLine :=
  ⟨r.method.moved n, r.target.moved n⟩

theorem local_decoder : Local decoder decoder := by
  rintro ⟨offset, line⟩ r rest h
  obtain ⟨method, target, after, rfl, hne, hmethod, htarget, rfl, rfl⟩ := decoder_eq_ok_iff.1 h
  refine ⟨method ++ space ++ target ++ space ++ versionMark, rfl, rfl, fun following => ?_⟩
  exact decoder_eq_ok_iff.2 ⟨method, target, following, rfl, hne, hmethod, htarget, rfl, rfl⟩

theorem moves_decoder : Moves whole n (fun r r' => r.moved n = r') decoder decoder := by
  refine Decoder.moves_here.bind fun start start' hstart => (Decoder.moves_upTo _).bind ?_
  rintro method _ ⟨-, rfl⟩
  refine (Decoder.moves_require _ _ hstart).bind_eq fun _ =>
    (Decoder.moves_literal _).bind fun _ _ _ => (Decoder.moves_upTo _).bind ?_
  rintro target _ ⟨-, rfl⟩
  exact (Decoder.moves_literal _).bind fun _ _ _ =>
    (Decoder.moves_literal _).bind fun _ _ _ => Decoder.moves_pure rfl

end Http.RequestLine

/-! ## All records -/

open Decoder (TracksPlaces tracksPlaces_of_moves)

/-- **The decoders of wire records are local, and what they report is in the input.** Each reads
what it reads whatever follows the octets that it takes; each fault shows inside of the input; and
on the same octets elsewhere in the capture each answers the same, at the places there. -/
theorem tracksPlaces_wireRecords :
    TracksPlaces (fun _ e => e) LabelStackEntry.decoder ∧
    TracksPlaces (fun _ t => t) Icmp.TypeCode.decoder ∧
    TracksPlaces (fun _ s => s) Mqtt.text ∧
    TracksPlaces (fun _ c => c) Mqtt.Connect.decoder ∧
    TracksPlaces (fun _ a => a) Mqtt.ConnAck.decoder ∧
    TracksPlaces (fun _ id => id) Quic.ConnectionId.decoder ∧
    TracksPlaces (fun _ h => h) Quic.LongHeader.decoder ∧
    TracksPlaces (fun n r => r.moved n) Http.RequestLine.decoder :=
  ⟨tracksPlaces_of_moves LabelStackEntry.local_decoder fun _ _ => LabelStackEntry.moves_decoder,
    tracksPlaces_of_moves Icmp.TypeCode.local_decoder fun _ _ => Icmp.TypeCode.moves_decoder,
    tracksPlaces_of_moves Mqtt.local_text fun _ _ => Mqtt.moves_text,
    tracksPlaces_of_moves Mqtt.Connect.local_decoder fun _ _ => Mqtt.Connect.moves_decoder,
    tracksPlaces_of_moves Mqtt.ConnAck.local_decoder fun _ _ => Mqtt.ConnAck.moves_decoder,
    tracksPlaces_of_moves Quic.ConnectionId.local_decoder fun _ _ =>
      Quic.ConnectionId.moves_decoder,
    tracksPlaces_of_moves Quic.LongHeader.local_decoder fun _ _ => Quic.LongHeader.moves_decoder,
    tracksPlaces_of_moves Http.RequestLine.local_decoder fun _ _ =>
      Http.RequestLine.moves_decoder⟩

/-- A string that is not UTF-8 is reported where its octets stand, behind their number. -/
example : Mqtt.text ⟨40, [0x00, 0x01, 0xFF, 0x61]⟩ = .error ⟨.rule .invalidUtf8, ⟨42, [0xFF]⟩⟩ := by
  with_unfolding_all rfl

end Flowmeter
