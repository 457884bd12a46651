import Flowmeter.Flow.Builtin
import Flowmeter.Proofs.Decoder
import Flowmeter.Proofs.Flow.Observing
import Flowmeter.Proofs.Mqtt.Segmentation
import Flowmeter.Proofs.Mqtt.Session

/-!
# Control packets in any segments

What a session takes in depends on the octets of the control packets and not on where they stand in
the capture (`Session.update_congr`). After a segment of whole packets a session is where it would
be in the middle of a longer segment (`Session.update_append_run`), and only such a segment asks for
more. So the segments that a run of control packets is cut into do not count
(`mqtt_follow_segments`).
-/

namespace Flowmeter

namespace Mqtt

/-! ## Octets alone count -/

/-- A text is read off its octets alone. -/
theorem alike_text : Decoder.Alike Eq text text := by
  refine Decoder.alike_uint16.bind ?_
  rintro length _ rfl
  refine (Decoder.alike_take _).bind fun value value' hvalue => ?_
  have htext : value.text? = value'.text? := by rw [View.text?, View.text?, hvalue]
  rw [← htext]
  cases value.text? with
  | some s => exact Decoder.alike_pure rfl
  | none => exact Decoder.alike_breaks _ _ _ _

theorem Connect.alike_decoder : Decoder.Alike Eq Connect.decoder Connect.decoder := by
  refine Decoder.alike_here.bind fun start start' _ => ?_
  refine alike_text.bind ?_
  rintro name _ rfl
  refine (Decoder.alike_require _ _ _ _ _).bind fun _ _ _ => ?_
  refine Decoder.alike_here.bind fun level level' _ => ?_
  refine Decoder.alike_octet.bind ?_
  rintro version _ rfl
  refine (Decoder.alike_require _ _ _ _ _).bind fun _ _ _ => ?_
  refine Decoder.alike_octet.bind ?_
  rintro flags _ rfl
  refine Decoder.alike_uint16.bind ?_
  rintro keepAlive _ rfl
  exact Decoder.alike_pure rfl

theorem ConnAck.alike_decoder : Decoder.Alike Eq ConnAck.decoder ConnAck.decoder := by
  refine Decoder.alike_octet.bind ?_
  rintro flags _ rfl
  refine Decoder.alike_octet.bind ?_
  rintro returnCode _ rfl
  exact Decoder.alike_pure rfl

namespace ControlPacket

/-- A control packet without its place. -/
def content (p : ControlPacket) : FixedHeader × Octets :=
  (p.header, p.body.bytes)

/-- Control packets are cut off by octets alone. -/
theorem step_alike {v v' : View} (h : v.bytes = v'.bytes) :
    (tokenizer.step v).Alike content (tokenizer.step v') := by
  obtain ⟨offset, bytes⟩ := v
  obtain ⟨offset', _⟩ := v'
  cases h
  change (step ⟨offset, bytes⟩).Alike content (step ⟨offset', bytes⟩)
  cases bytes with
  | nil => exact .finished rfl
  | cons first octets =>
    cases hread : Varint.readContinued? octets with
    | none =>
      rw [step_of_readContinued?_eq_none hread, step_of_readContinued?_eq_none hread]
      exact .stop
    | some n =>
      rw [step_of_readContinued?_eq_some hread, step_of_readContinued?_eq_some hread]
      split
      · exact .token rfl rfl
      · exact .stop

/-- A segment that ends with a packet is a run of whole packets. -/
theorem exists_run_of_hasSucceeded {v : View} (h : (tokenizer.tokens v).2.hasSucceeded = true) :
    ∃ run : List WirePacket, v.bytes = wireFormat.encodeAll run := by
  obtain ⟨run, last, -, hbytes, -, hlast⟩ := Tokenizer.exists_items spells_wirePacket v
  rcases hlast with ⟨-, hend⟩ | ⟨rest, hfinished, -⟩
  · rw [hend] at h
    cases h
  · refine ⟨run, ?_⟩
    rw [hbytes, (finished_step_iff.1 hfinished).1, List.append_nil]

theorem tokens_encodeAll_run (run : List WirePacket) (offset : Nat) :
    tokenizer.tokens ⟨offset, wireFormat.encodeAll run⟩ =
      (wireFormat.tokens offset run,
        ⟨⟨offset + (wireFormat.encodeAll run).length, []⟩, .succeeded⟩) := by
  have hend : tokenizer.tokens ⟨offset + (wireFormat.encodeAll run).length, []⟩ =
      ([], ⟨⟨offset + (wireFormat.encodeAll run).length, []⟩, .succeeded⟩) :=
    Tokenizer.tokens_of_finished (finished_step_iff.2 ⟨rfl, rfl⟩)
  have hrun := Tokenizer.tokens_encodeAll (fun p (_ : p ∈ run) => cuts_wirePacket p) offset []
  rwa [List.append_nil, hend, List.append_nil] at hrun

/-- Behind whole packets the sequence goes on as if it began there. -/
theorem tokens_encodeAll_append (run : List WirePacket) (offset : Nat) (rest : Octets) :
    tokenizer.tokens ⟨offset, wireFormat.encodeAll run ++ rest⟩ =
      ((tokenizer.tokens ⟨offset, wireFormat.encodeAll run⟩).1 ++
          (tokenizer.tokens ⟨offset + (wireFormat.encodeAll run).length, rest⟩).1,
        (tokenizer.tokens ⟨offset + (wireFormat.encodeAll run).length, rest⟩).2) := by
  rw [Tokenizer.tokens_encodeAll (fun p _ => cuts_wirePacket p), tokens_encodeAll_run]

end ControlPacket

namespace Session

variable {limit : Nat} {options : Options} {s : Session} {p p' : ControlPacket}
  {ps ps' qs : List ControlPacket} {v v' : View}

/-- What a packet does to a session does not depend on its place. -/
theorem observe_congr (h : p.content = p'.content) : observe limit s p = observe limit s p' := by
  obtain ⟨hheader, hbody⟩ := Prod.mk.inj h
  unfold observe
  rw [← hheader]
  cases p.header.type with
  | connect =>
    simp only [observeConnect]
    rcases Connect.alike_decoder _ _ hbody with ⟨c, _, _, _, hc, hc', rfl, -⟩ | ⟨_, _, he, he'⟩
    · rw [hc, hc']
    · rw [he, he']
  | connAck =>
    simp only [observeConnAck]
    rcases ConnAck.alike_decoder _ _ hbody with ⟨a, _, _, _, ha, ha', rfl, -⟩ | ⟨_, _, he, he'⟩
    · rw [ha, ha']
    · rw [he, he']
  | publish =>
    simp only [observePublish]
    rcases alike_text _ _ hbody with ⟨topic, _, _, _, ht, ht', rfl, -⟩ | ⟨_, _, he, he'⟩
    · rw [ht, ht']
    · rw [he, he']
  | _ => rfl

theorem observeAll_congr (h : ps.map ControlPacket.content = ps'.map ControlPacket.content) :
    observeAll limit s ps = observeAll limit s ps' := by
  induction ps generalizing s ps' with
  | nil =>
    rw [List.map_nil] at h
    rw [List.map_eq_nil_iff.1 h.symm]
  | cons p ps ih =>
    cases ps' with
    | nil => cases h
    | cons p' ps' =>
      obtain ⟨hp, hps⟩ := List.cons.inj h
      rw [observeAll, observeAll, observe_congr hp]
      split
      · rfl
      · exact ih hps

theorem update_congr (h : v.bytes = v'.bytes) : update options s v = update options s v' := by
  obtain ⟨htokens, hstatus⟩ := Tokenizer.tokens_congr ControlPacket.step_alike h
  have hsucceeded : (ControlPacket.tokenizer.tokens v).2.hasSucceeded =
      (ControlPacket.tokenizer.tokens v').2.hasSucceeded := by
    rw [Cursor.hasSucceeded, Cursor.hasSucceeded, hstatus]
  simp only [update, observeAll_congr htokens, hsucceeded]

/-! ## Runs of packets -/

/-- Where no packet brings a verdict, the packets behind them are taken in too. -/
theorem observeAll_append_of_none (h : (observeAll limit s ps).2 = none) :
    observeAll limit s (ps ++ qs) = observeAll limit (observeAll limit s ps).1 qs := by
  induction ps generalizing s with
  | nil => rfl
  | cons p ps ih =>
    cases hv : (observe limit s p).2 with
    | none =>
      rw [List.cons_append, observeAll_cons_of_none hv, observeAll_cons_of_none hv]
      rw [observeAll_cons_of_none hv] at h
      exact ih h
    | some verdict =>
      rw [observeAll_cons_of_some hv] at h
      cases h

theorem observeAll_append_of_ne_none (h : (observeAll limit s ps).2 ≠ none) :
    observeAll limit s (ps ++ qs) = observeAll limit s ps := by
  induction ps generalizing s with
  | nil => exact absurd rfl h
  | cons p ps ih =>
    cases hv : (observe limit s p).2 with
    | none =>
      rw [List.cons_append, observeAll_cons_of_none hv, observeAll_cons_of_none hv]
      rw [observeAll_cons_of_none hv] at h
      exact ih h
    | some verdict =>
      rw [List.cons_append, observeAll_cons_of_some hv, observeAll_cons_of_some hv]

theorem observe_ne_more : (observe limit s p).2 ≠ some .more := by
  rcases snd_observe_cases limit s p with ⟨-, hv⟩ | ⟨-, hv | hv⟩ <;> rw [hv] <;> decide

/-- No packet asks for more; the segment does when it has ended. -/
theorem observeAll_ne_more : (observeAll limit s ps).2 ≠ some .more := by
  induction ps generalizing s with
  | nil => exact fun h => nomatch h
  | cons p ps ih =>
    cases hv : (observe limit s p).2 with
    | none =>
      rw [observeAll_cons_of_none hv]
      exact ih
    | some verdict =>
      rw [observeAll_cons_of_some hv]
      exact hv ▸ observe_ne_more

/-- A segment asks for more only if it ends with a packet and no packet has brought a verdict. -/
theorem update_eq_more (h : (update options s v).2 = .more) :
    (observeAll options.topicLimit s (ControlPacket.tokenizer.tokens v).1).2 = none ∧
      (ControlPacket.tokenizer.tokens v).2.hasSucceeded = true := by
  cases hv : (observeAll options.topicLimit s (ControlPacket.tokenizer.tokens v).1).2 with
  | none =>
    rw [update_of_none hv] at h
    cases hend : (ControlPacket.tokenizer.tokens v).2.hasSucceeded with
    | true => exact ⟨rfl, rfl⟩
    | false =>
      rw [hend] at h
      cases h
  | some verdict =>
    rw [update_of_some hv] at h
    cases h
    exact absurd hv observeAll_ne_more

theorem update_of_isEmpty (h : v.isEmpty = true) : update options s v = (s, .more) := by
  have htokens : ControlPacket.tokenizer.tokens v = ([], ⟨v, .succeeded⟩) :=
    Tokenizer.tokens_of_finished (ControlPacket.finished_step_iff.2 ⟨List.isEmpty_iff.1 h, rfl⟩)
  simp only [update, htokens, observeAll]
  rfl

/-- After a run of whole packets that asks for more, the session goes on with what follows; any
other verdict on the run is the one on the whole. -/
theorem update_append_run {run : List WirePacket} {rest whole : View}
    (hv : v.bytes = ControlPacket.wireFormat.encodeAll run)
    (hwhole : whole.bytes = v.bytes ++ rest.bytes) :
    update options s whole =
      if (update options s v).2 = .more then update options (update options s v).1 rest
      else update options s v := by
  let after : View := ⟨v.offset + (ControlPacket.wireFormat.encodeAll run).length, rest.bytes⟩
  obtain ⟨htokens, hend⟩ : ControlPacket.tokenizer.tokens ⟨v.offset, whole.bytes⟩ =
        ((ControlPacket.tokenizer.tokens v).1 ++ (ControlPacket.tokenizer.tokens after).1,
          (ControlPacket.tokenizer.tokens after).2) ∧
      (ControlPacket.tokenizer.tokens v).2.hasSucceeded = true := by
    have hplace : v = ⟨v.offset, ControlPacket.wireFormat.encodeAll run⟩ := by rw [← hv]
    rw [hwhole, hv, hplace]
    refine ⟨ControlPacket.tokens_encodeAll_append run v.offset rest.bytes, ?_⟩
    rw [ControlPacket.tokens_encodeAll_run]
    rfl
  have hplace : update options s whole = update options s ⟨v.offset, whole.bytes⟩ :=
    update_congr rfl
  rw [hplace]
  cases hverdict : (observeAll options.topicLimit s (ControlPacket.tokenizer.tokens v).1).2 with
  | none =>
    have hafter : update options s ⟨v.offset, whole.bytes⟩ = update options
        (observeAll options.topicLimit s (ControlPacket.tokenizer.tokens v).1).1 after := by
      simp only [update, htokens, observeAll_append_of_none hverdict]
    rw [hafter, update_of_none hverdict, hend, if_pos rfl]
    exact update_congr rfl
  | some verdict =>
    -- the first segment settles it, so that the second is never read
    have hne : verdict ≠ .more := by
      rintro rfl
      exact observeAll_ne_more hverdict
    have hsame : observeAll options.topicLimit s
        (ControlPacket.tokenizer.tokens ⟨v.offset, whole.bytes⟩).1 =
          observeAll options.topicLimit s (ControlPacket.tokenizer.tokens v).1 := by
      rw [htokens]
      exact observeAll_append_of_ne_none (by rw [hverdict]; exact Option.some_ne_none _)
    rw [update_of_some hverdict, if_neg hne, update_of_some ((congrArg _ hsame).trans hverdict),
      hsame]

end Session

end Mqtt

/-! ## The plugin of MQTT -/

namespace Plugin

open Mqtt (ControlPacket Session WirePacket)

variable {options : Mqtt.Options} {s : Session}

/-- A packet without payload is taken in as an empty segment. -/
theorem update_mqtt (packet : Packet) : (mqtt options).update packet (.mqtt s) =
    (.mqtt (Session.update options s packet.payload).1,
      (Session.update options s packet.payload).2) := by
  cases hempty : packet.payload.isEmpty with
  | true =>
    rw [Session.update_of_isEmpty hempty]
    simp only [mqtt, hempty, ↓reduceIte]
  | false => simp only [mqtt, hempty, Bool.false_eq_true, ↓reduceIte]

/-- A session that wants more takes in the next segment. -/
theorem follow_mqtt_cons (packet : Packet) (rest : List Packet) :
    (mqtt options).follow (.mqtt s) (packet :: rest) =
      if (Session.update options s packet.payload).2 = .more then
        (mqtt options).follow (.mqtt (Session.update options s packet.payload).1) rest
      else (.mqtt (Session.update options s packet.payload).1,
        (Session.update options s packet.payload).2) := by
  split
  · next hmore => exact follow_cons_of_more (hmore ▸ update_mqtt packet)
  · next hmore =>
    rw [← update_mqtt]
    exact follow_cons_of_ne_more (by rwa [update_mqtt])

/-- **The segments that control packets come in do not count.** A session that asks for more after a
segment goes on as if what follows had been in the segment. So a stream of control packets leads to
one session and one first verdict other than `more`, wherever between packets it is cut into
segments, empty ones included. -/
theorem mqtt_follow_segments (options : Mqtt.Options) (s : Session) :
    (∀ a b whole : View, whole.bytes = a.bytes ++ b.bytes → (Session.update options s a).2 = .more →
      Session.update options s whole =
        Session.update options (Session.update options s a).1 b) ∧
    ∀ (packets : List Packet) (stream : View),
      stream.bytes = packets.flatMap (·.payload.bytes) →
      (∀ p ∈ packets.dropLast, ∃ run : List WirePacket,
        p.payload.bytes = ControlPacket.wireFormat.encodeAll run) →
      (mqtt options).follow (.mqtt s) packets =
        (.mqtt (Session.update options s stream).1, (Session.update options s stream).2) := by
  constructor
  · intro a b whole hwhole hmore
    obtain ⟨-, hend⟩ := Session.update_eq_more hmore
    obtain ⟨run, hrun⟩ := ControlPacket.exists_run_of_hasSucceeded hend
    rw [Session.update_append_run hrun hwhole, if_pos hmore]
  · intro packets
    induction packets generalizing s with
    | nil =>
      intro stream hstream _
      have hempty : stream.isEmpty = true := List.isEmpty_iff.2 hstream
      rw [Session.update_of_isEmpty hempty]
      rfl
    | cons p rest ih =>
      intro stream hstream hcut
      let after : View := ⟨0, rest.flatMap (·.payload.bytes)⟩
      have hwhole : stream.bytes = p.payload.bytes ++ after.bytes := by
        rw [hstream, List.flatMap_cons]
      rw [follow_mqtt_cons]
      cases rest with
      | nil =>
        -- the last segment is what is left of the stream, whatever it ends with
        have hsame : Session.update options s stream = Session.update options s p.payload :=
          Session.update_congr (hwhole.trans (List.append_nil _))
        rw [hsame]
        split
        · next hmore =>
          rw [hmore]
          rfl
        · rfl
      | cons q rest =>
        obtain ⟨run, hrun⟩ := hcut p List.mem_cons_self
        rw [Session.update_append_run hrun hwhole]
        split
        · exact ih _ after rfl fun p' hp' => hcut p' (List.mem_cons_of_mem _ hp')
        · rfl

/-- A TCP segment of whole packets. -/
def segmentOf (run : List WirePacket) : Packet where
  ipProtocol := IpProtocol.tcp
  payload := .ofBytes (ControlPacket.wireFormat.encodeAll run)

/-- A CONNECT of version 3.1.1. -/
def wireConnect : WirePacket where
  header := ⟨0x10⟩
  digits := [0x0C]
  body := [0x00, 0x04, 0x4D, 0x51, 0x54, 0x54, 0x04, 0x02, 0x00, 0x3C, 0x00, 0x00]
  digits_ne_nil := List.cons_ne_nil _ _
  digits_length_le := by decide
  digit_lt := List.forall_mem_singleton.2 (by decide)
  ofOctets_digits := by decide

/-- A CONNACK with a session present. -/
def wireConnAck : WirePacket where
  header := ⟨0x20⟩
  digits := [0x02]
  body := [0x01, 0x00]
  digits_ne_nil := List.cons_ne_nil _ _
  digits_length_le := by decide
  digit_lt := List.forall_mem_singleton.2 (by decide)
  ofOctets_digits := by decide

def wireDisconnect : WirePacket where
  header := ⟨0xE0⟩
  digits := [0x00]
  body := []
  digits_ne_nil := List.cons_ne_nil _ _
  digits_length_le := by decide
  digit_lt := List.forall_mem_singleton.2 (by decide)
  ofOctets_digits := by decide

/-- A session in one segment, and cut with an empty segment in between. -/
theorem mqtt_follow_segments_session :
    (Session.update {} {} (segmentOf [wireConnect]).payload).2 = .more ∧
      Session.update {} {} (segmentOf [wireConnect, wireConnAck]).payload =
        Session.update {} (Session.update {} {} (segmentOf [wireConnect]).payload).1
          (segmentOf [wireConnAck]).payload ∧
      (mqtt {}).follow (.mqtt {})
          [segmentOf [wireConnect], segmentOf [], segmentOf [wireConnAck, wireDisconnect]] =
        (mqtt {}).follow (.mqtt {}) [segmentOf [wireConnect, wireConnAck, wireDisconnect]] ∧
      ((mqtt {}).follow (.mqtt {})
        [segmentOf [wireConnect, wireConnAck, wireDisconnect]]).2 = .flush := by
  have hmore : (Session.update {} {} (segmentOf [wireConnect]).payload).2 = .more := by
    decide +kernel
  have hpieces : ∀ p ∈ [segmentOf [wireConnect], segmentOf []], ∃ run : List WirePacket,
      p.payload.bytes = ControlPacket.wireFormat.encodeAll run := by
    intro p hp
    simp only [List.mem_cons, List.not_mem_nil, or_false] at hp
    rcases hp with rfl | rfl
    · exact ⟨[wireConnect], rfl⟩
    · exact ⟨[], rfl⟩
  have hcut := (mqtt_follow_segments {} {}).2
    [segmentOf [wireConnect], segmentOf [], segmentOf [wireConnAck, wireDisconnect]]
    (segmentOf [wireConnect, wireConnAck, wireDisconnect]).payload (by decide +kernel) hpieces
  have hwhole := (mqtt_follow_segments {} {}).2
    [segmentOf [wireConnect, wireConnAck, wireDisconnect]]
    (segmentOf [wireConnect, wireConnAck, wireDisconnect]).payload (by decide +kernel) nofun
  refine ⟨hmore, ?_, hcut.trans hwhole.symm, by decide +kernel⟩
  exact (mqtt_follow_segments {} {}).1 _ _ _ (by decide +kernel) hmore

end Plugin

end Flowmeter
