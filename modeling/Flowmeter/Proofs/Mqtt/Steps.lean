import Flowmeter.Proofs.Flow.Attached
import Flowmeter.Proofs.Mqtt.TypesSeen

/-!
# Sessions packet by packet

What one control packet does to a session that it does not end is one of four things
(`Session.Takes`): a CONNECT, a CONNACK and a PUBLISH write fields of their own, every other packet
only marks its type. What such a step keeps holds of every run, with the packets that the session
has processed (`Plugin.run?_mqtt_induct`), and of every session that is attached to a flow
(`FlowRecord.attached_mqtt_induct`).
-/

namespace Flowmeter

namespace Mqtt

/-! ## Types and their codes -/

/-- The code of a packet type. -/
def PacketType.code (type : PacketType) : Nat :=
  PacketType.all.idxOf type

/-- Every type is found by its code. -/
theorem PacketType.ofCode_code (type : PacketType) : PacketType.ofCode type.code = type := by
  cases type <;> rfl

/-- Every code of four bits is that of a type. -/
theorem PacketType.code_ofCode : ∀ code : Fin 16, (PacketType.ofCode code).code = code := by
  decide

theorem FixedHeader.typeCode_eq_iff {h : FixedHeader} {type : PacketType} :
    h.typeCode.toNat = type.code ↔ h.type = type := by
  have hcode : h.type.code = h.typeCode.toNat :=
    PacketType.code_ofCode ⟨h.typeCode.toNat, typeCode_lt⟩
  rw [← hcode]
  refine ⟨fun heq => ?_, congrArg PacketType.code⟩
  rw [← PacketType.ofCode_code h.type, heq, PacketType.ofCode_code]

namespace Session

variable {limit : Nat} {options : Options} {s s' : Session} {p : ControlPacket}

/-! ## One packet -/

/-- What a control packet makes of a session that it does not end. -/
inductive Takes (limit : Nat) (s : Session) (p : ControlPacket) : Session → Prop
  | connect {c : Connect} {rest : View} (htype : p.header.type = .connect)
      (hread : Connect.decoder p.body = .ok (c, rest)) :
      Takes limit s p
        { s.mark p.header.typeBit with
          version := some c.version, connectFlags := some c.flags, keepAlive := some c.keepAlive }
  | connAck {a : ConnAck} {rest : View} (htype : p.header.type = .connAck)
      (hread : ConnAck.decoder p.body = .ok (a, rest)) :
      Takes limit s p
        { (s.mark p.header.typeBit).mark (if a.sessionPresent then 1 else 0) with
          returnCode := some a.returnCode }
  | publish {topic : String} {rest : View} (htype : p.header.type = .publish)
      (hread : text p.body = .ok (topic, rest)) (htopic : topicSeparator ∉ topic.toList) :
      Takes limit s p
        (addTopic
          { s.mark p.header.typeBit with
            publishFlags := some (s.publishFlags.getD 0 ||| p.header.flags) }
          limit topic)
  | other (hconnect : p.header.type ≠ .connect) (hconnAck : p.header.type ≠ .connAck)
      (hpublish : p.header.type ≠ .publish) : Takes limit s p (s.mark p.header.typeBit)

/-- A packet that does not end a session does one of the four things to it. -/
theorem takes_observe (h : (observe limit s p).2 ≠ some .drop) :
    Takes limit s p (observe limit s p).1 := by
  revert h
  unfold observe
  cases htype : p.header.type with
  | connect =>
    simp only [observeConnect]
    split
    · next hread => exact fun _ => .connect htype hread
    · exact fun h => absurd rfl h
  | connAck =>
    simp only [observeConnAck]
    split
    · next hread => exact fun _ => .connAck htype hread
    · exact fun h => absurd rfl h
  | publish =>
    simp only [observePublish]
    split
    · next hread =>
      split
      · exact fun h => absurd rfl h
      · next htopic =>
        refine fun _ => .publish htype hread ?_
        rwa [List.contains_iff_mem] at htopic
    · exact fun h => absurd rfl h
  | _ =>
    refine fun _ => .other ?_ ?_ ?_ <;>
      simp only [htype, ne_eq, reduceCtorEq, not_false_eq_true]

/-! ## Runs of packets -/

/-- Every packet that does not end a session keeps what holds of the session and the packets that it
has processed. -/
def PacketsKeep (limit : Nat) (P : List ControlPacket → Session → Prop) : Prop :=
  ∀ past s p, P past s → (observe limit s p).2 ≠ some .drop → P (past ++ [p]) (observe limit s p).1

variable {P : List ControlPacket → Session → Prop} {past : List ControlPacket}

/-- What single packets keep, the packets that a session processes in a row keep. -/
theorem observeAll_induct (hP : PacketsKeep limit P) {packets : List ControlPacket} (hs : P past s)
    (h : (observeAll limit s packets).2 ≠ some .drop) :
    P (past ++ ControlPacket.processed packets) (observeAll limit s packets).1 := by
  induction packets generalizing s past with
  | nil =>
    rw [ControlPacket.processed, List.append_nil]
    exact hs
  | cons p rest ih =>
    rcases snd_observe_cases limit s p with ⟨hp, hv⟩ | ⟨hp, hv | hv⟩
    · rw [observeAll_cons_of_some hv, ControlPacket.processed_cons_of_disconnect hp]
      exact hP past s p hs (by rw [hv]; decide)
    · rw [observeAll_cons_of_none hv] at h ⊢
      rw [ControlPacket.processed_cons_of_ne_disconnect hp, List.append_cons]
      exact ih (hP past s p hs (by rw [hv]; decide)) h
    · rw [observeAll_cons_of_some hv] at h
      exact absurd rfl h

/-- So does a segment. -/
theorem update_induct (hP : PacketsKeep options.topicLimit P) {payload : View} (hs : P past s)
    (h : (update options s payload).2 ≠ .drop) :
    P (past ++ ControlPacket.processed (ControlPacket.tokenizer.tokens payload).1)
      (update options s payload).1 := by
  rw [fst_update]
  exact observeAll_induct hP hs (snd_observeAll_of_update h)

end Session

end Mqtt

/-! ## The plugin of MQTT -/

open Mqtt (ControlPacket Session)

namespace Plugin

variable {options : Mqtt.Options} {packets : List Packet} {o : Observation}

/-- What holds of an empty session and is kept by every packet holds of every run. -/
theorem run?_mqtt_induct {P : List ControlPacket → Session → Prop} (hempty : P [] {})
    (hP : Session.PacketsKeep options.topicLimit P)
    (h : (mqtt options).run? packets = some o) :
    ∃ s, o = .mqtt s ∧ P (ControlPacket.processedIn packets) s := by
  refine run?_induct (P := fun packets o =>
    ∃ s, o = .mqtt s ∧ P (ControlPacket.processedIn packets) s) ?_ ?_ h
  · intro packet o hstart
    obtain ⟨-, hv, rfl⟩ := start_mqtt_cases hstart
    refine ⟨_, rfl, ?_⟩
    rw [ControlPacket.processedIn, List.flatMap_singleton]
    exact Session.update_induct hP hempty hv
  · rintro past _ packet o' ⟨s, rfl, hs⟩ htake
    obtain ⟨hv, rfl⟩ := take?_mqtt_cases htake
    refine ⟨_, rfl, ?_⟩
    rw [ControlPacket.processedIn_append]
    exact Session.update_induct hP hs hv

end Plugin

namespace FlowRecord

/-- What holds of an empty session and is kept by every packet holds of every session that is
attached to a flow. -/
theorem attached_mqtt_induct {settings : PluginSettings} {packets : List Packet} {o : Observation}
    {P : Session → Prop} (hempty : P {})
    (hstep : ∀ s p, P s → (Session.observe settings.mqtt.topicLimit s p).2 ≠ some .drop →
      P (Session.observe settings.mqtt.topicLimit s p).1)
    (h : (empty.run (Call.each settings.build packets)).observation? .mqtt = some o) :
    ∃ s, o = .mqtt s ∧ P s := by
  obtain ⟨taken, -, hrun⟩ := exists_run?_of_attached h
  exact Plugin.run?_mqtt_induct (P := fun _ s => P s) hempty (fun _ => hstep) hrun

end FlowRecord

end Flowmeter
