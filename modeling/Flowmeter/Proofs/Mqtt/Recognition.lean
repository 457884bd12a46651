import Flowmeter.Flow.Builtin
import Flowmeter.Proofs.Flow.Observing
import Flowmeter.Proofs.Mqtt.Session
import Flowmeter.Proofs.Tokens

/-!
# How MQTT is recognised

The plugin of MQTT looks for the protocol name in the body of the first control packet
(`Connect.isAnnounced`) and never at the type of that packet; the session is filled by a second
reading of the segment (`Session.update`). The two agree exactly on segments whose first octet is
that of a CONNECT (`start_mqtt_observation`). Any other packet that names the protocol is taken for
the start of a session, and the session is connected only if a CONNECT follows in the segment.
-/

namespace Flowmeter

namespace Mqtt

/-! ## The first control packet -/

theorem FixedHeader.type_eq_connect_iff_typeCode {h : FixedHeader} :
    h.type = .connect ↔ h.typeCode = 1 := by
  rw [type_eq_connect_iff, ← UInt8.toNat_inj]
  rfl

namespace ControlPacket

variable {v rest : View} {p : ControlPacket}

theorem byte?_zero_of_step (h : step v = .token p rest) : v.byte? 0 = some p.header.octet := by
  simp only [step] at h
  split at h
  · cases h
  · next first tail hv =>
    have hfirst : v.byte? 0 = some first := by rw [View.byte?, hv, List.getElem?_cons_zero]
    split at h
    · cases h
    · split at h
      · cases h
      · cases h
        exact hfirst

/-- A segment with octets has a first packet, or stops before it. -/
theorem step_of_not_isEmpty (hv : v.isEmpty = false) :
    step v = .stop ∨ ∃ p rest, step v = .token p rest := by
  cases hs : step v with
  | token p rest => exact .inr ⟨p, rest, rfl⟩
  | stop => exact .inl rfl
  | finished rest =>
    simp only [step] at hs
    split at hs
    · next hnil =>
      rw [View.isEmpty, hnil] at hv
      cases hv
    · repeat' split at hs
      all_goals cases hs

end ControlPacket

/-! ## One segment -/

namespace Session

variable {options : Options} {s : Session} {payload : View}

theorem fst_update : (update options s payload).1 =
    (observeAll options.topicLimit s (ControlPacket.tokenizer.tokens payload).1).1 := by
  cases hv : (observeAll options.topicLimit s (ControlPacket.tokenizer.tokens payload).1).2 with
  | none => rw [update_of_none hv]
  | some verdict => rw [update_of_some hv]

theorem snd_observeAll_of_update (h : (update options s payload).2 ≠ .drop) :
    (observeAll options.topicLimit s (ControlPacket.tokenizer.tokens payload).1).2 ≠
      some .drop := by
  intro hv
  rw [update_of_some hv] at h
  exact h rfl

theorem exists_step_of_update (hp : payload.isEmpty = false)
    (h : (update options s payload).2 ≠ .drop) :
    ∃ p rest, ControlPacket.step payload = .token p rest := by
  rcases ControlPacket.step_of_not_isEmpty hp with hstop | htoken
  · have htokens : ControlPacket.tokenizer.tokens payload = ([], ⟨payload, .failed⟩) :=
      Tokenizer.tokens_of_stop hstop
    refine absurd ?_ h
    simp only [update, htokens, observeAll]
    rfl
  · exact htoken

end Session

end Mqtt

/-! ## The plugin of MQTT -/

namespace Plugin

open Mqtt (ControlPacket Session)

variable {options : Mqtt.Options} {packet : Packet} {o : Observation}

/-- MQTT begins with the session that the payload fills, if the payload names the protocol and does
not end the observation. -/
theorem start_mqtt_cases (h : ((mqtt options).start packet).observation? = some o) :
    packet.payload.isEmpty = false ∧ (Session.update options {} packet.payload).2 ≠ .drop ∧
      o = .mqtt (Session.update options {} packet.payload).1 := by
  simp only [mqtt] at h
  split at h
  · split at h
    · cases h
    · next hempty =>
      refine ⟨Bool.eq_false_iff.2 hempty, ?_⟩
      split at h
      · generalize Session.update options {} packet.payload = u at h ⊢
        obtain ⟨session, verdict⟩ := u
        cases verdict with
        | drop => cases h
        | more | final | flush =>
          cases h
          exact ⟨Verdict.noConfusion, rfl⟩
      · cases h
  · cases h

/-- **A session that MQTT begins starts with a CONNECT, and is connected by it, exactly if the
first octet says so.** The session is connected exactly if the segment holds a CONNECT before its
first DISCONNECT. -/
theorem start_mqtt_observation (h : ((mqtt options).start packet).observation? = some o) :
    ∃ session p rest, o = .mqtt session ∧
      ControlPacket.step packet.payload = .token p rest ∧
      (p.header.type = .connect ∧ session.IsConnected ↔
        ∃ b, packet.payload.byte? 0 = some b ∧ b >>> 4 = 1) ∧
      (session.IsConnected ↔
        ∃ q ∈ Session.taken (ControlPacket.tokenizer.tokens packet.payload).1,
          q.header.type = .connect) := by
  obtain ⟨hpayload, hu, ho⟩ := start_mqtt_cases h
  obtain ⟨p, rest, hstep⟩ := Session.exists_step_of_update hpayload hu
  have hconnected := Session.isConnected_observeAll_iff (Session.snd_observeAll_of_update hu)
  rw [← Session.fst_update, or_iff_right Session.not_isConnected_empty] at hconnected
  refine ⟨_, p, rest, ho, hstep, ?_, hconnected⟩
  rw [ControlPacket.byte?_zero_of_step hstep, hconnected]
  -- a CONNECT at the head of the segment is taken in
  have hhead (hp : p.header.type = .connect) :
      ∃ q ∈ Session.taken (ControlPacket.tokenizer.tokens packet.payload).1,
        q.header.type = .connect := by
    have htokens : (ControlPacket.tokenizer.tokens packet.payload).1 =
        p :: (ControlPacket.tokenizer.tokens rest).1 :=
      congrArg Prod.fst (Tokenizer.tokens_of_token hstep)
    refine ⟨p, ?_, hp⟩
    rw [htokens, Session.taken_cons_of_ne_disconnect (by rw [hp]; decide)]
    exact List.mem_cons_self
  have hoctet : p.header.type = .connect ↔ p.header.octet >>> 4 = 1 :=
    Mqtt.FixedHeader.type_eq_connect_iff_typeCode
  constructor
  · rintro ⟨hp, -⟩
    exact ⟨_, rfl, hoctet.1 hp⟩
  · rintro ⟨b, hfirst, hb⟩
    cases hfirst
    have hp := hoctet.2 hb
    exact ⟨hp, hhead hp⟩

/-- A TCP segment that holds a CONNECT of version 3.1.1. -/
def connectSegment : Packet where
  ipProtocol := IpProtocol.tcp
  payload := .ofBytes [0x10, 0x0C, 0x00, 0x04, 0x4D, 0x51, 0x54, 0x54, 0x04, 0x02, 0x00, 0x3C, 0x00,
    0x00]

/-- A TCP segment that holds a PUBACK with the protocol name for a body. -/
def namedPubAckSegment : Packet where
  ipProtocol := IpProtocol.tcp
  payload := .ofBytes [0x40, 0x06, 0x00, 0x04, 0x4D, 0x51, 0x54, 0x54]

/-- A CONNECT begins a session. -/
theorem start_mqtt_connectSegment :
    ∃ session, ((mqtt {}).start connectSegment).observation? = some (.mqtt session) ∧
      session.IsConnected := by
  have h : ((mqtt {}).start connectSegment).observation? = some (.mqtt
      { typesSeen := some 2, version := some 4, connectFlags := some 2, keepAlive := some 60 }) := by
    decide +kernel
  obtain ⟨session, p, rest, ho, -, hiff, -⟩ := start_mqtt_observation h
  cases ho
  have hconnected := (hiff.2 ⟨0x10, rfl, rfl⟩).2
  exact ⟨_, h, hconnected⟩

/-- A session can begin with a packet that is no CONNECT. -/
theorem start_mqtt_namedPubAckSegment :
    ¬ ∀ (options : Mqtt.Options) (packet : Packet) (o : Observation), packet.isTcp = true →
      ((mqtt options).start packet).observation? = some o →
      ∃ session p rest, o = .mqtt session ∧
        ControlPacket.step packet.payload = .token p rest ∧
        p.header.type = .connect ∧ session.IsConnected := by
  intro h
  have hstart : ((mqtt {}).start namedPubAckSegment).observation? =
      some (.mqtt { typesSeen := some 16 }) := by
    decide +kernel
  obtain ⟨session, p, rest, -, hstep, hp, -⟩ := h {} namedPubAckSegment _ rfl hstart
  have hfirst : some (0x40 : UInt8) = some p.header.octet :=
    ControlPacket.byte?_zero_of_step hstep
  have hcode := Mqtt.FixedHeader.type_eq_connect_iff_typeCode.1 hp
  rw [Mqtt.FixedHeader.typeCode, ← Option.some.inj hfirst] at hcode
  exact absurd hcode (by decide)

end Plugin

end Flowmeter
