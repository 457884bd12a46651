import Flowmeter.Flow.Builtin
import Flowmeter.Proofs.Flow.Observing
import Flowmeter.Proofs.Mqtt.Recognition
import Flowmeter.Proofs.Mqtt.Regrouping

/-!
# The packet types that a session reports

A session looks at the control packets of a segment up to the first DISCONNECT
(`ControlPacket.processed`). As long as none of them ends the observation, the bits that stand in
its types are those that these packets set (`mqtt_run_typesSeen`). Bit 0 is that of the session
present flag, but a packet of the reserved type 0 sets the bit of its type too, and so reports a
session that no CONNACK did (`run?_mqtt_reservedSegment`).
-/

namespace Flowmeter

namespace Mqtt

namespace ControlPacket

/-- The packets that a session looks at: those up to the first DISCONNECT. -/
def processed : List ControlPacket → List ControlPacket
  | [] => []
  | p :: rest => if p.header.type = .disconnect then [p] else p :: processed rest

variable {p : ControlPacket} {rest : List ControlPacket}

theorem processed_cons_of_disconnect (hp : p.header.type = .disconnect) :
    processed (p :: rest) = [p] :=
  if_pos hp

theorem processed_cons_of_ne_disconnect (hp : p.header.type ≠ .disconnect) :
    processed (p :: rest) = p :: processed rest :=
  if_neg hp

/-- The first packet of a segment is always looked at. -/
theorem mem_processed_cons (p : ControlPacket) (rest : List ControlPacket) :
    p ∈ processed (p :: rest) := by
  rw [processed]
  split <;> exact List.mem_cons_self

/-- The control packets that a session looks at in the segments of a run. -/
def processedIn (packets : List Packet) : List ControlPacket :=
  packets.flatMap fun packet => processed (tokenizer.tokens packet.payload).1

theorem processedIn_append (packets : List Packet) (packet : Packet) :
    processedIn (packets ++ [packet]) =
      processedIn packets ++ processed (tokenizer.tokens packet.payload).1 := by
  simp only [processedIn, List.flatMap_append, List.flatMap_singleton]

end ControlPacket

namespace Session

variable {options : Options} {limit n : Nat} {s : Session}

/-- A bit can only be set in types that are present. -/
theorem exists_typesSeen_of_hasSeen (h : s.hasSeen n = true) :
    ∃ types, s.typesSeen = some types := by
  cases htypes : s.typesSeen with
  | some types => exact ⟨types, rfl⟩
  | none =>
    rw [hasSeen, htypes, Option.getD_none, UInt16.toNat_zero, Nat.zero_testBit] at h
    cases h

/-- The bits after a list of packets are those before it and those that the processed packets
set. -/
theorem hasSeen_observeAll_iff {packets : List ControlPacket}
    (h : (observeAll limit s packets).2 ≠ some .drop) :
    (observeAll limit s packets).1.hasSeen n = true ↔
      s.hasSeen n = true ∨ ∃ q ∈ ControlPacket.processed packets, q.Sets n := by
  induction packets generalizing s with
  | nil => simp [observeAll, ControlPacket.processed]
  | cons p rest ih =>
    rcases snd_observe_cases limit s p with ⟨hp, hv⟩ | ⟨hp, hv | hv⟩
    · rw [observeAll_cons_of_some hv, ControlPacket.processed_cons_of_disconnect hp,
        hasSeen_observe_iff]
      simp only [List.mem_singleton, exists_eq_left]
    · rw [observeAll_cons_of_none hv] at h ⊢
      rw [ih h, hasSeen_observe_iff, ControlPacket.processed_cons_of_ne_disconnect hp]
      simp only [List.mem_cons, exists_eq_or_imp, or_assoc]
    · rw [observeAll_cons_of_some hv] at h
      exact absurd rfl h

theorem hasSeen_update_iff {payload : View} (h : (update options s payload).2 ≠ .drop) :
    (update options s payload).1.hasSeen n = true ↔ s.hasSeen n = true ∨
      ∃ q ∈ ControlPacket.processed (ControlPacket.tokenizer.tokens payload).1, q.Sets n := by
  rw [fst_update]
  exact hasSeen_observeAll_iff (snd_observeAll_of_update h)

end Session

end Mqtt

/-! ## The plugin of MQTT -/

namespace Plugin

open Mqtt (ControlPacket Session)

variable {options : Mqtt.Options} {packets : List Packet} {packet : Packet} {o : Observation}
  {s : Session}

/-- A session that is kept has taken in the segment without being dropped. -/
theorem take?_mqtt_cases (h : (mqtt options).take? (.mqtt s) packet = some o) :
    (Session.update options s packet.payload).2 ≠ .drop ∧
      o = .mqtt (Session.update options s packet.payload).1 := by
  rw [take?, update_mqtt] at h
  generalize Session.update options s packet.payload = u at h ⊢
  obtain ⟨session, verdict⟩ := u
  cases verdict with
  | drop => cases h
  | more | final | flush =>
    cases h
    exact ⟨Verdict.noConfusion, rfl⟩

/-- What holds of a session over every run: it has processed a packet, and the bits are those that
the processed packets set. -/
structure Tallies (packets : List Packet) (s : Session) : Prop where
  processed : ∃ q, q ∈ ControlPacket.processedIn packets
  bits : ∀ n, s.hasSeen n = true ↔ ∃ q ∈ ControlPacket.processedIn packets, q.Sets n

/-- The first segment is not empty, so a packet has been processed. -/
theorem Tallies.start (hp : packet.payload.isEmpty = false)
    (h : (Session.update options {} packet.payload).2 ≠ .drop) :
    Tallies [packet] (Session.update options {} packet.payload).1 := by
  have hin : ControlPacket.processedIn [packet] =
      ControlPacket.processed (ControlPacket.tokenizer.tokens packet.payload).1 :=
    List.flatMap_singleton ..
  constructor
  · obtain ⟨p, rest, hstep⟩ := Session.exists_step_of_update hp h
    have htokens : (ControlPacket.tokenizer.tokens packet.payload).1 =
        p :: (ControlPacket.tokenizer.tokens rest).1 :=
      congrArg Prod.fst (Tokenizer.tokens_of_token hstep)
    rw [hin, htokens]
    exact ⟨p, ControlPacket.mem_processed_cons ..⟩
  · intro n
    have hempty : ({} : Session).hasSeen n ≠ true := by simp [Session.hasSeen]
    rw [Session.hasSeen_update_iff h, hin, or_iff_right hempty]

/-- A further segment adds the bits of its packets. -/
theorem Tallies.take (hs : Tallies packets s)
    (h : (Session.update options s packet.payload).2 ≠ .drop) :
    Tallies (packets ++ [packet]) (Session.update options s packet.payload).1 := by
  constructor
  · obtain ⟨q, hq⟩ := hs.processed
    rw [ControlPacket.processedIn_append]
    exact ⟨q, List.mem_append_left _ hq⟩
  · intro n
    rw [Session.hasSeen_update_iff h, hs.bits, ControlPacket.processedIn_append]
    simp only [List.mem_append, or_and_right, exists_or]

theorem run?_mqtt_tallies (h : (mqtt options).run? packets = some o) :
    ∃ s, o = .mqtt s ∧ Tallies packets s := by
  refine run?_induct (P := fun packets o => ∃ s, o = .mqtt s ∧ Tallies packets s) ?_ ?_ h
  · intro packet o hstart
    obtain ⟨hp, hv, rfl⟩ := start_mqtt_cases hstart
    exact ⟨_, rfl, .start hp hv⟩
  · rintro past _ packet o' ⟨s, rfl, hs⟩ htake
    obtain ⟨hv, rfl⟩ := take?_mqtt_cases htake
    exact ⟨_, rfl, hs.take hv⟩

/-- **The types of a session are those of the packets it has processed.** Over every run that MQTT
keeps its session in, bit `n` is set exactly if a packet of type `n` was processed, for every `n`
but 0; and bit 0 exactly if a CONNACK has reported a session, or a packet of the reserved type 0 was
processed. -/
theorem mqtt_run_typesSeen (options : Mqtt.Options) (packets : List Packet) (o : Observation)
    (h : (mqtt options).run? packets = some o) :
    ∃ s types, o = .mqtt s ∧ s.typesSeen = some types ∧
      (∀ n, n ≠ 0 → (types.toNat.testBit n = true ↔
        ∃ q ∈ ControlPacket.processedIn packets, q.header.typeCode.toNat = n)) ∧
      (types.toNat.testBit 0 = true ↔
        (∃ q ∈ ControlPacket.processedIn packets, q.ReportsSession) ∨
        ∃ q ∈ ControlPacket.processedIn packets, q.header.typeCode.toNat = 0) := by
  obtain ⟨s, rfl, hs⟩ := run?_mqtt_tallies h
  obtain ⟨p, hp⟩ := hs.processed
  have hseen := (hs.bits _).2 ⟨p, hp, .inl rfl⟩
  obtain ⟨types, htypes⟩ := Session.exists_typesSeen_of_hasSeen hseen
  have hbit (n : Nat) : types.toNat.testBit n = s.hasSeen n := by
    rw [Session.hasSeen, htypes, Option.getD_some]
  refine ⟨s, types, rfl, htypes, fun n hn => ?_, ?_⟩
  · rw [hbit, hs.bits]
    simp only [ControlPacket.sets_iff_of_ne_zero hn]
  · rw [hbit, hs.bits]
    simp only [ControlPacket.Sets, true_and, and_or_left, exists_or, or_comm]

/-- A session in three segments; its CONNACK reports a session that was present. -/
theorem mqtt_run_typesSeen_session :
    (mqtt {}).run? [connectSegment, segmentOf [wireConnAck], segmentOf [wireDisconnect]] =
        some (.mqtt
          { typesSeen := some 0x4007, version := some 4, connectFlags := some 2,
            keepAlive := some 60, returnCode := some 0 }) ∧
      let processed := ControlPacket.processedIn
        [connectSegment, segmentOf [wireConnAck], segmentOf [wireDisconnect]]
      (∃ q ∈ processed, q.header.typeCode.toNat = 14) ∧ (∃ q ∈ processed, q.ReportsSession) ∧
        ∀ q ∈ processed, q.header.typeCode.toNat ≠ 0 := by
  have h : (mqtt {}).run? [connectSegment, segmentOf [wireConnAck], segmentOf [wireDisconnect]] =
      some (.mqtt
        { typesSeen := some 0x4007, version := some 4, connectFlags := some 2,
          keepAlive := some 60, returnCode := some 0 }) := by
    decide +kernel
  obtain ⟨s, types, ho, htypes, hbits, hzero⟩ := mqtt_run_typesSeen {} _ _ h
  cases ho
  cases htypes
  have hcodes : ∀ q ∈ ControlPacket.processedIn
      [connectSegment, segmentOf [wireConnAck], segmentOf [wireDisconnect]],
      q.header.typeCode.toNat ≠ 0 := by
    decide +kernel
  refine ⟨h, (hbits 14 (by decide)).1 (by decide), (hzero.1 (by decide)).resolve_right ?_, hcodes⟩
  rintro ⟨q, hq, hcode⟩
  exact hcodes q hq hcode

/-- A TCP segment that holds a CONNECT and an empty packet of type 0. -/
def reservedSegment : Packet where
  ipProtocol := IpProtocol.tcp
  payload := .ofBytes [0x10, 0x0C, 0x00, 0x04, 0x4D, 0x51, 0x54, 0x54, 0x04, 0x02, 0x00, 0x3C, 0x00,
    0x00, 0x00, 0x00]

/-- A session can be reported by a packet of type 0. -/
theorem run?_mqtt_reservedSegment :
    ¬ ∀ (options : Mqtt.Options) (packets : List Packet) (o : Observation),
      (mqtt options).run? packets = some o →
      ∃ s types, o = .mqtt s ∧ s.typesSeen = some types ∧
        (∀ n, 1 ≤ n → n ≤ 15 → (types.toNat.testBit n = true ↔
          ∃ q ∈ ControlPacket.processedIn packets, q.header.typeCode.toNat = n)) ∧
        (types.toNat.testBit 0 = true ↔
          ∃ q ∈ ControlPacket.processedIn packets, q.ReportsSession) := by
  intro h
  have hrun : (mqtt {}).run? [reservedSegment] = some (.mqtt
      { typesSeen := some 3, version := some 4, connectFlags := some 2,
        keepAlive := some 60 }) := by
    decide +kernel
  obtain ⟨s, types, ho, htypes, -, hzero⟩ := h {} [reservedSegment] _ hrun
  cases ho
  cases htypes
  obtain ⟨q, hq, htype, -⟩ := hzero.1 (by decide)
  have hno : ∀ q ∈ ControlPacket.processedIn [reservedSegment], q.header.type ≠ .connAck := by
    decide +kernel
  exact hno q hq htype

end Plugin

end Flowmeter
