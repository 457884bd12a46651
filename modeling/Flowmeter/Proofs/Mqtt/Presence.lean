import Flowmeter.Proofs.Mqtt.Steps

/-!
# Which fields of a session are present

The types that a session has seen say which of its fields are present: a CONNECT brings version,
connection flags and keep alive time, a CONNACK the return code, a PUBLISH its flags and a topic
(`Session.Accounts`). A packet is marked before it is read, so a session that a broken packet has
ended can bear a mark without the fields; but such a session is dropped. Every session that is
attached to a flow accounts for all of its marks (`attached_mqtt_accounts`).
-/

namespace Flowmeter

namespace Mqtt

/-- Flags are the four low bits of the first octet. -/
theorem FixedHeader.flags_lt (h : FixedHeader) : h.flags < 16 := by
  rw [UInt8.lt_iff_toNat_lt]
  exact Nat.lt_succ_of_le (Nat.and_le_right (n := h.octet.toNat) (m := 15))

/-- Put together, they stay so. -/
theorem or_lt_sixteen {a b : UInt8} (ha : a < 16) (hb : b < 16) : a ||| b < 16 := by
  rw [UInt8.lt_iff_toNat_lt] at *
  exact Nat.or_lt_two_pow (n := 4) ha hb

namespace Session

variable {limit : Nat} {s s' : Session} {p : ControlPacket}

/-! ## One packet -/

/-- A session has seen a type if it had, or if the packet is of the type. -/
theorem hasSeen_observe_of_code {type : PacketType} {n : Nat} (hcode : type.code = n) (hn : n ≠ 0) :
    (observe limit s p).1.hasSeen n = (s.hasSeen n || decide (p.header.type = type)) := by
  rw [hasSeen_observe hn, ← hcode]
  simp only [FixedHeader.typeCode_eq_iff]

namespace Takes

variable (h : Takes limit s p s')

include h

/-- Only a CONNACK brings a return code, and none takes it away. -/
theorem returnCode_isSome :
    s'.returnCode.isSome = (s.returnCode.isSome || decide (p.header.type = .connAck)) := by
  cases h with
  | connAck htype => simp [htype]
  | connect htype | publish htype => simp [htype, mark, addTopic]
  | other _ hconnAck => simp [hconnAck, mark]

/-- Only a PUBLISH brings flags. -/
theorem publishFlags_isSome :
    s'.publishFlags.isSome = (s.publishFlags.isSome || decide (p.header.type = .publish)) := by
  cases h with
  | publish htype => simp [htype, addTopic]
  | connect htype | connAck htype => simp [htype, mark]
  | other _ _ hpublish => simp [hpublish, mark]

/-- Every PUBLISH counts its topic, recorded or not. -/
theorem topicCount_pos_iff :
    0 < s'.topicCount ↔ 0 < s.topicCount ∨ p.header.type = .publish := by
  cases h with
  | publish htype => simp [htype, addTopic]
  | connect htype | connAck htype => simp [htype, mark]
  | other _ _ hpublish => simp [hpublish, mark]

/-- A topic on record is that of a PUBLISH. The converse fails where no topic is to be recorded. -/
theorem topics_isSome (ht : s'.topics.isSome = true) :
    s.topics.isSome = true ∨ p.header.type = .publish := by
  cases h with
  | publish htype => exact .inr htype
  | connect | connAck | other => exact .inl ht

theorem publishFlags_lt (hs : ∀ flags, s.publishFlags = some flags → flags < 16) (flags : UInt8)
    (hflags : s'.publishFlags = some flags) : flags < 16 := by
  cases h with
  | publish =>
    cases hflags
    refine or_lt_sixteen ?_ p.header.flags_lt
    cases hbefore : s.publishFlags with
    | none => decide
    | some before => exact hs before hbefore
  | connect | connAck | other => exact hs flags hflags

end Takes

/-! ## Sessions -/

/-- Fields are present exactly if the packet that carries them has been seen. -/
structure Accounts (s : Session) : Prop where
  connect : s.IsConnected ∨
    s.hasSeen 1 = false ∧ s.version = none ∧ s.connectFlags = none ∧ s.keepAlive = none
  returnCode : s.returnCode.isSome = s.hasSeen 2
  publishFlags : s.publishFlags.isSome = s.hasSeen 3
  publishFlags_lt : ∀ flags, s.publishFlags = some flags → flags < 16
  topicCount : 0 < s.topicCount ↔ s.hasSeen 3 = true
  topics : s.topics.isSome = true → s.hasSeen 3 = true

theorem accounts_empty : ({} : Session).Accounts where
  connect := .inr ⟨rfl, rfl, rfl, rfl⟩
  returnCode := rfl
  publishFlags := rfl
  publishFlags_lt := nofun
  topicCount := by decide
  topics := nofun

/-- A packet that does not end the session leaves every mark accounted for. -/
theorem Accounts.observe (h : s.Accounts) (hv : (observe limit s p).2 ≠ some .drop) :
    (observe limit s p).1.Accounts := by
  have htakes := takes_observe hv
  have hconnect : (Session.observe limit s p).1.hasSeen 1 =
      (s.hasSeen 1 || decide (p.header.type = .connect)) :=
    hasSeen_observe_of_code rfl (by decide)
  have hconnAck : (Session.observe limit s p).1.hasSeen 2 =
      (s.hasSeen 2 || decide (p.header.type = .connAck)) :=
    hasSeen_observe_of_code rfl (by decide)
  have hpublish : (Session.observe limit s p).1.hasSeen 3 =
      (s.hasSeen 3 || decide (p.header.type = .publish)) :=
    hasSeen_observe_of_code rfl (by decide)
  have hpublish_iff : (Session.observe limit s p).1.hasSeen 3 = true ↔
      s.hasSeen 3 = true ∨ p.header.type = .publish := by
    rw [hpublish, Bool.or_eq_true, decide_eq_true_iff]
  refine ⟨?_, ?_, ?_, htakes.publishFlags_lt h.publishFlags_lt, ?_, fun ht => ?_⟩
  · by_cases hp : p.header.type = .connect
    · exact .inl (isConnected_observe_of_connect hp hv)
    · -- any other packet leaves the connection as it is
      obtain ⟨hversion, hflags, hkeep⟩ := connection_observe_of_ne_connect limit s hp
      rw [decide_eq_false hp, Bool.or_false] at hconnect
      rw [hconnect, hversion, hflags, hkeep]
      exact h.connect.imp_left fun hs => (isConnected_observe_iff hv).2 (.inl hs)
  · rw [htakes.returnCode_isSome, h.returnCode, hconnAck]
  · rw [htakes.publishFlags_isSome, h.publishFlags, hpublish]
  · rw [htakes.topicCount_pos_iff, h.topicCount, hpublish_iff]
  · exact hpublish_iff.2 ((htakes.topics_isSome ht).imp_left h.topics)

end Session

end Mqtt

/-! ## Flow records -/

namespace FlowRecord

/-- **A session that is attached to a flow accounts for what it has seen.** Version, connection
flags and keep alive time are present together, exactly if a CONNECT is marked, and the version is
then one that is supported. A return code is present exactly if a CONNACK is marked, flags of
PUBLISH and a topic count exactly if a PUBLISH is; the topics are present only then. -/
theorem attached_mqtt_accounts (settings : PluginSettings) (packets : List Packet) (o : Observation)
    (h : (empty.run (Call.each settings.build packets)).observation? .mqtt = some o) :
    ∃ s, o = .mqtt s ∧
      (s.hasSeen 1 = true → (s.version = some 4 ∨ s.version = some 5) ∧
        s.connectFlags.isSome = true ∧ s.keepAlive.isSome = true) ∧
      (s.hasSeen 1 = false → s.version = none ∧ s.connectFlags = none ∧ s.keepAlive = none) ∧
      (s.returnCode.isSome = true ↔ s.hasSeen 2 = true) ∧
      (s.publishFlags.isSome = true ↔ s.hasSeen 3 = true) ∧
      (∀ flags, s.publishFlags = some flags → flags < 16) ∧
      (0 < s.topicCount ↔ s.hasSeen 3 = true) ∧
      (s.topics.isSome = true → s.hasSeen 3 = true) := by
  obtain ⟨s, rfl, hs⟩ := attached_mqtt_induct Mqtt.Session.accounts_empty
    (fun _ _ hs hv => hs.observe hv) h
  refine ⟨s, rfl, fun hseen => ?_, fun hseen => ?_, by rw [hs.returnCode], by rw [hs.publishFlags],
    hs.publishFlags_lt, hs.topicCount, hs.topics⟩
  · rcases hs.connect with hconnected | ⟨hunseen, -⟩
    · exact ⟨hconnected.version, hconnected.flags, hconnected.keepAlive⟩
    · rw [hunseen] at hseen
      cases hseen
  · rcases hs.connect with hconnected | ⟨-, hnone⟩
    · rw [hconnected.seen] at hseen
      cases hseen
    · exact hnone

/-- A flow on which a CONNECT and a CONNACK have been seen, and no PUBLISH. -/
theorem attached_mqtt_accounts_acknowledged :
    let settings : PluginSettings := {}
    let packets := [Plugin.connectSegment, Plugin.segmentOf [Plugin.wireConnAck]]
    (empty.run (Call.each settings.build packets)).observation? .mqtt = some (.mqtt
      { typesSeen := some 7, version := some 4, connectFlags := some 2, keepAlive := some 60
        returnCode := some 0 }) ∧
    ∃ s, (empty.run (Call.each settings.build packets)).observation? .mqtt = some (.mqtt s) ∧
      s.version = some 4 ∧ s.hasSeen 2 = true ∧ ¬ s.hasSeen 3 = true := by
  intro settings packets
  have h : (empty.run (Call.each settings.build packets)).observation? .mqtt = some (.mqtt
      { typesSeen := some 7, version := some 4, connectFlags := some 2, keepAlive := some 60
        returnCode := some 0 }) := by
    decide +kernel
  obtain ⟨s, ho, -, -, hreturnCode, -, -, htopicCount, -⟩ :=
    attached_mqtt_accounts settings packets _ h
  cases ho
  exact ⟨h, _, h, rfl, hreturnCode.1 rfl, htopicCount.not.1 (Nat.lt_irrefl 0)⟩

end FlowRecord

end Flowmeter
