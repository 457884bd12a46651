import Flowmeter.Proofs.Mqtt.Steps
import Flowmeter.Proofs.Text.Terminated

/-!
# The topics that a session records

A session records the topics of its PUBLISH packets in their order up to its limit, a separator
after each, and counts all of them (`Session.Lists`). No topic that it takes in contains the
separator, since one that does ends the session; so the topics can be read back off the text
(`mqtt_run_topics`).
-/

namespace Flowmeter

namespace Mqtt

/-- The topic that a PUBLISH carries. -/
def ControlPacket.topic? (p : ControlPacket) : Option String :=
  if p.header.type = .publish then (text p.body).toOption.map Prod.fst else none

namespace ControlPacket

variable {p : ControlPacket}

/-- A PUBLISH that can be read carries the topic that is read. -/
theorem topic?_of_publish {topic : String} {rest : View} (htype : p.header.type = .publish)
    (hread : text p.body = .ok (topic, rest)) : p.topic? = some topic := by
  rw [topic?, if_pos htype, hread]
  rfl

theorem topic?_of_ne_publish (htype : p.header.type ≠ .publish) : p.topic? = none :=
  if_neg htype

end ControlPacket

namespace Session

variable {limit : Nat} {s : Session} {p : ControlPacket} {topics : List String}

/-- The session has counted the topics, and recorded as many of them as the limit allows. -/
structure Lists (limit : Nat) (topics : List String) (s : Session) : Prop where
  counted : s.topicCount = topics.length
  recorded : s.topics =
    if min limit topics.length = 0 then none
    else some (Text.terminate topicSeparator (topics.take limit))
  separator_notMem : ∀ topic ∈ topics, topicSeparator ∉ topic.toList

theorem lists_empty (limit : Nat) : Lists limit [] {} where
  counted := rfl
  recorded := (if_pos (Nat.min_zero limit)).symm
  separator_notMem := nofun

/-- Only count and text matter. -/
theorem Lists.congr {s' : Session} (h : s.Lists limit topics) (hcount : s'.topicCount = s.topicCount)
    (htopics : s'.topics = s.topics) : s'.Lists limit topics where
  counted := hcount.trans h.counted
  recorded := htopics.trans h.recorded
  separator_notMem := h.separator_notMem

/-- One more topic is counted, and recorded if the limit is not reached. -/
theorem Lists.addTopic (h : s.Lists limit topics) {topic : String}
    (htopic : topicSeparator ∉ topic.toList) :
    (s.addTopic limit topic).Lists limit (topics ++ [topic]) where
  counted := by
    rw [List.length_append, ← h.counted]
    rfl
  recorded := by
    simp only [Session.addTopic, h.counted, List.length_append, List.length_singleton]
    split
    · next hroom =>
      have hbefore : s.topics.getD "" = Text.terminate topicSeparator topics := by
        rw [h.recorded, List.take_of_length_le (Nat.le_of_lt hroom)]
        cases topics with
        | nil => simp
        | cons head rest => rw [if_neg (by simp; omega), Option.getD_some]
      have hfits : (topics ++ [topic]).length ≤ limit := by
        rw [List.length_append, List.length_singleton]
        exact hroom
      rw [if_neg (by omega), List.take_of_length_le hfits, hbefore, Text.terminate_append]
    · next hfull =>
      have hle : limit ≤ topics.length := Nat.le_of_not_lt hfull
      rw [h.recorded, List.take_append_of_le_length hle, Nat.min_eq_left hle,
        Nat.min_eq_left (Nat.le_trans hle (Nat.le_succ _))]
  separator_notMem := List.forall_mem_append.2
    ⟨h.separator_notMem, List.forall_mem_singleton.2 htopic⟩

/-- A packet adds the topic that it carries; a PUBLISH that is taken in carries one. -/
theorem Lists.observe (h : s.Lists limit topics) (hv : (observe limit s p).2 ≠ some .drop) :
    (observe limit s p).1.Lists limit (topics ++ p.topic?.toList) ∧
      (p.header.type = .publish → ∃ topic, p.topic? = some topic) := by
  have htakes := takes_observe hv
  generalize (Session.observe limit s p).1 = s' at htakes ⊢
  cases htakes with
  | publish htype hread htopic =>
    rw [ControlPacket.topic?_of_publish htype hread, Option.toList_some]
    refine ⟨Lists.addTopic ?_ htopic, fun _ => ⟨_, rfl⟩⟩
    exact h.congr rfl rfl
  | connect htype | connAck htype =>
    rw [ControlPacket.topic?_of_ne_publish (htype ▸ nofun), Option.toList_none, List.append_nil]
    exact ⟨h.congr rfl rfl, fun hpublish => nomatch htype ▸ hpublish⟩
  | other _ _ hpublish =>
    rw [ControlPacket.topic?_of_ne_publish hpublish, Option.toList_none, List.append_nil]
    exact ⟨h.congr rfl rfl, fun htype => absurd htype hpublish⟩

end Session

end Mqtt

/-! ## The plugin of MQTT -/

namespace Plugin

open Mqtt (ControlPacket Session)

variable {options : Mqtt.Options} {packets : List Packet} {o : Observation}

/-- Over a run, the topics of all processed packets are counted. -/
theorem run?_mqtt_lists (h : (mqtt options).run? packets = some o) :
    ∃ s, o = .mqtt s ∧
      s.Lists options.topicLimit
        ((ControlPacket.processedIn packets).filterMap ControlPacket.topic?) ∧
      ∀ p ∈ ControlPacket.processedIn packets, p.header.type = .publish →
        ∃ topic, p.topic? = some topic := by
  refine run?_mqtt_induct (P := fun past s =>
    s.Lists options.topicLimit (past.filterMap ControlPacket.topic?) ∧
      ∀ p ∈ past, p.header.type = .publish → ∃ topic, p.topic? = some topic) ?_ ?_ h
  · exact ⟨Session.lists_empty _, nofun⟩
  · rintro past s p ⟨hlists, hpast⟩ hv
    obtain ⟨hlists', hp⟩ := hlists.observe hv
    refine ⟨?_, List.forall_mem_append.2 ⟨hpast, List.forall_mem_singleton.2 hp⟩⟩
    have htopic : [p].filterMap ControlPacket.topic? = p.topic?.toList := by
      rw [List.filterMap_cons]
      cases p.topic? <;> rfl
    rwa [List.filterMap_append, htopic]

/-- **The recorded topics are those of the first PUBLISH packets.** Over every run that MQTT keeps
its session in, every PUBLISH that was processed carries a topic. All topics are counted; those up
to the limit are recorded, a separator after each, and splitting the text at the separator gives
them back. -/
theorem mqtt_run_topics (options : Mqtt.Options) (packets : List Packet) (o : Observation)
    (h : (mqtt options).run? packets = some o) :
    let processed := ControlPacket.processedIn packets
    let topics := processed.filterMap ControlPacket.topic?
    ∃ s, o = .mqtt s ∧
      (∀ p ∈ processed, p.header.type = .publish → ∃ topic, p.topic? = some topic) ∧
      s.topicCount = topics.length ∧
      (min options.topicLimit topics.length = 0 → s.topics = none) ∧
      (min options.topicLimit topics.length ≠ 0 → ∃ text, s.topics = some text ∧
        text = Text.terminate '#' (topics.take options.topicLimit) ∧
        (text.split '#').toList.map (·.copy) = topics.take options.topicLimit ++ [""]) := by
  intro processed topics
  obtain ⟨s, rfl, hlists, hpublish⟩ := run?_mqtt_lists h
  have htopics := hlists.recorded
  refine ⟨s, rfl, hpublish, hlists.counted, fun hnone => ?_, fun hsome => ?_⟩
  · rw [htopics, if_pos hnone]
  · rw [if_neg hsome] at htopics
    refine ⟨_, htopics, rfl, Text.split_terminate fun topic htopic => ?_⟩
    exact hlists.separator_notMem topic (List.mem_of_mem_take htopic)

/-- A TCP segment that holds a PUBLISH of the topic `a/b` and one of the empty topic. -/
def publishSegment : Packet where
  ipProtocol := IpProtocol.tcp
  payload := .ofBytes [0x30, 0x05, 0x00, 0x03, 0x61, 0x2F, 0x62, 0x31, 0x02, 0x00, 0x00]

/-- Of four topics, two of them empty, the first three are recorded. -/
theorem mqtt_run_topics_limited :
    let packets := [connectSegment, publishSegment, publishSegment]
    (mqtt ⟨3⟩).run? packets = some (.mqtt
      { typesSeen := some 10, version := some 4, connectFlags := some 2, keepAlive := some 60
        publishFlags := some 1, topics := some "a/b##a/b#", topicCount := 4 }) ∧
    ("a/b##a/b#".split '#').toList.map (·.copy) = ["a/b", "", "a/b", ""] := by
  intro packets
  have h : (mqtt ⟨3⟩).run? packets = some (.mqtt
      { typesSeen := some 10, version := some 4, connectFlags := some 2, keepAlive := some 60
        publishFlags := some 1, topics := some "a/b##a/b#", topicCount := 4 }) := by
    decide +kernel
  have htopics : (ControlPacket.processedIn packets).filterMap ControlPacket.topic? =
      ["a/b", "", "a/b", ""] := by
    decide +kernel
  obtain ⟨s, ho, -, -, -, hrecorded⟩ := mqtt_run_topics ⟨3⟩ packets _ h
  rw [htopics] at hrecorded
  cases ho
  obtain ⟨text, htext, -, hsplit⟩ := hrecorded (by decide)
  cases htext
  exact ⟨h, hsplit⟩

end Plugin

end Flowmeter
