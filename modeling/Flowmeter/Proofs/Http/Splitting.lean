import Flowmeter.Proofs.Flow.Builtin
import Flowmeter.Proofs.Http.Transaction

/-!
# When HTTP splits a flow

The plugin of HTTP asks for a flow to be split when a message collides with what its transaction
holds. It is asked only while its slot is active, and the slot is active from the request on until
the response has been seen (`Slot.FollowsTransaction`). So a second request splits the flow exactly
as long as no response has been seen (`process_collision`); after that the slot is finished, and
every further request and every second response passes the flow by without a trace.
-/

namespace Flowmeter

open Http (Message Transaction)

/-! ## The plugin of HTTP -/

namespace Plugin

/-- HTTP begins with a request, or not at all. -/
theorem http_start_cases (packet : Packet) :
    http.start packet = .irrelevant ∨ http.start packet = .undecided ∨
      ∃ m, m.isRequest = true ∧ http.start packet = .begun (.http (Transaction.observe {} m)) := by
  simp only [http]
  split
  · split
    · next m _ =>
      split
      · next hm => exact .inr (.inr ⟨m, hm, rfl⟩)
      · exact .inr (.inl rfl)
    · exact .inr (.inl rfl)
  · exact .inl rfl

/-- An update of HTTP takes in the message of the packet, if there is one, and is final as soon as
both sides have been seen. -/
theorem http_update_cases (packet : Packet) (t : Transaction) :
    ∃ t', (t' = t ∨ ∃ m, Message.parse? packet.payload = some m ∧ t' = t.observe m) ∧
      http.update packet (.http t) = (.http t', if t'.isComplete then .final else .more) := by
  cases hm : Message.parse? packet.payload with
  | none => exact ⟨t, .inl rfl, by simp only [http, hm]⟩
  | some m => exact ⟨t.observe m, .inr ⟨m, rfl, rfl⟩, by simp only [http, hm]⟩

theorem http_splits_iff {packet : Packet} {t : Transaction} :
    http.splits packet (.http t) = true ↔
      ∃ m, Message.parse? packet.payload = some m ∧ t.collides m = true :=
  Option.any_eq_true _ _

end Plugin

/-! ## The slot of HTTP -/

/-- The slots that HTTP can leave behind: nothing recorded, a request that waits for its response,
or a complete transaction. -/
inductive Slot.FollowsTransaction : Slot → Prop
  | pending : FollowsTransaction ⟨none, .pending⟩
  | waiting {t : Transaction} (hreq : t.requestSeen = true) (hres : t.responseSeen = false) :
      FollowsTransaction ⟨some (.http t), .active⟩
  | complete {t : Transaction} (hreq : t.requestSeen = true) (hres : t.responseSeen = true) :
      FollowsTransaction ⟨some (.http t), .finished⟩
  | ignored : FollowsTransaction ⟨none, .ignored⟩

theorem Slot.FollowsTransaction.advance {slot : Slot} {packet : Packet}
    (h : slot.FollowsTransaction) : (slot.advance Plugin.http packet).1.FollowsTransaction := by
  cases h with
  | pending =>
    rw [advance_pending rfl]
    rcases Plugin.http_start_cases packet with hs | hs | ⟨m, hm, hs⟩ <;> rw [hs]
    · exact .ignored
    · exact .pending
    · exact .waiting (Transaction.requestSeen_observe_of_isRequest hm)
        (Transaction.responseSeen_observe_of_isRequest hm)
  | @waiting t hreq hres =>
    obtain ⟨t', ht', hu⟩ := Plugin.http_update_cases packet t
    have hreq' : t'.requestSeen = true := by
      rcases ht' with rfl | ⟨m, -, rfl⟩
      · exact hreq
      · exact Transaction.requestSeen_observe hreq
    rw [advance_active rfl rfl, hu, Transaction.isComplete_of_requestSeen hreq']
    cases hres' : t'.responseSeen with
    | true => exact .complete hreq' hres'
    | false => exact .waiting hreq' hres'
  | complete hreq hres =>
    rw [advance_finished rfl]
    exact .complete hreq hres
  | ignored =>
    rw [advance_ignored rfl]
    exact .ignored

/-! ## Flow records -/

namespace FlowRecord

/-- Every history of a new flow leaves the slot of HTTP among these. -/
theorem followsTransaction_slot_run (settings : PluginSettings) (packets : List Packet) :
    ((empty.run (Call.each settings.build packets)).slot .http).FollowsTransaction := by
  refine slot_run_induct (fun call hcall plugin hp hq slot hs => ?_) ?_
  · obtain ⟨packet, -, rfl⟩ := List.mem_map.1 hcall
    have hplugin : plugin = Plugin.http := by
      rw [PluginSettings.eq_ofProtocol_of_mem_build hp, hq]
      rfl
    rw [hplugin]
    exact hs.advance
  · rw [slot_empty]
    exact .pending

/-- The plugins of a probe split a flow when its transaction, not yet complete, and a message
collide. -/
theorem isSplitBy_build_iff {settings : PluginSettings} {r : FlowRecord} {packet : Packet}
    (hhttp : Protocol.http ∈ settings.enabled) :
    r.isSplitBy settings.build packet = true ↔
      (r.slot .http).splits Plugin.http packet = true := by
  rw [isSplitBy_eq_true_iff]
  constructor
  · rintro ⟨plugin, hp, hsplits⟩
    have hplugin := PluginSettings.eq_ofProtocol_of_mem_build hp
    by_cases hq : plugin.protocol = .http
    · rw [hq] at hplugin hsplits
      rwa [hplugin] at hsplits
    · obtain ⟨-, o, -, ho⟩ := Slot.splits_eq_true_iff.1 hsplits
      rw [hplugin, Plugin.splits_ofProtocol_of_ne_http _ _ _ hq] at ho
      cases ho
  · intro hsplits
    exact ⟨Plugin.http, PluginSettings.mem_build_iff.2 ⟨.http, hhttp, rfl⟩, hsplits⟩

/-- **A colliding message splits the flow as long as no response has been seen.** Once the
response has been seen, the message leaves no trace in the slot of HTTP. -/
theorem process_collision (settings : PluginSettings) (packets : List Packet) (packet : Packet)
    (t : Transaction) (m : Message) (hhttp : Protocol.http ∈ settings.enabled)
    (ht : (empty.run (Call.each settings.build packets)).observation? .http = some (.http t))
    (hm : Message.parse? packet.payload = some m)
    (hc : m.isRequest = true ∧ t.requestSeen = true ∨
      m.isRequest = false ∧ t.responseSeen = true) :
    (((empty.run (Call.each settings.build packets)).process settings.build packet).1 = .split ↔
      t.responseSeen = false) ∧
    (t.responseSeen = true →
      ((empty.run (Call.each settings.build packets)).process settings.build packet).2.slot .http =
        (empty.run (Call.each settings.build packets)).slot .http) := by
  have hslot := followsTransaction_slot_run settings packets
  generalize empty.run (Call.each settings.build packets) = r at ht hslot ⊢
  rw [process_fst_eq_split_iff, isSplitBy_build_iff hhttp, Slot.splits_eq_true_iff]
  rw [observation?] at ht
  generalize hs : r.slot .http = slot at ht hslot ⊢
  cases hslot with
  | pending | ignored => cases ht
  | waiting hreq hres =>
    cases ht
    refine ⟨⟨fun _ => hres, fun _ => ⟨rfl, _, rfl, ?_⟩⟩, fun h => ?_⟩
    · exact Plugin.http_splits_iff.2 ⟨m, hm, Transaction.collides_eq_true_iff.2 hc⟩
    · rw [hres] at h
      cases h
  | complete hreq hres =>
    cases ht
    refine ⟨⟨fun h => ?_, fun h => ?_⟩, fun _ => ?_⟩
    · cases h.1
    · rw [hres] at h
      cases h
    · -- a complete transaction is never asked again, so nothing splits it
      have hsettled : (r.slot .http).IsSettled := .inl (by rw [hs])
      have hstay : (r.run [⟨settings.build, packet⟩]).slot .http = r.slot .http :=
        slot_run_of_settled hsettled
      exact hstay.trans hs

/-- A TCP segment that holds the line `GET / HTTP/1.1` and no header field. -/
def getSegment : Packet where
  ipProtocol := IpProtocol.tcp
  payload := .ofBytes [0x47, 0x45, 0x54, 0x20, 0x2F, 0x20, 0x48, 0x54, 0x54, 0x50, 0x2F, 0x31, 0x2E,
    0x31, 0x0D, 0x0A, 0x0D, 0x0A]

/-- A TCP segment that holds the line `HTTP/1.1 200 OK` and no header field. -/
def okSegment : Packet where
  ipProtocol := IpProtocol.tcp
  payload := .ofBytes [0x48, 0x54, 0x54, 0x50, 0x2F, 0x31, 0x2E, 0x31, 0x20, 0x32, 0x30, 0x30, 0x20,
    0x4F, 0x4B, 0x0D, 0x0A, 0x0D, 0x0A]
  direction := .serverToClient

/-- A second request before the response, with all plugins enabled. -/
theorem process_collision_before_response :
    let settings : PluginSettings := {}
    ∃ t m, Protocol.http ∈ settings.enabled ∧
      (empty.run (Call.each settings.build [getSegment])).observation? .http = some (.http t) ∧
      Message.parse? getSegment.payload = some m ∧ m.isRequest = true ∧ t.requestSeen = true ∧
      t.responseSeen = false ∧
      ((empty.run (Call.each settings.build [getSegment])).process settings.build getSegment).1 =
        .split := by
  intro settings
  have hhttp : Protocol.http ∈ settings.enabled := by decide
  have ht : (empty.run (Call.each settings.build [getSegment])).observation? .http =
      some (.http { method := some "GET", target := some "/", requestSeen := true }) := by
    decide +kernel
  have hm : Message.parse? getSegment.payload =
      some ⟨.request ⟨⟨0, [0x47, 0x45, 0x54]⟩, ⟨4, [0x2F]⟩⟩, ⟨16, [0x0D, 0x0A]⟩⟩ := by decide
  have hiff := (process_collision settings [getSegment] getSegment _ _ hhttp ht hm
    (.inl ⟨rfl, rfl⟩)).1
  exact ⟨_, _, hhttp, ht, hm, rfl, rfl, rfl, hiff.2 rfl⟩

/-- After the response, a second request does not split the flow. -/
theorem process_request_after_response_not_split :
    ¬ ∀ (settings : PluginSettings) (packets : List Packet) (packet : Packet) (t : Transaction)
        (m : Message), Protocol.http ∈ settings.enabled →
      (empty.run (Call.each settings.build packets)).observation? .http = some (.http t) →
      Message.parse? packet.payload = some m →
      (m.isRequest = true ∧ t.requestSeen = true ∨
        m.isRequest = false ∧ t.responseSeen = true) →
      ((empty.run (Call.each settings.build packets)).process settings.build packet).1 =
        .split := by
  intro h
  let settings : PluginSettings := { enabled := [.http] }
  have ht : (empty.run (Call.each settings.build [getSegment, okSegment])).observation? .http =
      some (.http
        { method := some "GET", target := some "/", status := some 200
          requestSeen := true, responseSeen := true }) := by
    decide +kernel
  have hm : Message.parse? getSegment.payload =
      some ⟨.request ⟨⟨0, [0x47, 0x45, 0x54]⟩, ⟨4, [0x2F]⟩⟩, ⟨16, [0x0D, 0x0A]⟩⟩ := by decide
  have hsplit := h settings [getSegment, okSegment] getSegment _ _ (by decide) ht hm
    (.inl ⟨rfl, rfl⟩)
  have hproceed : ((empty.run (Call.each settings.build [getSegment, okSegment])).process
      settings.build getSegment).1 = .proceed := by
    decide +kernel
  rw [hproceed] at hsplit
  cases hsplit

end FlowRecord

end Flowmeter
