import Flowmeter.Proofs.Http.Splitting

/-!
# What HTTP records of a flow

`Transaction.observe` overwrites freely. But a flow is offered a message only if it does not collide
with the transaction, and a complete transaction is offered none. So what a flow has recorded stays
(`Slot.Continues`), and a transaction is recorded from its request on (`Transaction.IsRecorded`).
`run_recorded_once` says so of every history of a new flow.
-/

namespace Flowmeter

open Http (Message Transaction)

/-! ## Transactions -/

namespace Http.Transaction

/-- The request has been seen, and nothing is held of a response that has not. -/
structure IsRecorded (t : Transaction) : Prop where
  requestSeen : t.requestSeen = true
  method_isSome : t.method.isSome = true
  target_isSome : t.target.isSome = true
  responseSide_eq : t.responseSeen = false → t.responseSide = responseSide {}

/-- The request of `t` is that of `t'`, and so is the response if `t` has seen it. -/
structure Continues (t t' : Transaction) : Prop where
  requestSide_eq : t'.requestSide = t.requestSide
  responseSide_eq : t.responseSeen = true → t'.responseSide = t.responseSide

variable {t t' t'' : Transaction} {m : Message}

theorem Continues.refl (t : Transaction) : t.Continues t :=
  ⟨rfl, fun _ => rfl⟩

theorem Continues.responseSeen (h : t.Continues t') (hseen : t.responseSeen = true) :
    t'.responseSeen = true := by
  obtain ⟨-, -, -, -, hsame⟩ := responseSide_inj.1 (h.responseSide_eq hseen)
  exact hsame.trans hseen

theorem Continues.trans (h : t.Continues t') (h' : t'.Continues t'') : t.Continues t'' where
  requestSide_eq := h'.requestSide_eq.trans h.requestSide_eq
  responseSide_eq hseen :=
    (h'.responseSide_eq (h.responseSeen hseen)).trans (h.responseSide_eq hseen)

theorem isRecorded_observe_of_isRequest (h : m.isRequest = true) :
    (observe {} m).IsRecorded where
  requestSeen := requestSeen_observe_of_isRequest h
  method_isSome := (isSome_observe_of_isRequest h).1
  target_isSome := (isSome_observe_of_isRequest h).2
  responseSide_eq _ := responseSide_observe h

/-- A message that does not collide with a recorded transaction is the response to it. -/
theorem IsRecorded.isRequest_eq_false (h : t.IsRecorded) (hc : t.collides m = false) :
    m.isRequest = false ∧ t.responseSeen = false := by
  rw [← Bool.not_eq_true, collides_eq_true_iff, h.requestSeen] at hc
  cases hm : m.isRequest with
  | true => exact absurd (.inl ⟨hm, rfl⟩) hc
  | false =>
    refine ⟨rfl, ?_⟩
    rw [← Bool.not_eq_true]
    exact fun hseen => hc (.inr ⟨hm, hseen⟩)

theorem IsRecorded.continues_observe (h : t.IsRecorded) (hc : t.collides m = false) :
    t.Continues (t.observe m) where
  requestSide_eq := requestSide_observe (h.isRequest_eq_false hc).1
  responseSide_eq hseen := by
    rw [(h.isRequest_eq_false hc).2] at hseen
    cases hseen

theorem IsRecorded.observe (h : t.IsRecorded) (hc : t.collides m = false) :
    (t.observe m).IsRecorded := by
  have hm := (h.isRequest_eq_false hc).1
  obtain ⟨hmethod, -, htarget, -⟩ := requestSide_inj.1 (requestSide_observe (t := t) hm)
  refine ⟨requestSeen_observe h.requestSeen, ?_, ?_, fun hseen => ?_⟩
  · rw [hmethod]
    exact h.method_isSome
  · rw [htarget]
    exact h.target_isSome
  · rw [responseSeen_observe hm] at hseen
    cases hseen

end Http.Transaction

/-! ## The slot of HTTP -/

namespace Slot

variable {slot : Slot} {packet : Packet}

/-- The slot holds no observation, or a recorded transaction. -/
def Records (slot : Slot) : Prop :=
  ∀ o, slot.observation = some o → ∃ t, o = .http t ∧ t.IsRecorded

/-- What the first slot has recorded stands in the second. -/
def Continues (slot slot' : Slot) : Prop :=
  ∀ t, slot.observation = some (.http t) →
    ∃ t', slot'.observation = some (.http t') ∧ t.Continues t'

theorem Continues.refl (slot : Slot) : slot.Continues slot :=
  fun t ht => ⟨t, ht, .refl t⟩

theorem Continues.trans {slot' slot'' : Slot} (h : slot.Continues slot')
    (h' : slot'.Continues slot'') : slot.Continues slot'' := by
  intro t ht
  obtain ⟨t', ht', hcont⟩ := h t ht
  obtain ⟨t'', ht'', hcont'⟩ := h' t' ht'
  exact ⟨t'', ht'', hcont.trans hcont'⟩

/-- A packet that does not split the flow leaves a recorded transaction, which goes on. -/
theorem FollowsTransaction.records_advance (h : slot.FollowsTransaction) (hr : slot.Records)
    (hs : slot.splits Plugin.http packet = false) :
    (slot.advance Plugin.http packet).1.Records ∧
      slot.Continues (slot.advance Plugin.http packet).1 := by
  cases h with
  | pending =>
    refine ⟨?_, fun t ht => nomatch ht⟩
    rw [advance_pending rfl]
    rcases Plugin.http_start_cases packet with hstart | hstart | ⟨m, hm, hstart⟩ <;> rw [hstart]
    · exact hr
    · exact hr
    · intro o ho
      cases ho
      exact ⟨_, rfl, Transaction.isRecorded_observe_of_isRequest hm⟩
  | @waiting t hreq hres =>
    obtain ⟨t₀, ht₀, ht⟩ := hr (.http t) rfl
    cases ht₀
    obtain ⟨t', ht', hu⟩ := Plugin.http_update_cases packet t
    have hrecorded : t'.IsRecorded ∧ t.Continues t' := by
      rcases ht' with rfl | ⟨m, hm, rfl⟩
      · exact ⟨ht, .refl _⟩
      · -- the update sees the message that the plugin has let pass
        have hc : t.collides m = false := by
          rw [← Bool.not_eq_true] at hs ⊢
          intro hc
          exact hs (splits_eq_true_iff.2 ⟨rfl, _, rfl, Plugin.http_splits_iff.2 ⟨m, hm, hc⟩⟩)
        exact ⟨ht.observe hc, ht.continues_observe hc⟩
    have hslot : (Slot.advance ⟨some (.http t), .active⟩ Plugin.http packet).1.observation =
        some (.http t') := by
      rw [advance_active rfl rfl, hu]
      cases t'.isComplete <;> rfl
    constructor
    · intro o ho
      rw [hslot] at ho
      cases ho
      exact ⟨t', rfl, hrecorded.1⟩
    · intro t₁ ht₁
      cases ht₁
      exact ⟨t', hslot, hrecorded.2⟩
  | complete hreq hres =>
    rw [advance_finished rfl]
    exact ⟨hr, .refl _⟩
  | ignored =>
    rw [advance_ignored rfl]
    exact ⟨hr, .refl _⟩

theorem FollowsTransaction.phase_eq_finished_iff (h : slot.FollowsTransaction) :
    slot.phase = .finished ↔ ∃ t, slot.observation = some (.http t) ∧
      t.requestSeen = true ∧ t.responseSeen = true := by
  cases h with
  | pending | ignored => simp
  | waiting hreq hres => simp [hres]
  | complete hreq hres => simp [hreq, hres]

end Slot

/-! ## Flow records -/

namespace FlowRecord

/-- Under the plugins of a probe the slot of HTTP keeps what it has recorded. -/
theorem records_slot_run (settings : PluginSettings) {r : FlowRecord} (packets : List Packet)
    (h : (r.slot .http).FollowsTransaction) (hr : (r.slot .http).Records) :
    ((r.run (Call.each settings.build packets)).slot .http).Records ∧
      (r.slot .http).Continues ((r.run (Call.each settings.build packets)).slot .http) := by
  have hrun : ((r.run (Call.each settings.build packets)).slot .http).FollowsTransaction ∧
      ((r.run (Call.each settings.build packets)).slot .http).Records ∧
      (r.slot .http).Continues ((r.run (Call.each settings.build packets)).slot .http) := by
    refine slot_run_build_induct (P := fun slot => slot.FollowsTransaction ∧ slot.Records ∧
      (r.slot .http).Continues slot) ?_ ⟨h, hr, .refl _⟩
    rintro slot packet hsplits ⟨hslot, hrecords, hcont⟩
    obtain ⟨hrecords', hcont'⟩ := hslot.records_advance hrecords hsplits
    exact ⟨hslot.advance, hrecords', hcont.trans hcont'⟩
  exact hrun.2

/-- **HTTP records every value once.** After every history of a new flow, the slot of HTTP holds no
observation or a transaction whose request has been seen; whatever packets follow, it holds the
same request from then on, and the same response once that has been seen. It is finished exactly
if both have been seen. -/
theorem run_recorded_once (settings : PluginSettings) (past future : List Packet) :
    (∀ o, (empty.run (Call.each settings.build past)).observation? .http = some o →
      ∃ t, o = .http t ∧ t.requestSeen = true ∧ t.method.isSome = true ∧ t.target.isSome = true ∧
        (t.responseSeen = false →
          t.status = none ∧ t.contentType = none ∧ t.server = none ∧ t.cookieNames = none) ∧
        ∃ t', ((empty.run (Call.each settings.build past)).run
            (Call.each settings.build future)).observation? .http = some (.http t') ∧
          t'.method = t.method ∧ t'.target = t.target ∧ t'.host = t.host ∧
          t'.userAgent = t.userAgent ∧ t'.referer = t.referer ∧
          (t.responseSeen = true → t'.responseSeen = true ∧ t'.status = t.status ∧
            t'.contentType = t.contentType ∧ t'.server = t.server ∧
            t'.cookieNames = t.cookieNames)) ∧
    (((empty.run (Call.each settings.build past)).slot .http).phase = .finished ↔
      ∃ t, (empty.run (Call.each settings.build past)).observation? .http = some (.http t) ∧
        t.requestSeen = true ∧ t.responseSeen = true) := by
  have hslot := followsTransaction_slot_run settings past
  have hempty : (empty.slot .http).FollowsTransaction ∧ (empty.slot .http).Records := by
    rw [slot_empty]
    exact ⟨.pending, fun o ho => nomatch ho⟩
  have hrecords := (records_slot_run settings past hempty.1 hempty.2).1
  refine ⟨fun o ho => ?_, hslot.phase_eq_finished_iff⟩
  obtain ⟨t, rfl, ht⟩ := hrecords o ho
  obtain ⟨t', ht', hcont⟩ := (records_slot_run settings future hslot hrecords).2 t ho
  obtain ⟨hmethod, hhost, htarget, hagent, hreferer, -⟩ :=
    Transaction.requestSide_inj.1 hcont.requestSide_eq
  refine ⟨t, rfl, ht.requestSeen, ht.method_isSome, ht.target_isSome, fun hseen => ?_, t', ht',
    hmethod, htarget, hhost, hagent, hreferer, fun hseen => ?_⟩
  · obtain ⟨hstatus, htype, hserver, hcookies, -⟩ :=
      Transaction.responseSide_inj.1 (ht.responseSide_eq hseen)
    exact ⟨hstatus, htype, hserver, hcookies⟩
  · obtain ⟨hstatus, htype, hserver, hcookies, -⟩ :=
      Transaction.responseSide_inj.1 (hcont.responseSide_eq hseen)
    exact ⟨hcont.responseSeen hseen, hstatus, htype, hserver, hcookies⟩

/-- A TCP segment that holds the line `PUT /x HTTP/1.1` and no header field. -/
def putSegment : Packet where
  ipProtocol := IpProtocol.tcp
  payload := .ofBytes [0x50, 0x55, 0x54, 0x20, 0x2F, 0x78, 0x20, 0x48, 0x54, 0x54, 0x50, 0x2F, 0x31,
    0x2E, 0x31, 0x0D, 0x0A, 0x0D, 0x0A]

/-- A second request, which comes before the response and again after it. -/
theorem run_recorded_once_second_request :
    let settings : PluginSettings := {}
    let past := [getSegment, putSegment, okSegment]
    (empty.run (Call.each settings.build past)).observation? .http =
      some (.http
        { method := some "GET", target := some "/", status := some 200
          requestSeen := true, responseSeen := true }) ∧
    ((empty.run (Call.each settings.build past)).slot .http).phase = .finished ∧
    ∃ t', ((empty.run (Call.each settings.build past)).run
        (Call.each settings.build [putSegment])).observation? .http = some (.http t') ∧
      t'.method = some "GET" ∧ t'.target = some "/" ∧ t'.status = some 200 := by
  intro settings past
  have ht : (empty.run (Call.each settings.build past)).observation? .http =
      some (.http
        { method := some "GET", target := some "/", status := some 200
          requestSeen := true, responseSeen := true }) := by
    decide +kernel
  obtain ⟨hrecorded, hfinished⟩ := run_recorded_once settings past [putSegment]
  obtain ⟨t, heq, -, -, -, -, t', ht', hmethod, htarget, -, -, -, hresponse⟩ := hrecorded _ ht
  cases heq
  exact ⟨ht, hfinished.2 ⟨_, ht, rfl, rfl⟩, t', ht', hmethod, htarget, (hresponse rfl).2.1⟩

end FlowRecord

end Flowmeter
