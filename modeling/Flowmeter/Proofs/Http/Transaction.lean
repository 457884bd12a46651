import Flowmeter.Http.Transaction

/-!
# The two sides of a transaction

What a transaction holds of its request (`Transaction.requestSide`) and of its response
(`Transaction.responseSide`). A message changes the side that it belongs to, which has been seen
from then on, and leaves the other one as it is.
-/

namespace Flowmeter.Http

namespace Message

theorem exists_requestLine {m : Message} (h : m.isRequest = true) :
    ∃ line, m.startLine = .request line := by
  cases hm : m.startLine with
  | request line => exact ⟨line, rfl⟩
  | response status =>
    rw [isRequest, hm] at h
    cases h

theorem exists_status {m : Message} (h : m.isRequest = false) :
    ∃ status, m.startLine = .response status := by
  cases hm : m.startLine with
  | request line =>
    rw [isRequest, hm] at h
    cases h
  | response status => exact ⟨status, rfl⟩

end Message

namespace Transaction

/-- What a transaction holds of its request. -/
def requestSide (t : Transaction) : Transaction where
  method := t.method
  host := t.host
  target := t.target
  userAgent := t.userAgent
  referer := t.referer
  requestSeen := t.requestSeen

/-- What a transaction holds of its response. -/
def responseSide (t : Transaction) : Transaction where
  status := t.status
  contentType := t.contentType
  server := t.server
  cookieNames := t.cookieNames
  responseSeen := t.responseSeen

variable {t : Transaction} {m : Message}

/-- The request side is what a request writes, and whether one was seen. -/
theorem requestSide_inj {t' : Transaction} :
    t.requestSide = t'.requestSide ↔
      t.method = t'.method ∧ t.host = t'.host ∧ t.target = t'.target ∧
        t.userAgent = t'.userAgent ∧ t.referer = t'.referer ∧ t.requestSeen = t'.requestSeen := by
  simp only [requestSide, mk.injEq, and_true, true_and]

theorem responseSide_inj {t' : Transaction} :
    t.responseSide = t'.responseSide ↔
      t.status = t'.status ∧ t.contentType = t'.contentType ∧ t.server = t'.server ∧
        t.cookieNames = t'.cookieNames ∧ t.responseSeen = t'.responseSeen := by
  simp only [responseSide, mk.injEq, true_and]

/-! ## Header fields -/

/-- No field of a request writes to the response side. -/
@[simp] theorem responseSide_observeRequestField (field : HeaderField) :
    (t.observeRequestField field).responseSide = t.responseSide := by
  unfold observeRequestField
  repeat' split
  all_goals rfl

/-- No field of a response writes to the request side. -/
@[simp] theorem requestSide_observeResponseField (field : HeaderField) :
    (t.observeResponseField field).requestSide = t.requestSide := by
  unfold observeResponseField
  repeat' split
  all_goals rfl

/-- The header fields of a request leave what its line says. -/
theorem requestLine_foldl_observeRequestField (fields : List HeaderField) :
    (fields.foldl observeRequestField t).method = t.method ∧
      (fields.foldl observeRequestField t).target = t.target := by
  induction fields generalizing t with
  | nil => exact ⟨rfl, rfl⟩
  | cons field rest ih =>
    have hline : (t.observeRequestField field).method = t.method ∧
        (t.observeRequestField field).target = t.target := by
      unfold observeRequestField
      repeat' split
      all_goals exact ⟨rfl, rfl⟩
    obtain ⟨hmethod, htarget⟩ := ih (t := t.observeRequestField field)
    rw [List.foldl_cons, hmethod, htarget]
    exact hline

theorem responseSide_foldl_observeRequestField (fields : List HeaderField) :
    (fields.foldl observeRequestField t).responseSide = t.responseSide := by
  induction fields generalizing t with
  | nil => rfl
  | cons field rest ih => rw [List.foldl_cons, ih, responseSide_observeRequestField]

theorem requestSide_foldl_observeResponseField (fields : List HeaderField) :
    (fields.foldl observeResponseField t).requestSide = t.requestSide := by
  induction fields generalizing t with
  | nil => rfl
  | cons field rest ih => rw [List.foldl_cons, ih, requestSide_observeResponseField]

/-! ## Messages -/

/-- A request leaves the response side as it is. -/
theorem responseSide_observe (h : m.isRequest = true) :
    (t.observe m).responseSide = t.responseSide := by
  obtain ⟨line, hline⟩ := Message.exists_requestLine h
  simp only [observe, hline]
  exact responseSide_foldl_observeRequestField _

/-- A response leaves the request side as it is. -/
theorem requestSide_observe (h : m.isRequest = false) :
    (t.observe m).requestSide = t.requestSide := by
  obtain ⟨status, hstatus⟩ := Message.exists_status h
  simp only [observe, hstatus]
  exact requestSide_foldl_observeResponseField _

theorem requestSeen_observe_of_isRequest (h : m.isRequest = true) :
    (t.observe m).requestSeen = true := by
  obtain ⟨line, hline⟩ := Message.exists_requestLine h
  simp only [observe, hline]
  rfl

/-- A request that was seen stays seen. -/
theorem requestSeen_observe (h : t.requestSeen = true) : (t.observe m).requestSeen = true := by
  cases hm : m.isRequest with
  | true => exact requestSeen_observe_of_isRequest hm
  | false =>
    have hside : (t.observe m).requestSide.requestSeen = t.requestSide.requestSeen :=
      congrArg requestSeen (requestSide_observe hm)
    exact hside.trans h

/-- A request has a method and a target. -/
theorem isSome_observe_of_isRequest (h : m.isRequest = true) :
    (t.observe m).method.isSome = true ∧ (t.observe m).target.isSome = true := by
  obtain ⟨line, hline⟩ := Message.exists_requestLine h
  simp only [observe, hline, observeRequest, requestLine_foldl_observeRequestField,
    Option.isSome_some, and_self]

theorem responseSeen_observe (h : m.isRequest = false) : (t.observe m).responseSeen = true := by
  obtain ⟨status, hstatus⟩ := Message.exists_status h
  simp only [observe, hstatus]
  rfl

/-- A request does not change whether the response has been seen. -/
theorem responseSeen_observe_of_isRequest (h : m.isRequest = true) :
    (t.observe m).responseSeen = t.responseSeen := by
  have hside : (t.observe m).responseSide.responseSeen = t.responseSide.responseSeen :=
    congrArg responseSeen (responseSide_observe h)
  exact hside

/-- A message collides if its own side has been seen. -/
theorem collides_eq_true_iff :
    t.collides m = true ↔
      m.isRequest = true ∧ t.requestSeen = true ∨ m.isRequest = false ∧ t.responseSeen = true := by
  unfold collides Message.isRequest StartLine.isRequest
  cases m.startLine <;> simp

theorem isComplete_of_requestSeen (h : t.requestSeen = true) : t.isComplete = t.responseSeen := by
  rw [isComplete, h, Bool.true_and]

end Transaction

end Flowmeter.Http
