import Flowmeter.Proofs.Http.Transaction
import Flowmeter.Proofs.Octets.Utf8
import Mathlib.Data.List.Induction

/-!
# The room for cookie names

The names of the cookies that responses set (`Message.cookieNames`) are recorded in one text, one
after the other (`cookieNames_foldl_observe`). Whether there is room for a name is reckoned with its
octets (`Fits`), but what is recorded is its text, and U+FFFD for a single ill-formed octet takes
three. So the text can grow beyond the capacity, by the last name recorded and no further
(`exceeds_foldl_iff`). Names that are well formed stay within it (`cookieNames_size`).
-/

namespace Flowmeter

/-! ## Fields that bear a name -/

namespace HeaderField

variable {field : HeaderField} {name other : String}

theorem length_of_isNamed (h : field.isNamed name = true) :
    field.name.bytes.length = (Octets.ofText name).length := by
  have hfolded := congrArg List.length (beq_iff_eq.1 h)
  rwa [List.length_map, List.length_map] at hfolded

/-- A field does not bear two names of different lengths. -/
theorem isNamed_eq_false (h : field.isNamed name = true)
    (hlength : (Octets.ofText name).length ≠ (Octets.ofText other).length) :
    field.isNamed other = false := by
  refine Bool.eq_false_iff.2 fun hother => hlength ?_
  rw [← length_of_isNamed h, length_of_isNamed hother]

end HeaderField

namespace Http

/-! ## The names that are set -/

/-- The names of the cookies that a message sets, in their order. -/
def Message.cookieNames (m : Message) : List Octets :=
  match m.startLine with
  | .request _ => []
  | .response _ =>
    ((HeaderField.tokenizer.tokens m.headers).1.filter (·.isNamed "Set-Cookie")).map
      (cookieName ·.value)

namespace Transaction

variable {t : Transaction}

theorem cookieNames_observeResponseField (field : HeaderField) :
    (t.observeResponseField field).cookieNames =
      if field.isNamed "Set-Cookie" then addCookieName t.cookieNames (cookieName field.value)
      else t.cookieNames := by
  unfold observeResponseField
  by_cases hcookie : field.isNamed "Set-Cookie" = true
  · have htype : field.isNamed "Content-Type" = false :=
      HeaderField.isNamed_eq_false hcookie (by decide +kernel)
    have hserver : field.isNamed "Server" = false :=
      HeaderField.isNamed_eq_false hcookie (by decide +kernel)
    rw [htype, hserver, if_pos hcookie, if_neg Bool.false_ne_true, if_neg Bool.false_ne_true,
      if_pos hcookie]
  · rw [if_neg hcookie, if_neg hcookie]
    repeat' split
    all_goals rfl

theorem cookieNames_foldl_observeResponseField (fields : List HeaderField) :
    (fields.foldl observeResponseField t).cookieNames =
      ((fields.filter (·.isNamed "Set-Cookie")).map (cookieName ·.value)).foldl addCookieName
        t.cookieNames := by
  induction fields generalizing t with
  | nil => rfl
  | cons field rest ih =>
    rw [List.foldl_cons, ih, cookieNames_observeResponseField, List.filter_cons]
    split
    · rfl
    · rfl

theorem cookieNames_observe (m : Message) :
    (t.observe m).cookieNames = m.cookieNames.foldl addCookieName t.cookieNames := by
  cases hm : m.isRequest with
  | true =>
    obtain ⟨line, hline⟩ := Message.exists_requestLine hm
    have hside : (t.observe m).responseSide.cookieNames = t.responseSide.cookieNames :=
      congrArg cookieNames (responseSide_observe hm)
    simp only [Message.cookieNames, hline]
    exact hside
  | false =>
    obtain ⟨status, hstatus⟩ := Message.exists_status hm
    simp only [observe, Message.cookieNames, hstatus]
    exact cookieNames_foldl_observeResponseField _

theorem cookieNames_foldl_observe (messages : List Message) :
    (messages.foldl observe t).cookieNames =
      (messages.flatMap Message.cookieNames).foldl addCookieName t.cookieNames := by
  induction messages generalizing t with
  | nil => rfl
  | cons m rest ih =>
    rw [List.foldl_cons, ih, cookieNames_observe, List.flatMap_cons, List.foldl_append]

end Transaction

/-! ## Recording a name -/

/-- Octets of the names recorded so far. -/
def recordedSize (names : Option String) : Nat :=
  (names.getD "").utf8ByteSize

/-- Octets that a name takes when it is recorded, with the separator behind it. -/
def nameSize (name : Octets) : Nat :=
  Utf8.size (Utf8.decodeLossy name) + 1

/-- A name is recorded behind `names`: it is not empty, and there is room for its octets and a
separator. -/
def Fits (names : Option String) (name : Octets) : Prop :=
  name ≠ [] ∧ recordedSize names + name.length + 1 ≤ capacities.cookieNames

variable {names : Option String} {name : Octets} {offered : List Octets}

theorem addCookieName_of_fits (h : Fits names name) :
    addCookieName names name =
      some ((names.getD "" ++ String.ofList (Utf8.decodeLossy name)).push cookieSeparator) := by
  obtain ⟨hname, hroom⟩ := h
  have hroom' : name.length + 1 ≤ capacities.cookieNames - (names.getD "").utf8ByteSize := by
    unfold recordedSize at hroom
    omega
  unfold addCookieName
  rw [if_neg (by simpa using hname), if_pos hroom']

/-- A name without room leaves the text as it is, or makes it the empty one. -/
theorem getD_addCookieName_of_not_fits (h : ¬ Fits names name) :
    (addCookieName names name).getD "" = names.getD "" := by
  unfold addCookieName
  split
  · rfl
  · dsimp only
    split
    · next hname hroom =>
      refine absurd ⟨by simpa using hname, ?_⟩ h
      unfold recordedSize
      omega
    · rfl

theorem recordedSize_addCookieName_of_fits (h : Fits names name) :
    recordedSize (addCookieName names name) = recordedSize names + nameSize name := by
  rw [addCookieName_of_fits h]
  simp only [recordedSize, nameSize, Option.getD_some, String.utf8ByteSize_push,
    String.utf8ByteSize_append, Utf8.utf8ByteSize_ofList, Nat.add_assoc]
  rfl

theorem recordedSize_addCookieName_of_not_fits (h : ¬ Fits names name) :
    recordedSize (addCookieName names name) = recordedSize names := by
  rw [recordedSize, getD_addCookieName_of_not_fits h, recordedSize]

theorem recordedSize_le_addCookieName (names : Option String) (name : Octets) :
    recordedSize names ≤ recordedSize (addCookieName names name) := by
  by_cases h : Fits names name
  · rw [recordedSize_addCookieName_of_fits h]
    exact Nat.le_add_right ..
  · exact Nat.le_of_eq (recordedSize_addCookieName_of_not_fits h).symm

theorem recordedSize_le_foldl (names : Option String) (offered : List Octets) :
    recordedSize names ≤ recordedSize (offered.foldl addCookieName names) := by
  induction offered generalizing names with
  | nil => exact Nat.le_refl _
  | cons name rest ih => exact Nat.le_trans (recordedSize_le_addCookieName names name) (ih _)

/-! ## The capacity -/

/-- The capacity is exceeded from the first name on that has room for its octets, but not for its
text. -/
theorem exceeds_foldl_iff :
    capacities.cookieNames < recordedSize (offered.foldl addCookieName none) ↔
      ∃ before name after, offered = before ++ name :: after ∧
        Fits (before.foldl addCookieName none) name ∧
        capacities.cookieNames <
          recordedSize (before.foldl addCookieName none) + nameSize name := by
  constructor
  · intro h
    induction offered using List.reverseRecOn with
    | nil => exact absurd h (by decide)
    | append_singleton offered name ih =>
      rw [List.foldl_append, List.foldl_cons, List.foldl_nil] at h
      by_cases hbefore :
          capacities.cookieNames < recordedSize (offered.foldl addCookieName none)
      · obtain ⟨before, first, after, rfl, hfirst⟩ := ih hbefore
        refine ⟨before, first, after ++ [name], ?_, hfirst⟩
        rw [List.append_assoc, List.cons_append]
      · by_cases hfits : Fits (offered.foldl addCookieName none) name
        · rw [recordedSize_addCookieName_of_fits hfits] at h
          exact ⟨offered, name, [], rfl, hfits, h⟩
        · rw [recordedSize_addCookieName_of_not_fits hfits] at h
          exact absurd h hbefore
  · rintro ⟨before, name, after, rfl, hfits, h⟩
    rw [List.foldl_append, List.foldl_cons]
    refine Nat.lt_of_lt_of_le h ?_
    rw [← recordedSize_addCookieName_of_fits hfits]
    exact recordedSize_le_foldl ..

/-- One name of ill-formed octets over the whole capacity is the worst that there is. -/
theorem recordedSize_foldl_le :
    recordedSize (offered.foldl addCookieName none) ≤ 3 * capacities.cookieNames - 2 := by
  induction offered using List.reverseRecOn with
  | nil => decide
  | append_singleton offered name ih =>
    rw [List.foldl_append, List.foldl_cons, List.foldl_nil]
    by_cases hfits : Fits (offered.foldl addCookieName none) name
    · -- the more is recorded already, the shorter is a name that fits
      have hroom := hfits.2
      have hsize := Utf8.size_decodeLossy_le name
      rw [recordedSize_addCookieName_of_fits hfits, nameSize]
      omega
    · rwa [recordedSize_addCookieName_of_not_fits hfits]

/-- What fits is recorded within the capacity, provided that its text takes no more octets than it
was read from. -/
theorem recordedSize_foldl_le_capacity
    (h : ∀ name ∈ offered, Utf8.size (Utf8.decodeLossy name) ≤ name.length) :
    recordedSize (offered.foldl addCookieName none) ≤ capacities.cookieNames := by
  refine Nat.le_of_not_lt fun hexceeds => ?_
  obtain ⟨before, name, after, rfl, ⟨-, hroom⟩, hname⟩ := exceeds_foldl_iff.1 hexceeds
  have hsize := h name (List.mem_append_right _ List.mem_cons_self)
  unfold nameSize at hname
  omega

namespace Transaction

/-- **The room for cookie names.** Whatever messages a transaction has taken in, its cookie names
take more octets than their capacity exactly if there was room for the octets of one of them, but
not for its text. They stay within the capacity if every name is well-formed UTF-8, and within
three times the capacity, less two octets, in any case. -/
theorem cookieNames_size (messages : List Message) :
    let offered := messages.flatMap Message.cookieNames
    let recorded := (messages.foldl observe {}).cookieNames
    (capacities.cookieNames < recordedSize recorded ↔
      ∃ before name after, offered = before ++ name :: after ∧
        Fits (before.foldl addCookieName none) name ∧
        capacities.cookieNames <
          recordedSize (before.foldl addCookieName none) + nameSize name) ∧
    ((∀ name ∈ offered, (Utf8.decode? name).isSome = true) →
      recordedSize recorded ≤ capacities.cookieNames) ∧
    recordedSize recorded ≤ 3 * capacities.cookieNames - 2 := by
  intro offered recorded
  have hrecorded : recorded = offered.foldl addCookieName none := cookieNames_foldl_observe messages
  rw [hrecorded]
  refine ⟨exceeds_foldl_iff, fun hoffered => ?_, recordedSize_foldl_le⟩
  refine recordedSize_foldl_le_capacity fun name hname => ?_
  obtain ⟨text, htext⟩ := Option.isSome_iff_exists.1 (hoffered name hname)
  rw [Utf8.decodeLossy_of_decode? htext]
  exact Nat.le_of_eq (Utf8.size_of_decode? htext)

/-- A response that sets a cookie of the given name, without a value. -/
def settingCookie (name : Octets) : Message where
  startLine := .response 200
  headers := .ofBytes (HeaderField.encodeBlock [(Octets.ofText "Set-Cookie", name)])

/-- A name of one character in two octets. -/
theorem cookieNames_size_accented :
    let messages := [settingCookie [0xC3, 0xA9], settingCookie [0x69, 0x64]]
    (messages.foldl observe {}).cookieNames = some "é;id;" ∧
    (∀ name ∈ messages.flatMap Message.cookieNames, (Utf8.decode? name).isSome = true) ∧
    recordedSize (messages.foldl observe {}).cookieNames ≤ capacities.cookieNames := by
  intro messages
  have hoffered : ∀ name ∈ messages.flatMap Message.cookieNames,
      (Utf8.decode? name).isSome = true := by
    decide +kernel
  exact ⟨by decide +kernel, hoffered, (cookieNames_size messages).2.1 hoffered⟩

/-- A name of 511 ill-formed octets has room and takes three times as many. -/
theorem recordedSize_observe_settingCookie :
    recordedSize ([settingCookie (List.replicate 511 0xFF)].foldl observe {}).cookieNames = 1534 ∧
    ¬ ∀ messages : List Message,
      recordedSize (messages.foldl observe {}).cookieNames ≤ capacities.cookieNames := by
  have hname : (settingCookie (List.replicate 511 0xFF)).cookieNames =
      [List.replicate 511 0xFF] := by
    decide +kernel
  have hfits : Fits none (List.replicate 511 0xFF) := by
    refine ⟨List.cons_ne_nil _ _, ?_⟩
    rw [List.length_replicate]
    decide
  have hsize : recordedSize
      ([settingCookie (List.replicate 511 0xFF)].foldl observe {}).cookieNames = 1534 := by
    rw [cookieNames_foldl_observe, List.flatMap_singleton, hname, List.foldl_cons, List.foldl_nil,
      recordedSize_addCookieName_of_fits hfits, nameSize, Utf8.size_decodeLossy_replicate]
    rfl
  refine ⟨hsize, fun h => ?_⟩
  have hle := h [settingCookie (List.replicate 511 0xFF)]
  rw [hsize] at hle
  exact absurd hle (by decide)

end Transaction

end Http

end Flowmeter
