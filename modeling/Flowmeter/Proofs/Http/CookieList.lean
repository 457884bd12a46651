import Flowmeter.Proofs.Http.CookieNames
import Flowmeter.Proofs.Text.Terminated

/-!
# The list of cookie names

The cookie names that a transaction records are one text, in which a semicolon stands after each
name (`cookieNames_terminated`). A recorded name is not empty and has neither a semicolon nor an
equals sign in it, so the text says which names were recorded, in which order.

There is a text as soon as a name has been offered that is not empty, be there room for it or not.
So the empty text stands for names all of which were too long, and no text for none offered.
-/

namespace Flowmeter.Http

variable {name : Octets} {names : Option String} {offered : List Octets}

/-! ## One name -/

/-- What is recorded of a name. -/
def nameText (name : Octets) : String :=
  String.ofList (Utf8.decodeLossy name)

theorem toList_nameText : (nameText name).toList = Utf8.decodeLossy name :=
  String.toList_ofList

theorem nameText_ne_empty (h : name ≠ []) : nameText name ≠ "" := by
  obtain ⟨lead, rest, rfl⟩ := List.exists_cons_of_ne_nil h
  rw [Ne, ← String.toList_eq_nil_iff, toList_nameText, Utf8.decodeLossy_of_scan rfl]
  exact List.cons_ne_nil _ _

/-- An ASCII character in the text of a name is an octet of the name. -/
theorem mem_of_mem_nameText {c : Char} {b : UInt8} (hc : String.utf8EncodeChar c = [b])
    (h : c ∈ (nameText name).toList) : b ∈ name := by
  rw [toList_nameText] at h
  have hreplacement : c ≠ '\uFFFD' := by
    rintro rfl
    cases hc
  have hinfix := Utf8.infix_of_mem_decodeLossy h hreplacement
  rw [hc] at hinfix
  exact hinfix.subset List.mem_cons_self

/-- What ends a name is not in it. -/
theorem not_mem_cookieName {b : UInt8} (hb : endsCookieName b = true) (value : View) :
    b ∉ cookieName value := by
  intro h
  have hname : b ∈ value.bytes.takeWhile fun b => !endsCookieName b := by
    have hfront := (List.dropWhile_sublist _).mem (List.mem_reverse.1 h)
    exact (List.dropWhile_sublist _).mem (List.mem_reverse.1 hfront)
  have hall := List.all_eq_true.1 List.all_takeWhile b hname
  rw [hb] at hall
  cases hall

theorem not_mem_of_mem_cookieNames {m : Message} (h : name ∈ m.cookieNames) :
    0x3B ∉ name ∧ 0x3D ∉ name := by
  unfold Message.cookieNames at h
  split at h
  · cases h
  · obtain ⟨field, -, rfl⟩ := List.mem_map.1 h
    exact ⟨not_mem_cookieName rfl field.value, not_mem_cookieName rfl field.value⟩

/-! ## All names -/

instance (names : Option String) (name : Octets) : Decidable (Fits names name) :=
  inferInstanceAs (Decidable (_ ∧ _))

theorem fits_none_iff : Fits none name ↔ name ≠ [] ∧ name.length < capacities.cookieNames := by
  have hnone : recordedSize none = 0 := rfl
  rw [Fits, hnone, Nat.zero_add, Nat.succ_le_iff]

/-- The names that are recorded of those offered, in their order. -/
def keptNames (names : Option String) : List Octets → List Octets
  | [] => []
  | name :: rest =>
    if Fits names name then name :: keptNames (addCookieName names name) rest
    else keptNames (addCookieName names name) rest

theorem sublist_keptNames (names : Option String) (offered : List Octets) :
    (keptNames names offered).Sublist offered := by
  induction offered generalizing names with
  | nil => exact .slnil
  | cons name rest ih =>
    rw [keptNames]
    split
    · exact (ih _).cons_cons name
    · exact (ih _).cons name

theorem ne_nil_of_mem_keptNames (h : name ∈ keptNames names offered) : name ≠ [] := by
  induction offered generalizing names with
  | nil => cases h
  | cons first rest ih =>
    rw [keptNames] at h
    split at h
    · next hfits =>
      rcases List.mem_cons.1 h with rfl | hrest
      · exact hfits.1
      · exact ih hrest
    · exact ih h

/-- Nothing is recorded exactly if there is room for none: what does not fit takes no room. -/
theorem keptNames_eq_nil_iff :
    keptNames names offered = [] ↔ ∀ name ∈ offered, ¬ Fits names name := by
  induction offered generalizing names with
  | nil => simp [keptNames]
  | cons first rest ih =>
    rw [keptNames, List.forall_mem_cons]
    split
    · next hfits => simp [hfits]
    · next hfits =>
      have hsame : ∀ name, Fits (addCookieName names first) name ↔ Fits names name := by
        intro name
        rw [Fits, recordedSize_addCookieName_of_not_fits hfits, Fits]
      simp only [ih, hsame, hfits, not_false_iff, true_and]

/-- The text that the recorded names make, behind what was recorded before. -/
theorem getD_foldl_addCookieName (names : Option String) (offered : List Octets) :
    (offered.foldl addCookieName names).getD "" =
      names.getD "" ++ Text.terminate cookieSeparator ((keptNames names offered).map nameText) := by
  induction offered generalizing names with
  | nil => simp [keptNames]
  | cons name rest ih =>
    rw [List.foldl_cons, ih, keptNames]
    split
    · next hfits =>
      rw [addCookieName_of_fits hfits, Option.getD_some, List.map_cons, Text.terminate_cons,
        ← nameText, String.push_eq_append, String.push_eq_append]
      simp only [String.append_assoc]
    · next hfits => rw [getD_addCookieName_of_not_fits hfits]

/-- There is no text exactly as long as only empty names have been offered. -/
theorem foldl_addCookieName_eq_none_iff :
    offered.foldl addCookieName names = none ↔ names = none ∧ ∀ name ∈ offered, name = [] := by
  induction offered generalizing names with
  | nil => simp
  | cons name rest ih =>
    have hone : addCookieName names name = none ↔ names = none ∧ name = [] := by
      unfold addCookieName
      split
      · next hname => simp [List.isEmpty_iff.1 hname]
      · next hname =>
        dsimp only
        split <;> simp [List.isEmpty_iff.not.1 hname]
    rw [List.foldl_cons, ih, hone, List.forall_mem_cons, and_assoc]

namespace Transaction

/-- **The list of cookie names.** Whatever messages a transaction has taken in, its cookie names are
the text of the recorded ones with a semicolon after each; there is no text if only empty names have
been offered. A recorded name is not empty and free of semicolons and equals signs, so splitting the
text at the semicolons gives the names back. That there is no text tells that no name was recorded,
and the other way round, exactly unless every name that has been offered and is not empty is longer
than the whole room. -/
theorem cookieNames_terminated (messages : List Message) :
    let offered := messages.flatMap Message.cookieNames
    let recorded := (keptNames none offered).map nameText
    let names := (messages.foldl observe {}).cookieNames
    (names =
      if ∀ name ∈ offered, name = [] then none
      else some (Text.terminate cookieSeparator recorded)) ∧
    (∀ text ∈ recorded, text ≠ "" ∧ ';' ∉ text.toList ∧ '=' ∉ text.toList) ∧
    ((Text.terminate cookieSeparator recorded).split cookieSeparator).toList.map (·.copy) =
      recorded ++ [""] ∧
    ((names = none ↔ recorded = []) ↔
      (∃ name ∈ offered, name ≠ []) →
        ∃ name ∈ offered, name ≠ [] ∧ name.length < capacities.cookieNames) := by
  intro offered recorded names
  have hnames : names = offered.foldl addCookieName none := cookieNames_foldl_observe messages
  have hnone : names = none ↔ ∀ name ∈ offered, name = [] := by
    rw [hnames, foldl_addCookieName_eq_none_iff]
    exact and_iff_right rfl
  have hrecorded : ∀ text ∈ recorded, text ≠ "" ∧ ';' ∉ text.toList ∧ '=' ∉ text.toList := by
    intro text htext
    obtain ⟨name, hname, rfl⟩ := List.mem_map.1 htext
    obtain ⟨m, -, hm⟩ := List.mem_flatMap.1 ((sublist_keptNames none offered).mem hname)
    obtain ⟨hsemicolon, hequals⟩ := not_mem_of_mem_cookieNames hm
    exact ⟨nameText_ne_empty (ne_nil_of_mem_keptNames hname),
      fun h => hsemicolon (mem_of_mem_nameText rfl h), fun h => hequals (mem_of_mem_nameText rfl h)⟩
  refine ⟨?_, hrecorded, Text.split_terminate fun text htext => (hrecorded text htext).2.1, ?_⟩
  · split
    · next hempty => exact hnone.2 hempty
    · next hoffered =>
      obtain ⟨text, htext⟩ := Option.ne_none_iff_exists'.1 (hnone.not.2 hoffered)
      have htext' := getD_foldl_addCookieName none offered
      rw [← hnames, htext, Option.getD_some, Option.getD_none, String.empty_append] at htext'
      rw [htext, htext']
  · -- a name that was offered leaves a text behind, but nothing in it unless one of them fits
    have hkept : recorded = [] ↔
        ¬ ∃ name ∈ offered, name ≠ [] ∧ name.length < capacities.cookieNames := by
      simp only [recorded, List.map_eq_nil_iff, keptNames_eq_nil_iff, fits_none_iff, not_exists,
        not_and]
    have hoffers : (∃ name ∈ offered, name ≠ [] ∧ name.length < capacities.cookieNames) →
        ∃ name ∈ offered, name ≠ [] :=
      fun ⟨name, hname, hne, _⟩ => ⟨name, hname, hne⟩
    have hempty : (∀ name ∈ offered, name = []) ↔ ¬ ∃ name ∈ offered, name ≠ [] := by
      simp only [not_exists, not_and, not_not]
    rw [hnone, hkept, hempty, not_iff_not]
    exact ⟨Iff.mp, fun h => ⟨h, hoffers⟩⟩

/-- A name of one character in two octets, a blank one, and a name in ASCII. -/
theorem cookieNames_terminated_accented :
    let messages := [settingCookie [0xC3, 0xA9], settingCookie [0x20], settingCookie [0x69, 0x64]]
    (messages.foldl observe {}).cookieNames = some "é;id;" ∧
    (∀ text ∈ ["é", "id"], text ≠ "" ∧ ';' ∉ text.toList ∧ '=' ∉ text.toList) ∧
    ("é;id;".split cookieSeparator).toList.map (·.copy) = ["é", "id", ""] := by
  intro messages
  obtain ⟨hnames, hrecorded, hsplit, -⟩ := cookieNames_terminated messages
  have hoffered : messages.flatMap Message.cookieNames = [[0xC3, 0xA9], [], [0x69, 0x64]] := by
    decide +kernel
  have hkept : (keptNames none [[0xC3, 0xA9], [], [0x69, 0x64]]).map nameText = ["é", "id"] := by
    decide +kernel
  have htext : Text.terminate cookieSeparator ["é", "id"] = "é;id;" := by decide +kernel
  rw [hoffered, hkept, htext] at hnames hsplit
  rw [if_neg (by decide)] at hnames
  rw [hoffered, hkept] at hrecorded
  exact ⟨hnames, hrecorded, hsplit⟩

/-- A name over the whole room makes the text empty, although none was recorded. -/
theorem cookieNames_observe_overlong :
    ([settingCookie (List.replicate 512 0x61)].foldl observe {}).cookieNames = some "" ∧
    ¬ ∀ messages : List Message, (messages.foldl observe {}).cookieNames = none ↔
      keptNames none (messages.flatMap Message.cookieNames) = [] := by
  have hname : (settingCookie (List.replicate 512 0x61)).cookieNames =
      [List.replicate 512 0x61] := by
    decide +kernel
  have hfits : ¬ Fits none (List.replicate 512 0x61) := by
    rw [fits_none_iff, List.length_replicate]
    exact fun h => absurd h.2 (by decide)
  have hnames : ([settingCookie (List.replicate 512 0x61)].foldl observe {}).cookieNames =
      some "" := by
    rw [cookieNames_foldl_observe, List.flatMap_singleton, hname]
    decide +kernel
  refine ⟨hnames, fun h => ?_⟩
  have hiff := h [settingCookie (List.replicate 512 0x61)]
  rw [hnames, List.flatMap_singleton, hname, keptNames_eq_nil_iff,
    List.forall_mem_singleton] at hiff
  cases hiff.2 hfits

end Transaction

end Flowmeter.Http
