import Flowmeter.Proofs.InterfaceMap.Reading
import Flowmeter.Proofs.Octets.Utf8

/-!
# The first violation of an interface map

A reader that fails has gone as far as it could: what it has read is the beginning of a text that
it takes, and the next character makes it fail there whatever comes after (`StopsAt`). This is
proved for each reader from the readers that it calls (`FailsFirst`), and gives the meaning of the
offset of an error (`parse_error_offset`).
-/

namespace Flowmeter.InterfaceMap

open Utf8 (utf8ByteSize_ofList)

variable {α : Type} {reader : List Char → Except Stop α} {language : List Char → Prop}
  {c : Char} {text read rest : List Char} {stop : Stop}

/-! ## Where readers fail -/

/-- The reader fails at `c` behind `read`, whatever comes after. -/
def StopsAt (reader : List Char → Except Stop α) (read : List Char) (c : Char) : Prop :=
  ∀ rest, ∃ violation, reader (read ++ c :: rest) = .error ⟨violation, c :: rest⟩

/-- What stands before the stop begins a longer text of the language, and the reader fails at the
next character. -/
def FailsFirst (reader : List Char → Except Stop α) (language : List Char → Prop)
    (text : List Char) (stop : Stop) : Prop :=
  ∃ read, text = read ++ stop.remaining ∧ (∃ more, more ≠ [] ∧ language (read ++ more)) ∧
    ∀ c ∈ stop.remaining.head?, StopsAt reader read c

theorem spellsName_letter (hread : IsBlanks read) : SpellsName "a" (read ++ ['a']) := by
  have h : SpellsName "a" (read ++ ['a'] ++ []) := .mk hread (by decide) isBlanks_nil
  rwa [List.append_nil] at h

theorem name_stopsAt {inGroup : Bool} (h : name inGroup text = .error stop) :
    ∃ read, text = read ++ stop.remaining ∧ IsBlanks read ∧
      StartsWithout Text.isBlank stop.remaining ∧
      ∀ c ∈ stop.remaining.head?, StopsAt (name inGroup) read c := by
  obtain ⟨-, read, htext, hread, hblank, hname⟩ := name_eq_error_iff.1 h
  refine ⟨read, htext, hread, hblank, fun c hc rest => ⟨missingName inGroup (c :: rest), ?_⟩⟩
  have hhead : (c :: rest).head? = stop.remaining.head? := (Option.mem_def.1 hc).symm
  exact name_eq_error_iff.2 ⟨rfl, read, rfl, hread, hblank.congr hhead, hname.congr hhead⟩

/-! ## The names of a group -/

theorem groupNames_failsFirst (h : groupNames text = .error stop) :
    FailsFirst groupNames (fun text => ∃ ns, SpellsNames ns text) text stop := by
  fun_induction groupNames text generalizing stop with
  | case1 text e hn =>
    cases h
    obtain ⟨read, htext, hread, -, hstops⟩ := name_stopsAt hn
    -- a name is missing, and any letter would be one
    refine ⟨read, htext, ⟨['a'], by simp, ["a"], .single (spellsName_letter hread)⟩, ?_⟩
    intro c hc rest
    obtain ⟨violation, hc⟩ := hstops c hc rest
    exact ⟨violation, groupNames_of_name_error hc⟩
  | case2 text n tail hn e htail ih =>
    cases h
    obtain ⟨first, rfl, hfirst, -⟩ := name_eq_ok_iff.1 hn
    obtain ⟨read, rfl, ⟨more, hmore, ns, hns⟩, hstops⟩ := ih htail
    refine ⟨first ++ ',' :: read, by simp, ⟨more, hmore, n :: ns, ?_⟩, ?_⟩
    · rw [List.append_assoc, List.cons_append]
      exact .cons hfirst hns
    · intro c hc rest
      obtain ⟨violation, hc⟩ := hstops c hc rest
      refine ⟨violation, ?_⟩
      rw [List.append_assoc, List.cons_append,
        groupNames_of_name_comma (name_eq_ok_iff.2 ⟨first, rfl, hfirst, endsBefore_comma⟩), hc]
      rfl
  | case3 => cases h
  | case4 => cases h
  | case5 text n rest hcomma hclose hn =>
    cases h
    obtain ⟨read, rfl, hread, hends⟩ := name_eq_ok_iff.1 hn
    -- the name is whole, so that only a comma or a parenthesis can follow it
    refine ⟨read, rfl, ⟨",a".toList, by simp, [n, "a"], ?_⟩, ?_⟩
    · exact .cons hread (.single (spellsName_letter isBlanks_nil))
    · intro c hc rest'
      obtain ⟨tail, rfl⟩ := List.head?_eq_some_iff.1 (Option.mem_def.1 hc)
      have hn' : name true (read ++ c :: rest') = .ok (n, c :: rest') :=
        name_eq_ok_iff.2 ⟨read, rfl, hread, hends.congr rfl⟩
      refine ⟨_, groupNames_of_name_broken hn' ?_ ?_⟩
      · rintro rfl
        exact hcomma _ rfl
      · rintro rfl
        exact hclose _ rfl

/-! ## Items -/

/-- A group fails where its names do. -/
theorem group_eq_error_iff :
    (∃ violation, group text = .error ⟨violation, rest⟩) ↔
      ∃ violation, groupNames text = .error ⟨violation, rest⟩ := by
  rcases group_cases text with ⟨tail, hg, hn⟩ | hg
  · simp only [hg, hn, Except.error.injEq, Stop.mk.injEq, exists_eq_left']
  · rw [hg]
    cases groupNames text <;> simp [Except.map]

theorem item_failsFirst (h : item text = .error stop) :
    FailsFirst item (fun text => ∃ g, SpellsItem g text) text stop := by
  obtain ⟨before, hbefore, htext⟩ := exists_blanks text
  by_cases hopen : (Text.skipBlanks text).head? = some '('
  · obtain ⟨inner, hinner⟩ := List.head?_eq_some_iff.1 hopen
    rw [item_of_open hinner] at h
    obtain ⟨violation, hnames⟩ := group_eq_error_iff.1 ⟨stop.violation, h⟩
    obtain ⟨read, hread, ⟨more, -, ns, hns⟩, hstops⟩ := groupNames_failsFirst hnames
    refine ⟨before ++ '(' :: read, ?_, ⟨more ++ [')'], by simp, ⟨ns⟩, ?_⟩, ?_⟩
    · rw [htext, hinner, hread, List.append_assoc, List.cons_append]
    · have hgroup : SpellsItem ⟨ns⟩ (before ++ '(' :: (read ++ more) ++ ')' :: []) :=
        .group hbefore hns isBlanks_nil
      simpa using hgroup
    · intro c hc rest
      have hopen' : Text.skipBlanks (before ++ '(' :: read ++ c :: rest) =
          '(' :: (read ++ c :: rest) := by
        rw [List.append_assoc, List.cons_append]
        exact skipBlanks_append hbefore (startsWithout_cons.2 rfl)
      rw [item_of_open hopen']
      exact group_eq_error_iff.2 (hstops c hc rest)
  · rw [item_of_not_open hopen] at h
    cases hn : name false text with
    | ok => rw [hn] at h; cases h
    | error e =>
      rw [hn] at h
      cases h
      obtain ⟨read, rfl, hread, hblank, hstops⟩ := name_stopsAt hn
      refine ⟨read, rfl, ⟨['a'], by simp, ⟨["a"]⟩, .name (spellsName_letter hread)⟩, ?_⟩
      intro c hc rest
      -- the reader of names stops at `c`, and `c` opens no group
      obtain ⟨violation, hname⟩ := hstops c hc rest
      have hhead : (c :: rest).head? = stop.remaining.head? := (Option.mem_def.1 hc).symm
      have hopen' : (Text.skipBlanks (read ++ c :: rest)).head? ≠ some '(' := by
        rw [skipBlanks_append hread (hblank.congr hhead), hhead]
        rwa [skipBlanks_append hread hblank] at hopen
      exact ⟨violation, by rw [item_of_not_open hopen', hname]; rfl⟩

/-! ## Lists -/

theorem items_failsFirst (h : items text = .error stop) :
    FailsFirst items (fun text => ∃ gs, Spells gs text) text stop := by
  fun_induction items text generalizing stop with
  | case1 text e hg =>
    cases h
    obtain ⟨read, htext, ⟨more, hmore, g, hread⟩, hstops⟩ := item_failsFirst hg
    refine ⟨read, htext, ⟨more, hmore, [g], .single hread⟩, ?_⟩
    intro c hc rest
    obtain ⟨violation, hc⟩ := hstops c hc rest
    exact ⟨violation, items_of_item_error hc⟩
  | case2 => cases h
  | case3 text g tail hg e htail ih =>
    cases h
    obtain ⟨first, rfl, hfirst, -⟩ := item_eq_ok_iff.1 hg
    obtain ⟨read, rfl, ⟨more, hmore, gs, hgs⟩, hstops⟩ := ih htail
    refine ⟨first ++ ',' :: read, by simp, ⟨more, hmore, g :: gs, ?_⟩, ?_⟩
    · rw [List.append_assoc, List.cons_append]
      exact .cons hfirst hgs
    · intro c hc rest
      obtain ⟨violation, hc⟩ := hstops c hc rest
      refine ⟨violation, ?_⟩
      rw [List.append_assoc, List.cons_append,
        items_of_item_comma (item_eq_ok_iff.2 ⟨first, rfl, hfirst, endsBefore_comma⟩), hc]
      rfl
  | case4 => cases h
  | case5 text g rest hend hcomma hg =>
    cases h
    obtain ⟨read, rfl, hread, hends⟩ := item_eq_ok_iff.1 hg
    -- the item is whole, so that only a comma can follow it
    refine ⟨read, rfl, ⟨",a".toList, by simp, [g, ⟨["a"]⟩], ?_⟩, ?_⟩
    · exact .cons hread (.single (.name (spellsName_letter isBlanks_nil)))
    · intro c hc rest'
      obtain ⟨tail, rfl⟩ := List.head?_eq_some_iff.1 (Option.mem_def.1 hc)
      have hg' : item (read ++ c :: rest') = .ok (g, c :: rest') :=
        item_eq_ok_iff.2 ⟨read, rfl, hread, hends.congr rfl⟩
      refine ⟨_, items_of_item_broken hg' ?_⟩
      rintro rfl
      exact hcomma _ rfl

/-- A text of white space is refused as a whole, so nothing is said about its first character. -/
theorem groups_failsFirst (h : groups text = .error stop) :
    ∃ read, text = read ++ stop.remaining ∧ (∃ more gs, more ≠ [] ∧ Spells gs (read ++ more)) ∧
      (stop.violation ≠ .empty →
        ∀ c ∈ stop.remaining.head?, ∀ rest gs, ¬ Spells gs (read ++ c :: rest)) := by
  unfold groups at h
  split at h
  · cases h
    exact ⟨[], rfl, ⟨['a'], [⟨["a"]⟩], by simp, .single (.name (spellsName_letter isBlanks_nil))⟩,
      fun hne => absurd rfl hne⟩
  · obtain ⟨read, htext, ⟨more, hmore, gs, hgs⟩, hstops⟩ := items_failsFirst h
    refine ⟨read, htext, ⟨more, gs, hmore, hgs⟩, fun _ c hc rest gs' hgs' => ?_⟩
    obtain ⟨violation, hitems⟩ := hstops c hc rest
    rw [items_eq_ok_iff.2 hgs'] at hitems
    cases hitems

/-! ## Whole texts -/

/-- The text is read without a violation. -/
def IsAccepted (text : String) : Prop :=
  ∃ gs, parse text = .ok gs

theorem isAccepted_iff {text : String} : IsAccepted text ↔ ∃ gs, Spells gs text.toList :=
  exists_congr fun _ => parse_eq_ok_iff

/-- **The offset of an error is that of the first violation.** It lies between two characters. What
stands before it begins an accepted text; and unless the map is empty, it does so no longer with the
next character, or, at the end, the whole text begins a longer accepted text. -/
theorem parse_error_offset {text : String} {e : Error} (h : parse text = .error e) :
    e.offset ≤ text.utf8ByteSize ∧ (String.Pos.Raw.mk e.offset).IsValid text ∧
      ∃ before after, text = before ++ after ∧ before.utf8ByteSize = e.offset ∧
        (∃ more, IsAccepted (before ++ more)) ∧
        (e.violation ≠ .empty →
          (∀ c rest, after.toList = c :: rest → ∀ more, ¬ IsAccepted (before.push c ++ more)) ∧
          (after = "" → ∃ more, more ≠ "" ∧ IsAccepted (text ++ more))) := by
  unfold parse at h
  split at h
  · cases h
  · next stop hstop =>
    cases h
    obtain ⟨read, hread, ⟨more, gs, hmore, hgs⟩, hnot⟩ := groups_failsFirst hstop
    have htext : text = String.ofList read ++ String.ofList stop.remaining := by
      rw [← String.ofList_append, ← hread, String.ofList_toList]
    have hoffset : (String.ofList read).utf8ByteSize =
        text.utf8ByteSize - Utf8.size stop.remaining := by
      rw [htext, String.utf8ByteSize_append, utf8ByteSize_ofList stop.remaining]
      exact (Nat.add_sub_cancel ..).symm
    have haccepted : IsAccepted (String.ofList read ++ String.ofList more) := by
      refine isAccepted_iff.2 ⟨gs, ?_⟩
      rwa [← String.ofList_append, String.toList_ofList]
    refine ⟨Nat.sub_le .., String.Pos.Raw.isValid_iff_exists_append.2 ⟨_, _, htext, ?_⟩,
      String.ofList read, String.ofList stop.remaining, htext, hoffset, ⟨_, haccepted⟩,
      fun hne => ⟨?_, fun hend => ⟨String.ofList more, ?_, ?_⟩⟩⟩
    · exact congrArg String.Pos.Raw.mk hoffset.symm
    · intro c rest hrest more' haccepted'
      rw [String.toList_ofList] at hrest
      obtain ⟨gs', hgs'⟩ := isAccepted_iff.1 haccepted'
      -- the text that would be accepted goes on behind `read` with the offending character
      refine hnot hne c (by rw [hrest]; rfl) more'.toList gs' ?_
      simpa using hgs'
    · rwa [Ne, String.ofList_eq_empty_iff]
    · rw [hend, String.append_empty] at htext
      rwa [htext]

/-- A group inside a group is refused at its parenthesis. -/
theorem parse_error_offset_nested :
    parse "é,(a,(b))" = .error ⟨.nestedGroup, 6⟩ ∧
      ∃ before after, "é,(a,(b))" = before ++ after ∧ before.utf8ByteSize = 6 ∧
        (∃ more, IsAccepted (before ++ more)) ∧
        ∀ c rest, after.toList = c :: rest → ∀ more, ¬ IsAccepted (before.push c ++ more) := by
  have h : parse "é,(a,(b))" = .error ⟨.nestedGroup, 6⟩ := by with_unfolding_all rfl
  obtain ⟨-, -, before, after, htext, hsize, haccepted, hfirst⟩ := parse_error_offset h
  exact ⟨h, before, after, htext, hsize, haccepted, (hfirst (by decide)).1⟩

end Flowmeter.InterfaceMap
