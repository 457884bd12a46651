import Flowmeter.Proofs.FieldList.Entries
import Flowmeter.Proofs.InterfaceMap.Printing

/-!
# Printed field lists

A field list without comments keeps its entries when it is stripped: of the blanks around them only
those go that end lines (`SpellsEntries.exists_stripped`). So a text that the grammar encloses a
list by is read into the actions that the list is spelled from, and a text that is read at all
is stripped to such a text (`parseList_eq_ok_iff`). The text that a list of actions is printed as
is one of them.
-/

namespace Flowmeter.FieldAction

open InterfaceMap (IsBlanks toList_intercalate_cons)
open Text (StaysInLine)

variable {a : FieldAction} {c : Char} {run rest text list piece : List Char}
  {actions : List FieldAction}

/-! ## Stripping white space -/

/-- Of a run without comments, only ends of lines are left out. -/
theorem exists_stripComments_append (h : '#' ∉ run) (rest : List Char) :
    ∃ kept, kept ⊆ run ∧ stripComments (run ++ rest) = kept ++ stripComments rest := by
  induction run with
  | nil => exact ⟨[], List.Subset.refl _, rfl⟩
  | cons c run ih =>
    obtain ⟨hhash, hrun⟩ := List.ne_and_not_mem_of_not_mem_cons h
    obtain ⟨kept, hkept, hstrip⟩ := ih hrun
    rw [List.cons_append]
    by_cases hc : c = '\n'
    · rw [hc]
      by_cases hlast : run ++ rest = []
      · obtain ⟨rfl, rfl⟩ := List.append_eq_nil_iff.1 hlast
        exact ⟨[], List.nil_subset _, stripComments_newline_end⟩
      · refine ⟨'\n' :: kept, List.cons_subset_cons _ hkept, ?_⟩
        rw [stripComments_newline hlast, hstrip, List.cons_append]
    · by_cases hstays : StaysInLine c (run ++ rest)
      · refine ⟨c :: kept, List.cons_subset_cons _ hkept, ?_⟩
        rw [stripComments_cons hstays (Ne.symm hhash), hstrip, List.cons_append]
      · obtain ⟨rfl, others, hothers⟩ := Text.exists_newline_of_not_staysInLine hc hstays
        refine ⟨kept, List.subset_cons_of_subset _ hkept, ?_⟩
        rw [hothers, stripComments_return_newline, ← hothers, hstrip]

/-- What is left of a run of one kind of characters is a run of that kind. -/
theorem exists_stripComments_run {p : Char → Bool} (hp : p '#' = false)
    (h : ∀ c ∈ run, p c = true) (rest : List Char) :
    ∃ kept, (∀ c ∈ kept, p c = true) ∧ stripComments (run ++ rest) = kept ++ stripComments rest := by
  have hhash : '#' ∉ run := fun hmem => by
    rw [h _ hmem] at hp
    cases hp
  obtain ⟨kept, hkept, hstrip⟩ := exists_stripComments_append hhash rest
  exact ⟨kept, fun c hc => h c (hkept hc), hstrip⟩

/-! ## Stripping entries -/

/-- A character that neither ends a line nor starts a comment. -/
def isPlain (c : Char) : Bool :=
  c != '\n' && c != '\r' && c != '#'

theorem stripComments_plain (h : isPlain c = true) :
    stripComments (c :: rest) = c :: stripComments rest := by
  simp only [isPlain, Bool.and_eq_true, bne_iff_ne] at h
  have hstays : StaysInLine c rest := ⟨h.1.1, fun hreturn => absurd hreturn h.1.2⟩
  exact stripComments_cons hstays h.2

theorem stripComments_append_plain (h : ∀ c ∈ run, isPlain c = true) :
    stripComments (run ++ rest) = run ++ stripComments rest := by
  induction run with
  | nil => rfl
  | cons c run ih =>
    obtain ⟨hc, hrun⟩ := List.forall_mem_cons.1 h
    rw [List.cons_append, stripComments_plain hc, ih hrun, List.cons_append]

theorem isPlain_of_isEntryChar (h : isEntryChar c = true) : isPlain c = true := by
  have hne : c ≠ '\n' ∧ c ≠ '\r' ∧ c ≠ '#' := by
    refine ⟨?_, ?_, ?_⟩ <;> (rintro rfl; cases h)
  simpa only [isPlain, Bool.and_eq_true, bne_iff_ne, and_assoc] using hne

theorem SpellsPiece.exists_stripped (h : SpellsPiece actions piece)
    (hw : ∀ a ∈ actions, a.IsWritable) (rest : List Char) :
    ∃ kept, SpellsPiece actions kept ∧ stripComments (piece ++ rest) = kept ++ stripComments rest := by
  cases h with
  | blank hspaces =>
    obtain ⟨kept, hkept, hstrip⟩ := exists_stripComments_run rfl hspaces rest
    exact ⟨kept, .blank hkept, hstrip⟩
  | @entry a before after hbefore hafter =>
    obtain ⟨kept, hkept, hstrip⟩ :=
      exists_stripComments_run rfl hbefore (a.render.toList ++ (after ++ rest))
    obtain ⟨kept', hkept', hstrip'⟩ := exists_stripComments_run rfl hafter rest
    have hplain : ∀ c ∈ a.render.toList, isPlain c = true := fun c hc =>
      isPlain_of_isEntryChar ((hw a List.mem_cons_self).isEntryChar c hc)
    refine ⟨kept ++ a.render.toList ++ kept', .entry hkept hkept', ?_⟩
    rw [List.append_assoc, List.append_assoc, hstrip, stripComments_append_plain hplain, hstrip']
    simp only [List.append_assoc]

theorem SpellsEntries.exists_stripped (h : SpellsEntries actions list)
    (hw : ∀ a ∈ actions, a.IsWritable) (rest : List Char) :
    ∃ kept, SpellsEntries actions kept ∧
      stripComments (list ++ rest) = kept ++ stripComments rest := by
  induction h with
  | last hpiece =>
    obtain ⟨kept, hkept, hstrip⟩ := hpiece.exists_stripped hw rest
    exact ⟨kept, .last hkept, hstrip⟩
  | @cons _ _ _ others hpiece _ ih =>
    obtain ⟨hfirsts, hothers⟩ := List.forall_mem_append.1 hw
    obtain ⟨kept, hkept, hstrip⟩ := hpiece.exists_stripped hfirsts (',' :: (others ++ rest))
    obtain ⟨kept', hkept', hstrip'⟩ := ih hothers
    refine ⟨kept ++ ',' :: kept', .cons hkept hkept', ?_⟩
    rw [List.append_assoc, List.cons_append, hstrip, stripComments_plain rfl, hstrip',
      List.append_assoc, List.cons_append]

theorem quote_not_mem (h : SpellsEntries actions list) (hw : ∀ a ∈ actions, a.IsWritable) :
    '\'' ∉ list := by
  induction h with
  | last hpiece => exact hpiece.not_mem hw rfl rfl
  | cons hpiece _ ih =>
    obtain ⟨hfirsts, hothers⟩ := List.forall_mem_append.1 hw
    rw [List.mem_append, List.mem_cons]
    rintro (hmem | hcomma | hmem)
    · exact hpiece.not_mem hfirsts rfl rfl hmem
    · cases hcomma
    · exact ih hothers hmem

/-- A list without comments is still enclosed when its text is stripped, and spelled from the same
actions. -/
theorem Encloses.exists_stripped (h : Encloses list text) (hspelled : SpellsEntries actions list)
    (hw : ∀ a ∈ actions, a.IsWritable) :
    ∃ kept, Encloses kept (stripComments text) ∧ SpellsEntries actions kept := by
  obtain @⟨before, between, after, hbefore, hbetween, -, hafter⟩ := h
  have hkeyword : ∀ c ∈ keyword, isPlain c = true := List.all_eq_true.1 (by decide)
  obtain ⟨before', hbefore', hb⟩ := exists_stripComments_run rfl hbefore
    (keyword ++ (between ++ '\'' :: (list ++ '\'' :: (after ++ []))))
  obtain ⟨between', hbetween', hm⟩ := exists_stripComments_run rfl hbetween
    ('\'' :: (list ++ '\'' :: (after ++ [])))
  obtain ⟨kept, hkept, hl⟩ := hspelled.exists_stripped hw ('\'' :: (after ++ []))
  obtain ⟨after', hafter', ha⟩ := exists_stripComments_run rfl hafter []
  have hstrip : stripComments (before ++ keyword ++ between ++ '\'' :: list ++ '\'' :: after) =
      before' ++ keyword ++ between' ++ '\'' :: kept ++ '\'' :: after' := by
    have hend : stripComments [] = [] := rfl
    simp only [List.append_assoc, List.cons_append, List.append_nil] at *
    rw [hb, stripComments_append_plain hkeyword, hm, stripComments_plain rfl, hl,
      stripComments_plain rfl, ha, hend, List.append_nil]
  rw [hstrip]
  exact ⟨kept, .mk hbefore' hbetween' (quote_not_mem hkept hw) hafter', hkept⟩

/-! ## Reading what is spelled -/

/-- The actions that are read off a text are those that its list is spelled from. -/
theorem parseList_eq_ok_iff :
    parseList text = .ok actions ↔
      ∃ list, Encloses list (stripComments text) ∧ SpellsEntries actions list ∧
        ∀ a ∈ actions, a.IsWritable := by
  simp only [← quotedList?_eq_some_iff, ← mapM_entries_eq_ok_iff]
  rw [parseList]
  cases quotedList? (stripComments text) with
  | none =>
    constructor
    · intro h
      cases h
    · rintro ⟨list, hlist, -⟩
      cases hlist
  | some list =>
    constructor
    · intro h
      exact ⟨list, rfl, h⟩
    · rintro ⟨list, hlist, h⟩
      cases hlist
      exact h

/-! ## Printed lists -/

theorem spellsPiece_render (a : FieldAction) : SpellsPiece [a] a.render.toList := by
  have h : SpellsPiece [a] ([] ++ a.render.toList ++ []) := .entry isSpaces_nil isSpaces_nil
  rwa [List.append_nil] at h

theorem spellsEntries_intercalate (actions : List FieldAction) :
    SpellsEntries actions (String.intercalate "," (actions.map render)).toList := by
  induction actions with
  | nil => exact .last (.blank isSpaces_nil)
  | cons a others ih =>
    cases others with
    | nil =>
      rw [List.map_singleton, String.intercalate_singleton]
      exact .last (spellsPiece_render a)
    | cons b others =>
      rw [List.map_cons, List.map_cons, toList_intercalate_cons (List.cons_ne_nil _ _)]
      exact .cons (spellsPiece_render a) ih

theorem encloses_renderList (hw : ∀ a ∈ actions, a.IsWritable) :
    Encloses (String.intercalate "," (actions.map render)).toList (renderList actions).toList := by
  have henclosed : Encloses (String.intercalate "," (actions.map render)).toList
      ([] ++ keyword ++ [' '] ++ '\'' :: (String.intercalate "," (actions.map render)).toList ++
        '\'' :: []) :=
    .mk nofun (by decide) (quote_not_mem (spellsEntries_intercalate actions) hw) nofun
  rw [renderList, String.toList_append, String.toList_append]
  exact henclosed

/-- **Field lists print and are read again as the same actions.** The actions that a list is spelled
from are read off any text that encloses it, if they can be written at all; and what is read off a
text can be written, and is read again off the text that it is printed as. -/
theorem parseList_printed :
    (∀ actions list text, (∀ a ∈ actions, a.IsWritable) → SpellsEntries actions list →
        Encloses list text → parseList text = .ok actions) ∧
      ∀ text actions, parseList text = .ok actions →
        (∀ a ∈ actions, a.IsWritable) ∧ parseList (renderList actions).toList = .ok actions := by
  have hread (actions list text) (hw : ∀ a ∈ actions, a.IsWritable)
      (hspelled : SpellsEntries actions list) (henclosed : Encloses list text) :
      parseList text = .ok actions := by
    obtain ⟨kept, hkept, hspelled'⟩ := henclosed.exists_stripped hspelled hw
    exact parseList_eq_ok_iff.2 ⟨kept, hkept, hspelled', hw⟩
  refine ⟨hread, fun text actions h => ?_⟩
  obtain ⟨_, -, -, hw⟩ := parseList_eq_ok_iff.1 h
  exact ⟨hw, hread _ _ _ hw (spellsEntries_intercalate actions) (encloses_renderList hw)⟩

/-- Two entries with white space around them and a blank one between them, on two lines. The name of
the plugin that is left out starts with the mark itself. -/
theorem parseList_printed_two :
    parseList "fields:\t' --a ,,\r\nb.C-1 '".toList =
        .ok [⟨.exclude, .plugin "-a"⟩, ⟨.include, .field ⟨"b", "C-1"⟩⟩] ∧
      parseList "fields: '--a,b.C-1'".toList =
        .ok [⟨.exclude, .plugin "-a"⟩, ⟨.include, .field ⟨"b", "C-1"⟩⟩] := by
  have hplugin : IsWritable ⟨.exclude, .plugin "-a"⟩ := ⟨by decide, nofun⟩
  have hfield : IsWritable ⟨.include, .field ⟨"b", "C-1"⟩⟩ := by
    refine ⟨by decide, fun _ plugin hplugin => ?_⟩
    cases hplugin
    decide
  have hfirst : SpellsPiece [⟨.exclude, .plugin "-a"⟩] ([' '] ++ "--a".toList ++ [' ']) :=
    .entry (by decide) (by decide)
  have hlast : SpellsPiece [⟨.include, .field ⟨"b", "C-1"⟩⟩]
      (['\r', '\n'] ++ "b.C-1".toList ++ [' ']) := .entry (by decide) (by decide)
  have henclosed : Encloses " --a ,,\r\nb.C-1 ".toList
      ([] ++ keyword ++ ['\t'] ++ '\'' :: " --a ,,\r\nb.C-1 ".toList ++ '\'' :: []) :=
    .mk nofun (by decide) (by decide) nofun
  have hread := parseList_printed.1 _ _ _
    (List.forall_mem_cons.2 ⟨hplugin, List.forall_mem_singleton.2 hfield⟩)
    (.cons hfirst (.cons (.blank isSpaces_nil) (.last hlast))) henclosed
  exact ⟨hread, (parseList_printed.2 _ _ hread).2⟩

end Flowmeter.FieldAction
