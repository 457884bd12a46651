import Flowmeter.Proofs.InterfaceMap.Reading

/-!
# White space in interface maps

A blank may be put at every place of an interface map that does not lie inside a name, and the
groups stay what they are (`Spells.insert`). No other white space may be put anywhere: what stands
in a text of the grammar is blank and outside the names (`Spells.wellSpaced`).

All white space of Unicode ends a name and makes a map that holds nothing else an empty one, but
only the four blanks are skipped between names. So a map does not take the others, wherever they
are put (`parse_push_space`, `parse_push_no_break_space`).
-/

namespace Flowmeter.InterfaceMap

variable {c sep : Char} {n : String} {ns : List String} {g : InterfaceGroup}
  {gs : List InterfaceGroup} {before after left right text : List Char}

/-! ## Places in a text -/

/-- The place between the two texts lies strictly inside a name. -/
def SplitsName (before after : List Char) : Prop :=
  (∃ c ∈ before.getLast?, isNameChar c = true) ∧ ∃ c ∈ after.head?, isNameChar c = true

theorem not_splitsName_nil : ¬ SplitsName before [] := by
  rintro ⟨-, c, hc, -⟩
  cases hc

theorem not_splitsName_of_isBlanks (h : IsBlanks after) : ¬ SplitsName before after := by
  rintro ⟨-, c, hc, hname⟩
  rw [isNameChar_of_isBlank (h c (List.mem_of_mem_head? hc))] at hname
  cases hname

theorem not_isBlanks_splitsName (h : IsBlanks before) : ¬ SplitsName before after := by
  rintro ⟨⟨c, hc, hname⟩, -⟩
  rw [isNameChar_of_isBlank (h c (List.mem_of_getLast? hc))] at hname
  cases hname

/-- Behind a separator, only what stands after it counts. -/
theorem splitsName_append_left (hsep : isNameChar sep = false) :
    SplitsName (left ++ sep :: before) after ↔ SplitsName before after := by
  refine and_congr_left fun _ => ?_
  cases before with
  | nil => simp [hsep]
  | cons c before =>
    rw [List.getLast?_append, List.getLast?_cons_cons,
      List.getLast?_eq_some_getLast (List.cons_ne_nil c before), Option.some_or]

/-- In front of a separator, only what stands before it counts. -/
theorem splitsName_append_right (hsep : isNameChar sep = false) :
    SplitsName before (after ++ sep :: right) ↔ SplitsName before after := by
  refine and_congr_right fun _ => ?_
  cases after with
  | nil => simp [hsep]
  | cons c after => rfl

/-- A place in a text with a separator lies on one side of it. -/
theorem place_cases (hsep : isNameChar sep = false) (h : before ++ after = left ++ sep :: right)
    (hplace : ¬ SplitsName before after) :
    (∃ after', left = before ++ after' ∧ after = after' ++ sep :: right ∧
      ¬ SplitsName before after') ∨
    ∃ before', before = left ++ sep :: before' ∧ right = before' ++ after ∧
      ¬ SplitsName before' after := by
  rcases List.append_eq_append_iff.1 h with ⟨after', rfl, rfl⟩ | ⟨before', rfl, hright⟩
  · exact .inl ⟨after', rfl, rfl, mt (splitsName_append_right hsep).2 hplace⟩
  · rcases List.cons_eq_append_iff.1 hright with ⟨rfl, rfl⟩ | ⟨before', rfl, rfl⟩
    · refine .inl ⟨[], by simp, by simp, not_splitsName_nil⟩
    · exact .inr ⟨before', rfl, rfl, mt (splitsName_append_left hsep).2 hplace⟩

/-- All white space of the text is blank and outside the names. -/
def WellSpaced (text : List Char) : Prop :=
  ∀ before c after, text = before ++ c :: after → Text.isSpace c = true →
    Text.isBlank c = true ∧ ¬ SplitsName before after

/-- Texts on both sides of a separator, which is no white space. -/
theorem WellSpaced.append (hsep : isNameChar sep = false) (hspace : Text.isSpace sep = false)
    (hleft : WellSpaced left) (hright : WellSpaced right) : WellSpaced (left ++ sep :: right) := by
  intro before c after h hc
  rcases List.append_eq_append_iff.1 h with ⟨before', rfl, hafter⟩ | ⟨after', rfl, hafter⟩
  · rcases List.cons_eq_append_iff.1 hafter with ⟨rfl, hcons⟩ | ⟨before', rfl, rfl⟩
    · cases hcons
      rw [hspace] at hc
      cases hc
    · obtain ⟨hblank, hplace⟩ := hright _ _ _ rfl hc
      exact ⟨hblank, mt (splitsName_append_left hsep).1 hplace⟩
  · rcases List.cons_eq_append_iff.1 hafter with ⟨rfl, hcons⟩ | ⟨after', rfl, rfl⟩
    · cases hcons
      rw [hspace] at hc
      cases hc
    · obtain ⟨hblank, hplace⟩ := hleft _ _ _ rfl hc
      exact ⟨hblank, mt (splitsName_append_right hsep).1 hplace⟩

/-! ## Blanks and names -/

theorem IsBlanks.append (hleft : IsBlanks left) (hright : IsBlanks right) :
    IsBlanks (left ++ right) :=
  List.forall_mem_append.2 ⟨hleft, hright⟩

theorem IsBlanks.insert (h : IsBlanks (before ++ after)) (hc : Text.isBlank c = true) :
    IsBlanks (before ++ c :: after) := by
  obtain ⟨hbefore, hafter⟩ := List.forall_mem_append.1 h
  exact List.forall_mem_append.2 ⟨hbefore, List.forall_mem_cons.2 ⟨hc, hafter⟩⟩

theorem IsBlanks.wellSpaced (h : IsBlanks text) : WellSpaced text := by
  rintro before c after rfl -
  obtain ⟨hbefore, hafter⟩ := List.forall_mem_append.1 h
  exact ⟨hafter c List.mem_cons_self, not_isBlanks_splitsName hbefore⟩

/-- Between two parts of a name there is only room if one of them is empty. -/
theorem IsName.eq_nil_or_eq_nil (h : IsName (left ++ right))
    (hplace : ¬ SplitsName (before ++ left) (right ++ after)) : left = [] ∨ right = [] := by
  cases right with
  | nil => exact .inr rfl
  | cons d right =>
    obtain hleft | ⟨left, c, rfl⟩ := List.eq_nil_or_concat left
    · exact .inl hleft
    · refine absurd ⟨⟨c, ?_, h.2 c (by simp)⟩, d, rfl, h.2 d (by simp)⟩ hplace
      rw [List.concat_eq_append, ← List.append_assoc, List.getLast?_concat]
      rfl

theorem SpellsName.insert (h : SpellsName n (before ++ after)) (hc : Text.isBlank c = true)
    (hplace : ¬ SplitsName before after) : SpellsName n (before ++ c :: after) := by
  generalize htext : before ++ after = text at h
  obtain @⟨front, letters, back, hfront, hletters, hback⟩ := h
  rw [List.append_assoc] at htext
  rcases List.append_eq_append_iff.1 htext with ⟨front', rfl, rfl⟩ | ⟨before', rfl, hrest⟩
  · -- in front of the name
    have hname : SpellsName (String.ofList letters) (before ++ c :: front' ++ letters ++ back) :=
      .mk (hfront.insert hc) hletters hback
    rwa [List.append_assoc, List.append_assoc] at hname
  · rw [List.append_assoc]
    rcases List.append_eq_append_iff.1 hrest with ⟨back', rfl, rfl⟩ | ⟨letters', rfl, rfl⟩
    · -- behind the name
      have hname : SpellsName (String.ofList letters) (front ++ letters ++ (back' ++ c :: after)) :=
        .mk hfront hletters (hback.insert hc)
      rwa [List.append_assoc, ← List.append_assoc letters] at hname
    · -- between two parts of the name
      rcases hletters.eq_nil_or_eq_nil hplace with rfl | rfl
      · have hname : SpellsName (String.ofList letters') (front ++ [c] ++ letters' ++ back) :=
          .mk (hfront.append (List.forall_mem_singleton.2 hc)) hletters hback
        rwa [List.append_assoc, List.append_assoc] at hname
      · rw [List.append_nil] at hletters ⊢
        have hname : SpellsName (String.ofList before') (front ++ before' ++ c :: back) :=
          .mk hfront hletters (List.forall_mem_cons.2 ⟨hc, hback⟩)
        rwa [List.append_assoc] at hname

theorem isSpace_of_isNameChar (h : isNameChar c = true) : Text.isSpace c = false := by
  simp only [isNameChar, Bool.and_eq_true, Bool.not_eq_true'] at h
  exact h.2

theorem SpellsName.wellSpaced (h : SpellsName n text) : WellSpaced text := by
  obtain @⟨front, letters, back, hfront, hletters, hback⟩ := h
  intro before c after htext hc
  have hnot : c ∉ letters := by
    intro hmem
    rw [isSpace_of_isNameChar (hletters.2 c hmem)] at hc
    cases hc
  have hmem : c ∈ front ++ letters ++ back := by simp [htext]
  have hblank : Text.isBlank c = true := by
    rcases List.mem_append.1 hmem with hmem | hmem
    · exact hfront c ((List.mem_append.1 hmem).resolve_right hnot)
    · exact hback c hmem
  refine ⟨hblank, ?_⟩
  rw [List.append_assoc] at htext
  rcases List.append_eq_append_iff.1 htext with ⟨before', rfl, hrest⟩ | ⟨front', rfl, -⟩
  · rcases List.append_eq_append_iff.1 hrest with ⟨back', rfl, rfl⟩ | ⟨letters', rfl, hcons⟩
    · exact not_splitsName_of_isBlanks (List.forall_mem_cons.1 (List.forall_mem_append.1 hback).2).2
    · rcases List.cons_eq_append_iff.1 hcons with ⟨rfl, rfl⟩ | ⟨letters', rfl, rfl⟩
      · exact not_splitsName_of_isBlanks (List.forall_mem_cons.1 hback).2
      · exact absurd (by simp) hnot
  · exact not_isBlanks_splitsName (List.forall_mem_append.1 hfront).1

/-! ## Names with commas between them -/

theorem SpellsNames.insert (h : SpellsNames ns (before ++ after)) (hc : Text.isBlank c = true)
    (hplace : ¬ SplitsName before after) : SpellsNames ns (before ++ c :: after) := by
  generalize htext : before ++ after = text at h
  induction h generalizing before with
  | single hn =>
    subst htext
    exact .single (hn.insert hc hplace)
  | cons hn hr ih =>
    rcases place_cases rfl htext hplace with ⟨after, rfl, rfl, hside⟩ | ⟨before, rfl, rfl, hside⟩
    · have hnames := SpellsNames.cons (hn.insert hc hside) hr
      rwa [List.append_assoc] at hnames
    · have hnames := SpellsNames.cons hn (ih hside rfl)
      rwa [List.append_assoc]

theorem SpellsNames.wellSpaced (h : SpellsNames ns text) : WellSpaced text := by
  induction h with
  | single hn => exact hn.wellSpaced
  | cons hn _ ih => exact hn.wellSpaced.append rfl rfl ih

/-! ## Items -/

theorem SpellsItem.insert (h : SpellsItem g (before ++ after)) (hc : Text.isBlank c = true)
    (hplace : ¬ SplitsName before after) : SpellsItem g (before ++ c :: after) := by
  generalize htext : before ++ after = text at h
  cases h with
  | name hn =>
    subst htext
    exact .name (hn.insert hc hplace)
  | group hfront hns hback =>
    rw [List.append_assoc, List.cons_append] at htext
    rcases place_cases rfl htext hplace with ⟨front, rfl, rfl, -⟩ | ⟨before, rfl, hinner, hinside⟩
    · have hgroup := SpellsItem.group (hfront.insert hc) hns hback
      simpa only [List.append_assoc, List.cons_append] using hgroup
    · rcases place_cases rfl hinner.symm hinside with
        ⟨after, rfl, rfl, hside⟩ | ⟨back, rfl, rfl, -⟩
      · have hgroup := SpellsItem.group hfront (hns.insert hc hside) hback
        simpa only [List.append_assoc, List.cons_append] using hgroup
      · have hgroup := SpellsItem.group hfront hns (hback.insert hc)
        simpa only [List.append_assoc, List.cons_append] using hgroup

theorem SpellsItem.wellSpaced (h : SpellsItem g text) : WellSpaced text := by
  cases h with
  | name hn => exact hn.wellSpaced
  | group hfront hns hback =>
    rw [List.append_assoc]
    exact hfront.wellSpaced.append rfl rfl (hns.wellSpaced.append rfl rfl hback.wellSpaced)

/-! ## Interface maps -/

theorem Spells.insert (h : Spells gs (before ++ after)) (hc : Text.isBlank c = true)
    (hplace : ¬ SplitsName before after) : Spells gs (before ++ c :: after) := by
  generalize htext : before ++ after = text at h
  induction h generalizing before with
  | single hg =>
    subst htext
    exact .single (hg.insert hc hplace)
  | cons hg hr ih =>
    rcases place_cases rfl htext hplace with ⟨after, rfl, rfl, hside⟩ | ⟨before, rfl, rfl, hside⟩
    · have hgroups := Spells.cons (hg.insert hc hside) hr
      rwa [List.append_assoc] at hgroups
    · have hgroups := Spells.cons hg (ih hside rfl)
      rwa [List.append_assoc]

theorem Spells.wellSpaced (h : Spells gs text) : WellSpaced text := by
  induction h with
  | single hg => exact hg.wellSpaced
  | cons hg _ ih => exact hg.wellSpaced.append rfl rfl ih

/-- **White space may be put into an interface map exactly where it is a blank and does not lie
inside a name**, and it then changes nothing: at any other place, and of any other kind, it makes a
map that was read one that is refused. -/
theorem parse_push_space {before after : String} {gs : List InterfaceGroup} {c : Char}
    (h : parse (before ++ after) = .ok gs) (hc : Text.isSpace c = true) :
    (parse (before.push c ++ after) = .ok gs ↔
      Text.isBlank c = true ∧ ¬ SplitsName before.toList after.toList) ∧
    ∀ gs', parse (before.push c ++ after) = .ok gs' → gs' = gs := by
  have htext : (before.push c ++ after).toList = before.toList ++ c :: after.toList := by simp
  have hread : Spells gs (before.toList ++ after.toList) := by
    rw [← String.toList_append]
    exact parse_eq_ok_iff.1 h
  -- whatever it is read as, the white space in it is well placed
  have hplaced {gs' : List InterfaceGroup} (h' : parse (before.push c ++ after) = .ok gs') :
      Text.isBlank c = true ∧ ¬ SplitsName before.toList after.toList :=
    (parse_eq_ok_iff.1 h').wellSpaced _ _ _ htext hc
  have hsame (hplace : Text.isBlank c = true ∧ ¬ SplitsName before.toList after.toList) :
      parse (before.push c ++ after) = .ok gs := by
    rw [parse_eq_ok_iff, htext]
    exact hread.insert hplace.1 hplace.2
  refine ⟨⟨hplaced, hsame⟩, fun gs' h' => ?_⟩
  rw [hsame (hplaced h')] at h'
  exact (Except.ok.inj h').symm

/-- A line feed between a name and a comma. -/
theorem parse_push_line_feed :
    parse ("a" ++ ",b") = .ok [⟨["a"]⟩, ⟨["b"]⟩] ∧
      parse ("a".push '\n' ++ ",b") = .ok [⟨["a"]⟩, ⟨["b"]⟩] := by
  have h : parse ("a" ++ ",b") = .ok [⟨["a"]⟩, ⟨["b"]⟩] := by with_unfolding_all rfl
  have hplace : ¬ SplitsName "a".toList ",b".toList := by simp [SplitsName, isNameChar]
  exact ⟨h, (parse_push_space h rfl).1.2 ⟨rfl, hplace⟩⟩

/-- A no-break space behind a name is white space, and is refused at its place. -/
theorem parse_push_no_break_space :
    parse "a" = .ok [⟨["a"]⟩] ∧ Text.isSpace '\u00a0' = true ∧ ¬ SplitsName "a".toList [] ∧
      parse ("a".push '\u00a0') = .error ⟨.missingSeparator, 1⟩ := by
  refine ⟨?_, rfl, not_splitsName_nil, ?_⟩
  · with_unfolding_all rfl
  · with_unfolding_all rfl

end Flowmeter.InterfaceMap
