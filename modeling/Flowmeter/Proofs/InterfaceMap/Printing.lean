import Flowmeter.Proofs.InterfaceMap.Reading
import Flowmeter.Settings.Meter

/-!
# Printed interface maps

What is printed of groups that were read is a text of these groups again (`Spells.printed`), and the
least one: every text of theirs is the printed one with more characters in it (`Spells.sublist`). So
printing leaves out blanks, and the parentheses of a single name (`Spells.count_open`).

Output settings are written with the printed map, so what is read of written settings is the
settings, if their groups come from a text (`OutputSettings.read_toValue`).
-/

namespace Flowmeter

namespace InterfaceMap

open scoped List

variable {n : String} {ns : List String} {g : InterfaceGroup} {gs : List InterfaceGroup}
  {text : List Char}

/-! ## Names -/

theorem SpellsName.isName (h : SpellsName n text) : IsName n.toList := by
  obtain ⟨_, hn, _⟩ := h
  rwa [String.toList_ofList]

/-- A name without its blanks is a text of the name. -/
theorem SpellsName.printed (h : SpellsName n text) : SpellsName n n.toList := by
  have hmk : SpellsName (String.ofList n.toList) ([] ++ n.toList ++ []) :=
    .mk isBlanks_nil h.isName isBlanks_nil
  rwa [String.ofList_toList, List.nil_append, List.append_nil] at hmk

/-- Any text of a name is the name with blanks around it. -/
theorem SpellsName.sublist (h : SpellsName n text) : n.toList <+ text := by
  obtain @⟨before, letters, after, _, _, _⟩ := h
  rw [String.toList_ofList]
  exact (List.infix_append before letters after).sublist

/-- No name holds a parenthesis. -/
theorem SpellsName.count_open (h : SpellsName n text) : n.toList.count '(' = 0 :=
  List.count_eq_zero.2 fun hmem => absurd (h.isName.2 '(' hmem) (by decide)

/-! ## Names with commas between them -/

/-- A group has a name at least. -/
theorem SpellsNames.ne_nil (h : SpellsNames ns text) : ns ≠ [] := by
  cases h <;> exact List.cons_ne_nil _ _

theorem toList_intercalate_cons (h : ns ≠ []) :
    (String.intercalate "," (n :: ns)).toList =
      n.toList ++ ',' :: (String.intercalate "," ns).toList := by
  rw [String.intercalate_cons_of_ne_nil h, String.toList_append, String.toList_append,
    List.append_assoc]
  rfl

/-- Names with bare commas between them are a text of the names. -/
theorem SpellsNames.printed (h : SpellsNames ns text) :
    SpellsNames ns (String.intercalate "," ns).toList := by
  induction h with
  | single hn =>
    rw [String.intercalate_singleton]
    exact .single hn.printed
  | cons hn hr ih =>
    rw [toList_intercalate_cons hr.ne_nil]
    exact .cons hn.printed ih

theorem SpellsNames.sublist (h : SpellsNames ns text) :
    (String.intercalate "," ns).toList <+ text := by
  induction h with
  | single hn =>
    rw [String.intercalate_singleton]
    exact hn.sublist
  | cons hn hr ih =>
    rw [toList_intercalate_cons hr.ne_nil]
    exact hn.sublist.append (ih.cons_cons ',')

theorem SpellsNames.count_open (h : SpellsNames ns text) :
    (String.intercalate "," ns).toList.count '(' = 0 := by
  induction h with
  | single hn =>
    rw [String.intercalate_singleton]
    exact hn.count_open
  | cons hn hr ih =>
    rw [toList_intercalate_cons hr.ne_nil, List.count_append, hn.count_open,
      List.count_cons_of_ne (by decide), ih]

/-! ## Items -/

/-- Only the parentheses of a single name are left out. -/
theorem SpellsNames.render_cases (h : SpellsNames ns text) :
    (∃ n, ns = [n] ∧ SpellsName n text) ∨
      1 < ns.length ∧ (InterfaceGroup.render ⟨ns⟩).toList =
        '(' :: (String.intercalate "," ns).toList ++ [')'] := by
  cases h with
  | single hn => exact .inl ⟨_, rfl, hn⟩
  | @cons n ns _ _ hn hr =>
    obtain ⟨m, ns, rfl⟩ := List.exists_cons_of_ne_nil hr.ne_nil
    have hrender : InterfaceGroup.render ⟨n :: m :: ns⟩ =
        "(" ++ String.intercalate "," (n :: m :: ns) ++ ")" := rfl
    refine .inr ⟨by simp, ?_⟩
    rw [hrender, String.toList_append, String.toList_append]
    rfl

/-- A printed group is a text of the group, with parentheses only where it has more than one
name. -/
theorem SpellsItem.printed (h : SpellsItem g text) : SpellsItem g g.render.toList := by
  cases h with
  | name hn => exact .name hn.printed
  | group _ hns _ =>
    obtain ⟨n, rfl, hn⟩ | ⟨-, hrender⟩ := hns.render_cases
    · exact .name hn.printed
    · rw [hrender]
      exact .group isBlanks_nil hns.printed isBlanks_nil

/-- Every text of a group holds the printed one. -/
theorem SpellsItem.sublist (h : SpellsItem g text) : g.render.toList <+ text := by
  cases h with
  | name hn => exact hn.sublist
  | @group ns before text after _ hns _ =>
    have hgroup : '(' :: text ++ [')'] <+ before ++ '(' :: text ++ ')' :: after := by
      have hinfix := List.infix_append before ('(' :: text ++ [')']) after
      rw [List.append_assoc before, List.append_assoc ('(' :: text), List.singleton_append,
        ← List.append_assoc] at hinfix
      exact hinfix.sublist
    obtain ⟨n, rfl, hn⟩ | ⟨-, hrender⟩ := hns.render_cases
    · have hinner : text <+ '(' :: text ++ [')'] :=
        (List.sublist_cons_self _ _).trans (List.sublist_append_left _ _)
      exact hn.sublist.trans (hinner.trans hgroup)
    · rw [hrender]
      exact ((hns.sublist.cons_cons '(').append (List.Sublist.refl _)).trans hgroup

/-- A group is printed with parentheses exactly if it has more than one name. -/
theorem SpellsItem.count_open (h : SpellsItem g text) :
    g.render.toList.count '(' = if 1 < g.names.length then 1 else 0 := by
  cases h with
  | name hn => exact hn.count_open
  | group _ hns _ =>
    obtain ⟨n, rfl, hn⟩ | ⟨hlength, hrender⟩ := hns.render_cases
    · exact hn.count_open
    · rw [hrender, List.count_append, List.count_cons_self, hns.count_open, if_pos hlength]
      rfl

/-! ## Interface maps -/

theorem Spells.ne_nil (h : Spells gs text) : gs ≠ [] := by
  cases h <;> exact List.cons_ne_nil _ _

theorem render_singleton (g : InterfaceGroup) : render [g] = g.render :=
  String.intercalate_singleton

theorem toList_render_cons (h : gs ≠ []) :
    (render (g :: gs)).toList = g.render.toList ++ ',' :: (render gs).toList :=
  toList_intercalate_cons fun hnil => h (List.map_eq_nil_iff.1 hnil)

/-- A printed map is a text of its groups. -/
theorem Spells.printed (h : Spells gs text) : Spells gs (render gs).toList := by
  induction h with
  | single hg =>
    rw [render_singleton]
    exact .single hg.printed
  | cons hg hr ih =>
    rw [toList_render_cons hr.ne_nil]
    exact .cons hg.printed ih

/-- Every text of the groups holds the printed one. -/
theorem Spells.sublist (h : Spells gs text) : (render gs).toList <+ text := by
  induction h with
  | single hg =>
    rw [render_singleton]
    exact hg.sublist
  | cons hg hr ih =>
    rw [toList_render_cons hr.ne_nil]
    exact hg.sublist.append (ih.cons_cons ',')

/-- As many parentheses are opened as there are groups of several names. -/
theorem Spells.count_open (h : Spells gs text) :
    (render gs).toList.count '(' = gs.countP (1 < ·.names.length) := by
  induction h with
  | single hg =>
    rw [render_singleton, hg.count_open, List.countP_singleton]
    simp only [decide_eq_true_eq]
  | cons hg hr ih =>
    rw [toList_render_cons hr.ne_nil, List.count_append, hg.count_open,
      List.count_cons_of_ne (by decide), ih, List.countP_cons, Nat.add_comm]
    simp only [decide_eq_true_eq]

/-- What was read once is read again from the printed map. -/
theorem parse_render {text : String} (h : parse text = .ok gs) : parse (render gs) = .ok gs :=
  parse_eq_ok_iff.2 (parse_eq_ok_iff.1 h).printed

end InterfaceMap

/-! ## Written settings -/

section Written

open Settings (Value Reading Source)

variable {α : Type} {gs : List InterfaceGroup} {read : Value → Reading α}

/-- A field that is there is read, whatever stands in for it otherwise. -/
theorem Settings.readField_of_lookup {entries : List (String × Value)} {position : Nat}
    {name : String} {v : Value} {default a : α} (hv : entries.lookup name = some v)
    (hread : read v = .ok a) :
    Settings.readField (.dict entries) position name default read = .ok a := by
  simp only [Settings.readField, Value.field?, hv, Option.map_some, hread]
  rfl

/-- An absent value is written as nothing and read so. -/
theorem Settings.readOptional_textOrNull {write : α → String} {stored : Option α}
    (h : ∀ a ∈ stored, read (.text (write a)) = .ok a) :
    Settings.readOptional read (OutputSettings.textOrNull (stored.map write)) = .ok stored := by
  cases stored with
  | none => rfl
  | some a =>
    change some <$> read (.text (write a)) = _
    rw [h a rfl]
    rfl

theorem OutputSettings.readInterfaces_of_parse {text : String}
    (h : InterfaceMap.parse text = .ok gs) : readInterfaces (.text text) = .ok gs := by
  simp only [readInterfaces, Settings.readText, bind, Except.bind, h]
  rfl

/-- Written settings are read back, if their groups are read back from the printed map. -/
theorem OutputSettings.read_toValue {settings : OutputSettings} (source : Source)
    (h : ∀ gs ∈ settings.interfaces, InterfaceMap.parse (InterfaceMap.render gs) = .ok gs) :
    OutputSettings.read source settings.toValue = .ok settings := by
  have hfields : Settings.readField settings.toValue 0 "fields" none
      (Settings.readOptional Settings.readText) = .ok settings.fields := by
    have hread : Settings.readOptional Settings.readText (textOrNull (settings.fields.map id)) =
        .ok settings.fields := Settings.readOptional_textOrNull fun _ _ => rfl
    rw [Option.map_id_fun] at hread
    exact Settings.readField_of_lookup rfl hread
  have hinterfaces : Settings.readField settings.toValue 1 "interfaces" none
      (Settings.readOptional readInterfaces) = .ok settings.interfaces :=
    Settings.readField_of_lookup rfl
      (Settings.readOptional_textOrNull fun gs hgs => readInterfaces_of_parse (h gs hgs))
  simp only [OutputSettings.read, hfields, hinterfaces]
  rfl

end Written

namespace InterfaceMap

open scoped List

/-- **Groups that were read are printed as a text that is read into them again**, and that is
printed as it stands. It is the least text of these groups: any other one has all its characters,
in order, and more; and only groups of several names keep their parentheses. So output settings
whose groups were read are written and read without change, from either source. -/
theorem render_canonical :
    (∀ (text : String) (gs : List InterfaceGroup), parse text = .ok gs →
      parse (render gs) = .ok gs ∧ (parse (render gs)).map render = .ok (render gs) ∧
        (render gs).toList <+ text.toList ∧
        (render gs).toList.count '(' = gs.countP (1 < ·.names.length)) ∧
    ∀ (settings : OutputSettings) (source : Settings.Source),
      (∀ gs ∈ settings.interfaces, ∃ text, parse text = .ok gs) →
        OutputSettings.read source settings.toValue = .ok settings := by
  constructor
  · intro text gs h
    have hspells : Spells gs text.toList := parse_eq_ok_iff.1 h
    refine ⟨parse_render h, ?_, hspells.sublist, hspells.count_open⟩
    rw [parse_render h]
    rfl
  · intro settings source h
    refine OutputSettings.read_toValue source fun gs hgs => ?_
    obtain ⟨text, htext⟩ := h gs hgs
    exact parse_render htext

/-- Blanks and the parentheses of a single name are left out. -/
theorem render_canonical_spaced :
    let gs : List InterfaceGroup := [⟨["a"]⟩, ⟨["b", "c"]⟩, ⟨["d"]⟩]
    parse "a,( b ,c),(d)" = .ok gs ∧ render gs = "a,(b,c),d" ∧ parse "a,(b,c),d" = .ok gs ∧
      OutputSettings.read .document (OutputSettings.toValue ⟨some "http", some gs⟩) =
        .ok ⟨some "http", some gs⟩ := by
  intro gs
  have ha : SpellsName "a" ([] ++ ['a'] ++ []) := .mk (by decide) (by decide) (by decide)
  have hb : SpellsName "b" ([' '] ++ ['b'] ++ [' ']) := .mk (by decide) (by decide) (by decide)
  have hc : SpellsName "c" ([] ++ ['c'] ++ []) := .mk (by decide) (by decide) (by decide)
  have hd : SpellsName "d" ([] ++ ['d'] ++ []) := .mk (by decide) (by decide) (by decide)
  have hseveral : SpellsItem ⟨["b", "c"]⟩ ([] ++ '(' :: " b ,c".toList ++ ')' :: []) :=
    .group (by decide) (.cons hb (.single hc)) (by decide)
  have hsingle : SpellsItem ⟨["d"]⟩ ([] ++ '(' :: "d".toList ++ ')' :: []) :=
    .group (by decide) (.single hd) (by decide)
  have hparse : parse "a,( b ,c),(d)" = .ok gs :=
    parse_eq_ok_iff.2 (.cons (.name ha) (.cons hseveral (.single hsingle)))
  have hrender : render gs = "a,(b,c),d" := by decide
  obtain ⟨hprint, hsettings⟩ := render_canonical
  refine ⟨hparse, hrender, hrender ▸ (hprint _ gs hparse).1, hsettings _ .document ?_⟩
  intro gs' hgs
  obtain rfl : gs = gs' := Option.mem_some.1 hgs
  exact ⟨_, hparse⟩

end InterfaceMap

end Flowmeter
