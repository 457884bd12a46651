import Flowmeter.Proofs.FieldList.Comments

/-!
# Entries of field lists

An entry is read as an action exactly if it is what the action is written as
(`parseEntry_eq_ok_iff`): the mark `-` is part of no other entry, because the name that an included
plugin goes by does not start with it. White space around an entry is trimmed and blank entries are
skipped, so the actions read off a list are those that the grammar spells it from
(`mapM_entries_eq_ok_iff`).
-/

namespace Flowmeter.FieldAction

open InterfaceMap (StartsWithout startsWithout_cons startsWithout_nil isSpace_of_isEmpty_trim)

variable {a : FieldAction} {scope : Scope} {c : Char} {name : List Char}
  {text core before after piece rest : List Char} {actions : List FieldAction}

/-! ## Identifiers -/

theorem isIdentifier_iff :
    isIdentifier name = true ↔ name ≠ [] ∧ ∀ c ∈ name, isIdentifierChar c = true := by
  rw [isIdentifier, Bool.and_eq_true, Bool.not_eq_true', List.isEmpty_eq_false_iff,
    List.all_eq_true]

/-- Letters and digits lie between `0` and `z`, which is all that is needed of them. -/
theorem toNat_bounds_of_isAlphanum (h : c.isAlphanum = true) : 0x30 ≤ c.toNat ∧ c.toNat ≤ 0x7A := by
  obtain halpha | hdigit := Bool.or_eq_true_iff.1 h
  · obtain hupper | hlower := Bool.or_eq_true_iff.1 halpha
    · have hbounds : 0x41 ≤ c.val ∧ c.val ≤ 0x5A := of_decide_eq_true hupper
      have hbounds : 0x41 ≤ c.toNat ∧ c.toNat ≤ 0x5A := hbounds
      omega
    · obtain ⟨hge, hle⟩ := Bool.and_eq_true_iff.1 hlower
      have hge : 0x61 ≤ c.toNat := of_decide_eq_true hge
      have hle : c.toNat ≤ 0x7A := of_decide_eq_true hle
      omega
  · obtain ⟨hge, hle⟩ := Char.isDigit_iff_toNat.1 hdigit
    exact ⟨hge, Nat.le_trans hle (by decide)⟩

theorem isSpace_of_isIdentifierChar (h : isIdentifierChar c = true) : Text.isSpace c = false := by
  simp only [isIdentifierChar, Bool.or_eq_true, beq_iff_eq] at h
  obtain (h | rfl) | rfl := h
  · have hbounds := toNat_bounds_of_isAlphanum h
    simp only [Text.isSpace, Bool.or_eq_false_iff, Bool.and_eq_false_iff, decide_eq_false_iff_not,
      beq_eq_false_iff_ne]
    omega
  · rfl
  · rfl

/-! ## Scopes -/

/-- The point that separates plugin and field is in no name. -/
theorem dot_not_mem (h : isIdentifier name = true) : '.' ∉ name := by
  intro hmem
  cases (isIdentifier_iff.1 h).2 _ hmem

/-- A name alone is that of a plugin. -/
theorem scopeOf?_of_isIdentifier (h : isIdentifier name = true) :
    scopeOf? name = some (.plugin (String.ofList name)) := by
  have hstar : name ≠ ['*'] := by
    rintro rfl
    cases h
  rw [scopeOf?, if_neg hstar, Text.span_eq_nil_iff.2 ⟨rfl, dot_not_mem h⟩]
  exact if_pos h

/-- Two names with a point between them are those of a plugin and its field. -/
theorem scopeOf?_append_dot {plugin field : List Char} (hp : isIdentifier plugin = true)
    (hf : isIdentifier field = true) :
    scopeOf? (plugin ++ '.' :: field) =
      some (.field ⟨String.ofList plugin, String.ofList field⟩) := by
  have hstar : plugin ++ '.' :: field ≠ ['*'] := by
    intro h
    have hdot : '.' ∈ ['*'] := h ▸ List.mem_append_right plugin List.mem_cons_self
    cases List.mem_singleton.1 hdot
  rw [scopeOf?, if_neg hstar, Text.span_eq_cons_iff.2 ⟨rfl, rfl, dot_not_mem hp⟩]
  exact if_pos (by rw [hp, hf]; rfl)

theorem toList_renderScope_field (d : Descriptor) :
    (renderScope (.field d)).toList = d.plugin.toList ++ '.' :: d.field.toList := by
  rw [renderScope, Descriptor.render, String.toList_append, String.toList_append,
    List.append_assoc]
  rfl

/-- A text stands for a scope exactly if it is what the scope is written as. -/
theorem scopeOf?_eq_some_iff :
    scopeOf? text = some scope ↔
      text = (renderScope scope).toList ∧
        ∀ name ∈ scope.names, isIdentifier name.toList = true := by
  constructor
  · intro h
    unfold scopeOf? at h
    split at h
    · next hstar =>
      cases h
      exact ⟨hstar, nofun⟩
    · split at h
      · next plugin hspan =>
        obtain ⟨rfl, -⟩ := Text.span_eq_nil_iff.1 hspan
        split at h
        · next hplugin =>
          cases h
          refine ⟨String.toList_ofList.symm, fun name hname => ?_⟩
          rw [List.mem_singleton.1 hname, String.toList_ofList]
          exact hplugin
        · cases h
      · next plugin dot field hspan =>
        obtain ⟨rfl, rfl, -⟩ := Text.span_eq_cons_iff.1 hspan
        split at h
        · next hboth =>
          cases h
          obtain ⟨hplugin, hfield⟩ := Bool.and_eq_true_iff.1 hboth
          refine ⟨?_, List.forall_mem_cons.2 ⟨?_, List.forall_mem_singleton.2 ?_⟩⟩
          · rw [toList_renderScope_field, String.toList_ofList, String.toList_ofList]
          · rwa [String.toList_ofList]
          · rwa [String.toList_ofList]
        · cases h
  · rintro ⟨rfl, hnames⟩
    cases scope with
    | global => rfl
    | plugin name =>
      rw [renderScope, scopeOf?_of_isIdentifier (hnames name List.mem_cons_self),
        String.ofList_toList]
    | field d =>
      have hplugin := hnames d.plugin List.mem_cons_self
      have hfield := hnames d.field (List.mem_cons_of_mem _ List.mem_cons_self)
      rw [toList_renderScope_field, scopeOf?_append_dot hplugin hfield, String.ofList_toList,
        String.ofList_toList]

/-- The first character of a scope is that of its plugin, if it has one. -/
theorem head?_renderScope (hnames : ∀ name ∈ scope.names, isIdentifier name.toList = true) :
    (renderScope scope).toList.head? = some '-' ↔
      ∃ plugin ∈ scope.names.head?, plugin.toList.head? = some '-' := by
  cases scope with
  | global => simp [Scope.names, renderScope]
  | plugin name => simp [Scope.names, renderScope]
  | field d =>
    have hplugin := (isIdentifier_iff.1 (hnames d.plugin List.mem_cons_self)).1
    obtain ⟨c, plugin, hcons⟩ := List.exists_cons_of_ne_nil hplugin
    simp [Scope.names, toList_renderScope_field, hcons]

/-! ## Entries -/

theorem toList_render_include (scope : Scope) :
    (render ⟨.include, scope⟩).toList = (renderScope scope).toList :=
  rfl

theorem toList_render_exclude (scope : Scope) :
    (render ⟨.exclude, scope⟩).toList = '-' :: (renderScope scope).toList := by
  rw [render, String.toList_append]
  rfl

/-- The characters that entries are written with. -/
def isEntryChar (c : Char) : Bool :=
  isIdentifierChar c || c == '*' || c == '.'

/-- Names are written with the characters of entries. -/
theorem isEntryChar_of_isIdentifier (h : isIdentifier name = true) :
    ∀ c ∈ name, isEntryChar c = true := by
  intro c hc
  rw [isEntryChar, (isIdentifier_iff.1 h).2 c hc, Bool.true_or, Bool.true_or]

/-- So is all of an action. -/
theorem IsWritable.isEntryChar (h : a.IsWritable) :
    ∀ c ∈ a.render.toList, FieldAction.isEntryChar c = true := by
  obtain ⟨effect, scope⟩ := a
  have hscope : ∀ c ∈ (renderScope scope).toList, FieldAction.isEntryChar c = true := by
    cases scope with
    | global => exact List.forall_mem_singleton.2 rfl
    | plugin name => exact isEntryChar_of_isIdentifier (h.isIdentifier name List.mem_cons_self)
    | field d =>
      rw [toList_renderScope_field]
      have hplugin := h.isIdentifier d.plugin List.mem_cons_self
      have hfield := h.isIdentifier d.field (List.mem_cons_of_mem _ List.mem_cons_self)
      exact List.forall_mem_append.2 ⟨isEntryChar_of_isIdentifier hplugin,
        List.forall_mem_cons.2 ⟨rfl, isEntryChar_of_isIdentifier hfield⟩⟩
  cases effect with
  | «include» => exact hscope
  | exclude =>
    rw [toList_render_exclude]
    exact List.forall_mem_cons.2 ⟨rfl, hscope⟩

/-- No white space is among them, so that an entry is never split or trimmed. -/
theorem isSpace_of_isEntryChar (h : isEntryChar c = true) : Text.isSpace c = false := by
  simp only [isEntryChar, Bool.or_eq_true, beq_iff_eq] at h
  obtain (h | rfl) | rfl := h
  · exact isSpace_of_isIdentifierChar h
  · rfl
  · rfl

/-- Without a mark an entry includes. -/
theorem effectOf_of_head?_ne (h : text.head? ≠ some '-') : effectOf text = (.include, text) := by
  unfold effectOf
  split
  · exact absurd rfl h
  · rfl

/-- Effect and scope are read one after the other, in an entry without white space. -/
theorem parseEntry_of_scopeOf? {effect : Effect} (hspace : ∀ c ∈ text, Text.isSpace c = false)
    (heffect : effectOf text = (effect, rest)) (hscope : scopeOf? rest = some scope) :
    parseEntry text = .ok ⟨effect, scope⟩ := by
  have hany : ¬ text.any Text.isSpace = true := by
    rw [List.any_eq_true]
    rintro ⟨c, hc, hcspace⟩
    rw [hspace c hc] at hcspace
    cases hcspace
  simp only [parseEntry, if_neg hany, heffect, hscope]

theorem exists_scope_of_parseEntry (h : parseEntry text = .ok a) :
    ∃ rest, effectOf text = (a.effect, rest) ∧ scopeOf? rest = some a.scope := by
  rcases heffect : effectOf text with ⟨effect, rest⟩
  simp only [parseEntry, heffect] at h
  split at h
  · cases h
  · split at h
    · next hscope =>
      cases h
      exact ⟨rest, rfl, hscope⟩
    · cases h

/-- An entry is read as an action exactly if it is what the action is written as. -/
theorem parseEntry_eq_ok_iff :
    parseEntry text = .ok a ↔ text = a.render.toList ∧ a.IsWritable := by
  obtain ⟨effect, scope⟩ := a
  constructor
  · intro h
    obtain ⟨rest, heffect, hscope⟩ := exists_scope_of_parseEntry h
    obtain ⟨rfl, hnames⟩ := scopeOf?_eq_some_iff.1 hscope
    by_cases hmark : text.head? = some '-'
    · obtain ⟨rest, rfl⟩ := List.head?_eq_some_iff.1 hmark
      cases heffect
      exact ⟨(toList_render_exclude scope).symm, hnames, nofun⟩
    · rw [effectOf_of_head?_ne hmark] at heffect
      cases heffect
      refine ⟨(toList_render_include scope).symm, hnames, fun _ plugin hplugin hhead => ?_⟩
      exact hmark ((head?_renderScope hnames).2 ⟨plugin, hplugin, hhead⟩)
  · rintro ⟨rfl, hw⟩
    have hspace : ∀ c ∈ (render ⟨effect, scope⟩).toList, Text.isSpace c = false := fun c hc =>
      isSpace_of_isEntryChar (hw.isEntryChar c hc)
    have hscope : scopeOf? (renderScope scope).toList = some scope :=
      scopeOf?_eq_some_iff.2 ⟨rfl, hw.isIdentifier⟩
    refine parseEntry_of_scopeOf? hspace ?_ hscope
    cases effect with
    | exclude =>
      rw [toList_render_exclude]
      rfl
    | «include» =>
      refine effectOf_of_head?_ne fun hhead => ?_
      obtain ⟨plugin, hplugin, hmark⟩ := (head?_renderScope hw.isIdentifier).1 hhead
      exact hw.unmarked rfl plugin hplugin hmark

/-! ## White space around entries -/

theorem isSpaces_nil : IsSpaces [] :=
  List.forall_mem_nil _

/-- Trimming takes white space off both ends. -/
theorem exists_trim (text : List Char) :
    ∃ before after, IsSpaces before ∧ IsSpaces after ∧ text = before ++ Text.trim text ++ after := by
  refine ⟨text.takeWhile Text.isSpace,
    ((text.dropWhile Text.isSpace).reverse.takeWhile Text.isSpace).reverse,
    List.all_eq_true.1 List.all_takeWhile, ?_, ?_⟩
  · intro c hc
    exact List.all_eq_true.1 List.all_takeWhile c (List.mem_reverse.1 hc)
  · rw [Text.trim, List.append_assoc, ← List.reverse_append, List.takeWhile_append_dropWhile,
      List.reverse_reverse, List.takeWhile_append_dropWhile]

theorem trim_of_isSpaces (h : IsSpaces text) : Text.trim text = [] := by
  rw [Text.trim, List.dropWhile_eq_nil_iff.2 h]
  rfl

theorem startsWithout_space (hne : core ≠ []) (hcore : ∀ c ∈ core, Text.isSpace c = false) :
    StartsWithout Text.isSpace (core ++ rest) := by
  obtain ⟨c, core, rfl⟩ := List.exists_cons_of_ne_nil hne
  exact startsWithout_cons.2 (hcore c List.mem_cons_self)

/-- What is trimmed is what white space was put around. -/
theorem trim_append (hbefore : IsSpaces before) (hafter : IsSpaces after) (hne : core ≠ [])
    (hcore : ∀ c ∈ core, Text.isSpace c = false) : Text.trim (before ++ core ++ after) = core := by
  have hreverse : StartsWithout Text.isSpace core.reverse := by
    have hstart : StartsWithout Text.isSpace (core.reverse ++ []) :=
      startsWithout_space (mt List.reverse_eq_nil_iff.1 hne) fun c hc =>
        hcore c (List.mem_reverse.1 hc)
    rwa [List.append_nil] at hstart
  have hspaces : ∀ c ∈ after.reverse, Text.isSpace c = true := fun c hc =>
    hafter c (List.mem_reverse.1 hc)
  rw [Text.trim, List.append_assoc, (startsWithout_space hne hcore).dropWhile_append hbefore,
    List.reverse_append, hreverse.dropWhile_append hspaces, List.reverse_reverse]

/-! ## Pieces between commas -/

/-- A piece holds white space and characters of entries, and nothing else. -/
theorem SpellsPiece.not_mem (h : SpellsPiece actions piece) (hw : ∀ a ∈ actions, a.IsWritable)
    (hspace : Text.isSpace c = false) (hentry : isEntryChar c = false) : c ∉ piece := by
  have hspaces {text : List Char} (htext : IsSpaces text) : c ∉ text := by
    intro hmem
    rw [htext c hmem] at hspace
    cases hspace
  cases h with
  | blank htext => exact hspaces htext
  | entry hbefore hafter =>
    rw [List.mem_append, List.mem_append]
    rintro ((hmem | hmem) | hmem)
    · exact hspaces hbefore hmem
    · rw [(hw _ List.mem_cons_self).isEntryChar c hmem] at hentry
      cases hentry
    · exact hspaces hafter hmem

/-- Pieces hold no comma, so a list falls apart into the pieces that it was put together from. -/
theorem comma_not_mem_piece (h : SpellsPiece actions piece) (hw : ∀ a ∈ actions, a.IsWritable) :
    ',' ∉ piece :=
  h.not_mem hw rfl rfl

theorem render_ne_nil (h : a.IsWritable) : a.render.toList ≠ [] := by
  obtain ⟨effect, scope⟩ := a
  have hscope : (renderScope scope).toList ≠ [] := by
    cases scope with
    | global => exact List.cons_ne_nil _ _
    | plugin name => exact (isIdentifier_iff.1 (h.isIdentifier name List.mem_cons_self)).1
    | field d =>
      rw [toList_renderScope_field]
      exact List.append_ne_nil_of_right_ne_nil _ (List.cons_ne_nil _ _)
  cases effect with
  | exclude =>
    rw [toList_render_exclude]
    exact List.cons_ne_nil _ _
  | «include» => exact hscope

/-- An entry is what is left of a piece that it stands in. -/
theorem trim_entry (hbefore : IsSpaces before) (hafter : IsSpaces after) (h : a.IsWritable) :
    Text.trim (before ++ a.render.toList ++ after) = a.render.toList :=
  trim_append hbefore hafter (render_ne_nil h) fun c hc => isSpace_of_isEntryChar (h.isEntryChar c hc)

/-- A text without a comma has one entry, or none if it is blank. -/
theorem entries_of_not_mem (h : ',' ∉ piece) :
    entries piece = if (Text.trim piece).isEmpty then [] else [Text.trim piece] := by
  rw [entries, List.splitOn_eq_singleton h]
  cases h : (Text.trim piece).isEmpty <;> simp [h]

/-- The entries before a comma come before those behind it. -/
theorem entries_append (h : ',' ∉ piece) :
    entries (piece ++ ',' :: rest) = entries piece ++ entries rest := by
  rw [entries, entries, entries, List.splitOn_append_cons_self_of_not_mem h,
    List.splitOn_eq_singleton h, ← List.filter_append, ← List.map_append]
  rfl

section MapM

variable {α β ε : Type} {f : α → Except ε β} {x : α} {xs ys : List α} {zs : List β}

theorem mapM_append_eq_ok_iff :
    (xs ++ ys).mapM f = .ok zs ↔
      ∃ as bs, xs.mapM f = .ok as ∧ ys.mapM f = .ok bs ∧ zs = as ++ bs := by
  rw [List.mapM_append]
  cases xs.mapM f with
  | error => exact iff_of_false nofun nofun
  | ok as =>
    cases ys.mapM f with
    | error => exact iff_of_false nofun nofun
    | ok bs =>
      simp [bind, Except.bind, pure, Except.pure, eq_comm]

theorem mapM_singleton_eq_ok_iff : [x].mapM f = .ok zs ↔ ∃ z, f x = .ok z ∧ zs = [z] := by
  rw [List.mapM_cons]
  cases f x with
  | error => exact iff_of_false nofun nofun
  | ok z => simp [bind, Except.bind, pure, Except.pure, eq_comm]

end MapM

/-- The actions that are read off a piece are those that it is spelled from. -/
theorem mapM_entries_piece_iff (h : ',' ∉ piece) :
    (entries piece).mapM parseEntry = .ok actions ↔
      SpellsPiece actions piece ∧ ∀ a ∈ actions, a.IsWritable := by
  rw [entries_of_not_mem h]
  by_cases hblank : (Text.trim piece).isEmpty = true
  · rw [if_pos hblank]
    constructor
    · intro hread
      cases hread
      exact ⟨.blank (isSpace_of_isEmpty_trim hblank), nofun⟩
    · rintro ⟨hpiece, hw⟩
      cases hpiece with
      | blank => rfl
      | entry hbefore hafter =>
        have ha := hw _ List.mem_cons_self
        rw [trim_entry hbefore hafter ha] at hblank
        exact absurd (List.isEmpty_iff.1 hblank) (render_ne_nil ha)
  · rw [if_neg hblank, mapM_singleton_eq_ok_iff]
    constructor
    · rintro ⟨a, hread, rfl⟩
      obtain ⟨htrim, ha⟩ := parseEntry_eq_ok_iff.1 hread
      obtain ⟨before, after, hbefore, hafter, hpiece⟩ := exists_trim piece
      rw [hpiece, htrim]
      exact ⟨.entry hbefore hafter, List.forall_mem_singleton.2 ha⟩
    · rintro ⟨hpiece, hw⟩
      cases hpiece with
      | blank hspaces => exact absurd (by rw [trim_of_isSpaces hspaces]; rfl) hblank
      | entry hbefore hafter =>
        have ha := hw _ List.mem_cons_self
        rw [trim_entry hbefore hafter ha]
        exact ⟨_, parseEntry_eq_ok_iff.2 ⟨rfl, ha⟩, rfl⟩

/-- The actions that are read off a list are those that it is spelled from. -/
theorem mapM_entries_eq_ok_iff :
    (entries text).mapM parseEntry = .ok actions ↔
      SpellsEntries actions text ∧ ∀ a ∈ actions, a.IsWritable := by
  constructor
  · induction hlength : text.length using Nat.strongRecOn generalizing text actions with
    | ind length ih =>
      intro hread
      by_cases hcomma : ',' ∈ text
      · obtain ⟨piece, rest, rfl, hpiece⟩ := List.eq_append_cons_of_mem hcomma
        rw [entries_append hpiece] at hread
        obtain ⟨firsts, others, hfirsts, hothers, rfl⟩ := mapM_append_eq_ok_iff.1 hread
        obtain ⟨hspelled, hw⟩ := (mapM_entries_piece_iff hpiece).1 hfirsts
        have hlt : rest.length < length := by
          rw [← hlength, List.length_append, List.length_cons]
          omega
        obtain ⟨hrest, hw'⟩ := ih _ hlt rfl hothers
        exact ⟨.cons hspelled hrest, List.forall_mem_append.2 ⟨hw, hw'⟩⟩
      · obtain ⟨hspelled, hw⟩ := (mapM_entries_piece_iff hcomma).1 hread
        exact ⟨.last hspelled, hw⟩
  · rintro ⟨hspelled, hw⟩
    induction hspelled with
    | last hpiece =>
      exact (mapM_entries_piece_iff (comma_not_mem_piece hpiece hw)).2 ⟨hpiece, hw⟩
    | cons hpiece _ ih =>
      obtain ⟨hfirsts, hothers⟩ := List.forall_mem_append.1 hw
      have hcomma := comma_not_mem_piece hpiece hfirsts
      rw [entries_append hcomma]
      exact mapM_append_eq_ok_iff.2 ⟨_, _, (mapM_entries_piece_iff hcomma).2 ⟨hpiece, hfirsts⟩,
        ih hothers, rfl⟩

end Flowmeter.FieldAction
