import Flowmeter.Export.Selection
import Flowmeter.Proofs.Export.Catalog

/-!
# What a list of actions selects

An action fails if it puts in what the catalog does not know (`FieldAction.Fails`), whatever is
selected already; one that does not fail settles the fields in its scope and leaves the others as
they are (`apply_cases`). So a list of actions fails with the first of them that does, and of
several actions on a field the last one counts (`foldlM_apply_cases`, `ofActions_last_effect`).
-/

namespace Flowmeter

/-! ## What a catalog knows -/

namespace Catalog

/-- What the scope names is there. -/
def Knows (c : Catalog) : Scope → Prop
  | .global => True
  | .plugin name => ∃ fields, c.pluginFields? name = some fields
  | .field d => ∃ fields, c.pluginFields? d.plugin = some fields ∧ d ∈ fields

/-- The first thing that the scope names and that is not there. -/
inductive Lacks (c : Catalog) : Scope → SelectionError → Prop
  | plugin {name : String} (h : c.pluginFields? name = none) :
      Lacks c (.plugin name) (.unknownPlugin name)
  | fieldPlugin {d : Descriptor} (h : c.pluginFields? d.plugin = none) :
      Lacks c (.field d) (.unknownPlugin d.plugin)
  | field {d : Descriptor} {fields : List Descriptor} (h : c.pluginFields? d.plugin = some fields)
      (hd : d ∉ fields) : Lacks c (.field d) (.unknownField d)

variable {c : Catalog}

/-- What covers a field of a lawful catalog is known to it. -/
theorem Lawful.knows_of_covers (hc : c.Lawful) {scope : Scope} {d : Descriptor}
    (hd : d ∈ c.allFields) (h : scope.covers d = true) : c.Knows scope := by
  obtain ⟨fields, hfields, hmem⟩ := (hc.coherent d).1 hd
  cases scope with
  | global => trivial
  | plugin name =>
    obtain rfl : d.plugin = name := eq_of_beq h
    exact ⟨fields, hfields⟩
  | field e =>
    obtain rfl : d = e := eq_of_beq h
    exact ⟨fields, hfields, hmem⟩

theorem Lacks.not_knows {scope : Scope} {e : SelectionError} (h : c.Lacks scope e) :
    ¬ c.Knows scope := by
  intro hknows
  cases h with
  | plugin h =>
    obtain ⟨fields, hfields⟩ := hknows
    rw [h] at hfields
    cases hfields
  | fieldPlugin h =>
    obtain ⟨fields, hfields, -⟩ := hknows
    rw [h] at hfields
    cases hfields
  | field h hd =>
    obtain ⟨fields, hfields, hmem⟩ := hknows
    rw [h] at hfields
    cases hfields
    exact hd hmem

theorem Lacks.unique {scope : Scope} {e e' : SelectionError} (h : c.Lacks scope e)
    (h' : c.Lacks scope e') : e = e' := by
  cases h with
  | plugin => cases h'; rfl
  | fieldPlugin h =>
    cases h' with
    | fieldPlugin => rfl
    | field h' => rw [h] at h'; cases h'
  | field h =>
    cases h' with
    | fieldPlugin h' => rw [h] at h'; cases h'
    | field => rfl

end Catalog

namespace FieldAction

/-- The action names only what the catalog knows, or leaves fields out. -/
def Resolves (a : FieldAction) (c : Catalog) : Prop :=
  a.effect = .include → c.Knows a.scope

/-- The action puts in what the catalog does not know. -/
def Fails (a : FieldAction) (c : Catalog) (e : SelectionError) : Prop :=
  a.effect = .include ∧ c.Lacks a.scope e

theorem Fails.not_resolves {a : FieldAction} {c : Catalog} {e : SelectionError}
    (h : a.Fails c e) : ¬ a.Resolves c :=
  fun hr => h.2.not_knows (hr h.1)

theorem lastEffect?_cons (a : FieldAction) (actions : List FieldAction) (d : Descriptor) :
    lastEffect? (a :: actions) d =
      (lastEffect? actions d).or (if a.scope.covers d then some a.effect else none) := by
  unfold lastEffect?
  rw [List.findRev?]
  cases actions.findRev? (·.scope.covers d) with
  | some b => rfl
  | none => cases a.scope.covers d <;> rfl

end FieldAction

namespace Selection

variable {c : Catalog} {s s' : Selection} {a : FieldAction} {actions : List FieldAction}
  {scope : Scope} {d : Descriptor} {e : SelectionError}

/-! ## One action -/

/-- Putting in fails on what the catalog lacks, and else adds the fields of the catalog in scope. -/
theorem includeScope_cases (c : Catalog) (s : Selection) (scope : Scope) :
    (∃ e, c.Lacks scope e ∧ s.includeScope c scope = .error e) ∨
      c.Knows scope ∧ ∃ fields, s.includeScope c scope = .ok (s.insertAll fields) ∧
        (c.Lawful → ∀ d, d ∈ fields ↔ scope.covers d = true ∧ d ∈ c.allFields) := by
  cases scope with
  | global =>
    refine .inr ⟨trivial, c.allFields, rfl, fun _ d => ?_⟩
    simp only [Scope.covers, true_and]
  | plugin name =>
    cases hfields : c.pluginFields? name with
    | none => exact .inl ⟨_, .plugin hfields, by simp only [includeScope, hfields]⟩
    | some fields =>
      refine .inr ⟨⟨fields, hfields⟩, fields, by simp only [includeScope, hfields], ?_⟩
      intro hc d
      simp only [Scope.covers, beq_iff_eq]
      constructor
      · intro hd
        obtain rfl := hc.plugin_eq hfields d hd
        exact ⟨rfl, (hc.mem_allFields_iff_of_plugin hfields).2 hd⟩
      · rintro ⟨rfl, hd⟩
        exact (hc.mem_allFields_iff_of_plugin hfields).1 hd
  | field e =>
    cases hfields : c.pluginFields? e.plugin with
    | none => exact .inl ⟨_, .fieldPlugin hfields, by simp only [includeScope, hfields]⟩
    | some fields =>
      by_cases he : e ∈ fields
      · refine .inr ⟨⟨fields, hfields, he⟩, [e], ?_, ?_⟩
        · simp only [includeScope, hfields, if_pos he]
          rfl
        · intro hc d
          simp only [Scope.covers, beq_iff_eq, List.mem_singleton]
          refine ⟨?_, And.left⟩
          rintro rfl
          exact ⟨rfl, (hc.mem_allFields_iff_of_plugin hfields).2 he⟩
      · exact .inl ⟨_, .field hfields he, by simp only [includeScope, hfields, if_neg he]⟩

/-- **One action.** It fails, or it settles the fields in its scope and leaves the others. -/
theorem apply_cases (c : Catalog) (s : Selection) (a : FieldAction) :
    (∃ e, a.Fails c e ∧ s.apply c a = .error e) ∨
      a.Resolves c ∧ ∃ s', s.apply c a = .ok s' ∧
        (c.Lawful → (∀ d ∈ s, d ∈ c.allFields) → ∀ d, d ∈ s' ↔
          if a.scope.covers d then a.effect = .include ∧ d ∈ c.allFields else d ∈ s) := by
  obtain ⟨effect, scope⟩ := a
  cases effect with
  | exclude =>
    refine .inr ⟨nofun, s.excludeScope scope, rfl, fun _ _ d => ?_⟩
    rw [excludeScope, mem_filter]
    cases scope.covers d <;> simp
  | «include» =>
    rcases includeScope_cases c s scope with ⟨e, hlacks, he⟩ | ⟨hknows, fields, hs', hfields⟩
    · exact .inl ⟨e, ⟨rfl, hlacks⟩, he⟩
    · refine .inr ⟨fun _ => hknows, s.insertAll fields, hs', fun hc hs d => ?_⟩
      rw [mem_insertAll, hfields hc]
      cases hcovers : scope.covers d with
      | true => simpa using hs d
      | false => simp

/-! ## Lists of actions -/

/-- **A list of actions.** The first action that fails makes it fail; if none does, the last action
with a field in its scope settles the field. -/
theorem foldlM_apply_cases (c : Catalog) (s : Selection) (actions : List FieldAction) :
    (∃ before a after e, actions = before ++ a :: after ∧ (∀ b ∈ before, b.Resolves c) ∧
        a.Fails c e ∧ actions.foldlM (apply c) s = .error e) ∨
      (∀ a ∈ actions, a.Resolves c) ∧ ∃ s', actions.foldlM (apply c) s = .ok s' ∧
        (c.Lawful → (∀ d ∈ s, d ∈ c.allFields) → ∀ d, d ∈ s' ↔
          match FieldAction.lastEffect? actions d with
          | some effect => effect = .include ∧ d ∈ c.allFields
          | none => d ∈ s) := by
  induction actions generalizing s with
  | nil => exact .inr ⟨nofun, s, rfl, fun _ _ d => Iff.rfl⟩
  | cons a actions ih =>
    rw [List.foldlM_cons]
    rcases apply_cases c s a with ⟨e, hfails, he⟩ | ⟨hresolves, s₁, hs₁, hmem₁⟩
    · refine .inl ⟨[], a, actions, e, rfl, nofun, hfails, ?_⟩
      rw [he]
      rfl
    · rw [hs₁]
      rcases ih s₁ with ⟨before, b, after, e, rfl, hbefore, hfails, he⟩ | ⟨hall, s', hs', hmem⟩
      · exact .inl ⟨a :: before, b, after, e, rfl, List.forall_mem_cons.2 ⟨hresolves, hbefore⟩,
          hfails, he⟩
      · refine .inr ⟨List.forall_mem_cons.2 ⟨hresolves, hall⟩, s', hs', fun hc hs d => ?_⟩
        have hs₁ : ∀ d ∈ s₁, d ∈ c.allFields := by
          intro d hd
          rw [hmem₁ hc hs d] at hd
          split at hd
          · exact hd.2
          · exact hs d hd
        rw [hmem hc hs₁ d, FieldAction.lastEffect?_cons, hmem₁ hc hs d]
        cases FieldAction.lastEffect? actions d with
        | some effect => rfl
        | none => cases a.scope.covers d <;> rfl

theorem foldlM_apply_of_resolves (h : ∀ a ∈ actions, a.Resolves c) :
    ∃ s', actions.foldlM (apply c) s = .ok s' ∧
      (c.Lawful → (∀ d ∈ s, d ∈ c.allFields) → ∀ d ∈ s', d ∈ c.allFields) := by
  rcases foldlM_apply_cases c s actions with
    ⟨before, a, after, e, rfl, -, hfails, -⟩ | ⟨-, s', hs', hmem⟩
  · exact absurd (h a (by simp)) hfails.not_resolves
  · refine ⟨s', hs', fun hc hs d hd => ?_⟩
    rw [hmem hc hs d] at hd
    split at hd
    · exact hd.2
    · exact hs d hd

theorem exists_ofActions_iff :
    (∃ s, ofActions c actions = .ok s) ↔ ∀ a ∈ actions, a.Resolves c := by
  constructor
  · rintro ⟨s, hs⟩
    rcases foldlM_apply_cases c empty actions with ⟨_, _, _, e, -, -, -, he⟩ | ⟨hall, -⟩
    · rw [ofActions, he] at hs
      cases hs
    · exact hall
  · intro h
    obtain ⟨s, hs, -⟩ := foldlM_apply_of_resolves h
    exact ⟨s, hs⟩

theorem ofActions_eq_error_iff :
    ofActions c actions = .error e ↔
      ∃ before a after, actions = before ++ a :: after ∧ (∀ b ∈ before, b.Resolves c) ∧
        a.Fails c e := by
  constructor
  · intro h
    rcases foldlM_apply_cases c empty actions with
      ⟨before, a, after, e', hactions, hbefore, hfails, he⟩ | ⟨-, s, hs, -⟩
    · rw [ofActions, he] at h
      cases h
      exact ⟨before, a, after, hactions, hbefore, hfails⟩
    · rw [ofActions, hs] at h
      cases h
  · rintro ⟨before, a, after, rfl, hbefore, hfails⟩
    obtain ⟨s, hs, -⟩ := foldlM_apply_of_resolves (s := empty) hbefore
    rw [ofActions, List.foldlM_append, hs]
    rcases apply_cases c s a with ⟨e', hfails', he'⟩ | ⟨hresolves, -⟩
    · rw [hfails.2.unique hfails'.2]
      exact congrArg (· >>= after.foldlM (apply c)) he'
    · exact absurd hresolves hfails.not_resolves

theorem excludeScope_of_not_knows (hc : c.Lawful) (hs : ∀ d ∈ s, d ∈ c.allFields)
    (h : ¬ c.Knows scope) : s.excludeScope scope = s := by
  have hfields : s.fields.filter (fun d => !scope.covers d) = s.fields := by
    refine List.filter_eq_self.2 fun d hd => ?_
    have hcovers : scope.covers d = false :=
      Bool.eq_false_iff.2 fun hcovers => h (hc.knows_of_covers (hs d hd) hcovers)
    rw [hcovers]
    rfl
  simp only [excludeScope, filter, hfields]

theorem ofActions_append_exclude {before after : List FieldAction} (hc : c.Lawful)
    (heffect : a.effect = .exclude) (h : ¬ c.Knows a.scope) :
    ofActions c (before ++ a :: after) = ofActions c (before ++ after) := by
  simp only [ofActions, List.foldlM_append, List.foldlM_cons]
  rcases foldlM_apply_cases c empty before with ⟨_, _, _, e, -, -, -, he⟩ | ⟨hbefore, -⟩
  · rw [he]
    rfl
  · obtain ⟨s, hs, hsub⟩ := foldlM_apply_of_resolves (s := empty) hbefore
    have happly : s.apply c a = .ok s := by
      rw [apply, heffect]
      exact congrArg Except.ok
        (excludeScope_of_not_knows hc (hsub hc fun d hd => absurd hd (not_mem_empty d)) h)
    rw [hs]
    exact congrArg (· >>= after.foldlM (apply c)) happly

/-- **The last action counts.** A list of actions makes a selection exactly if each of them
resolves, and else fails with the first that does not. It selects the fields of the catalog whose
last action puts them in, in increasing order, and leaving out what the catalog does not know
changes nothing. -/
theorem ofActions_last_effect (c : Catalog) (hc : c.Lawful) (actions : List FieldAction) :
    ((∃ s, ofActions c actions = .ok s) ↔ ∀ a ∈ actions, a.effect = .include → c.Knows a.scope) ∧
    (∀ e, ofActions c actions = .error e ↔
      ∃ before a after, actions = before ++ a :: after ∧
        (∀ b ∈ before, b.effect = .include → c.Knows b.scope) ∧
        a.effect = .include ∧ c.Lacks a.scope e) ∧
    (∀ s, ofActions c actions = .ok s →
      (∀ d, d ∈ s ↔ d ∈ c.allFields ∧ FieldAction.lastEffect? actions d = some .include) ∧
      (∀ d ∈ s, c.Knows (.field d)) ∧ s.fields.Pairwise (· < ·)) ∧
    ∀ before a after, actions = before ++ a :: after → a.effect = .exclude → ¬ c.Knows a.scope →
      ofActions c actions = ofActions c (before ++ after) := by
  refine ⟨exists_ofActions_iff, fun _ => ofActions_eq_error_iff, fun s hs => ?_, ?_⟩
  · have hmem : ∀ d, d ∈ s ↔
        d ∈ c.allFields ∧ FieldAction.lastEffect? actions d = some .include := by
      intro d
      rcases foldlM_apply_cases c empty actions with ⟨_, _, _, e, -, -, -, he⟩ | ⟨-, s', hs', hmem⟩
      · rw [ofActions, he] at hs
        cases hs
      · rw [ofActions, hs'] at hs
        cases hs
        rw [hmem hc (fun d hd => absurd hd (not_mem_empty d)) d]
        cases FieldAction.lastEffect? actions d with
        | none => simp
        | some effect => simp [and_comm]
    exact ⟨hmem, fun d hd => (hc.coherent d).1 ((hmem d).1 hd).1, s.increasing⟩
  · rintro before a after rfl heffect h
    exact ofActions_append_exclude hc heffect h

/-- All fields but those of a plugin, and one of these after all. -/
theorem ofActions_last_effect_table :
    let c := Catalog.ofTable [("quic", ["VERSION"]), ("tls", ["F1", "F2"])]
    let actions : List FieldAction := [⟨.include, .global⟩, ⟨.exclude, .plugin "tls"⟩,
      ⟨.exclude, .plugin "dns"⟩, ⟨.include, .field ⟨"tls", "F2"⟩⟩]
    c.Lawful ∧ ∃ s, ofActions c actions = .ok s ∧ ⟨"quic", "VERSION"⟩ ∈ s ∧ ⟨"tls", "F1"⟩ ∉ s ∧
      ⟨"tls", "F2"⟩ ∈ s ∧ ofActions c (actions.eraseIdx 2) = .ok s := by
  intro c actions
  have hc : c.Lawful := Catalog.lawful_ofTable (by decide)
  obtain ⟨-, -, hselects, hexclude⟩ := ofActions_last_effect c hc actions
  obtain ⟨s, hs⟩ : ∃ s, ofActions c actions = .ok s := ⟨_, rfl⟩
  obtain ⟨hmem, -, -⟩ := hselects s hs
  have hdns : ¬ c.Knows (.plugin "dns") := nofun
  refine ⟨hc, s, hs, (hmem _).2 (by decide), fun h => absurd ((hmem _).1 h) (by decide),
    (hmem _).2 (by decide), ?_⟩
  rw [← hs]
  exact (hexclude [⟨.include, .global⟩, ⟨.exclude, .plugin "tls"⟩] ⟨.exclude, .plugin "dns"⟩
    [⟨.include, .field ⟨"tls", "F2"⟩⟩] rfl rfl hdns).symm

end Selection

end Flowmeter
