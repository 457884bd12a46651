import Flowmeter.Export.Catalog
import Flowmeter.Export.FieldAction

/-!
# Field selections

A selection is a finite set of descriptors, kept as a strictly increasing list. It starts empty,
and the entries of a field list put fields in or leave fields out, one after the other. An entry
that puts in what the catalog does not know is an error; one that leaves it out changes nothing.
-/

namespace Flowmeter

namespace Descriptor

/-! ## Increasing lists -/

/-- Puts a descriptor in its place, once. -/
def insertSorted (d : Descriptor) : List Descriptor → List Descriptor
  | [] => [d]
  | e :: rest =>
    if d < e then d :: e :: rest
    else if d = e then e :: rest
    else e :: insertSorted d rest

@[simp] theorem mem_insertSorted {x d : Descriptor} {ds : List Descriptor} :
    x ∈ insertSorted d ds ↔ x = d ∨ x ∈ ds := by
  induction ds with
  | nil => simp [insertSorted]
  | cons e rest ih =>
    simp only [insertSorted]
    split
    · simp
    · split
      · rename_i h
        subst h
        simp
      · simp only [List.mem_cons, ih, or_left_comm]

theorem pairwise_insertSorted {d : Descriptor} {ds : List Descriptor}
    (h : ds.Pairwise (· < ·)) : (insertSorted d ds).Pairwise (· < ·) := by
  induction ds with
  | nil => simp [insertSorted]
  | cons e rest ih =>
    obtain ⟨he, hr⟩ := List.pairwise_cons.1 h
    simp only [insertSorted]
    split
    · rename_i hd
      refine List.pairwise_cons.2 ⟨fun x hx => ?_, h⟩
      rcases List.mem_cons.1 hx with rfl | hx
      · exact hd
      · exact lt_trans hd (he x hx)
    · rename_i hd
      split
      · exact h
      · rename_i hne
        refine List.pairwise_cons.2 ⟨fun x hx => ?_, ih hr⟩
        rcases mem_insertSorted.1 hx with rfl | hx
        · exact lt_of_not_lt_of_ne hd hne
        · exact he x hx

end Descriptor

/-- A set of fields. -/
structure Selection where
  fields : List Descriptor
  increasing : fields.Pairwise (· < ·)
  deriving DecidableEq, Repr

namespace Selection

instance : Membership Descriptor Selection where
  mem s d := d ∈ s.fields

instance (d : Descriptor) (s : Selection) : Decidable (d ∈ s) :=
  inferInstanceAs (Decidable (d ∈ s.fields))

def empty : Selection :=
  ⟨[], .nil⟩

def insert (s : Selection) (d : Descriptor) : Selection :=
  ⟨Descriptor.insertSorted d s.fields, Descriptor.pairwise_insertSorted s.increasing⟩

def insertAll (s : Selection) (ds : List Descriptor) : Selection :=
  ds.foldl insert s

def filter (s : Selection) (keep : Descriptor → Bool) : Selection :=
  ⟨s.fields.filter keep, s.increasing.filter keep⟩

def ofList (ds : List Descriptor) : Selection :=
  empty.insertAll ds

def all (c : Catalog) : Selection :=
  ofList c.allFields

def size (s : Selection) : Nat :=
  s.fields.length

def fieldsOf (s : Selection) (plugin : String) : List Descriptor :=
  s.fields.filter (·.plugin == plugin)

/-- The plugins with fields, in order. The fields of a plugin stand side by side. -/
def plugins (s : Selection) : List String :=
  (s.fields.map Descriptor.plugin).eraseDups

/-! ## Actions -/

def includeScope (c : Catalog) (s : Selection) : Scope → Except SelectionError Selection
  | .global => .ok (s.insertAll c.allFields)
  | .plugin name =>
    match c.pluginFields? name with
    | some fields => .ok (s.insertAll fields)
    | none => .error (.unknownPlugin name)
  | .field d =>
    match c.pluginFields? d.plugin with
    | some fields => if d ∈ fields then .ok (s.insert d) else .error (.unknownField d)
    | none => .error (.unknownPlugin d.plugin)

def excludeScope (s : Selection) (scope : Scope) : Selection :=
  s.filter fun d => !scope.covers d

def apply (c : Catalog) (s : Selection) (a : FieldAction) : Except SelectionError Selection :=
  match a.effect with
  | .include => s.includeScope c a.scope
  | .exclude => .ok (s.excludeScope a.scope)

/-- Applies actions in order, to the empty selection. -/
def ofActions (c : Catalog) (actions : List FieldAction) : Except SelectionError Selection :=
  actions.foldlM (apply c) empty

/-- The selection that a field list makes from a catalog. -/
def parse (c : Catalog) (text : String) : Except SelectionError Selection := do
  ofActions c (← FieldAction.parseList text.toList)

/-! ## Membership -/

@[simp] theorem mem_insert {s : Selection} {x d : Descriptor} :
    x ∈ s.insert d ↔ x = d ∨ x ∈ s :=
  Descriptor.mem_insertSorted

@[simp] theorem mem_filter {s : Selection} {keep : Descriptor → Bool} {x : Descriptor} :
    x ∈ s.filter keep ↔ x ∈ s ∧ keep x = true :=
  List.mem_filter

@[simp] theorem not_mem_empty (x : Descriptor) : ¬ x ∈ empty :=
  List.not_mem_nil

@[simp] theorem mem_insertAll {s : Selection} {x : Descriptor} {ds : List Descriptor} :
    x ∈ s.insertAll ds ↔ x ∈ ds ∨ x ∈ s := by
  induction ds generalizing s with
  | nil => simp [insertAll]
  | cons d rest ih =>
    have : s.insertAll (d :: rest) = (s.insert d).insertAll rest := rfl
    rw [this, ih, mem_insert, List.mem_cons, or_left_comm, or_assoc]

end Selection

end Flowmeter
