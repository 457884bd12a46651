import Flowmeter.Export.InterfaceMap

/-!
# The grammar of interface maps

`Spells groups text` says that `text` is an interface map of `groups`. It is the grammar itself,
one constructor for each production, and says nothing about how a text is read.
-/

namespace Flowmeter.InterfaceMap

/-- A run of blanks, which may be empty. -/
def IsBlanks (text : List Char) : Prop :=
  ∀ c ∈ text, Text.isBlank c = true

/-- A run of name characters, which may not be empty. -/
def IsName (text : List Char) : Prop :=
  text ≠ [] ∧ ∀ c ∈ text, isNameChar c = true

instance (text : List Char) : Decidable (IsBlanks text) :=
  List.decidableBAll _ text

instance (text : List Char) : Decidable (IsName text) :=
  have := List.decidableBAll (fun c => isNameChar c = true) text
  inferInstanceAs (Decidable (text ≠ [] ∧ ∀ c ∈ text, isNameChar c = true))

/-- A name, with blanks on both sides. -/
inductive SpellsName : String → List Char → Prop
  | mk {before letters after : List Char} (hb : IsBlanks before) (hn : IsName letters)
      (ha : IsBlanks after) : SpellsName (String.ofList letters) (before ++ letters ++ after)

/-- Names with commas between them. -/
inductive SpellsNames : List String → List Char → Prop
  | single {n : String} {text : List Char} (hn : SpellsName n text) : SpellsNames [n] text
  | cons {n : String} {ns : List String} {text rest : List Char} (hn : SpellsName n text)
      (hr : SpellsNames ns rest) : SpellsNames (n :: ns) (text ++ ',' :: rest)

/-- A name, or names between parentheses with blanks on both sides. -/
inductive SpellsItem : InterfaceGroup → List Char → Prop
  | name {n : String} {text : List Char} (hn : SpellsName n text) : SpellsItem ⟨[n]⟩ text
  | group {ns : List String} {before text after : List Char} (hb : IsBlanks before)
      (hn : SpellsNames ns text) (ha : IsBlanks after) :
      SpellsItem ⟨ns⟩ (before ++ '(' :: text ++ ')' :: after)

/-- Items with commas between them. -/
inductive Spells : List InterfaceGroup → List Char → Prop
  | single {g : InterfaceGroup} {text : List Char} (hg : SpellsItem g text) : Spells [g] text
  | cons {g : InterfaceGroup} {gs : List InterfaceGroup} {text rest : List Char}
      (hg : SpellsItem g text) (hr : Spells gs rest) : Spells (g :: gs) (text ++ ',' :: rest)

end Flowmeter.InterfaceMap
