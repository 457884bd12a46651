import Flowmeter.Export.FieldAction
import Flowmeter.Export.InterfaceMap.Grammar

/-!
# The grammar of field lists

`Encloses list text` says that `text` is a field list whose quotes enclose `list`, and
`SpellsEntries actions list` that the entries between the commas of `list` are those of `actions`.
Both leave comments out, and say nothing about how a text is read. An action has an entry only if
its names can be written (`FieldAction.IsWritable`).
-/

namespace Flowmeter

/-- The names that a scope is given by. -/
def Scope.names : Scope → List String
  | .global => []
  | .plugin name => [name]
  | .field d => [d.plugin, d.field]

namespace FieldAction

open InterfaceMap (IsBlanks)

/-- All names are identifiers, and the name of an included plugin does not start with the mark of
an exclusion. -/
structure IsWritable (a : FieldAction) : Prop where
  isIdentifier : ∀ name ∈ a.scope.names, isIdentifier name.toList = true
  unmarked : a.effect = .include →
    ∀ plugin ∈ a.scope.names.head?, plugin.toList.head? ≠ some '-'

/-- A run of white space of any kind, which may be empty. -/
def IsSpaces (text : List Char) : Prop :=
  ∀ c ∈ text, Text.isSpace c = true

instance (text : List Char) : Decidable (IsSpaces text) :=
  List.decidableBAll _ text

/-- The text between two commas: an entry with white space on both sides, or white space alone. -/
inductive SpellsPiece : List FieldAction → List Char → Prop
  | blank {text : List Char} (h : IsSpaces text) : SpellsPiece [] text
  | entry {a : FieldAction} {before after : List Char} (hb : IsSpaces before)
      (ha : IsSpaces after) : SpellsPiece [a] (before ++ a.render.toList ++ after)

/-- Entries and blank entries with commas between them. -/
inductive SpellsEntries : List FieldAction → List Char → Prop
  | last {actions : List FieldAction} {text : List Char} (hp : SpellsPiece actions text) :
      SpellsEntries actions text
  | cons {actions others : List FieldAction} {text rest : List Char}
      (hp : SpellsPiece actions text) (hr : SpellsEntries others rest) :
      SpellsEntries (actions ++ others) (text ++ ',' :: rest)

/-- The keyword and a list between quotes, with blanks around both. -/
inductive Encloses (list : List Char) : List Char → Prop
  | mk {before between after : List Char} (hb : IsBlanks before) (hm : IsBlanks between)
      (hl : '\'' ∉ list) (ha : IsBlanks after) :
      Encloses list (before ++ keyword ++ between ++ '\'' :: list ++ '\'' :: after)

end FieldAction

end Flowmeter
