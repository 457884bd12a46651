import Flowmeter.Settings.Literal

/-!
# Settings from the environment

Variables whose name starts with a prefix, in any case, are settings. The rest of the name is put
into small letters; two underscores separate the names of nested settings.
-/

namespace Flowmeter.Settings.Environment

/-- What the names of setting variables start with. -/
def namePrefix : String := "FLOWPROBE_"

/-- Replaces two underscores by a dot, from the left. -/
def dotted : List Char → List Char
  | '_' :: '_' :: rest => '.' :: dotted rest
  | c :: rest => c :: dotted rest
  | [] => []

/-- The path of the setting that a variable sets, if it sets one. -/
def path? (key : String) : Option (List String) := do
  let name := (Text.trim key.toList).map Char.toUpper
  let _ ← namePrefix.toList.isPrefixOf? name
  let rest := Text.trim ((Text.trim key.toList).drop namePrefix.length)
  let parts := ((dotted rest).map Char.toLower).splitOn '.'
  if parts.any List.isEmpty then none else return parts.map String.ofList

/-- The settings of some variables; of two that set the same the later one counts. -/
def read (bindings : List (String × String)) : Value :=
  bindings.foldl
    (fun tree (key, text) =>
      match path? key with
      | some path => tree.overlay (.nest path (Literal.parse text))
      | none => tree)
    (.dict [])

end Flowmeter.Settings.Environment
