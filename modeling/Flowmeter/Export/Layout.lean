import Flowmeter.Export.InterfaceMap
import Flowmeter.Export.Selection

/-!
# Output layouts

A layout assigns the selected fields to output interfaces. Without an interface map all of them go
to one interface; with one, each group has an interface of its own, which exports the fields of its
plugins, plugin after plugin.
-/

namespace Flowmeter

/-- An output interface, the plugins mapped to it, and the fields it exports. -/
structure OutputInterface where
  index : Nat
  plugins : List String
  fields : List Descriptor
  deriving DecidableEq, Repr

/-- Why there is no layout. -/
inductive LayoutError where
  | selection (error : SelectionError)
  /-- The interface map names a plugin that the catalog does not know. -/
  | unknownPlugin (plugin : String)
  /-- The interface map names a plugin twice, on the interfaces with these indices. -/
  | duplicatePlugin (plugin : String) (first second : Nat)
  deriving DecidableEq, Repr

def LayoutError.message : LayoutError → String
  | .selection error => error.message
  | .unknownPlugin plugin => s!"Plugin '{plugin}' in the interface map is not a known plugin."
  | .duplicatePlugin plugin first second =>
    s!"Plugin '{plugin}' is mapped to interfaces {first} and {second}, "
      ++ "a plugin can be specified only once."

/-- The output interfaces, in the order of their indices. -/
structure Layout where
  interfaces : List OutputInterface
  deriving DecidableEq, Repr

namespace Layout

def single (s : Selection) : Layout :=
  ⟨[⟨0, s.plugins, s.fields⟩]⟩

/-- The names of an interface map in the order of the text, each with the index of its group. -/
def mentions (groups : List InterfaceGroup) : List (String × Nat) :=
  groups.zipIdx.flatMap fun (group, index) => group.names.map (·, index)

/-- Checks names one after the other: each must be known, and not be among those before it. -/
def check (c : Catalog) (before : List (String × Nat)) :
    List (String × Nat) → Except LayoutError Unit
  | [] => .ok ()
  | (plugin, index) :: rest =>
    if c.hasPlugin plugin then
      match before.lookup plugin with
      | some first => .error (.duplicatePlugin plugin first index)
      | none => check c ((plugin, index) :: before) rest
    else .error (.unknownPlugin plugin)

def interface (s : Selection) (group : InterfaceGroup) (index : Nat) : OutputInterface :=
  ⟨index, group.names, group.names.flatMap s.fieldsOf⟩

/-- One interface for each group. Selected fields of plugins in no group are not exported. -/
def build (groups : List InterfaceGroup) (s : Selection) (c : Catalog) :
    Except LayoutError Layout := do
  check c [] (mentions groups)
  return ⟨groups.zipIdx.map fun (group, index) => interface s group index⟩

/-- The index of the interface that a plugin is exported through. -/
def interfaceOf? (l : Layout) (plugin : String) : Option Nat :=
  (l.interfaces.find? (·.plugins.contains plugin)).map OutputInterface.index

end Layout

/-- What is exported, and through which interfaces. -/
structure OutputSettings where
  /-- A field list; nothing is exported without one. -/
  fields : Option String := none
  /-- The groups of an interface map; without one there is a single interface. -/
  interfaces : Option (List InterfaceGroup) := none
  deriving DecidableEq, Repr

namespace OutputSettings

/-- The selection that the settings make from a catalog. -/
def selection (settings : OutputSettings) (c : Catalog) : Except SelectionError Selection :=
  match settings.fields with
  | some text => Selection.parse c text
  | none => .ok .empty

/-- The layout that the settings make from a catalog. -/
def resolve (settings : OutputSettings) (c : Catalog) : Except LayoutError Layout := do
  let selection ← (settings.selection c).mapError .selection
  match settings.interfaces with
  | some groups => Layout.build groups selection c
  | none => return Layout.single selection

end OutputSettings

end Flowmeter
