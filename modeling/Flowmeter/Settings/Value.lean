import Flowmeter.Decimal.Binary64

/-!
# Trees of settings

Settings come as trees: scalars, lists, and dictionaries, whose entries stand in the order of their
names. Where two sources set the same thing the later one counts (`Value.overlay`); dictionaries
are overlaid entry by entry.
-/

namespace Flowmeter.Settings

/-- A tree of settings. -/
inductive Value where
  | null
  | bool (value : Bool)
  /-- A whole number. -/
  | natural (n : Nat)
  /-- A whole number with a minus sign, by its magnitude. Zero may have the sign. -/
  | negated (n : Nat)
  | decimal (x : Decimal.Binary64)
  | text (value : String)
  /-- A text of one character that is given as a character; it names nothing. -/
  | character (value : Char)
  | list (values : List Value)
  | dict (entries : List (String × Value))
  deriving Repr, Inhabited

/-- The entries of a dictionary, one for each name, in the order of the names. -/
abbrev Entries := List (String × Value)

/-- Sets an entry, instead of the one of its name if there is one. -/
def Entries.set (entries : Entries) (name : String) (value : Value) : Entries :=
  match entries with
  | [] => [(name, value)]
  | (other, old) :: rest =>
    if other = name then (name, value) :: rest
    else if name < other then (name, value) :: (other, old) :: rest
    else (other, old) :: Entries.set rest name value

/-- The entries of a list of bindings; of two of one name the later one counts. -/
def Entries.ofBindings (bindings : List (String × Value)) : Entries :=
  bindings.foldl (fun entries (name, value) => Entries.set entries name value) []

mutual

/-- The tree with another one laid over it. -/
def Value.overlay : Value → Value → Value
  | .dict base, .dict later => .dict (Entries.overlay base later)
  | _, later => later

/-- The entries with others laid over them. -/
def Entries.overlay (base : Entries) : List (String × Value) → Entries
  | [] => base
  | (name, later) :: rest =>
    let value := match base.lookup name with
      | some old => old.overlay later
      | none => later
    Entries.overlay (Entries.set base name value) rest

end

/-- The tree with one value, under the names of a path. -/
def Value.nest (path : List String) (value : Value) : Value :=
  match path with
  | [] => value
  | name :: rest => .dict [(name, nest rest value)]

end Flowmeter.Settings
