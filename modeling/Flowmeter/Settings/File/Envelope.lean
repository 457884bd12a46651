import Flowmeter.Settings.File.Place
import Flowmeter.Settings.File.Text

/-!
# Envelopes in settings files

Below the root of a file two names are reserved. A dictionary with a content is an envelope: the
content stands for the whole dictionary (`opened`). A dictionary may have a stamp, a whole number
that is dropped; `badStamp?` is the first stamp that is anything else.
-/

namespace Flowmeter.Settings.File

def contentName : String := "___figment_value_value"

def stampName : String := "___figment_value_id"

/-! ## Contents -/

/-- What a dictionary stands for: its content if it has one, else itself without its stamp. -/
def opening (entries : Entries) : Value :=
  match entries.lookup contentName with
  | some content => content
  | none => .dict (entries.filter fun entry => entry.1 ≠ stampName)

mutual

/-- The tree with all envelopes opened, from the inside out. -/
def opened : Value → Value
  | .list values => .list (openedElements values)
  | .dict entries => opening (openedEntries entries)
  | v => v

/-- The elements of a list with all envelopes opened. -/
def openedElements : List Value → List Value
  | [] => []
  | v :: rest => opened v :: openedElements rest

/-- The entries of a dictionary with all envelopes in them opened. -/
def openedEntries : List (String × Value) → Entries
  | [] => []
  | (name, v) :: rest => (name, opened v) :: openedEntries rest

end

/-! ## Stamps -/

/-- A step down a tree. -/
inductive Step where
  /-- To the entry of a name. -/
  | name (name : String)
  /-- To the element at a position. -/
  | position (n : Nat)
  deriving DecidableEq, Repr

/-- The text of the steps from the root to a value, the last one first. -/
def pathText : List Step → String
  | [] => ""
  | [.name name] => name
  | .name name :: outer => s!"{pathText outer}.{name}"
  | .position n :: outer => s!"{pathText outer}[{n}]"

/-- A stamp that is no whole number, with the steps to it, the last one first, and its place. -/
structure BadStamp where
  path : List Step
  place : Place
  value : Value
  deriving Repr

def BadStamp.message (stamp : BadStamp) : String :=
  s!"{pathText stamp.path}: invalid type: {(folded stamp.value).describe .file}, "
    ++ s!"expected a 64-bit metadata id integer{stamp.place.describe}"

def isStamp : Value → Bool
  | .natural _ => true
  | _ => false

mutual

/-- The first bad stamp in a tree with a path and a place. The root has no stamp. -/
def badStamp? (path : List Step) (p : Place) : Value → Option BadStamp
  | .list values => badStampInElements? path 0 (p.next '[') values
  | .dict entries => badStampInEntries? path (p.next '\x7b') entries
  | _ => none

/-- The first bad stamp in elements from a position and a place on. -/
def badStampInElements? (path : List Step) (position : Nat) (p : Place) :
    List Value → Option BadStamp
  | [] => none
  | v :: rest =>
    match badStamp? (.position position :: path) p v with
    | some stamp => some stamp
    | none => badStampInElements? path (position + 1) ((p.after (fileText v)).next ',') rest

/-- The first bad stamp in entries from a place on. -/
def badStampInEntries? (path : List Step) (p : Place) :
    List (String × Value) → Option BadStamp
  | [] => none
  | (name, v) :: rest =>
    let inner := Step.name name :: path
    let start := (p.after (Piece.quoted name.toList true).text).next ':'
    if name = stampName ∧ path ≠ [] ∧ ¬ isStamp v then some ⟨inner, start, v⟩
    else
      match badStamp? inner start v with
      | some stamp => some stamp
      | none => badStampInEntries? path ((start.after (fileText v)).next ',') rest

end

end Flowmeter.Settings.File
