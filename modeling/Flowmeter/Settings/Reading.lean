import Flowmeter.Decimal.Style
import Flowmeter.Flow.Protocol
import Flowmeter.Settings.Value
import Flowmeter.Text.Quoted

/-!
# Reading settings

Typed settings are read off a tree. A failed reading says what is wrong and where in the tree. A
tree is either a single document or the sum of several layers; the two differ in how a failure is
worded, and in small ways in what they accept (`Source`).
-/

namespace Flowmeter.Settings

/-- Where a tree comes from. -/
inductive Source where
  /-- A document of its own. Lists have no surplus elements, a choice is the one entry of a
  dictionary. -/
  | document
  /-- A file with the environment laid over it. Surplus elements and entries are let pass. -/
  | layers
  deriving DecidableEq, Repr

/-- What is wrong with a setting. -/
inductive Problem where
  /-- A value of another kind than expected. -/
  | invalidType (found : Value) (expected : String)
  /-- A value of the right kind that is out of range. -/
  | invalidValue (found : Value) (expected : String)
  /-- A list of the wrong length. -/
  | invalidLength (length : Nat) (expected : String)
  /-- A choice by a name that is not on offer. -/
  | unknownVariant (found : String) (offered : List String)
  /-- A record without one of its fields. -/
  | missingField (name : String)
  /-- A value that breaks a rule of its own. -/
  | other (message : String)

/-- A failed reading: what is wrong, and the path to it. -/
structure Failure where
  problem : Problem
  path : List String

abbrev Reading := Except Failure

/-- Fails at the place that is read. -/
def fail {α : Type} (problem : Problem) : Reading α :=
  .error ⟨problem, []⟩

/-- A reading that takes place below a name. -/
def Reading.under {α : Type} (name : String) (r : Reading α) : Reading α :=
  r.mapError fun f => { f with path := name :: f.path }

/-! ## Wording -/

/-- How findings are worded. -/
inductive Wording where
  /-- As in a document of its own. -/
  | document
  /-- As in a file, before it is one of the layers. -/
  | file
  /-- As in layers. -/
  | layers
  deriving DecidableEq, Repr

def Source.wording : Source → Wording
  | .document => .document
  | .layers => .layers

/-- How decimals are written. In a document very great and very small ones have a power of ten;
elsewhere they have all places. -/
def Wording.style : Wording → Decimal.Style
  | .document => ⟨.even, some (-5, 15), true⟩
  | .file => ⟨.greater, none, true⟩
  | .layers => ⟨.greater, none, false⟩

/-- A value as the finding of a failed reading. -/
def Value.describe (wording : Wording) (v : Value) : String :=
  match wording, v with
  | .document, .null => "null"
  | .file, .null => "unit value"
  | .layers, .null => "unit"
  | .layers, .bool b => s!"bool {b}"
  | _, .bool b => s!"boolean `{b}`"
  | .layers, .natural n => s!"unsigned int `{n}`"
  | _, .natural n => s!"integer `{n}`"
  | .layers, .negated n => s!"signed int `{-(n : Int)}`"
  | _, .negated n => s!"integer `{-(n : Int)}`"
  | .layers, .decimal x => s!"float `{wording.style.write x}`"
  | _, .decimal x => s!"floating point `{wording.style.write x}`"
  | _, .text s => "string " ++ Text.quote s
  | _, .character c => "string " ++ Text.quote (String.singleton c)
  | _, .list _ => "sequence"
  | _, .dict _ => "map"

def offer (names : List String) : String :=
  "one of " ++ String.intercalate ", " (names.map fun name => s!"`{name}`")

def Problem.message (source : Source) : Problem → String
  | .invalidType found expected =>
    let finding := found.describe source.wording
    match source with
    | .document => s!"invalid type: {finding}, expected {expected}"
    | .layers => s!"invalid type: found {finding}, expected {expected}"
  | .invalidValue found expected =>
    let finding := found.describe source.wording
    match source with
    | .document => s!"invalid value: {finding}, expected {expected}"
    | .layers => s!"invalid value {finding}, expected {expected}"
  | .invalidLength length expected => s!"invalid length {length}, expected {expected}"
  | .unknownVariant found offered =>
    match source with
    | .document => s!"unknown variant `{found}`, expected {offer offered}"
    | .layers => s!"unknown variant: found `{found}`, expected `{offer offered}`"
  | .missingField name => s!"missing field `{name}`"
  | .other message => message

/-! ## Scalars, lists and choices -/

def readText : Value → Reading String
  | .text text => .ok text
  | .character c => .ok (String.singleton c)
  | v => fail (.invalidType v "a string")

def readOptional {α : Type} (read : Value → Reading α) : Value → Reading (Option α)
  | .null => .ok none
  | v => some <$> read v

def readCount : Value → Reading Nat
  | .natural n => .ok n
  | .negated 0 => .ok 0
  | .negated n => fail (.invalidValue (.negated n) "usize")
  | v => fail (.invalidType v "usize")

/-- Reads the elements of a list from a given position on. -/
def readElements {α : Type} (read : Value → Reading α) (position : Nat) :
    List Value → Reading (List α)
  | [] => .ok []
  | v :: rest => do
    let a ← Reading.under (toString position) (read v)
    return a :: (← readElements read (position + 1) rest)

def readList {α : Type} (read : Value → Reading α) : Value → Reading (List α)
  | .list values => readElements read 0 values
  | v => fail (.invalidType v "a sequence")

def readProtocolName (name : String) : Reading Protocol :=
  match Protocol.ofName? name with
  | some p => .ok p
  | none => fail (.unknownVariant name (Protocol.all.map Protocol.name))

def readNothing : Value → Reading Unit
  | .null => .ok ()
  | v => fail (.invalidType v "unit")

/-- Reads a protocol as the name of an entry with nothing in it. -/
def readProtocolEntry (name : String) (content : Value) : Reading Protocol := do
  let p ← readProtocolName name
  readNothing content
  return p

/-- Reads a protocol: a name, or a dictionary with the name of an empty entry. In a document it must
be the one entry; in layers the first one counts. -/
def readProtocol (source : Source) (v : Value) : Reading Protocol :=
  match source, v with
  | _, .text name => readProtocolName name
  | .document, .dict [(name, content)] => readProtocolEntry name content
  | .document, .dict _ => fail (.invalidValue v "map with a single key")
  | .document, _ => fail (.invalidType v "string or map")
  | .layers, .dict ((name, content) :: _) => Reading.under name (readProtocolEntry name content)
  | .layers, .dict [] => fail (.invalidType v "enum")
  | .layers, _ => fail (.invalidType v "enum Protocol")

/-! ## Records -/

/-- Requires a value to be a record: a dictionary with the fields by name, or a list with the
fields in order. -/
def requireRecord (title : String) : Value → Reading Unit
  | .dict _ | .list _ => .ok ()
  | v => fail (.invalidType v title)

/-- The field of a record at a position and under a name, with the step of the path to it. -/
def Value.field? (record : Value) (position : Nat) (name : String) : Option (String × Value) :=
  match record with
  | .dict entries => (entries.lookup name).map (name, ·)
  | .list values => values[position]?.map (toString position, ·)
  | _ => none

/-- Reads a field of a record, with a default for an absent one. -/
def readField {α : Type} (record : Value) (position : Nat) (name : String) (default : α)
    (read : Value → Reading α) : Reading α :=
  match record.field? position name with
  | some (step, v) => Reading.under step (read v)
  | none => .ok default

/-- Refuses a list with more elements than the record has fields; layers let them pass. -/
def refuseSurplus (source : Source) (fieldCount : Nat) : Value → Reading Unit
  | .list values =>
    if source = .document ∧ fieldCount < values.length then
      fail (.invalidLength values.length "fewer elements in array")
    else .ok ()
  | _ => .ok ()

end Flowmeter.Settings
