import Flowmeter.Export.Descriptor
import Flowmeter.Text.Blank

/-!
# Field lists

A field list is the text `fields:` and a list between single quotes. Its entries are separated by
commas: `*` for every field, `plugin` for those of a plugin, `plugin.FIELD` for one, and any of
them behind `-` to leave fields out. Blank entries are skipped, and a `#` starts a comment that
runs to the end of its line.
-/

namespace Flowmeter

/-- Why a field list selects nothing. -/
inductive SelectionError where
  /-- No quoted list after `fields:`, or something after it. -/
  | malformedFieldList
  /-- White space inside an entry. -/
  | whitespaceInEntry (entry : String)
  /-- An entry of no known form. -/
  | invalidEntry (entry : String)
  /-- An entry names a plugin that the catalog does not know. -/
  | unknownPlugin (plugin : String)
  /-- An entry names a field that its plugin does not have. -/
  | unknownField (field : Descriptor)
  deriving DecidableEq, Repr

def SelectionError.message : SelectionError → String
  | .malformedFieldList =>
    "field list must start with 'fields:' followed by a single quoted list"
  | .whitespaceInEntry entry => s!"invalid entry '{entry}': entries must not contain whitespace"
  | .invalidEntry entry => s!"invalid entry '{entry}': expected '*', 'plugin' or 'plugin.FIELD'"
  | .unknownPlugin plugin => s!"Plugin name '{plugin}' not found among available plugins."
  | .unknownField d => s!"Field name '{d.field}' not found in plugin '{d.plugin}'."

/-- Whether the fields in scope are put in or left out. -/
inductive Effect where
  | include
  | exclude
  deriving DecidableEq, Repr

/-- The fields that an entry is about. -/
inductive Scope where
  /-- All fields. -/
  | global
  /-- The fields of a plugin. -/
  | plugin (name : String)
  /-- One field. -/
  | field (descriptor : Descriptor)
  deriving DecidableEq, Repr

def Scope.covers : Scope → Descriptor → Bool
  | .global, _ => true
  | .plugin name, d => d.plugin == name
  | .field e, d => d == e

/-- An entry of a field list. -/
structure FieldAction where
  effect : Effect
  scope : Scope
  deriving DecidableEq, Repr

namespace FieldAction

/-! ## Entries -/

def isIdentifierChar (c : Char) : Bool :=
  c.isAlphanum || c == '_' || c == '-'

/-- Whether a text is a name of a plugin or a field. -/
def isIdentifier (text : List Char) : Bool :=
  !text.isEmpty && text.all isIdentifierChar

def scopeOf? (text : List Char) : Option Scope :=
  if text = ['*'] then some .global
  else
    match text.span (· ≠ '.') with
    | (plugin, []) =>
      if isIdentifier plugin then some (.plugin (String.ofList plugin)) else none
    | (plugin, _ :: field) =>
      if isIdentifier plugin && isIdentifier field then
        some (.field ⟨String.ofList plugin, String.ofList field⟩)
      else none

/-- What an entry does, and the entry without its mark. -/
def effectOf : List Char → Effect × List Char
  | '-' :: text => (.exclude, text)
  | text => (.include, text)

def parseEntry (entry : List Char) : Except SelectionError FieldAction :=
  if entry.any Text.isSpace then .error (.whitespaceInEntry (String.ofList entry))
  else
    let (effect, text) := effectOf entry
    match scopeOf? text with
    | some scope => .ok ⟨effect, scope⟩
    | none => .error (.invalidEntry (String.ofList entry))

/-! ## Lists -/

/-- The text without its comments and its last line end. -/
def stripComments (text : List Char) : List Char :=
  List.intercalate ['\n'] ((Text.lines text).map (·.takeWhile (· ≠ '#')))

/-- What a field list starts with. -/
def keyword : List Char := "fields:".toList

/-- The text between the quotes of a field list. -/
def quotedList? (text : List Char) : Option (List Char) := do
  let rest ← keyword.isPrefixOf? (Text.skipBlanks text)
  match Text.skipBlanks rest with
  | '\'' :: quoted =>
    match quoted.span (· ≠ '\'') with
    | (list, _ :: after) => if (Text.skipBlanks after).isEmpty then some list else none
    | (_, []) => none
  | _ => none

/-- The entries between the commas, without the white space around them. -/
def entries (list : List Char) : List (List Char) :=
  ((list.splitOn ',').map Text.trim).filter (!·.isEmpty)

/-- Reads a field list; of several faulty entries the first counts. -/
def parseList (text : List Char) : Except SelectionError (List FieldAction) :=
  match quotedList? (stripComments text) with
  | some list => (entries list).mapM parseEntry
  | none => .error .malformedFieldList

/-! ## Printing -/

def renderScope : Scope → String
  | .global => "*"
  | .plugin name => name
  | .field d => d.render

def render (a : FieldAction) : String :=
  match a.effect with
  | .include => renderScope a.scope
  | .exclude => "-" ++ renderScope a.scope

def renderList (actions : List FieldAction) : String :=
  "fields: '" ++ String.intercalate "," (actions.map render) ++ "'"

/-! ## Precedence -/

/-- The effect of the last action that has a field in its scope. -/
def lastEffect? (actions : List FieldAction) (d : Descriptor) : Option Effect :=
  (actions.findRev? (·.scope.covers d)).map FieldAction.effect

end FieldAction

end Flowmeter
