import Flowmeter.Settings.Reading

/-!
# The text of a settings file

A settings file holds a tree in bracket notation, without blanks: lists in brackets, dictionaries in
braces, names and texts in double quotes. `pieces` is the text of a tree, piece by piece.
-/

namespace Flowmeter.Settings.File

/-- A piece of the text of a file. -/
inductive Piece where
  /-- A bracket, a brace, a comma or a colon. -/
  | sign (c : Char)
  /-- A number or a word. -/
  | plain (text : List Char)
  /-- A name of a dictionary or a text, in double quotes. -/
  | quoted (text : List Char) (isName : Bool)

def hexDigit (n : Nat) : Char :=
  Nat.digitChar (n % 16)

/-- A character as it stands between double quotes. Controls are marked. -/
def marked (c : Char) : List Char :=
  match c with
  | '"' => ['\\', '"']
  | '\\' => ['\\', '\\']
  | '\x08' => ['\\', 'b']
  | '\x0c' => ['\\', 'f']
  | '\n' => ['\\', 'n']
  | '\r' => ['\\', 'r']
  | '\t' => ['\\', 't']
  | c =>
    if c < ' ' then ['\\', 'u', '0', '0', hexDigit (c.toNat / 16), hexDigit c.toNat] else [c]

def Piece.text : Piece → List Char
  | .sign c => [c]
  | .plain text => text
  | .quoted text _ => '"' :: text.flatMap marked ++ ['"']

/-- The text of a value that has no parts and is no text. -/
def plainText : Value → String
  | .bool true => "true"
  | .bool false => "false"
  | .natural n => n.repr
  | .negated n => "-" ++ n.repr
  | .decimal x => Wording.document.style.write x
  | _ => "null"

mutual

def pieces : Value → List Piece
  | .list values => .sign '[' :: elementPieces values ++ [.sign ']']
  | .dict entries => .sign '\x7b' :: entryPieces entries ++ [.sign '\x7d']
  | .text text => [.quoted text.toList false]
  | .character c => [.quoted [c] false]
  | v => [.plain (plainText v).toList]

def elementPieces : List Value → List Piece
  | [] => []
  | [v] => pieces v
  | v :: rest => pieces v ++ .sign ',' :: elementPieces rest

def entryPieces : List (String × Value) → List Piece
  | [] => []
  | [(name, v)] => .quoted name.toList true :: .sign ':' :: pieces v
  | (name, v) :: rest =>
    .quoted name.toList true :: .sign ':' :: pieces v ++ .sign ',' :: entryPieces rest

end

def fileText (v : Value) : List Char :=
  (pieces v).flatMap Piece.text

end Flowmeter.Settings.File
