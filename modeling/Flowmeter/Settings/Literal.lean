import Flowmeter.Octets.Utf8
import Flowmeter.Settings.Number
import Flowmeter.Text.Blank

/-!
# Setting literals

A setting given as a text may be a boolean, a number, a list in brackets, a dictionary in braces
(`name=value`), a text in quotes, a character in single quotes, or a plain word. A text that does
not read as a whole is taken as it is.
-/

namespace Flowmeter.Settings.Literal

/-- The white space of ASCII. -/
def isSpace (c : Char) : Bool :=
  c == ' ' || c == '\t' || c == '\n' || c == '\x0c' || c == '\r'

/-- The characters that end a plain word. -/
def endsWord (c : Char) : Bool :=
  c == ',' || c == '[' || c == ']' || c == '\x7b' || c == '\x7d'

def isNameChar (c : Char) : Bool :=
  c.isAlphanum || c == '_' || c == '-'

/-- A plain word: a number if it reads as one. -/
def word (text : List Char) : Value :=
  (Value.ofWord? text).getD (.text (String.ofList text))

/-! ## Quoted texts -/

/-- Reads a quoted text after its opening quote: the characters, marked ones included, up to the
closing quote, and what follows it. -/
def quoted? : List Char → Option (List Char × List Char)
  | [] => none
  | '"' :: rest => some ([], rest)
  | '\\' :: c :: rest => (quoted? rest).map fun (text, after) => ('\\' :: c :: text, after)
  | c :: rest => (quoted? rest).map fun (text, after) => (c :: text, after)

def hexValue? (c : Char) : Option Nat :=
  if c.isDigit then some (c.toNat - '0'.toNat)
  else if 'a' ≤ c ∧ c ≤ 'f' then some (c.toNat - 'a'.toNat + 10)
  else if 'A' ≤ c ∧ c ≤ 'F' then some (c.toNat - 'A'.toNat + 10)
  else none

/-- The character whose number is written by digits in base 16. -/
def numbered? (digits : List Char) : Option Char := do
  let n ← digits.foldlM (fun n c => (hexValue? c).map (n * 16 + ·)) 0
  if n.isValidChar then return Char.ofNat n else none

def ofLetter? : Char → Option Char
  | 'b' => some '\x08'
  | 'f' => some '\x0c'
  | 'n' => some '\n'
  | 'r' => some '\r'
  | 't' => some '\t'
  | '"' => some '"'
  | '\\' => some '\\'
  | _ => none

/-- Whether a character may stand for itself in a quoted text: no control but the tab. -/
def standsForItself (c : Char) : Bool :=
  c == '\t' || (' ' ≤ c && c != '\x7f')

def isMark (c : Char) : Bool :=
  c == '\\'

/-- Replaces the marked characters of a text by what they stand for. -/
def unmark? : List Char → Option (List Char)
  | [] => some []
  | '\\' :: 'u' :: a :: b :: c :: d :: rest => do
    return (← numbered? [a, b, c, d]) :: (← unmark? rest)
  | '\\' :: 'U' :: a :: b :: c :: d :: e :: f :: g :: h :: rest => do
    return (← numbered? [a, b, c, d, e, f, g, h]) :: (← unmark? rest)
  | '\\' :: c :: rest => do
    return (← ofLetter? c) :: (← unmark? rest)
  | ['\\'] => none
  | c :: rest => if standsForItself c then (unmark? rest).map (c :: ·) else none

/-- What a quoted text stands for. Without marks it stands for itself. Otherwise the number of
characters before the first mark is how many octets of them are kept: all of them in ASCII, fewer
where characters take more octets. -/
def quotedContent? (text : List Char) : Option (List Char) := do
  let start ← unmark? (text.takeWhile (!isMark ·))
  let rest ← unmark? (text.dropWhile (!isMark ·))
  return if text.any isMark then Utf8.clip start.length start ++ rest else start

/-- Reads a quoted text after its opening quote, and what follows it. -/
def quotedText? (text : List Char) : Option (String × List Char) := do
  let (inner, rest) ← quoted? text
  return (String.ofList (← quotedContent? inner), rest)

/-! ## Values -/

def after? (start : String) (text : List Char) : Option (List Char) :=
  start.toList.isPrefixOf? text

/-- Reads the name of an entry and the white space around it. -/
def name? (text : List Char) : Option (String × List Char) := do
  let text := text.dropWhile isSpace
  let (name, rest) ← match text with
    | '"' :: inner => quotedText? inner
    | _ =>
      let name := text.takeWhile isNameChar
      if name.isEmpty then none else some (String.ofList name, text.dropWhile isNameChar)
  return (name, rest.dropWhile isSpace)

mutual

/-- Reads a value and the white space around it, within `depth` steps. -/
def value? (depth : Nat) (text : List Char) : Option (Value × List Char) :=
  match depth with
  | 0 => none
  | depth + 1 => do
    let text := text.dropWhile isSpace
    let (value, rest) ←
      if let some rest := after? "true" text then some (.bool true, rest)
      else if let some rest := after? "false" text then some (.bool false, rest)
      else
        match text with
        | '\x7b' :: inner =>
          (bindings? depth inner).map fun (bs, rest) => (.dict (Entries.ofBindings bs), rest)
        | '[' :: inner => (values? depth inner).map fun (vs, rest) => (.list vs, rest)
        | '"' :: inner => (quotedText? inner).map fun (text, rest) => (.text text, rest)
        | '\'' :: c :: '\'' :: rest => some (.character c, rest)
        | '\'' :: _ => none
        | _ =>
          some (word (Text.trim (text.takeWhile (!endsWord ·))), text.dropWhile (!endsWord ·))
    return (value, rest.dropWhile isSpace)

/-- Reads the values of a list and its closing bracket. -/
def values? (depth : Nat) (text : List Char) : Option (List Value × List Char) :=
  match depth with
  | 0 => none
  | depth + 1 =>
    match text with
    | ']' :: rest => some ([], rest)
    | _ => do
      let (value, rest) ← value? depth text
      match rest with
      | ',' :: rest => do
        let (values, rest) ← values? depth rest
        return (value :: values, rest)
      | ']' :: rest => return ([value], rest)
      | _ => none

/-- Reads the bindings of a dictionary and its closing brace. -/
def bindings? (depth : Nat) (text : List Char) : Option (List (String × Value) × List Char) :=
  match depth with
  | 0 => none
  | depth + 1 =>
    match text with
    | '\x7d' :: rest => some ([], rest)
    | _ => do
      let (name, rest) ← name? text
      let rest ← after? "=" rest
      let (value, rest) ← value? depth rest
      match rest with
      | ',' :: rest => do
        let (bindings, rest) ← bindings? depth rest
        return ((name, value) :: bindings, rest)
      | '\x7d' :: rest => return ([(name, value)], rest)
      | _ => none

end

/-- The value of a setting given as a text. Each step of reading either opens a list or takes a
character, so twice the length bounds the steps. -/
def parse (text : String) : Value :=
  match value? (2 * text.length + 2) text.toList with
  | some (value, []) => value
  | _ => .text text

end Flowmeter.Settings.Literal
