import Flowmeter.Octets.Utf8
import Flowmeter.Text.Blank

/-!
# Interface maps

An interface map lists groups of plugin names, one group for each output interface:

    List := Item (',' Item)*
    Item := Name | '(' Name (',' Name)* ')'

Blanks may stand around names, commas and parentheses. A name is a run of characters that are
neither commas, nor parentheses, nor white space. Reading stops at the first violation, and reports
how far the text was read.
-/

namespace Flowmeter

/-- The names that share an output interface, in the order of the text. -/
structure InterfaceGroup where
  names : List String
  deriving DecidableEq, Repr

namespace InterfaceGroup

/-- The group in an interface map; a single name needs no parentheses. -/
def render (g : InterfaceGroup) : String :=
  match g.names with
  | [name] => name
  | names => "(" ++ String.intercalate "," names ++ ")"

end InterfaceGroup

namespace InterfaceMap

/-- The violations of the grammar. -/
inductive Violation where
  | empty
  | expectedName
  | emptyGroup
  | nestedGroup
  | unterminatedGroup
  | unbalancedParenthesis
  | missingSeparator
  deriving DecidableEq, Repr

def Violation.message : Violation → String
  | .empty => "interface map is empty"
  | .expectedName => "expected an interface name"
  | .emptyGroup => "empty group"
  | .nestedGroup => "groups cannot be nested"
  | .unterminatedGroup => "group is not closed"
  | .unbalancedParenthesis => "')' without a matching '('"
  | .missingSeparator => "expected ','"

/-- A violation, and the text from where it shows. -/
structure Stop where
  violation : Violation
  remaining : List Char
  deriving DecidableEq, Repr

/-- A violation, and the number of octets before it. -/
structure Error where
  violation : Violation
  offset : Nat
  deriving DecidableEq, Repr

def Error.message (e : Error) : String :=
  s!"invalid interface map at offset {e.offset}: {e.violation.message}"

/-! ## Reading -/

def isNameChar (c : Char) : Bool :=
  c != ',' && c != '(' && c != ')' && !Text.isSpace c

/-- Why there is no name where one must be. -/
def missingName (inGroup : Bool) : List Char → Violation
  | [] => if inGroup then .unterminatedGroup else .expectedName
  | c :: _ =>
    if c = '(' ∧ inGroup then .nestedGroup
    else if c = ')' ∧ !inGroup then .unbalancedParenthesis
    else .expectedName

def name (inGroup : Bool) (text : List Char) : Except Stop (String × List Char) :=
  let text := Text.skipBlanks text
  let letters := text.takeWhile isNameChar
  if letters.isEmpty then .error ⟨missingName inGroup text, text⟩
  else .ok (String.ofList letters, Text.skipBlanks (text.dropWhile isNameChar))

theorem length_name_lt {inGroup : Bool} {text rest : List Char} {n : String}
    (h : name inGroup text = .ok (n, rest)) : rest.length < text.length := by
  simp only [name] at h
  split at h
  · cases h
  · rename_i hne
    cases h
    have h₁ := Text.length_skipBlanks_le ((Text.skipBlanks text).dropWhile isNameChar)
    have h₂ := Text.length_skipBlanks_le text
    have h₃ := congrArg List.length
      (List.takeWhile_append_dropWhile (p := isNameChar) (l := Text.skipBlanks text))
    have h₄ := List.length_pos_iff.2 fun h => hne (List.isEmpty_iff.2 h)
    rw [List.length_append] at h₃
    omega

/-- Why a group neither goes on nor ends. -/
def brokenGroup : List Char → Violation
  | [] => .unterminatedGroup
  | c :: _ => if c = '(' then .nestedGroup else .missingSeparator

/-- Reads the names of a group and its closing parenthesis. -/
def groupNames (text : List Char) : Except Stop (List String × List Char) :=
  match _h : name true text with
  | .error e => .error e
  | .ok (n, ',' :: rest) =>
    match groupNames rest with
    | .error e => .error e
    | .ok (names, after) => .ok (n :: names, after)
  | .ok (n, ')' :: rest) => .ok ([n], rest)
  | .ok (_, rest) => .error ⟨brokenGroup rest, rest⟩
termination_by text.length
decreasing_by
  have := length_name_lt ‹_›
  simp only [List.length_cons] at this
  omega

theorem length_groupNames_lt {text rest : List Char} {names : List String}
    (h : groupNames text = .ok (names, rest)) : rest.length < text.length := by
  fun_induction groupNames text generalizing names rest with
  | case1 => cases h
  | case2 => simp_all
  | case3 text n tail hn names' after hg ih =>
    have := length_name_lt hn
    have := ih hg
    cases h
    simp only [List.length_cons] at *
    omega
  | case4 text n tail hn =>
    have := length_name_lt hn
    cases h
    simp only [List.length_cons] at *
    omega
  | case5 => cases h

def group (text : List Char) : Except Stop (InterfaceGroup × List Char) :=
  match Text.skipBlanks text with
  | ')' :: rest => .error ⟨.emptyGroup, ')' :: rest⟩
  | text =>
    match groupNames text with
    | .error e => .error e
    | .ok (names, rest) => .ok (⟨names⟩, Text.skipBlanks rest)

theorem length_group_lt {text rest : List Char} {g : InterfaceGroup}
    (h : group text = .ok (g, rest)) : rest.length < text.length := by
  have h₁ := Text.length_skipBlanks_le text
  simp only [group] at h
  split at h
  · cases h
  · split at h
    · cases h
    · rename_i hg
      have h₂ := length_groupNames_lt hg
      cases h
      exact Nat.lt_of_le_of_lt (Text.length_skipBlanks_le _) (Nat.lt_of_lt_of_le h₂ h₁)

def item (text : List Char) : Except Stop (InterfaceGroup × List Char) :=
  match Text.skipBlanks text with
  | '(' :: inner => group inner
  | text =>
    match name false text with
    | .error e => .error e
    | .ok (n, rest) => .ok (⟨[n]⟩, rest)

/-- Why the list neither goes on nor ends. -/
def brokenList : List Char → Violation
  | [] => .missingSeparator
  | c :: _ => if c = ')' then .unbalancedParenthesis else .missingSeparator

theorem length_item_lt {text rest : List Char} {g : InterfaceGroup}
    (h : item text = .ok (g, rest)) : rest.length < text.length := by
  have h₁ := Text.length_skipBlanks_le text
  simp only [item] at h
  split at h
  · rename_i ht
    have := length_group_lt h
    rw [ht, List.length_cons] at h₁
    omega
  · split at h
    · cases h
    · rename_i hn
      have := length_name_lt hn
      cases h
      omega

/-- Reads items up to the end of the text. -/
def items (text : List Char) : Except Stop (List InterfaceGroup) :=
  match _h : item text with
  | .error e => .error e
  | .ok (g, []) => .ok [g]
  | .ok (g, ',' :: rest) =>
    match items rest with
    | .error e => .error e
    | .ok groups => .ok (g :: groups)
  | .ok (_, rest) => .error ⟨brokenList rest, rest⟩
termination_by text.length
decreasing_by
  have := length_item_lt ‹_›
  simp only [List.length_cons] at this
  omega

def groups (text : List Char) : Except Stop (List InterfaceGroup) :=
  if (Text.trim text).isEmpty then .error ⟨.empty, text⟩ else items text

def parse (text : String) : Except Error (List InterfaceGroup) :=
  match groups text.toList with
  | .ok groups => .ok groups
  | .error stop =>
    .error ⟨stop.violation, text.utf8ByteSize - Utf8.size stop.remaining⟩

/-! ## Printing -/

def render (groups : List InterfaceGroup) : String :=
  String.intercalate "," (groups.map InterfaceGroup.render)

end InterfaceMap

end Flowmeter
