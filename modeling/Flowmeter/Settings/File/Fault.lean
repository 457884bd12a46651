import Flowmeter.Settings.File.Envelope

/-!
# Faults of settings files

A file is taken in piece by piece, and breaks a rule of its notation if

* it has a character that cannot be printed;
* a name with its quotes goes over lines or has more than 1024 characters: it is no name then, and
  the colon after it is out of place;
* a line starts with the mark of a document.

What was taken in before the fault counts as read (`Finding.taken`), and a bad stamp in it comes
first: `fault?` is the fault of a file.
-/

namespace Flowmeter.Settings.File

/-! ## Faults -/

/-- What is wrong with a file. -/
inductive Fault where
  /-- A character that cannot be printed, after so many octets. -/
  | unprintable (offset : Nat)
  /-- A colon out of place, in a dictionary that starts at a place. -/
  | looseColon (place dictionary : Place)
  /-- The mark of a document, in a text that starts at a place. -/
  | documentMark (place text : Place)
  /-- A stamp that is no whole number. -/
  | badStamp (stamp : BadStamp)
  deriving Repr

def Fault.message : Fault → String
  | .unprintable offset => s!"control characters are not allowed at position {offset}"
  | .looseColon place dictionary =>
    s!"did not find expected ',' or '\x7d'{place.describe}, while parsing a flow mapping"
      ++ dictionary.describe
  | .documentMark place text =>
    s!"found unexpected document indicator{place.describe}, while scanning a quoted scalar"
      ++ text.describe
  | .badStamp stamp => stamp.message

/-! ## Characters -/

/-- Whether a file may hold a character. -/
def isPrintable (c : Char) : Bool :=
  let n := c.toNat
  n == 0x09 || n == 0x0A || n == 0x0D || (0x20 ≤ n && n ≤ 0x7E) || n == 0x85
    || (0xA0 ≤ n && n ≤ 0xFFFD) || 0x10000 ≤ n

/-- The octets of a file that are looked at in one go. -/
def blockSize : Nat := 16384

/-- A place in a file by the characters and by the octets before it. -/
structure Extent where
  characters : Nat := 0
  octets : Nat := 0
  deriving DecidableEq, Repr

/-- The first character that cannot be printed: the characters before the block with it, and the
octets before itself. A block starts at an extent, and holds whole characters. -/
def unprintable? (block p : Extent) : List Char → Option (Nat × Nat)
  | [] => none
  | c :: rest =>
    let next : Extent := ⟨p.characters + 1, p.octets + c.utf8Size⟩
    let block := if next.octets ≤ block.octets + blockSize then block else p
    if isPrintable c then unprintable? block next rest else some (block.characters, p.octets)

/-! ## Marks and names -/

/-- The most characters of a name with its quotes, and how far a file is looked through for one
before what it starts with is settled. -/
def nameLimit : Nat := 1024

/-- Whether a text starts with the mark of a document, three dashes or dots and a blank. -/
def startsDocument : List Char → Bool
  | '-' :: '-' :: '-' :: c :: _ | '.' :: '.' :: '.' :: c :: _ => c == ' ' || isBreak c
  | _ => false

/-- The first line of a text that starts with the mark of a document. -/
def documentMark? (p : Place) : List Char → Option Place
  | [] => none
  | c :: rest =>
    if p.column = 0 && startsDocument (c :: rest) then some p else documentMark? (p.next c) rest

/-- Whether what goes from one place to another can be a name. -/
def fitsName (start stop : Place) : Bool :=
  start.line == stop.line && stop.index ≤ start.index + nameLimit

/-! ## The walk through a file -/

/-- A bracket or brace that is open. -/
structure Bracket where
  place : Place
  /-- Whether a name may stand there: not after a colon. -/
  atName : Bool
  deriving DecidableEq, Repr

/-- How many characters are taken in when a piece at a place is looked at: all before it, unless
what starts with an open bracket can still be a name. -/
def taken (brackets : List Bracket) (p : Place) : Nat :=
  match (brackets.filter fun b => b.atName && fitsName b.place p).getLast? with
  | some outermost => outermost.place.index
  | none => p.index

/-- A fault, and how many characters are taken in by then. -/
structure Finding where
  fault : Fault
  taken : Nat
  deriving Repr

/-- The characters that are looked at beyond a piece. -/
def lookahead : Nat := 3

/-- The first fault of pieces that start at a place, where a name may stand or not, within brackets,
of which the innermost comes first. Nothing from the block with an unprintable character on can be
looked at. -/
def finding? (unprintable : Option (Nat × Nat)) (p : Place) (atName : Bool)
    (brackets : List Bracket) : List Piece → Option Finding
  | [] => none
  | piece :: rest =>
    let next := p.after piece.text
    let mark := match piece with
      | .quoted _ _ => documentMark? p piece.text
      | _ => none
    let seen := (mark.map (·.index + 1)).getD next.index + lookahead
    match unprintable.filter (·.1 < seen), mark, piece with
    | some (_, offset), _, _ => some ⟨.unprintable offset, taken brackets p⟩
    | none, some place, _ => some ⟨.documentMark place p, taken brackets p⟩
    | none, none, .quoted _ true =>
      if fitsName p next then finding? unprintable next false brackets rest
      else some ⟨.looseColon next ((brackets.head?.map Bracket.place).getD {}), next.index⟩
    | none, none, .sign c =>
      if c = '[' ∨ c = '\x7b' then finding? unprintable next true (⟨p, atName⟩ :: brackets) rest
      else if c = ']' ∨ c = '\x7d' then finding? unprintable next false brackets.tail rest
      else finding? unprintable next (c = ',') brackets rest
    | none, none, _ => finding? unprintable next false brackets rest

/-- The first fault of the notation of a tree. -/
def notationFault? (v : Value) : Option Finding :=
  finding? (unprintable? {} {} (fileText v)) {} true [] (pieces v)

/-- The fault of a file with a dictionary, if it has one. -/
def fault? (v : Value) : Option Fault :=
  match notationFault? v, badStamp? [] {} v with
  | some found, some stamp =>
    some (if stamp.place.index < found.taken then .badStamp stamp else found.fault)
  | some found, none => some found.fault
  | none, stamp => stamp.map .badStamp

end Flowmeter.Settings.File
