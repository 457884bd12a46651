import Flowmeter.Settings.Value

/-!
# Folded texts

A text of a settings file may go over lines. What it is read as has the breaks folded: `foldBreaks`,
and `folded` for all texts of a tree.
-/

namespace Flowmeter.Settings.File

/-- The characters that break a line and are not marked. -/
def isBreak (c : Char) : Bool :=
  c == '\u0085' || c == '\u2028' || c == '\u2029'

/-- What a break is read as. -/
def lineEnd (c : Char) : Char :=
  if c == '\u0085' then '\n' else c

/-- What blanks and breaks between other characters are read as. Without a break they stand for
themselves. Otherwise the blanks are lost, and the first break too if it ends a line: alone it is
read as a space. -/
def foldRun (run : List Char) : List Char :=
  match (run.filter isBreak).map lineEnd with
  | [] => run
  | ['\n'] => [' ']
  | '\n' :: ends => ends
  | ends => ends

/-- Whether a character is a blank or a break. -/
def isGap (c : Char) : Bool :=
  c == ' ' || isBreak c

def foldBreaks (text : List Char) : List Char :=
  (text.splitBy fun a b => isGap a == isGap b).flatMap fun run =>
    if run.all isGap then foldRun run else run

mutual

def folded : Value → Value
  | .text text => .text (String.ofList (foldBreaks text.toList))
  | .list values => .list (foldedElements values)
  | .dict entries => .dict (foldedEntries entries)
  | v => v

/-- The elements of a list with all texts folded. -/
def foldedElements : List Value → List Value
  | [] => []
  | v :: rest => folded v :: foldedElements rest

/-- The entries of a dictionary with all texts folded. -/
def foldedEntries : List (String × Value) → Entries
  | [] => []
  | (name, v) :: rest => (name, folded v) :: foldedEntries rest

end

end Flowmeter.Settings.File
