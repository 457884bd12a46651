import Flowmeter.Settings.File.Folding

/-!
# Places in a text

A place is how far a text has been read: so many characters, lines and columns, all counted from
zero. Messages count lines and columns from one.
-/

namespace Flowmeter.Settings.File

/-- A place in a text, counted from zero: the characters before it, its line and its column. -/
structure Place where
  index : Nat := 0
  line : Nat := 0
  column : Nat := 0
  deriving DecidableEq, Repr

namespace Place

def next (p : Place) (c : Char) : Place :=
  if isBreak c then ⟨p.index + 1, p.line + 1, 0⟩ else ⟨p.index + 1, p.line, p.column + 1⟩

def after (p : Place) (text : List Char) : Place :=
  text.foldl next p

/-- The place as it is given in messages, unless it is the start. -/
def describe (p : Place) : String :=
  if p.line = 0 ∧ p.column = 0 then "" else s!" at line {p.line + 1} column {p.column + 1}"

@[simp] theorem index_next (p : Place) (c : Char) : (p.next c).index = p.index + 1 := by
  unfold next
  split <;> rfl

/-- A text takes a place on by its length. -/
@[simp] theorem index_after (p : Place) (text : List Char) :
    (p.after text).index = p.index + text.length := by
  induction text generalizing p with
  | nil => rfl
  | cons c rest ih =>
    have h := ih (p.next c)
    simp only [after, List.foldl_cons, index_next, List.length_cons] at h ⊢
    omega

end Place

end Flowmeter.Settings.File
