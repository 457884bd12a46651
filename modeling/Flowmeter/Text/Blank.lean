/-!
# Blanks and lines of text

Two notions of white space are in use. `isSpace` is the White_Space property of Unicode; a name or
an entry never holds such a character. `isBlank` is the four characters that lay a text out:
space, tab, carriage return and line feed.
-/

namespace Flowmeter.Text

/-- The white space of Unicode. -/
def isSpace (c : Char) : Bool :=
  let n := c.toNat
  (0x09 ≤ n && n ≤ 0x0D) || n == 0x20 || n == 0x85 || n == 0xA0 || n == 0x1680
    || (0x2000 ≤ n && n ≤ 0x200A) || n == 0x2028 || n == 0x2029 || n == 0x202F || n == 0x205F
    || n == 0x3000

/-- The white space that lays a text out. -/
def isBlank (c : Char) : Bool :=
  c == ' ' || c == '\t' || c == '\r' || c == '\n'

def trim (text : List Char) : List Char :=
  ((text.dropWhile isSpace).reverse.dropWhile isSpace).reverse

def skipBlanks (text : List Char) : List Char :=
  text.dropWhile isBlank

/-- The lines of a text, without the line feed or the carriage return and line feed that end
each. The last line needs no end. -/
def lines : List Char → List (List Char)
  | [] => []
  | '\n' :: rest => [] :: lines rest
  | '\r' :: '\n' :: rest => [] :: lines rest
  | c :: rest =>
    match lines rest with
    | [] => [[c]]
    | line :: others => (c :: line) :: others

theorem length_skipBlanks_le (text : List Char) : (skipBlanks text).length ≤ text.length := by
  simpa [skipBlanks] using (List.dropWhile_suffix isBlank).length_le

theorem isSpace_of_isBlank {c : Char} (h : isBlank c = true) : isSpace c = true := by
  simp only [isBlank, Bool.or_eq_true, beq_iff_eq] at h
  rcases h with ((rfl | rfl) | rfl) | rfl <;> decide

end Flowmeter.Text
