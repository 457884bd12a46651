import Flowmeter.Decimal.Numeral
import Flowmeter.Settings.Value

/-!
# Numbers of settings

A numeral is a whole number if it has digits only and fits 64 bits. Where it is not, a document
takes it as a decimal by the digits that fit; a word is a decimal, the nearest one, if it has a
point, and otherwise no number at all.
-/

namespace Flowmeter.Settings

open Decimal

/-- The greatest magnitude of a negative number of 64 bits. -/
def maxNegated : Nat := 0x8000000000000000

/-- The whole number that a numeral of digits writes, if it fits 64 bits. -/
def whole? (numeral : Numeral) : Option Value := do
  let n ← numeral.whole?
  if numeral.negative then
    if n ≤ maxNegated then return .negated n else none
  else if n ≤ Numeral.maxUnsigned then return .natural n
  else none

/-- The number that a numeral of a document stands for. A zero with a minus sign is no whole
number there. -/
def Value.ofNumeral (numeral : Numeral) : Value :=
  match whole? numeral with
  | some (.negated 0) | none => .decimal numeral.scaled
  | some n => n

/-- The number that a word writes, if it writes one. -/
def Value.ofWord? (word : List Char) : Option Value := do
  let numeral ← Numeral.read? word
  if numeral.fraction.isSome then return .decimal numeral.nearest else whole? numeral

end Flowmeter.Settings
