import Flowmeter.Decimal.Binary64

/-!
# Decimal numerals

A numeral is a sign, digits, a point and more digits, and a power of ten. It stands for a number of
64 bits in two ways: `nearest` is the closest one; `scaled` takes the digits that fit 64 bits and
brings them to their place by multiplying or dividing once, which may be off in the last bit.
-/

namespace Flowmeter.Decimal

/-- A decimal numeral. -/
structure Numeral where
  negative : Bool
  /-- The digits before the point. -/
  whole : List Char
  /-- The digits after the point, if there is one. -/
  fraction : Option (List Char)
  /-- The power of ten, if it is given. -/
  exponent : Option Int
  deriving DecidableEq, Repr

namespace Numeral

/-- The number that digits write after a number written before them. -/
def continued (start : Nat) (digits : List Char) : Nat :=
  digits.foldl (fun n c => n * 10 + (c.toNat - '0'.toNat)) start

/-- The sign that a text starts with, and the rest. -/
def sign (text : List Char) : Bool × List Char :=
  match text with
  | '-' :: rest => (true, rest)
  | '+' :: rest => (false, rest)
  | rest => (false, rest)

/-- The power of ten that a text gives, if it gives one; nothing else may be in it. -/
def exponent? : List Char → Option (Option Int)
  | [] => some none
  | 'e' :: text | 'E' :: text =>
    let (negative, digits) := sign text
    if digits.isEmpty || !digits.all Char.isDigit then none
    else
      let n : Int := continued 0 digits
      some (some (if negative then -n else n))
  | _ => none

/-- Reads a numeral. There must be a digit before or after the point. -/
def read? (text : List Char) : Option Numeral := do
  let (negative, text) := sign text
  let whole := text.takeWhile Char.isDigit
  let (fraction, rest) := match text.dropWhile Char.isDigit with
    | '.' :: rest => (some (rest.takeWhile Char.isDigit), rest.dropWhile Char.isDigit)
    | rest => (none, rest)
  if (whole ++ fraction.getD []).isEmpty then none
  else return ⟨negative, whole, fraction, ← exponent? rest⟩

/-- The whole number, without its sign, of a numeral that has digits only. -/
def whole? (numeral : Numeral) : Option Nat :=
  if numeral.fraction.isNone && numeral.exponent.isNone then some (continued 0 numeral.whole)
  else none

/-- The magnitude nearest to a whole number times a power of ten. Beyond 400 places from the point
it is infinite or zero, whatever the digits. -/
def nearestMagnitude (digits : Nat) (exponent : Int) : Magnitude :=
  let place := exponent + digits.repr.length
  if digits = 0 ∨ place < -400 then .zero
  else if 400 < place then .infinite
  else .ofRatio (digits * Nat.pow 10 exponent.toNat) (Nat.pow 10 (-exponent).toNat)

def nearest (numeral : Numeral) : Binary64 :=
  let fraction := numeral.fraction.getD []
  let digits := continued (continued 0 numeral.whole) fraction
  ⟨numeral.negative,
    nearestMagnitude digits (numeral.exponent.getD 0 - fraction.length)⟩

/-! ## Digits that fit 64 bits -/

def maxUnsigned : Nat := 0xFFFFFFFFFFFFFFFF

/-- Puts digits behind a number as long as it fits 64 bits; the number, and the digits left. -/
def fitting (start : Nat) : List Char → Nat × List Char
  | [] => (start, [])
  | c :: rest =>
    let next := continued start [c]
    if next ≤ maxUnsigned then fitting next rest else (start, c :: rest)

/-- The greatest power of ten that is a number of 64 bits. -/
def greatestPower : Nat := 308

def powerOfTen (n : Nat) : Magnitude := .ofNat (Nat.pow 10 n)

/-- Divides by a power of ten, by the greatest one first. -/
def dividedByPower (m : Magnitude) (n : Nat) : Magnitude :=
  if h : n ≤ greatestPower ∨ m = .zero then m.dividedBy (powerOfTen (n % (greatestPower + 1)))
  else dividedByPower (m.dividedBy (powerOfTen greatestPower)) (n - greatestPower)
termination_by n
decreasing_by simp only [greatestPower] at h ⊢; omega

def placed (digits : Nat) (exponent : Int) : Magnitude :=
  let m := Magnitude.ofNat digits
  if digits = 0 then m
  else if exponent < 0 then dividedByPower m (-exponent).toNat
  else if greatestPower < exponent then .infinite
  else m.times (powerOfTen exponent.toNat)

/-- The number of a numeral by the digits that fit 64 bits; later ones count as zeros. -/
def scaled (numeral : Numeral) : Binary64 :=
  let (start, beyond) := fitting 0 numeral.whole
  let fraction := numeral.fraction.getD []
  let (digits, left) := fitting start fraction
  let places : Int := beyond.length - (fraction.length - left.length : Nat)
  ⟨numeral.negative, placed digits (numeral.exponent.getD 0 + places)⟩

end Numeral

end Flowmeter.Decimal
