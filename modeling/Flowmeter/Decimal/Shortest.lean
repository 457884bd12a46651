import Flowmeter.Decimal.Binary64

/-!
# The shortest decimal of a number

Many decimals round to one number of 64 bits. `Shortest.select` gives the one with the fewest digits,
of those the nearest. It tries one digit, two digits, and so on: of the decimals with so many digits
only the two next to the number can do.
-/

namespace Flowmeter.Decimal

/-- Digits and the power of ten they are multiplied with. -/
structure Places where
  digits : Nat
  exponent : Int
  deriving DecidableEq, Repr

/-- Which of two equally near decimals counts. -/
inductive Tie where
  /-- The one with the even last digit. -/
  | even
  /-- The greater one. -/
  | greater
  deriving DecidableEq, Repr

namespace Shortest

/-- A decimal and a multiple of a power of two, over a common divisor. -/
def overCommon (d : Places) (m : Nat) (q : Int) : Nat × Nat :=
  (d.digits * Nat.pow 10 d.exponent.toNat * Nat.pow 2 (-q).toNat,
    m * Nat.pow 2 q.toNat * Nat.pow 10 (-d.exponent).toNat)

/-- Four times the significand of the point halfway to the magnitude below. That magnitude is at
half the distance where the significand is the least of its exponent. -/
def lowerBound (m : Nat) (q : Int) : Nat :=
  if 2 * m = Magnitude.significandBound ∧ q ≠ Magnitude.leastExponent then 4 * m - 1 else 4 * m - 2

/-- Whether a decimal rounds to the magnitude `m * 2 ^ q`: it lies within the halfway points, which
themselves round to an even significand. -/
def roundsTo (m : Nat) (q : Int) (d : Places) : Bool :=
  let (low, lower) := overCommon d (lowerBound m q) (q - 2)
  let (high, upper) := overCommon d (4 * m + 2) (q - 2)
  if m % 2 = 0 then lower ≤ low && high ≤ upper else lower < low && high < upper

/-- The number of digits before the point of a quotient; zero or less, the number of zeros behind
the point, below one. -/
def size (dividend divisor : Nat) : Int :=
  if divisor ≤ dividend then (dividend / divisor).repr.length
  else 1 - ((divisor / dividend).repr.length : Int)

/-- The shortest decimal on one grid, if one of the two next to the magnitude rounds to it. -/
def onGrid (tie : Tie) (m : Nat) (q exponent : Int) : Option Places :=
  let (value, unit) := overCommon ⟨1, exponent⟩ m q |>.swap
  let below : Places := ⟨value / unit, exponent⟩
  let above : Places := ⟨value / unit + 1, exponent⟩
  match roundsTo m q below, roundsTo m q above with
  | true, false => some below
  | false, true => some above
  | false, false => none
  | true, true =>
    let twice := 2 * (value % unit)
    if twice < unit ∨ (twice = unit ∧ tie = .even ∧ below.digits % 2 = 0) then some below
    else some above

/-- Drops the zeros that digits end with, within `fuel` steps. -/
def withoutZeros (fuel : Nat) (d : Places) : Places :=
  match fuel with
  | 0 => d
  | fuel + 1 =>
    if d.digits % 10 = 0 then withoutZeros fuel ⟨d.digits / 10, d.exponent + 1⟩ else d

def mostDigits : Nat := 17

/-- The shortest decimal of the magnitude `m * 2 ^ q`, which is not zero. -/
def select (tie : Tie) (m : Nat) (q : Int) : Places :=
  let (up, down) := Magnitude.powerOfTwo q
  let size := size (m * up) down
  let found := (List.range mostDigits).findSome? fun n : Nat => onGrid tie m q (size - (n + 1 : Nat))
  withoutZeros mostDigits (found.getD ⟨m * up * Nat.pow 5 (-q).toNat, if q < 0 then q else 0⟩)

end Shortest

end Flowmeter.Decimal
