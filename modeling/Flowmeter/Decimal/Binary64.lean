/-!
# Binary floating point numbers

A number of 64 bits is a sign and a magnitude: a significand of 53 bits times a power of two, or
infinity. `Magnitude.ofRatio` rounds an exact quotient; products and quotients of magnitudes are the
exact ones, rounded once.
-/

namespace Flowmeter.Decimal

/-- A quotient rounded to the nearest whole number, halfway to the even one. -/
def roundedQuotient (dividend divisor : Nat) : Nat :=
  let whole := dividend / divisor
  let twice := 2 * (dividend % divisor)
  if twice < divisor ∨ (twice = divisor ∧ whole % 2 = 0) then whole else whole + 1

/-- A magnitude of 64 bits. -/
inductive Magnitude where
  /-- The significand times two to the exponent. -/
  | finite (significand : Nat) (exponent : Int)
  | infinite
  deriving DecidableEq, Repr

/-- A number of 64 bits. Zero has a sign too. -/
structure Binary64 where
  negative : Bool
  magnitude : Magnitude
  deriving DecidableEq, Repr

namespace Magnitude

/-- What significands stay below: two to the power of 53. -/
def significandBound : Nat := 0x20000000000000

def leastExponent : Int := -1074

def greatestExponent : Int := 971

def zero : Magnitude := .finite 0 leastExponent

/-- Two to a power, as a quotient: the dividend, or else the divisor, is one. -/
def powerOfTwo (exponent : Int) : Nat × Nat :=
  (Nat.pow 2 exponent.toNat, Nat.pow 2 (-exponent).toNat)

/-- The magnitude nearest to a quotient, halfway the one with the even significand. The exponent
is the one for which the quotient has 53 bits before the point, or the least one. -/
def ofRatio (dividend divisor : Nat) : Magnitude :=
  if dividend = 0 then zero
  else
    let estimate : Int := (dividend.log2 : Int) - divisor.log2 - 53
    let estimate := if estimate < leastExponent then leastExponent else estimate
    let (up, down) := powerOfTwo estimate
    let exponent :=
      if dividend * down / (divisor * up) < significandBound then estimate else estimate + 1
    let (up, down) := powerOfTwo exponent
    let significand := roundedQuotient (dividend * down) (divisor * up)
    let (significand, exponent) :=
      if significand < significandBound then (significand, exponent)
      else (significand / 2, exponent + 1)
    if greatestExponent < exponent then .infinite else .finite significand exponent

def ofNat (n : Nat) : Magnitude := ofRatio n 1

def times : Magnitude → Magnitude → Magnitude
  | .finite m p, .finite n q =>
    let (up, down) := powerOfTwo (p + q)
    ofRatio (m * n * up) down
  | _, _ => .infinite

/-- The quotient of two magnitudes, of which the second is neither zero nor infinite. -/
def dividedBy : Magnitude → Magnitude → Magnitude
  | .finite m p, .finite n q =>
    let (up, down) := powerOfTwo (p - q)
    ofRatio (m * up) (n * down)
  | .infinite, _ => .infinite
  | .finite _ _, .infinite => zero

end Magnitude

end Flowmeter.Decimal
