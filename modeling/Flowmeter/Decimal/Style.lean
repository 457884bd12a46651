import Flowmeter.Decimal.Shortest

/-!
# Styles of decimals

How a number of 64 bits is written: its shortest decimal, laid out with all its places or with a
power of ten.
-/

namespace Flowmeter.Decimal

/-- A style of decimals. -/
structure Style where
  /-- Which of two equally near decimals is written. -/
  tie : Tie
  /-- The least and the greatest power of ten of the first digit for which all places are written;
  without them it is so for every number. -/
  plain : Option (Int × Int)
  /-- Whether a whole number with all its places has a point and a zero. -/
  pointed : Bool

namespace Style

/-- Whether all places are written of a number whose first digit stands for a power of ten. -/
def isPlain (style : Style) (power : Int) : Bool :=
  match style.plain with
  | none => true
  | some (least, greatest) => least ≤ power && power ≤ greatest

/-- A decimal with all its places. -/
def layOut (style : Style) (d : Places) : String :=
  let digits := d.digits.repr.toList
  let zeros (n : Nat) := List.replicate n '0'
  let point := digits.length + d.exponent
  String.ofList <|
    if 0 ≤ d.exponent then
      digits ++ zeros d.exponent.toNat ++ (if style.pointed then ['.', '0'] else [])
    else if 0 < point then digits.take point.toNat ++ '.' :: digits.drop point.toNat
    else '0' :: '.' :: zeros (-point).toNat ++ digits

/-- A decimal with one digit before the point and a power of ten. -/
def layOutPower (d : Places) (power : Int) : String :=
  let mantissa := match d.digits.repr.toList with
    | first :: second :: rest => String.ofList (first :: '.' :: second :: rest)
    | digits => String.ofList digits
  mantissa ++ (if power < 0 then "e-" else "e+") ++ power.natAbs.repr

/-- A number in a style. -/
def write (style : Style) (x : Binary64) : String :=
  (if x.negative then "-" else "") ++
    match x.magnitude with
    | .infinite => "inf"
    | .finite m q =>
      if m = 0 then style.layOut ⟨0, 0⟩
      else
        let d := Shortest.select style.tie m q
        let power := d.digits.repr.length + d.exponent - 1
        if style.isPlain power then style.layOut d else layOutPower d power

end Style

end Flowmeter.Decimal
