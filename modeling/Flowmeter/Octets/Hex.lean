import Flowmeter.Octets.Search

/-!
# Hexadecimal text of octets

Two small digits per octet, the high half first.
-/

namespace Flowmeter.Octets

def hexDigit (n : Nat) : Char :=
  if n < 10 then Char.ofNat ('0'.toNat + n) else Char.ofNat ('a'.toNat + (n - 10))

def hexPair (b : UInt8) : List Char :=
  [hexDigit (b.toNat / 16), hexDigit (b.toNat % 16)]

def hex (octets : Octets) : String :=
  String.ofList (octets.flatMap hexPair)

end Flowmeter.Octets
