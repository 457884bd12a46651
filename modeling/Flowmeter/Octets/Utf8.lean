import Flowmeter.Octets.Search

/-!
# UTF-8 text in octets

`scan` reads one character off the front of an octet string, or skips the longest run that could
have started one. On it stand the strict reading `decode?`, which refuses any ill-formed run, and
the lenient reading `decodeLossy`, which writes U+FFFD for each. A text is cut to a number of octets
without splitting a character: from its front (`clip`), or by going back over its octets to the last
place where a character ends (`cutBack?`).
-/

namespace Flowmeter.Utf8

/-- `80..BF`, the octets that continue a character. -/
def isContinuation (b : UInt8) : Bool :=
  0x80 ≤ b && b ≤ 0xBF

/-- The octets that may come second after `lead`: no overlong forms (`E0`, `F0`), no surrogates
(`ED`), nothing above U+10FFFF (`F4`). -/
def continues (lead b : UInt8) : Bool :=
  if lead = 0xE0 then 0xA0 ≤ b && b ≤ 0xBF
  else if lead = 0xED then 0x80 ≤ b && b ≤ 0x9F
  else if lead = 0xF0 then 0x90 ≤ b && b ≤ 0xBF
  else if lead = 0xF4 then 0x80 ≤ b && b ≤ 0x8F
  else isContinuation b

/-- The six value bits of a continuation octet. -/
def low6 (b : UInt8) : Nat :=
  b.toNat % 64

/-- Reads a character whose first octet is `lead`. The character is absent when the octets are ill
formed; then the longest run that could have started a character is skipped, at least `lead`. -/
def scan (lead : UInt8) (rest : Octets) : Option Char × Octets :=
  if lead < 0x80 then (some (Char.ofNat lead.toNat), rest)
  else if 0xC2 ≤ lead && lead ≤ 0xDF then
    match rest with
    | b :: tail =>
      if isContinuation b then (some (Char.ofNat (lead.toNat % 32 * 64 + low6 b)), tail)
      else (none, rest)
    | [] => (none, [])
  else if 0xE0 ≤ lead && lead ≤ 0xEF then
    match rest with
    | b :: tail =>
      if continues lead b then
        match tail with
        | c :: tail' =>
          if isContinuation c then
            (some (Char.ofNat ((lead.toNat % 16 * 64 + low6 b) * 64 + low6 c)), tail')
          else (none, tail)
        | [] => (none, [])
      else (none, rest)
    | [] => (none, [])
  else if 0xF0 ≤ lead && lead ≤ 0xF4 then
    match rest with
    | b :: tail =>
      if continues lead b then
        match tail with
        | c :: tail' =>
          if isContinuation c then
            match tail' with
            | d :: tail'' =>
              if isContinuation d then
                (some (Char.ofNat (((lead.toNat % 8 * 64 + low6 b) * 64 + low6 c) * 64 + low6 d)),
                  tail'')
              else (none, tail')
            | [] => (none, [])
          else (none, tail)
        | [] => (none, [])
      else (none, rest)
    | [] => (none, [])
  else (none, rest)

theorem length_scan_le (lead : UInt8) (rest : Octets) :
    (scan lead rest).2.length ≤ rest.length := by
  unfold scan
  repeat' split
  all_goals simp only [List.length_cons, List.length_nil, Nat.le_refl]
  all_goals omega

/-- The characters of the octets, an ill-formed run being no character. -/
def scanAll : Octets → List (Option Char)
  | [] => []
  | lead :: rest => (scan lead rest).1 :: scanAll (scan lead rest).2
termination_by octets => octets.length
decreasing_by
  have := length_scan_le lead rest
  simp only [List.length_cons]
  omega

def decode? (octets : Octets) : Option (List Char) :=
  (scanAll octets).mapM id

/-- The text of any octets, with U+FFFD for each ill-formed run. -/
def decodeLossy (octets : Octets) : List Char :=
  (scanAll octets).map (·.getD '\uFFFD')

/-- Number of octets of a text. -/
def size : List Char → Nat
  | [] => 0
  | c :: rest => c.utf8Size + size rest

/-- The longest beginning of a text that takes at most `capacity` octets. -/
def clip : (capacity : Nat) → List Char → List Char
  | _, [] => []
  | capacity, c :: rest =>
    if c.utf8Size ≤ capacity then c :: clip (capacity - c.utf8Size) rest else []

/-- Whether a text may be cut behind the first `n` of its octets: at either end of it, or where the
next octet continues no character. -/
def isBoundary (octets : Octets) (n : Nat) : Bool :=
  n == 0 ||
    match octets[n]? with
    | some b => !isContinuation b
    | none => n == octets.length

/-- The last boundary at or before `n`, looked for octet by octet from there. It is absent if the
search has to go on before the first octet. -/
def boundaryFrom? (octets : Octets) : (n : Nat) → Option Nat
  | 0 => if isBoundary octets 0 then some 0 else none
  | n + 1 => if isBoundary octets (n + 1) then some (n + 1) else boundaryFrom? octets n

/-- The text of as many octets as there is room for, up to the last boundary there. -/
def cutBack? (capacity : Nat) (octets : Octets) : Option (List Char) := do
  let last ← boundaryFrom? octets (min octets.length capacity)
  decode? (octets.take last)

end Flowmeter.Utf8
