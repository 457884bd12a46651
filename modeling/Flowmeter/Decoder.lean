import Flowmeter.Varint.Continued
import Flowmeter.Varint.Sized

/-!
# Decoders of wire records

A `Decoder` reads a value off the front of a view and leaves the rest. A failed decoder gives a
`Fault`: the cause, and the view at which it showed. Causes are either a read that the octets do
not allow (`ReadError`) or a rule of the format that they break.
-/

namespace Flowmeter

/-- The reads that can fail. -/
inductive ReadError where
  /-- Fewer octets than asked for. -/
  | eof
  /-- Not the octets asked for. -/
  | tag
  /-- The octets to read up to do not occur. -/
  | takeUntil
  /-- No digit, or a number out of range. -/
  | digit
  /-- An integer that does not end in time. -/
  | tooLarge
  deriving DecidableEq, Repr

namespace ReadError

def word : ReadError → String
  | .eof => "Eof"
  | .tag => "Tag"
  | .takeUntil => "TakeUntil"
  | .digit => "Digit"
  | .tooLarge => "TooLarge"

def message (e : ReadError) : String :=
  "Parsing Error: " ++ e.word

end ReadError

/-- Why a decoder failed: on a read, or on a rule of its format. -/
inductive Cause (ε : Type) where
  | read (error : ReadError)
  | rule (error : ε)
  deriving DecidableEq, Repr

/-- A failed decoding: its cause and the view at which it showed. -/
structure Fault (ε : Type) where
  cause : Cause ε
  place : View
  deriving DecidableEq, Repr

namespace Fault

variable {ε : Type}

/-- The text of a fault, with the rules of the format worded by `ruleText`. -/
def message (ruleText : ε → String) (f : Fault ε) : String :=
  let cause := match f.cause with
    | .read error => error.message
    | .rule error => ruleText error
  s!"{cause} at offset {f.place.offset}"

end Fault

/-- Reads an `α` off the front of a view. -/
abbrev Decoder (ε α : Type) := StateT View (Except (Fault ε)) α

namespace Decoder

variable {ε α : Type}

/-- Fails at a given place because a rule is broken. -/
def breaks (error : ε) (place : View) : Decoder ε α := fun _ =>
  .error ⟨.rule error, place⟩

/-- Goes on only if `holds`; otherwise a rule is broken at the given place. -/
def require (holds : Bool) (error : ε) (place : View) : Decoder ε Unit :=
  if holds then pure () else breaks error place

def here : Decoder ε View := fun v =>
  .ok (v, v)

def unreadable (error : ReadError) : Decoder ε α := fun v =>
  .error ⟨.read error, v⟩

/-- The next `n` octets as a view of their own. -/
def take (n : Nat) : Decoder ε View := fun v =>
  if n ≤ v.length then .ok (v.take n, v.drop n) else unreadable .eof v

def octet : Decoder ε UInt8 := fun v =>
  match v.bytes with
  | b :: _ => .ok (b, v.drop 1)
  | [] => unreadable .eof v

def uint16 : Decoder ε UInt16 := do
  return UInt16.ofNat (BigEndian.ofOctets (← take 2).bytes)

def uint32 : Decoder ε UInt32 := do
  return UInt32.ofNat (BigEndian.ofOctets (← take 4).bytes)

/-- The next integer with a continuation bit. -/
def continued : Decoder ε Nat := fun v =>
  match Varint.readContinued? v.bytes with
  | some n => .ok (n.value, v.drop n.size)
  | none => unreadable .tooLarge v

/-- The next integer that announces its size. -/
def sized : Decoder ε Nat := fun v =>
  match Varint.readSized? v.bytes with
  | some n => .ok (n.value, v.drop n.size)
  | none => unreadable .eof v

def literal (pattern : Octets) : Decoder ε View := fun v =>
  if v.startsWith pattern then .ok (v.take pattern.length, v.drop pattern.length)
  else unreadable .tag v

/-- The octets of `pattern`, up to the case of ASCII letters. -/
def literalFolded (pattern : Octets) : Decoder ε View := fun v =>
  if Octets.overlayFolded pattern v.bytes = .covered then
    .ok (v.take pattern.length, v.drop pattern.length)
  else unreadable .tag v

/-- The octets before the first occurrence of `pattern`. -/
def upTo (pattern : Octets) : Decoder ε View := fun v =>
  match v.find? pattern with
  | some n => .ok (v.take n, v.drop n)
  | none => unreadable .takeUntil v

/-- Whether an octet is an ASCII digit. -/
def isDigit (b : UInt8) : Bool :=
  0x30 ≤ b && b ≤ 0x39

def ofDigits (digits : Octets) : Nat :=
  digits.foldl (fun acc b => acc * 10 + (b.toNat - 0x30)) 0

/-- The next decimal number of 16 bits: the longest run of digits, not empty. -/
def decimal16 : Decoder ε UInt16 := fun v =>
  let digits := v.bytes.takeWhile isDigit
  if digits.isEmpty || 65536 ≤ ofDigits digits then unreadable .digit v
  else .ok (UInt16.ofNat (ofDigits digits), v.drop digits.length)

/-! ## Decoders never grow their view -/

/-- What a decoder leaves is no longer than what it was given. -/
def NonGrowing (d : Decoder ε α) : Prop :=
  ∀ (v : View) (a : α) (rest : View), d v = .ok (a, rest) → rest.length ≤ v.length

variable {β : Type}

theorem bind_eq_ok {d : Decoder ε α} {f : α → Decoder ε β} {v rest : View} {b : β} :
    (d >>= f) v = .ok (b, rest) ↔ ∃ a mid, d v = .ok (a, mid) ∧ f a mid = .ok (b, rest) := by
  change (d v >>= fun p => f p.1 p.2) = _ ↔ _
  cases h : d v with
  | error e => simp [bind, Except.bind]
  | ok p =>
    constructor
    · intro hf
      exact ⟨p.1, p.2, rfl, hf⟩
    · rintro ⟨a, mid, hp, hf⟩
      cases hp
      exact hf

theorem require_eq_ok {holds : Bool} {error : ε} {place v rest : View} {u : Unit} :
    require holds error place v = .ok (u, rest) ↔ holds = true ∧ v = rest := by
  cases holds with
  | true =>
    change (Except.ok ((), v) : Except (Fault ε) (Unit × View)) = _ ↔ _
    simp
  | false =>
    change (Except.error _ : Except (Fault ε) (Unit × View)) = _ ↔ _
    simp

theorem NonGrowing.bind {d : Decoder ε α} {f : α → Decoder ε β} (hd : NonGrowing d)
    (hf : ∀ a, NonGrowing (f a)) : NonGrowing (d >>= f) := by
  intro v b rest h
  obtain ⟨a, mid, h₁, h₂⟩ := bind_eq_ok.1 h
  exact Nat.le_trans (hf a _ _ _ h₂) (hd _ _ _ h₁)

theorem nonGrowing_pure (a : α) : NonGrowing (pure a : Decoder ε α) := by
  intro v b rest h
  cases h
  exact Nat.le_refl _

theorem nonGrowing_here : NonGrowing (here : Decoder ε View) := by
  intro v b rest h
  cases h
  exact Nat.le_refl _

theorem nonGrowing_require (holds : Bool) (error : ε) (place : View) :
    NonGrowing (require holds error place) := by
  intro v b rest h
  cases holds
  · cases h
  · exact nonGrowing_pure () _ _ _ h

theorem nonGrowing_take (n : Nat) : NonGrowing (take n : Decoder ε View) := by
  intro v b rest h
  simp only [take] at h
  split at h
  · cases h
    simp
  · cases h

theorem nonGrowing_uint32 : NonGrowing (uint32 : Decoder ε UInt32) :=
  (nonGrowing_take 4).bind fun _ => nonGrowing_pure _

theorem nonGrowing_sized : NonGrowing (sized : Decoder ε Nat) := by
  intro v b rest h
  simp only [sized] at h
  split at h
  · cases h
    simp
  · cases h

theorem octet_shortens {v rest : View} {b : UInt8}
    (h : (octet : Decoder ε UInt8) v = .ok (b, rest)) : rest.length < v.length := by
  simp only [octet] at h
  split at h
  · rename_i hb
    cases h
    simp [View.length, hb]
  · cases h

theorem nonGrowing_octet : NonGrowing (octet : Decoder ε UInt8) := fun _ _ _ h =>
  Nat.le_of_lt (octet_shortens h)

end Decoder

end Flowmeter
