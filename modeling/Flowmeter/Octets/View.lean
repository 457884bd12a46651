import Flowmeter.Octets.Search
import Flowmeter.Octets.Utf8

/-!
# Views of captured octets

A `View` is a window over a captured buffer that knows where in the buffer it starts. Every cut of
a view (`take`, `drop` and the checked `advance?`, `subview?`, `split?`) moves the position along
with the octets, so a position reported deep inside a decoder is one in the capture.
-/

namespace Flowmeter

/-- A window over captured octets that starts `offset` octets into the capture. -/
structure View where
  offset : Nat
  bytes : Octets
  deriving DecidableEq, Repr

namespace View

/-- The whole of a buffer. -/
def ofBytes (bytes : Octets) : View :=
  ⟨0, bytes⟩

def length (v : View) : Nat :=
  v.bytes.length

def isEmpty (v : View) : Bool :=
  v.bytes.isEmpty

def take (v : View) (n : Nat) : View :=
  ⟨v.offset, v.bytes.take n⟩

/-- The octets after the first `n`, for `n` up to the length. -/
def drop (v : View) (n : Nat) : View :=
  ⟨v.offset + n, v.bytes.drop n⟩

def byte? (v : View) (i : Nat) : Option UInt8 :=
  v.bytes[i]?

/-- Position in the window of the first occurrence of a pattern. -/
def find? (v : View) (pattern : Octets) : Option Nat :=
  Octets.indexOf? pattern v.bytes

/-- Position in the window of the first octet that satisfies `p`. -/
def position? (v : View) (p : UInt8 → Bool) : Option Nat :=
  v.bytes.findIdx? p

def startsWith (v : View) (pattern : Octets) : Bool :=
  pattern.isPrefixOf v.bytes

/-- Drops the first `n` octets, if there are as many. -/
def advance? (v : View) (n : Nat) : Option View :=
  if n ≤ v.length then some (v.drop n) else none

/-- The octets from position `first` up to position `last`, if both lie in the window in this
order. -/
def subview? (v : View) (first last : Nat) : Option View :=
  if first ≤ last ∧ last ≤ v.length then some ((v.drop first).take (last - first)) else none

/-- The two halves on both sides of position `mid`, if it lies in the window. -/
def split? (v : View) (mid : Nat) : Option (View × View) :=
  if mid ≤ v.length then some (v.take mid, v.drop mid) else none

/-- Number of octets missing for the window to hold `n` of them. -/
def missing (v : View) (n : Nat) : Nat :=
  n - v.length

/-- Number of octets from the start of a view to the start of one that was cut from it. -/
def distance (v w : View) : Nat :=
  w.offset - v.offset

/-- The window as text, if it is well-formed UTF-8. -/
def text? (v : View) : Option String :=
  (Utf8.decode? v.bytes).map String.ofList

@[simp] theorem length_take (v : View) (n : Nat) : (v.take n).length = min n v.length := by
  simp [take, length]

@[simp] theorem length_drop (v : View) (n : Nat) : (v.drop n).length = v.length - n := by
  simp [drop, length]

@[simp] theorem offset_take (v : View) (n : Nat) : (v.take n).offset = v.offset := rfl

@[simp] theorem offset_drop (v : View) (n : Nat) : (v.drop n).offset = v.offset + n := rfl

@[simp] theorem bytes_take (v : View) (n : Nat) : (v.take n).bytes = v.bytes.take n := rfl

@[simp] theorem bytes_drop (v : View) (n : Nat) : (v.drop n).bytes = v.bytes.drop n := rfl

@[simp] theorem distance_drop (v : View) (n : Nat) : v.distance (v.drop n) = n := by
  simp [distance]

theorem drop_drop (v : View) (m n : Nat) : (v.drop m).drop n = v.drop (m + n) := by
  simp [drop, Nat.add_assoc]

/-- The view is what is left of another one after some of its octets. -/
def IsTailOf (w v : View) : Prop :=
  ∃ taken, v.bytes = taken ++ w.bytes ∧ w.offset = v.offset + taken.length

theorem isTailOf_refl (v : View) : v.IsTailOf v :=
  ⟨[], rfl, rfl⟩

theorem isTailOf_drop {v : View} {n : Nat} (h : n ≤ v.length) : (v.drop n).IsTailOf v := by
  refine ⟨v.bytes.take n, (List.take_append_drop n v.bytes).symm, ?_⟩
  rw [offset_drop, List.length_take_of_le h]

theorem IsTailOf.trans {u v w : View} (h : w.IsTailOf v) (h' : v.IsTailOf u) : w.IsTailOf u := by
  obtain ⟨taken, hbytes, hoffset⟩ := h
  obtain ⟨taken', hbytes', hoffset'⟩ := h'
  refine ⟨taken' ++ taken, ?_, ?_⟩
  · rw [hbytes', hbytes, List.append_assoc]
  · rw [hoffset, hoffset', List.length_append, Nat.add_assoc]

end View

end Flowmeter
