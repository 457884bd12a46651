/-!
# Octet strings

Captured data is a list of octets. This module holds the searches and comparisons that the wire
formats are read with: the first occurrence of a pattern, ASCII case folding, comparison with a
pattern that may run past the end, and the surrounding blanks of a value.
-/

namespace Flowmeter

/-- A string of octets, first octet first. -/
abbrev Octets := List UInt8

namespace Octets

def ofText (text : String) : Octets :=
  text.toUTF8.toList

/-- Position of the first occurrence of `pattern`; the empty pattern occurs at position 0. -/
def indexOf? (pattern : Octets) : Octets → Option Nat
  | [] => if pattern.isEmpty then some 0 else none
  | b :: rest =>
    if pattern.isPrefixOf (b :: rest) then some 0
    else (indexOf? pattern rest).map (· + 1)

/-- An ASCII capital as its small letter, any other octet as it is. -/
def foldCase (b : UInt8) : UInt8 :=
  if 0x41 ≤ b && b ≤ 0x5A then b + 0x20 else b

def sameFolded (left right : Octets) : Bool :=
  left.map foldCase == right.map foldCase

/-- How a pattern compares with the octets it is laid over. -/
inductive Overlay where
  /-- The octets start with the whole pattern. -/
  | covered
  /-- The octets are a proper beginning of the pattern. -/
  | truncated
  /-- Some octet differs. -/
  | differs
  deriving DecidableEq, Repr

/-- Lays `pattern` over the start of the octets. -/
def overlay : (pattern octets : Octets) → Overlay
  | [], _ => .covered
  | _ :: _, [] => .truncated
  | p :: pattern, b :: octets => if p = b then overlay pattern octets else .differs

def overlayFolded (pattern octets : Octets) : Overlay :=
  overlay (pattern.map foldCase) (octets.map foldCase)

/-- ASCII blanks: space, tab, line feed, form feed, carriage return. -/
def isBlank (b : UInt8) : Bool :=
  b == 0x20 || b == 0x09 || b == 0x0A || b == 0x0C || b == 0x0D

def trim (octets : Octets) : Octets :=
  ((octets.dropWhile isBlank).reverse.dropWhile isBlank).reverse

/-- A pattern that occurs at `i` fits behind the first `i` octets. -/
theorem indexOf?_add_length_le {pattern octets : Octets} {i : Nat}
    (h : indexOf? pattern octets = some i) : i + pattern.length ≤ octets.length := by
  induction octets generalizing i with
  | nil =>
    simp only [indexOf?] at h
    split at h
    · rename_i hp
      simp only [List.isEmpty_iff] at hp
      cases h
      simp [hp]
    · cases h
  | cons b rest ih =>
    simp only [indexOf?] at h
    split at h
    · rename_i hp
      cases h
      simpa using (List.isPrefixOf_iff_prefix.1 hp).length_le
    · obtain ⟨j, hj, rfl⟩ := Option.map_eq_some_iff.1 h
      have := ih hj
      simp only [List.length_cons]
      omega

/-- A non-empty pattern that occurs at `i` starts before the end. -/
theorem indexOf?_lt_length {pattern octets : Octets} {i : Nat} (hp : pattern ≠ [])
    (h : indexOf? pattern octets = some i) : i < octets.length := by
  have := indexOf?_add_length_le h
  have := List.length_pos_iff.2 hp
  omega

end Octets

end Flowmeter
