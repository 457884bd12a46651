import Flowmeter.Octets.Search
import Mathlib.Data.List.Infix

/-!
# First occurrences

What is found in a string of octets is the first occurrence of the pattern: the octets before it do
not hold the pattern (`exists_of_indexOf?`). Conversely, a pattern that follows octets which do not
hold it is found right behind them (`indexOf?_append`), if no occurrence can begin in these octets
and end in the pattern. That is so when the first octet of the pattern does not come again in it.
A single octet is such a pattern (`indexOf?_singleton_eq_some_iff`).
-/

namespace Flowmeter.Octets

variable {pattern octets : Octets}

theorem indexOf?_of_isPrefixOf (h : pattern.isPrefixOf octets = true) :
    indexOf? pattern octets = some 0 := by
  cases octets with
  | nil =>
    have hnil : pattern = [] := List.prefix_nil.1 (List.isPrefixOf_iff_prefix.1 h)
    rw [hnil]
    rfl
  | cons b rest => simp only [indexOf?, h, ↓reduceIte]

theorem indexOf?_cons_of_not_isPrefixOf {b : UInt8}
    (h : pattern.isPrefixOf (b :: octets) = false) :
    indexOf? pattern (b :: octets) = (indexOf? pattern octets).map (· + 1) := by
  simp only [indexOf?, h, Bool.false_eq_true, ↓reduceIte]

/-- The octets are cut by the first occurrence of the pattern. -/
theorem exists_of_indexOf? {i : Nat} (hp : pattern ≠ []) (h : indexOf? pattern octets = some i) :
    ∃ before after, octets = before ++ pattern ++ after ∧ before.length = i ∧
      ¬ pattern <:+: before := by
  induction octets generalizing i with
  | nil =>
    have := indexOf?_lt_length hp h
    simp only [List.length_nil] at this
    omega
  | cons b rest ih =>
    cases hpre : pattern.isPrefixOf (b :: rest) with
    | true =>
      obtain ⟨after, hafter⟩ := List.isPrefixOf_iff_prefix.1 hpre
      rw [indexOf?_of_isPrefixOf hpre] at h
      cases h
      refine ⟨[], after, hafter.symm, rfl, ?_⟩
      intro hinfix
      exact hp (List.infix_nil.1 hinfix)
    | false =>
      rw [indexOf?_cons_of_not_isPrefixOf hpre] at h
      obtain ⟨j, hj, rfl⟩ := Option.map_eq_some_iff.1 h
      obtain ⟨before, after, rfl, rfl, hnot⟩ := ih hj
      refine ⟨b :: before, after, rfl, rfl, ?_⟩
      intro hinfix
      -- an earlier occurrence is at the head, where none was found, or in the rest
      rcases List.infix_cons_iff.1 hinfix with hbegin | hlater
      · have hwhole : pattern <+: b :: (before ++ pattern ++ after) := by
          refine hbegin.trans ?_
          rw [List.append_assoc]
          exact List.prefix_append (b :: before) (pattern ++ after)
        rw [List.isPrefixOf_iff_prefix.2 hwhole] at hpre
        cases hpre
      · exact hnot hlater

/-- No occurrence begins before a pattern whose first octet does not come again in it, unless it
ends there too. -/
theorem prefix_of_prefix_append {a : UInt8} {before after : Octets} (ha : a ∉ pattern)
    (hne : before ≠ []) (h : a :: pattern <+: before ++ (a :: pattern) ++ after) :
    a :: pattern <+: before := by
  obtain ⟨tail, htail⟩ := h
  rw [List.append_assoc] at htail
  rcases List.append_eq_append_iff.1 htail with ⟨middle, hbefore, -⟩ | ⟨middle, hpattern, hmiddle⟩
  · exact ⟨middle, hbefore.symm⟩
  · -- The rest of the pattern would begin with its first octet.
    cases middle with
    | nil =>
      rw [List.append_nil] at hpattern
      exact ⟨[], (List.append_nil _).trans hpattern⟩
    | cons c middle =>
      obtain ⟨b, before, rfl⟩ := List.exists_cons_of_ne_nil hne
      simp only [List.cons_append, List.cons.injEq] at hpattern hmiddle
      have hmem : c ∈ pattern := by
        rw [hpattern.2]
        exact List.mem_append_right before List.mem_cons_self
      rw [← hmiddle.1] at hmem
      exact absurd hmem ha

/-- A pattern is found where it first occurs, if its first octet does not come again in it. -/
theorem indexOf?_append {a : UInt8} {before after : Octets} (ha : a ∉ pattern)
    (h : ¬ (a :: pattern) <:+: before) :
    indexOf? (a :: pattern) (before ++ (a :: pattern) ++ after) = some before.length := by
  induction before with
  | nil => exact indexOf?_of_isPrefixOf (List.isPrefixOf_iff_prefix.2 (List.prefix_append _ _))
  | cons b before ih =>
    have hpre : (a :: pattern).isPrefixOf (b :: (before ++ (a :: pattern) ++ after)) = false := by
      rw [Bool.eq_false_iff, ne_eq, List.isPrefixOf_iff_prefix]
      intro hwhole
      exact h (prefix_of_prefix_append ha (List.cons_ne_nil b before) hwhole).isInfix
    have hlater : ¬ (a :: pattern) <:+: before := fun hin => h (List.infix_cons hin)
    rw [List.cons_append, List.cons_append, indexOf?_cons_of_not_isPrefixOf hpre, ih hlater]
    rfl

/-- A single octet is found where it first stands. -/
theorem indexOf?_singleton_eq_some_iff {a : UInt8} {i : Nat} :
    indexOf? [a] octets = some i ↔
      ∃ before after, octets = before ++ a :: after ∧ a ∉ before ∧ before.length = i := by
  constructor
  · intro h
    obtain ⟨before, after, rfl, rfl, hnot⟩ := exists_of_indexOf? (List.cons_ne_nil a []) h
    rw [List.singleton_infix_iff] at hnot
    exact ⟨before, after, List.append_cons .. |>.symm, hnot, rfl⟩
  · rintro ⟨before, after, rfl, hnot, rfl⟩
    rw [← List.singleton_infix_iff] at hnot
    rw [List.append_cons]
    exact indexOf?_append List.not_mem_nil hnot

end Flowmeter.Octets
