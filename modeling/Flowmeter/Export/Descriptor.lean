/-!
# Field descriptors

A field is known by the name of its plugin and its own. Descriptors are ordered by plugin, then by
field, each by code points.
-/

namespace Flowmeter

/-- The names that a field is known by. -/
structure Descriptor where
  plugin : String
  field : String
  deriving DecidableEq, Repr

namespace Descriptor

/-- Plugin and field with a dot between them. -/
def render (d : Descriptor) : String :=
  d.plugin ++ "." ++ d.field

instance : LT Descriptor where
  lt a b := a.plugin < b.plugin ∨ (a.plugin = b.plugin ∧ a.field < b.field)

theorem lt_def {a b : Descriptor} :
    a < b ↔ a.plugin < b.plugin ∨ (a.plugin = b.plugin ∧ a.field < b.field) :=
  Iff.rfl

instance (a b : Descriptor) : Decidable (a < b) :=
  inferInstanceAs (Decidable (a.plugin < b.plugin ∨ (a.plugin = b.plugin ∧ a.field < b.field)))

theorem lt_irrefl (a : Descriptor) : ¬ a < a := by
  rw [lt_def]
  rintro (h | ⟨_, h⟩)
  · exact String.lt_irrefl _ h
  · exact String.lt_irrefl _ h

theorem lt_trans {a b c : Descriptor} (h₁ : a < b) (h₂ : b < c) : a < c := by
  rw [lt_def] at *
  rcases h₁ with h₁ | ⟨e₁, h₁⟩ <;> rcases h₂ with h₂ | ⟨e₂, h₂⟩
  · exact .inl (String.lt_trans h₁ h₂)
  · exact .inl (e₂ ▸ h₁)
  · exact .inl (e₁ ▸ h₂)
  · exact .inr ⟨e₁.trans e₂, String.lt_trans h₁ h₂⟩

theorem lt_of_not_lt_of_ne {a b : Descriptor} (h : ¬ a < b) (hne : a ≠ b) : b < a := by
  rw [lt_def, not_or] at h
  rw [lt_def]
  by_cases hp : a.plugin = b.plugin
  · refine .inr ⟨hp.symm, Std.lt_of_le_of_ne (String.not_lt.1 fun hf => h.2 ⟨hp, hf⟩) ?_⟩
    intro hf
    cases a
    cases b
    simp_all
  · exact .inl (Std.lt_of_le_of_ne (String.not_lt.1 h.1) (Ne.symm hp))

end Descriptor

end Flowmeter
