import Flowmeter.Octets.Cut
import Flowmeter.Proofs.Decoder.Places

/-!
# What a cut view shows

A cut is made if and only if the window has the positions that it asks for, and it is then the slice
of these positions (`View.cut?_eq_some_iff`), which is a part of the view (`View.isPartOf_slice`).
Parts of parts are parts, so every chain of cuts ends in a part of the view that it starts from
(`View.isPartOf_of_cutAll?`), and the octets of a part are those that stand at its place
(`View.IsPartOf.bytes_eq`).
-/

namespace Flowmeter.View

variable {u v w : View} {s : Stretch}

/-! ## Parts -/

theorem IsPartOf.trans (h : w.IsPartOf v) (h' : v.IsPartOf u) : w.IsPartOf u := by
  obtain ⟨before, after, hbytes, hoffset⟩ := h
  obtain ⟨before', after', hbytes', hoffset'⟩ := h'
  refine ⟨before' ++ before, after ++ after', ?_, ?_⟩
  · rw [hbytes', hbytes]
    simp only [List.append_assoc]
  · rw [hoffset, hoffset', List.length_append, Nat.add_assoc]

/-- A part ends inside of the whole. -/
theorem IsPartOf.offset_add_length_le (h : w.IsPartOf v) :
    w.offset + w.length ≤ v.offset + v.length := by
  obtain ⟨before, after, hbytes, hoffset⟩ := h
  rw [hoffset, View.length, View.length, hbytes, List.length_append, List.length_append]
  omega

/-- The octets of a part are those of the whole that stand at its place. -/
theorem IsPartOf.bytes_eq (h : w.IsPartOf v) :
    w.bytes = (v.bytes.drop (w.offset - v.offset)).take w.length := by
  obtain ⟨before, after, hbytes, hoffset⟩ := h
  rw [hoffset, Nat.add_sub_cancel_left, hbytes, List.append_assoc, List.drop_left]
  exact List.take_left.symm

theorem IsPartOf.offset_le (h : w.IsPartOf v) : v.offset ≤ w.offset := by
  obtain ⟨before, after, -, hoffset⟩ := h
  rw [hoffset]
  exact Nat.le_add_right ..

theorem isPartOf_slice (h : s.FitsIn v.length) : (v.slice s).IsPartOf v := by
  have htail : (v.drop s.start).IsTailOf v := isTailOf_drop (Nat.le_trans h.1 h.2)
  exact htail.isPartOf_take _

/-! ## Cuts -/

/-- A cut is the slice of the positions that it asks for, if the window has them. -/
theorem cut?_eq_ite (v : View) (c : Cut) :
    v.cut? c = if c.stretch.FitsIn v.length then some (v.slice c.stretch) else none := by
  cases c with
  | advance n => simp only [cut?, advance?, Cut.stretch, Stretch.fitsIn_onFrom, slice_onFrom]
  | subview first last => simp only [cut?, subview?, Cut.stretch, Stretch.fitsIn_between]; rfl
  | splitLeft mid =>
    simp only [cut?, split?, Cut.stretch, Stretch.fitsIn_upTo, slice_upTo]
    split <;> rfl
  | splitRight mid =>
    simp only [cut?, split?, Cut.stretch, Stretch.fitsIn_onFrom, slice_onFrom]
    split <;> rfl
  | slice s => rfl
  | take n => simp only [cut?, Cut.stretch, Stretch.fitsIn_upTo, slice_upTo]
  | takeSplitHead n =>
    simp only [cut?, takeSplit, Cut.stretch, Stretch.fitsIn_upTo, slice_upTo]
  | takeSplitRest n =>
    simp only [cut?, takeSplit, Cut.stretch, Stretch.fitsIn_onFrom, slice_onFrom]

theorem cut?_eq_some_iff {v w : View} {c : Cut} :
    v.cut? c = some w ↔ c.stretch.FitsIn v.length ∧ v.slice c.stretch = w := by
  rw [cut?_eq_ite]
  by_cases h : c.stretch.FitsIn v.length <;> simp [h]

theorem cut?_eq_none_iff {v : View} {c : Cut} :
    v.cut? c = none ↔ ¬ c.stretch.FitsIn v.length := by
  rw [cut?_eq_ite]
  by_cases h : c.stretch.FitsIn v.length <;> simp [h]

theorem isPartOf_of_cut? {v w : View} {c : Cut} (h : v.cut? c = some w) : w.IsPartOf v := by
  obtain ⟨hfits, rfl⟩ := cut?_eq_some_iff.1 h
  exact isPartOf_slice hfits

/-- A chain of cuts ends in a part of the view that it starts from. -/
theorem isPartOf_of_cutAll? {v w : View} {cuts : List Cut} (h : v.cutAll? cuts = some w) :
    w.IsPartOf v := by
  induction cuts generalizing v with
  | nil =>
    cases h
    exact (isTailOf_refl _).isPartOf
  | cons c cuts ih =>
    rw [cutAll?, List.foldlM_cons, Option.bind_eq_bind, Option.bind_eq_some_iff] at h
    obtain ⟨u, hfirst, hrest⟩ := h
    exact (ih hrest).trans (isPartOf_of_cut? hfirst)

theorem advance?_eq_none_iff {v : View} {count : Nat} :
    v.advance? count = none ↔ v.length < count := by
  have hcut := cut?_eq_none_iff (v := v) (c := .advance count)
  rwa [Cut.stretch, Stretch.fitsIn_onFrom, Nat.not_le] at hcut

theorem subview?_eq_none_iff {v : View} {first last : Nat} :
    v.subview? first last = none ↔ last < first ∨ v.length < last := by
  have hcut := cut?_eq_none_iff (v := v) (c := .subview first last)
  rwa [Cut.stretch, Stretch.fitsIn_between, Decidable.not_and_iff_or_not, Nat.not_le, Nat.not_le]
    at hcut

theorem split?_eq_none_iff {v : View} {mid : Nat} : v.split? mid = none ↔ v.length < mid := by
  have hcut := cut?_eq_none_iff (v := v) (c := .splitLeft mid)
  rwa [Cut.stretch, Stretch.fitsIn_upTo, Nat.not_le, cut?, Option.map_eq_none_iff] at hcut

/-! ## Halves -/

/-- Two views are the halves of another one on both sides of a position: their octets together are
those of the view, and the second one starts where the first one ends. -/
structure SplitsInto (v : View) (mid : Nat) (left right : View) : Prop where
  append_eq : left.bytes ++ right.bytes = v.bytes
  offset_left : left.offset = v.offset
  length_left : left.length = mid
  offset_right : right.offset = left.offset + left.length

theorem splitsInto_take_drop {v : View} {mid : Nat} (h : mid ≤ v.length) :
    v.SplitsInto mid (v.take mid) (v.drop mid) where
  append_eq := List.take_append_drop mid v.bytes
  offset_left := rfl
  length_left := by rw [length_take, Nat.min_eq_left h]
  offset_right := by rw [offset_drop, offset_take, length_take, Nat.min_eq_left h]

theorem splitsInto_of_split? {v left right : View} {mid : Nat}
    (h : v.split? mid = some (left, right)) : v.SplitsInto mid left right := by
  unfold split? at h
  split at h
  · next hmid =>
    cases h
    exact splitsInto_take_drop hmid
  · cases h

/-! ## The capture -/

end Flowmeter.View
