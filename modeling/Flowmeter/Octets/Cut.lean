import Flowmeter.Octets.View

/-!
# Cutting views

All ways to cut a view come down to one: `View.slice` keeps a stretch of its positions, and moves
the place along. `View.cut?` is one cut, absent when it asks for positions that the window does not
have; `View.cutAll?` is a chain of them, each made on what the one before has left.
-/

namespace Flowmeter

/-- A stretch of positions in a window. -/
inductive Stretch where
  | between (first last : Nat)
  | upTo (last : Nat)
  | onFrom (first : Nat)
  | whole
  deriving DecidableEq, Repr

namespace Stretch

def start : Stretch → Nat
  | .between first _ => first
  | .upTo _ => 0
  | .onFrom first => first
  | .whole => 0

/-- The position behind the stretch, in a window of the given length. -/
def stop (length : Nat) : Stretch → Nat
  | .between _ last => last
  | .upTo last => last
  | .onFrom _ => length
  | .whole => length

/-- A window of the given length has the positions of the stretch, in this order. -/
def FitsIn (s : Stretch) (length : Nat) : Prop :=
  s.start ≤ s.stop length ∧ s.stop length ≤ length

instance (s : Stretch) (length : Nat) : Decidable (s.FitsIn length) :=
  inferInstanceAs (Decidable (_ ∧ _))

theorem fitsIn_between {first last length : Nat} :
    (between first last).FitsIn length ↔ first ≤ last ∧ last ≤ length :=
  Iff.rfl

theorem fitsIn_upTo {last length : Nat} : (upTo last).FitsIn length ↔ last ≤ length :=
  and_iff_right (Nat.zero_le last)

theorem fitsIn_onFrom {first length : Nat} : (onFrom first).FitsIn length ↔ first ≤ length :=
  and_iff_left (Nat.le_refl length)

end Stretch

/-- A way to cut a view out of another one. -/
inductive Cut where
  | advance (count : Nat)
  | subview (first last : Nat)
  /-- The half before a position. -/
  | splitLeft (mid : Nat)
  /-- The half from a position on. -/
  | splitRight (mid : Nat)
  | slice (stretch : Stretch)
  | take (count : Nat)
  /-- What is taken by a split off the front. -/
  | takeSplitHead (count : Nat)
  /-- What a split off the front leaves. -/
  | takeSplitRest (count : Nat)
  deriving DecidableEq, Repr

/-- The positions that a cut keeps. -/
def Cut.stretch : Cut → Stretch
  | .advance count => .onFrom count
  | .subview first last => .between first last
  | .splitLeft mid => .upTo mid
  | .splitRight mid => .onFrom mid
  | .slice stretch => stretch
  | .take count => .upTo count
  | .takeSplitHead count => .upTo count
  | .takeSplitRest count => .onFrom count

namespace View

/-- The octets of a stretch, for one that fits in the window. -/
def slice (v : View) (s : Stretch) : View :=
  (v.drop s.start).take (s.stop v.length - s.start)

/-- What is left behind the first `count` octets, and these octets, for `count` up to the length. -/
def takeSplit (v : View) (count : Nat) : View × View :=
  (v.drop count, v.take count)

/-- Makes a cut, if the window has the octets that it asks for. -/
def cut? (v : View) : Cut → Option View
  | .advance count => v.advance? count
  | .subview first last => v.subview? first last
  | .splitLeft mid => (v.split? mid).map Prod.fst
  | .splitRight mid => (v.split? mid).map Prod.snd
  | .slice stretch => if stretch.FitsIn v.length then some (v.slice stretch) else none
  | .take count => if count ≤ v.length then some (v.take count) else none
  | .takeSplitHead count => if count ≤ v.length then some (v.takeSplit count).2 else none
  | .takeSplitRest count => if count ≤ v.length then some (v.takeSplit count).1 else none

/-- Makes one cut after the other. -/
def cutAll? (v : View) (cuts : List Cut) : Option View :=
  cuts.foldlM cut? v

@[simp] theorem offset_slice (v : View) (s : Stretch) :
    (v.slice s).offset = v.offset + s.start := rfl

@[simp] theorem bytes_slice (v : View) (s : Stretch) :
    (v.slice s).bytes = (v.bytes.drop s.start).take (s.stop v.length - s.start) := rfl

theorem length_slice {v : View} {s : Stretch} (h : s.FitsIn v.length) :
    (v.slice s).length = s.stop v.length - s.start := by
  obtain ⟨hstart, hstop⟩ := h
  rw [slice, length_take, length_drop]
  omega

theorem slice_upTo (v : View) (last : Nat) : v.slice (.upTo last) = v.take last := rfl

theorem slice_onFrom (v : View) (first : Nat) : v.slice (.onFrom first) = v.drop first := by
  have hall : ((v.drop first).bytes).take (v.length - first) = (v.drop first).bytes :=
    List.take_of_length_le (Nat.le_of_eq (length_drop v first))
  rw [slice, Stretch.start, Stretch.stop, take, hall]

end View

end Flowmeter
