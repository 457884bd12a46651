import Flowmeter.Proofs.Decoder

/-!
# Decoders and the places they report

Three things that a decoder gives have a place in the capture: the rest that it leaves, the views
that it reads, and the view at which a fault shows. `Decoder.Moves whole n R d d'` compares `d` on
what is left of `whole` with `d'` on the same octets `n` further on. The answers are the same, but
that every place in the second one is `n` further on, and all places in the first one lie in
`whole`. A decoder that keeps a place for later is compared with one that keeps the moved place, so
the comparison composes (`Moves.bind`), and it is the composition that gives both facts at once.

`Decoder.TracksPlaces` collects what this says of one decoder, with `Decoder.Local`.
-/

namespace Flowmeter

/-! ## Views inside of views -/

namespace View

variable {v whole : View}

/-- The view is cut out of another one: that one holds its octets at its place. -/
def IsPartOf (w v : View) : Prop :=
  ∃ before after, v.bytes = before ++ w.bytes ++ after ∧ w.offset = v.offset + before.length

/-- The end of a view is a part of it. -/
theorem IsTailOf.isPartOf {w : View} (h : w.IsTailOf v) : w.IsPartOf v := by
  obtain ⟨taken, hbytes, hoffset⟩ := h
  exact ⟨taken, [], by rw [List.append_nil, hbytes], hoffset⟩

/-- So is any beginning of the end. -/
theorem IsTailOf.isPartOf_take (h : v.IsTailOf whole) (n : Nat) : (v.take n).IsPartOf whole := by
  obtain ⟨taken, hbytes, hoffset⟩ := h
  refine ⟨taken, v.bytes.drop n, ?_, hoffset⟩
  rw [hbytes, bytes_take, List.append_assoc, List.take_append_drop]

/-- The same octets, `n` further on in the capture. -/
def moved (v : View) (n : Nat) : View :=
  ⟨v.offset + n, v.bytes⟩

@[simp] theorem bytes_moved (v : View) (n : Nat) : (v.moved n).bytes = v.bytes := rfl

/-- It makes no difference whether a view is moved before or after it is cut. -/
theorem take_moved (v : View) (n k : Nat) : (v.moved n).take k = (v.take k).moved n := rfl

theorem drop_moved (v : View) (n k : Nat) : (v.moved n).drop k = (v.drop k).moved n := by
  rw [drop, moved, moved, drop, Nat.add_right_comm]

end View

variable {ε α β α' β' : Type} {v whole : View} {n k : Nat} {R : α → α' → Prop} {S : β → β' → Prop}
  {a : α} {a' : α'}

/-- The same fault, showing `n` octets further on. -/
def Fault.moved (f : Fault ε) (n : Nat) : Fault ε :=
  ⟨f.cause, f.place.moved n⟩

namespace Decoder

/-! ## Answers -/

/-- The second answer is the first one, `n` octets further on; the first one lies in `whole`. -/
inductive MovedAnswer (whole : View) (n : Nat) (R : α → α' → Prop) :
    Except (Fault ε) (α × View) → Except (Fault ε) (α' × View) → Prop
  | ok {a : α} {a' : α'} {rest : View} (ha : R a a') (hr : rest.IsTailOf whole) :
      MovedAnswer whole n R (.ok (a, rest)) (.ok (a', rest.moved n))
  | error {f : Fault ε} (hf : f.place.IsPartOf whole) :
      MovedAnswer whole n R (.error f) (.error (f.moved n))

/-- Both decoders pass over the same number of octets. -/
theorem MovedAnswer.drop (hv : v.IsTailOf whole) (hk : k ≤ v.length) (ha : R a a') :
    MovedAnswer (ε := ε) whole n R (.ok (a, v.drop k)) (.ok (a', (v.moved n).drop k)) := by
  rw [View.drop_moved]
  exact .ok ha ((View.isTailOf_drop hk).trans hv)

/-- A part of `whole`, and the same octets `n` further on. -/
def MovedPart (whole : View) (n : Nat) (w w' : View) : Prop :=
  w.IsPartOf whole ∧ w' = w.moved n

/-- Both decoders cut off the same octets, the second one further on. -/
theorem MovedAnswer.cut (hv : v.IsTailOf whole) (hk : k ≤ v.length) :
    MovedAnswer (ε := ε) whole n (MovedPart whole n) (.ok (v.take k, v.drop k))
      (.ok ((v.moved n).take k, (v.moved n).drop k)) :=
  .drop hv hk ⟨hv.isPartOf_take k, View.take_moved v n k⟩

/-- Octets that cannot be read are reported where they stand. -/
theorem MovedAnswer.unreadable (e : ReadError) (hv : v.IsTailOf whole) :
    MovedAnswer (ε := ε) whole n R (Decoder.unreadable e v) (Decoder.unreadable e (v.moved n)) :=
  .error (f := ⟨.read e, v⟩) hv.isPartOf

/-! ## Decoders -/

/-- On all that is left of `whole`, the second decoder answers `n` octets further on what the first
one does. -/
def Moves (whole : View) (n : Nat) (R : α → α' → Prop) (d : Decoder ε α) (d' : Decoder ε α') :
    Prop :=
  ∀ v, v.IsTailOf whole → MovedAnswer whole n R (d v) (d' (v.moved n))

variable {d : Decoder ε α} {d' : Decoder ε α'} {f : α → Decoder ε β} {f' : α' → Decoder ε β'}

/-- The comparison composes: what the first step reads is related, and so are the steps that go on
with it. -/
theorem Moves.bind (hd : Moves whole n R d d')
    (hf : ∀ a a', R a a' → Moves whole n S (f a) (f' a')) :
    Moves whole n S (d >>= f) (d' >>= f') := by
  intro v hv
  have hanswer := hd v hv
  generalize hfirst : d v = answer at hanswer
  generalize hsecond : d' (v.moved n) = answer' at hanswer
  cases hanswer with
  | ok ha hrest =>
    rw [bind_of_ok hfirst, bind_of_ok hsecond]
    exact hf _ _ ha _ hrest
  | error hplace =>
    rw [bind_of_error hfirst, bind_of_error hsecond]
    exact .error hplace

/-- The same, after a value that holds no place. -/
theorem Moves.bind_eq {d d' : Decoder ε α} {f : α → Decoder ε β} {f' : α → Decoder ε β'}
    (hd : Moves whole n Eq d d') (hf : ∀ a, Moves whole n S (f a) (f' a)) :
    Moves whole n S (d >>= f) (d' >>= f') :=
  hd.bind fun a _ ha => ha ▸ hf a

/-- A value is given without looking at the input. -/
theorem moves_pure (h : R a a') :
    Moves whole n R (pure a : Decoder ε α) (pure a' : Decoder ε α') :=
  fun _ hv => .ok h hv

/-- A broken rule is reported at a place that was kept, which may be before the rest. -/
theorem moves_breaks (error : ε) {place place' : View} (h : MovedPart whole n place place') :
    Moves whole n R (breaks error place) (breaks error place') := by
  obtain ⟨hplace, rfl⟩ := h
  exact fun _ _ => .error (f := ⟨.rule error, place⟩) hplace

/-- A condition is about values, so it holds in both or in neither. -/
theorem moves_require (holds : Bool) (error : ε) {place place' : View}
    (h : MovedPart whole n place place') :
    Moves whole n Eq (require holds error place) (require holds error place') := by
  cases holds with
  | true => exact moves_pure rfl
  | false => exact moves_breaks error h

/-- The place that is kept is all that is left. -/
theorem moves_here : Moves whole n (MovedPart whole n) (here : Decoder ε View) here :=
  fun _ hv => .ok ⟨hv.isPartOf, rfl⟩ hv

/-- A part of known length lies in `whole` and keeps its place there. -/
theorem moves_take (k : Nat) :
    Moves whole n (MovedPart whole n) (take k : Decoder ε View) (take k) := by
  intro v hv
  by_cases hk : k ≤ v.length
  · have hk' : k ≤ (v.moved n).length := hk
    rw [take, take, if_pos hk, if_pos hk']
    exact .cut hv hk
  · have hk' : ¬ k ≤ (v.moved n).length := hk
    rw [take, take, if_neg hk, if_neg hk']
    exact .unreadable _ hv

theorem moves_octet : Moves whole n Eq (octet : Decoder ε UInt8) octet := by
  intro v hv
  simp only [octet, View.bytes_moved]
  split
  · next b rest hbytes =>
    have hlength : 1 ≤ v.length := by
      rw [View.length, hbytes]
      exact Nat.succ_pos _
    exact .drop hv hlength rfl
  · exact .unreadable _ hv

theorem moves_uint16 : Moves whole n Eq (uint16 : Decoder ε UInt16) uint16 := by
  refine (moves_take 2).bind ?_
  rintro w _ ⟨-, rfl⟩
  exact moves_pure rfl

theorem moves_uint32 : Moves whole n Eq (uint32 : Decoder ε UInt32) uint32 := by
  refine (moves_take 4).bind ?_
  rintro w _ ⟨-, rfl⟩
  exact moves_pure rfl

theorem moves_sized : Moves whole n Eq (sized : Decoder ε Nat) sized := by
  intro v hv
  simp only [sized, View.bytes_moved]
  split
  · next hread => exact .drop hv (Varint.size_le_of_readSized? hread) rfl
  · exact .unreadable _ hv

/-- A literal is found or missed by the octets alone, and a miss shows where it was looked for. -/
theorem moves_literal (pattern : Octets) :
    Moves whole n (MovedPart whole n) (literal pattern : Decoder ε View) (literal pattern) := by
  intro v hv
  by_cases hstart : v.startsWith pattern = true
  · have hstart' : (v.moved n).startsWith pattern = true := hstart
    rw [literal, literal, if_pos hstart, if_pos hstart']
    exact .cut hv (List.isPrefixOf_iff_prefix.1 hstart).length_le
  · have hstart' : ¬ (v.moved n).startsWith pattern = true := hstart
    rw [literal, literal, if_neg hstart, if_neg hstart']
    exact .unreadable _ hv

/-- Where a pattern occurs next is told by the octets alone, and what stands before it is a part. -/
theorem moves_upTo (pattern : Octets) :
    Moves whole n (MovedPart whole n) (upTo pattern : Decoder ε View) (upTo pattern) := by
  intro v hv
  simp only [upTo, View.find?, View.bytes_moved]
  split
  · next k hfound =>
    have hle : k + pattern.length ≤ v.length := Octets.indexOf?_add_length_le hfound
    exact .cut hv (Nat.le_of_add_right_le hle)
  · exact .unreadable _ hv

/-! ## One decoder -/

/-- The answer, `n` octets further on; `move` says what becomes of the value. -/
def moveAnswer (move : α → α) (n : Nat) :
    Except (Fault ε) (α × View) → Except (Fault ε) (α × View)
  | .ok (a, rest) => .ok (move a, rest.moved n)
  | .error f => .error (f.moved n)

/-- The decoder reads off the octets that it takes, whatever follows them; its faults show inside of
what it was given; and where its input stands in the capture makes no difference but to the places
that it reports. -/
structure TracksPlaces (move : Nat → α → α) (d : Decoder ε α) : Prop where
  reads_local : Local d d
  place_isPartOf : ∀ v f, d v = .error f → f.place.IsPartOf v
  apply_moved : ∀ v n, d (v.moved n) = moveAnswer (move n) n (d v)

/-- A decoder that moves along with itself inside of every view tracks places. That faults show
inside of the input is the case of no move at all. -/
theorem tracksPlaces_of_moves {move : Nat → α → α} {d : Decoder ε α} (hlocal : Local d d)
    (hmoves : ∀ whole n, Moves whole n (fun a a' => move n a = a') d d) : TracksPlaces move d where
  reads_local := hlocal
  place_isPartOf v f h := by
    have hanswer := hmoves v 0 v (View.isTailOf_refl v)
    generalize d (v.moved 0) = answer at hanswer
    rw [h] at hanswer
    cases hanswer with
    | error hplace => exact hplace
  apply_moved v n := by
    have hanswer := hmoves v n v (View.isTailOf_refl v)
    generalize d v = answer at hanswer
    generalize d (v.moved n) = answer' at hanswer
    cases hanswer with
    | ok ha _ =>
      rw [← ha]
      rfl
    | error _ => rfl

end Decoder

end Flowmeter
