import Flowmeter.Decoder
import Flowmeter.Proofs.Decoder.Integers

/-!
# What a decoder reads

`Decoder.Reads d octets a` says that `d` reads `a` off the octets, whatever follows them and
wherever they stand. Readings compose along `++` (`Reads.bind`); a decoder that looks at where it
stands reads what it reads from every place (`reads_here_bind`).

`Decoder.Local d d` says that what `d` reads does not depend on what follows the octets that it
takes. So a local decoder fails on every part of what it reads (`Local.exists_error_of_take`).

`Decoder.Alike R d d'` compares two decoders on the same octets at different places: they read
values that `R` relates, or both fail. So a decoder that is alike itself reads off the octets alone.
-/

namespace Flowmeter.Decoder

variable {ε α β : Type}

/-- The decoder reads the value off the octets and leaves what follows them. -/
def Reads (d : Decoder ε α) (octets : Octets) (a : α) : Prop :=
  ∀ (offset : Nat) (rest : Octets),
    d ⟨offset, octets ++ rest⟩ = .ok (a, ⟨offset + octets.length, rest⟩)

theorem reads_pure (a : α) : Reads (pure a : Decoder ε α) [] a :=
  fun _ _ => rfl

/-- A reading that goes on with another one takes the octets of both, one behind the other. -/
theorem Reads.bind {d : Decoder ε α} {f : α → Decoder ε β} {left right : Octets} {a : α} {b : β}
    (hd : Reads d left a) (hf : Reads (f a) right b) : Reads (d >>= f) (left ++ right) b := by
  intro offset rest
  have hleft := hd offset (right ++ rest)
  have hright := hf (offset + left.length) rest
  rw [List.append_assoc, List.length_append, ← Nat.add_assoc]
  exact bind_eq_ok.2 ⟨a, _, hleft, hright⟩

theorem Reads.map {d : Decoder ε α} {octets : Octets} {a : α} (hd : Reads d octets a)
    (g : α → β) : Reads (g <$> d) octets (g a) := by
  have hbind := hd.bind (f := fun a => pure (g a)) (reads_pure (g a))
  rw [List.append_nil] at hbind
  rw [map_eq_pure_bind]
  exact hbind

/-- A decoder that looks at its place reads the same from every place, if what it goes on with
does. -/
theorem reads_here_bind {f : View → Decoder ε β} {octets : Octets} {b : β}
    (hf : ∀ place, Reads (f place) octets b) : Reads (here >>= f) octets b := by
  intro offset rest
  exact bind_eq_ok.2 ⟨_, _, rfl, hf ⟨offset, octets ++ rest⟩ offset rest⟩

/-- A condition that holds takes nothing. -/
theorem reads_require_bind {holds : Bool} {error : ε} {place : View} {f : Unit → Decoder ε β}
    {octets : Octets} {b : β} (h : holds = true) (hf : Reads (f ()) octets b) :
    Reads (require holds error place >>= f) octets b := by
  intro offset rest
  exact bind_eq_ok.2 ⟨(), _, require_eq_ok.2 ⟨h, rfl⟩, hf offset rest⟩

/-- A part of known length is cut off what follows it. -/
theorem take_append (octets : Octets) (offset : Nat) (rest : Octets) :
    (take octets.length : Decoder ε View) ⟨offset, octets ++ rest⟩ =
      .ok (⟨offset, octets⟩, ⟨offset + octets.length, rest⟩) := by
  have hle : octets.length ≤ (⟨offset, octets ++ rest⟩ : View).length := by
    rw [View.length, List.length_append]
    exact Nat.le_add_right ..
  rw [take, if_pos hle, View.take, View.drop, List.take_left, List.drop_left]

/-- Octets that are taken last; where they stand does not count. -/
theorem reads_take_bind {f : View → Decoder ε β} {octets : Octets} {b : β}
    (hf : ∀ offset, f ⟨offset, octets⟩ = pure b) : Reads (take octets.length >>= f) octets b := by
  intro offset rest
  refine bind_eq_ok.2 ⟨_, _, take_append octets offset rest, ?_⟩
  rw [hf offset]
  rfl

theorem reads_octet (b : UInt8) : Reads (octet : Decoder ε UInt8) [b] b :=
  fun _ _ => rfl

theorem reads_uint32 (n : UInt32) :
    Reads (uint32 : Decoder ε UInt32) (BigEndian.toOctets 4 n.toNat) n := by
  have hread : UInt32.ofNat (BigEndian.ofOctets (BigEndian.toOctets 4 n.toNat)) = n := by
    rw [BigEndian.ofOctets_toOctets n.toNat_lt, UInt32.ofNat_toNat]
  have htake : Reads (ε := ε) (take (BigEndian.toOctets 4 n.toNat).length >>= fun v =>
      pure (UInt32.ofNat (BigEndian.ofOctets v.bytes))) (BigEndian.toOctets 4 n.toNat) n :=
    reads_take_bind fun _ => congrArg pure hread
  rw [BigEndian.length_toOctets] at htake
  exact htake

/-- A number is read in whatever size it was written in, the smallest one or not. -/
theorem reads_sized {s : Varint.Size} {value : Nat} (h : value < s.limit) :
    Reads (sized : Decoder ε Nat) (Varint.encodeSized s value) value := by
  intro offset rest
  refine sized_eq_ok_iff.2 ⟨s, h, rfl, ?_⟩
  rw [Varint.length_encodeSized]

/-! ## What follows the octets that a decoder takes -/

section Local

variable {d d' : Decoder ε α} {f f' : α → Decoder ε β}

/-- What `d` reads off a view, `d'` reads off the octets that `d` takes, whatever follows them. -/
def Local (d d' : Decoder ε α) : Prop :=
  ∀ (v : View) (a : α) (rest : View), d v = .ok (a, rest) → ∃ taken,
    v.bytes = taken ++ rest.bytes ∧ rest.offset = v.offset + taken.length ∧
      ∀ following, d' ⟨v.offset, taken ++ following⟩ = .ok (a, ⟨rest.offset, following⟩)

/-- What a local decoder leaves is the end of what it was given. -/
theorem Local.isTailOf (hd : Local d d') {v rest : View} {a : α} (h : d v = .ok (a, rest)) :
    rest.IsTailOf v := by
  obtain ⟨taken, hbytes, hoffset, -⟩ := hd v a rest h
  exact ⟨taken, hbytes, hoffset⟩

/-- Local decoders in a row are local: the second one sees what follows the first one. -/
theorem Local.bind (hd : Local d d') (hf : ∀ a, Local (f a) (f' a)) :
    Local (d >>= f) (d' >>= f') := by
  intro v b rest h
  obtain ⟨a, mid, hleft, hright⟩ := bind_eq_ok.1 h
  obtain ⟨taken, hbytes, hoffset, hread⟩ := hd v a mid hleft
  obtain ⟨taken', hbytes', hoffset', hread'⟩ := hf a mid b rest hright
  refine ⟨taken ++ taken', ?_, ?_, fun following => ?_⟩
  · rw [hbytes, hbytes', List.append_assoc]
  · rw [hoffset', hoffset, List.length_append, Nat.add_assoc]
  · rw [List.append_assoc]
    exact bind_eq_ok.2 ⟨a, _, hread (taken' ++ following), hread' following⟩

theorem local_pure (a : α) : Local (pure a : Decoder ε α) (pure a) := by
  intro v b rest h
  cases h
  exact ⟨[], rfl, rfl, fun _ => rfl⟩

/-- A decoder that always fails reads nothing, so nothing can be read differently. -/
theorem local_breaks (error : ε) (place : View) (d' : Decoder ε α) :
    Local (breaks error place) d' :=
  fun _ _ _ h => nomatch h

theorem local_require (holds : Bool) (error : ε) (place place' : View) :
    Local (require holds error place) (require holds error place') := by
  cases holds with
  | true => exact local_pure ()
  | false => exact local_breaks error place _

/-- The place that a decoder keeps must not count for what it reads. -/
theorem local_here_bind {f f' : View → Decoder ε β}
    (hf : ∀ place place', Local (f place) (f' place')) : Local (here >>= f) (here >>= f') := by
  intro v b rest h
  obtain ⟨_, _, hv, h⟩ := bind_eq_ok.1 h
  cases hv
  obtain ⟨taken, hbytes, hoffset, -⟩ := hf v v v b rest h
  refine ⟨taken, hbytes, hoffset, fun following => bind_eq_ok.2 ⟨_, _, rfl, ?_⟩⟩
  obtain ⟨taken', hbytes', -, hread⟩ := hf v ⟨v.offset, taken ++ following⟩ v b rest h
  have htaken : taken = taken' := List.append_cancel_right (hbytes.symm.trans hbytes')
  rw [← htaken] at hread
  exact hread following

/-- A part of known length is the same part whatever stands behind it. -/
theorem local_take (n : Nat) : Local (take n : Decoder ε View) (take n) := by
  intro v w rest h
  simp only [take] at h
  split at h
  · next hn =>
    cases h
    have hlength : (v.bytes.take n).length = n := List.length_take_of_le hn
    refine ⟨v.bytes.take n, (List.take_append_drop n v.bytes).symm, ?_, fun following => ?_⟩
    · rw [hlength, View.offset_drop]
    · have htake := take_append (ε := ε) (v.bytes.take n) v.offset following
      rwa [hlength] at htake
  · cases h

theorem local_octet : Local (octet : Decoder ε UInt8) octet := by
  rintro ⟨offset, bytes⟩ b rest h
  cases bytes with
  | nil => cases h
  | cons first bytes =>
    cases h
    exact ⟨[b], rfl, rfl, fun _ => rfl⟩

theorem local_uint16 : Local (uint16 : Decoder ε UInt16) uint16 :=
  (local_take 2).bind fun _ => local_pure _

theorem local_uint32 : Local (uint32 : Decoder ε UInt32) uint32 :=
  (local_take 4).bind fun _ => local_pure _

/-- The first octet tells how many more there are, so nothing behind them counts. -/
theorem local_sized : Local (sized : Decoder ε Nat) sized := by
  intro v value rest h
  obtain ⟨s, hvalue, hbytes, hoffset⟩ := sized_eq_ok_iff.1 h
  refine ⟨Varint.encodeSized s value, hbytes, ?_, fun following => ?_⟩
  · rw [Varint.length_encodeSized]
    exact hoffset
  · exact sized_eq_ok_iff.2 ⟨s, hvalue, rfl, hoffset⟩

/-- A decoder that reads a value off some octets fails on every part of them that is cut off
earlier. -/
theorem Local.exists_error_of_take (hd : Local d d) {octets : Octets} {a : α}
    (hread : Reads d octets a) {n : Nat} (hn : n < octets.length) (offset : Nat) :
    ∃ fault, d ⟨offset, octets.take n⟩ = .error fault := by
  cases hcut : d ⟨offset, octets.take n⟩ with
  | error fault => exact ⟨fault, rfl⟩
  | ok answer =>
    obtain ⟨taken, hbytes, -, hlocal⟩ := hd _ answer.1 answer.2 hcut
    have hbytes : octets.take n = taken ++ answer.2.bytes := hbytes
    have hoctets : taken ++ (answer.2.bytes ++ octets.drop n) = octets := by
      rw [← List.append_assoc, ← hbytes, List.take_append_drop]
    -- off all of them it would read the same, and leave the octets beyond the cut
    have hwhole := hread offset []
    rw [List.append_nil] at hwhole
    have hleft := hlocal (answer.2.bytes ++ octets.drop n)
    rw [hoctets, hwhole] at hleft
    simp only [Except.ok.injEq, Prod.mk.injEq, View.mk.injEq] at hleft
    obtain ⟨-, -, hnil⟩ := hleft
    have hdrop := (List.append_eq_nil_iff.1 hnil.symm).2
    exact absurd (List.drop_eq_nil_iff.1 hdrop) (Nat.not_le_of_lt hn)

end Local

/-! ## The same octets at another place -/

section Alike

variable {β' γ γ' : Type} {R : α → β → Prop} {S : γ → γ' → Prop}

/-- From the same octets, wherever they stand, the decoders read related values and leave the same
octets, or both fail. -/
def Alike (R : α → β → Prop) (d : Decoder ε α) (d' : Decoder ε β) : Prop :=
  ∀ v v' : View, v.bytes = v'.bytes →
    (∃ a rest a' rest', d v = .ok (a, rest) ∧ d' v' = .ok (a', rest') ∧ R a a' ∧
      rest.bytes = rest'.bytes) ∨
    ∃ e e', d v = .error e ∧ d' v' = .error e'

/-- What a decoder goes on with after a value. -/
theorem bind_of_ok {d : Decoder ε α} {f : α → Decoder ε β} {v rest : View} {a : α}
    (h : d v = .ok (a, rest)) : (d >>= f) v = f a rest := by
  change (d v >>= fun p => f p.1 p.2) = _
  rw [h]
  rfl

/-- A failure is passed on. -/
theorem bind_of_error {d : Decoder ε α} {f : α → Decoder ε β} {v : View} {e : Fault ε}
    (h : d v = .error e) : (d >>= f) v = .error e := by
  change (d v >>= fun p => f p.1 p.2) = _
  rw [h]
  rfl

/-- Decoders that are alike, each followed by decoders that are alike on related values. -/
theorem Alike.bind {d : Decoder ε α} {d' : Decoder ε β} {f : α → Decoder ε γ}
    {f' : β → Decoder ε γ'} (hd : Alike R d d') (hf : ∀ a a', R a a' → Alike S (f a) (f' a')) :
    Alike S (d >>= f) (d' >>= f') := by
  intro v v' hv
  rcases hd v v' hv with ⟨a, rest, a', rest', ha, ha', hR, hrest⟩ | ⟨e, e', he, he'⟩
  · rw [bind_of_ok ha, bind_of_ok ha']
    exact hf a a' hR rest rest' hrest
  · exact .inr ⟨e, e', bind_of_error he, bind_of_error he'⟩

theorem alike_pure {a : α} {b : β} (h : R a b) :
    Alike R (pure a : Decoder ε α) (pure b : Decoder ε β) :=
  fun _ _ hv => .inl ⟨a, _, b, _, rfl, rfl, h, hv⟩

theorem alike_breaks (error error' : ε) (place place' : View) :
    Alike R (breaks error place) (breaks error' place') :=
  fun _ _ _ => .inr ⟨_, _, rfl, rfl⟩

/-- A condition fails at both places or at neither, whatever the faults. -/
theorem alike_require (holds : Bool) (error error' : ε) (place place' : View) :
    Alike Eq (require holds error place) (require holds error' place') := by
  cases holds with
  | true => exact alike_pure rfl
  | false => exact alike_breaks _ _ _ _

theorem alike_here :
    Alike (fun v v' : View => v.bytes = v'.bytes) (here : Decoder ε View) here :=
  fun _ _ hv => .inl ⟨_, _, _, _, rfl, rfl, hv, hv⟩

/-- The parts that are cut off hold the same octets, each at its own place. -/
theorem alike_take (n : Nat) :
    Alike (fun v v' : View => v.bytes = v'.bytes) (take n : Decoder ε View) (take n) := by
  intro v v' hv
  have hlength : v.length = v'.length := congrArg List.length hv
  unfold take
  by_cases hn : n ≤ v.length
  · rw [if_pos hn, if_pos (hlength ▸ hn)]
    exact .inl ⟨_, _, _, _, rfl, rfl, congrArg (List.take n) hv, congrArg (List.drop n) hv⟩
  · rw [if_neg hn, if_neg (hlength ▸ hn)]
    exact .inr ⟨_, _, rfl, rfl⟩

theorem alike_octet : Alike Eq (octet : Decoder ε UInt8) octet := by
  rintro ⟨offset, bytes⟩ ⟨offset', _⟩ rfl
  cases bytes with
  | nil => exact .inr ⟨_, _, rfl, rfl⟩
  | cons b rest => exact .inl ⟨b, _, b, _, rfl, rfl, rfl, rfl⟩

theorem alike_uint16 : Alike Eq (uint16 : Decoder ε UInt16) uint16 := by
  refine (alike_take 2).bind fun v v' hv => alike_pure ?_
  rw [hv]

end Alike

end Flowmeter.Decoder
