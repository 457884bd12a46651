import Flowmeter.Decoder
import Flowmeter.Proofs.Octets.Search
import Mathlib.Data.Nat.Digits.Defs

/-!
# Decoders of text lines

What these decoders read off a view, and exactly when they read anything: a literal
(`literal_eq_ok_iff`), the octets before the first occurrence of another one (`upTo_eq_ok_iff`), and
a decimal number, which is the value of all the digits that stand there (`decimal16_eq_ok_iff`). The
`bind` forms take a decoder apart step by step, each with what it leaves for the next one.
-/

namespace Flowmeter.Decoder

variable {ε α β γ : Type} {offset : Nat} {bytes pattern digits after : Octets} {w rest : View}
  {f : View → Decoder ε β} {b : β}

theorem here_bind (v : View) : (here >>= f) v = f v v :=
  rfl

theorem require_bind_eq_ok_iff {holds : Bool} {error : ε} {place v : View}
    {f : Unit → Decoder ε β} :
    (require holds error place >>= f) v = .ok (b, rest) ↔
      holds = true ∧ f () v = .ok (b, rest) := by
  rw [bind_eq_ok]
  constructor
  · rintro ⟨_, _, hrequire, hf⟩
    obtain ⟨hholds, rfl⟩ := require_eq_ok.1 hrequire
    exact ⟨hholds, hf⟩
  · rintro ⟨hholds, hf⟩
    exact ⟨(), _, require_eq_ok.2 ⟨hholds, rfl⟩, hf⟩

/-- A result without what is left, for readers that keep the value only. -/
theorem toOption_map_eq_some_iff {d : Decoder ε α} {v : View} {g : α → γ} {c : γ} :
    (d v).toOption.map (fun r => g r.1) = some c ↔
      ∃ a, (∃ rest, d v = .ok (a, rest)) ∧ g a = c := by
  cases d v with
  | error fault => simp [Except.toOption]
  | ok answer =>
    obtain ⟨a, rest⟩ := answer
    simp [Except.toOption]

/-- A literal is read exactly where the octets start with it. -/
theorem literal_eq_ok_iff :
    (literal pattern : Decoder ε View) ⟨offset, bytes⟩ = .ok (w, rest) ↔
      ∃ after, bytes = pattern ++ after ∧ w = ⟨offset, pattern⟩ ∧
        rest = ⟨offset + pattern.length, after⟩ := by
  simp only [literal, View.startsWith, List.isPrefixOf_iff_prefix]
  constructor
  · intro h
    split at h
    · next hprefix =>
      obtain ⟨after, rfl⟩ := hprefix
      cases h
      exact ⟨after, rfl, by rw [View.take, List.take_left], by rw [View.drop, List.drop_left]⟩
    · cases h
  · rintro ⟨after, rfl, rfl, rfl⟩
    rw [if_pos (List.prefix_append pattern after), View.take, View.drop, List.take_left,
      List.drop_left]

/-- What goes on behind a literal starts right behind it. -/
theorem literal_bind_eq_ok_iff :
    (literal pattern >>= f) ⟨offset, bytes⟩ = .ok (b, rest) ↔
      ∃ after, bytes = pattern ++ after ∧
        f ⟨offset, pattern⟩ ⟨offset + pattern.length, after⟩ = .ok (b, rest) := by
  rw [bind_eq_ok]
  constructor
  · rintro ⟨w, mid, hliteral, hf⟩
    obtain ⟨after, rfl, rfl, rfl⟩ := literal_eq_ok_iff.1 hliteral
    exact ⟨after, rfl, hf⟩
  · rintro ⟨after, rfl, hf⟩
    exact ⟨_, _, literal_eq_ok_iff.2 ⟨after, rfl, rfl, rfl⟩, hf⟩

/-- The octet that is looked for is left. -/
theorem upTo_eq_ok_iff {a : UInt8} :
    (upTo [a] : Decoder ε View) ⟨offset, bytes⟩ = .ok (w, rest) ↔
      ∃ before after, bytes = before ++ a :: after ∧ a ∉ before ∧ w = ⟨offset, before⟩ ∧
        rest = ⟨offset + before.length, a :: after⟩ := by
  simp only [upTo, View.find?]
  constructor
  · intro h
    split at h
    · next n hfound =>
      obtain ⟨before, after, rfl, hnot, rfl⟩ := Octets.indexOf?_singleton_eq_some_iff.1 hfound
      cases h
      exact ⟨before, after, rfl, hnot, by rw [View.take, List.take_left],
        by rw [View.drop, List.drop_left]⟩
    · cases h
  · rintro ⟨before, after, rfl, hnot, rfl, rfl⟩
    rw [Octets.indexOf?_singleton_eq_some_iff.2 ⟨before, after, rfl, hnot, rfl⟩]
    simp only [View.take, View.drop, List.take_left, List.drop_left]

/-- What goes on behind a search starts at the octet that was searched for. -/
theorem upTo_bind_eq_ok_iff {a : UInt8} :
    (upTo [a] >>= f) ⟨offset, bytes⟩ = .ok (b, rest) ↔
      ∃ before after, bytes = before ++ a :: after ∧ a ∉ before ∧
        f ⟨offset, before⟩ ⟨offset + before.length, a :: after⟩ = .ok (b, rest) := by
  rw [bind_eq_ok]
  constructor
  · rintro ⟨w, mid, hupTo, hf⟩
    obtain ⟨before, after, rfl, hnot, rfl, rfl⟩ := upTo_eq_ok_iff.1 hupTo
    exact ⟨before, after, rfl, hnot, hf⟩
  · rintro ⟨before, after, rfl, hnot, hf⟩
    exact ⟨_, _, upTo_eq_ok_iff.2 ⟨before, after, rfl, hnot, rfl, rfl⟩, hf⟩

/-! ## Decimal numbers -/

/-- The value of digits whose most significant one comes first. -/
def decimalValue (digits : Octets) : Nat :=
  Nat.ofDigits 10 (digits.reverse.map fun b => b.toNat - 0x30)

theorem ofDigits_eq_decimalValue (digits : Octets) : ofDigits digits = decimalValue digits := by
  induction digits using List.reverseRecOn with
  | nil => rfl
  | append_singleton digits b ih =>
    have hfold : ofDigits (digits ++ [b]) = ofDigits digits * 10 + (b.toNat - 0x30) :=
      List.foldl_append ..
    rw [hfold, ih, decimalValue, decimalValue, List.reverse_append, List.reverse_singleton,
      List.singleton_append, List.map_cons, Nat.ofDigits_cons, Nat.add_comm, Nat.mul_comm]

/-- The digits are all that the octets start with, and there are some. -/
structure LeadingDigits (digits after : Octets) : Prop where
  ne_nil : digits ≠ []
  isDigit : ∀ b ∈ digits, isDigit b = true
  ends : ∀ b ∈ after.head?, Decoder.isDigit b = false

/-- Taking digits stops exactly behind the leading ones. -/
theorem LeadingDigits.takeWhile_append (h : LeadingDigits digits after) :
    (digits ++ after).takeWhile Decoder.isDigit = digits := by
  rw [List.takeWhile_append_of_pos h.isDigit]
  cases after with
  | nil => exact List.append_nil digits
  | cons b after =>
    rw [List.takeWhile_cons_of_neg (Bool.eq_false_iff.1 (h.ends b rfl)), List.append_nil]

/-- The digits that are taken are all there are at the start. -/
theorem leadingDigits_takeWhile (h : bytes.takeWhile Decoder.isDigit ≠ []) :
    LeadingDigits (bytes.takeWhile Decoder.isDigit) (bytes.dropWhile Decoder.isDigit) where
  ne_nil := h
  isDigit := List.all_eq_true.1 List.all_takeWhile
  ends b hb := by
    have hhead := List.head?_dropWhile_not Decoder.isDigit bytes
    rwa [Option.mem_def.1 hb] at hhead

/-- A number that needs more than 16 bits is not read, whatever number of digits it has. -/
theorem decimal16_eq_ok_iff {n : UInt16} :
    (decimal16 : Decoder ε UInt16) ⟨offset, bytes⟩ = .ok (n, rest) ↔
      ∃ digits after, bytes = digits ++ after ∧ LeadingDigits digits after ∧
        decimalValue digits = n.toNat ∧ rest = ⟨offset + digits.length, after⟩ := by
  simp only [decimal16, ofDigits_eq_decimalValue]
  constructor
  · intro h
    split at h
    · cases h
    · next hread =>
      simp only [Bool.or_eq_true, List.isEmpty_iff, decide_eq_true_eq, not_or, Nat.not_le] at hread
      cases h
      have hsplit := List.takeWhile_append_dropWhile (p := isDigit) (l := bytes)
      have hdrop : bytes.drop (bytes.takeWhile isDigit).length = bytes.dropWhile isDigit := by
        conv => lhs; arg 2; rw [← hsplit]
        exact List.drop_left
      refine ⟨_, _, hsplit.symm, leadingDigits_takeWhile hread.1, ?_, ?_⟩
      · rw [UInt16.toNat_ofNat', Nat.mod_eq_of_lt hread.2]
      · rw [View.drop, hdrop]
  · rintro ⟨digits, after, rfl, hdigits, hvalue, rfl⟩
    have hread : ¬ (digits.isEmpty || decide (65536 ≤ decimalValue digits)) = true := by
      simp only [Bool.or_eq_true, List.isEmpty_iff, decide_eq_true_eq, not_or, Nat.not_le]
      exact ⟨hdigits.ne_nil, hvalue ▸ n.toNat_lt⟩
    rw [hdigits.takeWhile_append, if_neg hread, hvalue, UInt16.ofNat_toNat, View.drop,
      List.drop_left]

end Flowmeter.Decoder
