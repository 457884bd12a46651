import Flowmeter.Proofs.Octets.Utf8

/-!
# Boundaries of characters

A text may be cut where a character of it ends (`isBoundary_encode_iff`). `clip` goes from the
front, character by character, and keeps the longest beginning that fits (`exists_clip`).
`boundaryFrom?` goes back from an octet to the boundary before it. It always finds one, and from the
last octet that there is room for it comes to where `clip` cuts (`boundaryFrom?_encode`). So cutting
a text back never fails, and keeps what `clip` does (`cutBack?_encode`).
-/

namespace Flowmeter.Utf8

variable {c : Char} {text front : List Char} {octets : Octets} {capacity m n : Nat}

/-! ## The longest beginning that fits -/

/-- What `clip` leaves out begins with a character that there is no room for. -/
theorem exists_clip (capacity : Nat) (text : List Char) :
    ∃ rest, text = clip capacity text ++ rest ∧ size (clip capacity text) ≤ capacity ∧
      ∀ c ∈ rest.head?, capacity < size (clip capacity text) + c.utf8Size := by
  induction text generalizing capacity with
  | nil => exact ⟨[], rfl, Nat.zero_le _, nofun⟩
  | cons c text ih =>
    simp only [clip]
    split
    · next hfits =>
      obtain ⟨rest, htext, hsize, hrest⟩ := ih (capacity - c.utf8Size)
      refine ⟨rest, congrArg (c :: ·) htext, ?_, fun d hd => ?_⟩
      · rw [size]
        omega
      · have hlong := hrest d hd
        rw [size]
        omega
    · next hlong =>
      refine ⟨c :: text, rfl, Nat.zero_le _, fun d hd => ?_⟩
      rw [List.head?_cons, Option.mem_some_iff] at hd
      rw [← hd, size, Nat.zero_add]
      exact Nat.lt_of_not_le hlong

theorem clip_prefix_self (capacity : Nat) (text : List Char) : clip capacity text <+: text := by
  obtain ⟨rest, htext, -⟩ := exists_clip capacity text
  exact ⟨rest, htext.symm⟩

theorem take_size_clip_encode (capacity : Nat) (text : List Char) :
    (encode text).take (size (clip capacity text)) = encode (clip capacity text) := by
  obtain ⟨rest, hrest⟩ := clip_prefix_self capacity text
  have hoctets : encode text = encode (clip capacity text) ++ encode rest := by
    rw [← encode_append, hrest]
  rw [hoctets, List.take_left' (length_encode _)]

/-- No longer beginning fits. -/
theorem size_le_size_clip (h : front <+: text) (hfits : size front ≤ capacity) :
    size front ≤ size (clip capacity text) := by
  obtain ⟨rest, htext, -, hrest⟩ := exists_clip capacity text
  rcases List.prefix_or_prefix_of_prefix h (clip_prefix_self capacity text) with
    ⟨more, hmore⟩ | ⟨more, hmore⟩
  · rw [← hmore, size_append]
    exact Nat.le_add_right ..
  · cases more with
    | nil => exact Nat.le_of_eq (by rw [← hmore, List.append_nil])
    | cons c more =>
      obtain ⟨after, hafter⟩ := h
      have hsame : clip capacity text ++ rest = clip capacity text ++ (c :: more ++ after) := by
        rw [← List.append_assoc, hmore, hafter]
        exact htext.symm
      have hlong := hrest c (by rw [List.append_cancel_left hsame]; rfl)
      rw [← hmore, size_append, size] at hfits
      omega

/-! ## Boundaries -/

/-- A text does not begin with an octet that continues a character. -/
theorem isContinuation_head?_encode (text : List Char) :
    ∀ b ∈ (encode text).head?, isContinuation b = false := by
  cases text with
  | nil => exact nofun
  | cons c text =>
    obtain ⟨lead, tail, hc, hlead, -⟩ := exists_lead c
    intro b hb
    rw [encode_cons, hc, List.cons_append, List.head?_cons, Option.mem_some_iff] at hb
    exact hb ▸ hlead

theorem isBoundary_zero (octets : Octets) : isBoundary octets 0 = true :=
  rfl

/-- Of a text, no end needs to be excepted: it does not begin with a continuation. -/
theorem isBoundary_encode_eq_true_iff :
    isBoundary (encode text) n = true ↔
      n ≤ size text ∧ ∀ b ∈ (encode text)[n]?, isContinuation b = false := by
  cases n with
  | zero =>
    refine iff_of_true (isBoundary_zero _) ⟨Nat.zero_le _, ?_⟩
    rw [← List.head?_eq_getElem?]
    exact isContinuation_head?_encode text
  | succ n =>
    rw [isBoundary]
    cases hnext : (encode text)[n + 1]? with
    | none =>
      have hend := List.getElem?_eq_none_iff.1 hnext
      rw [length_encode] at hend
      simp [Nat.le_antisymm_iff, hend]
    | some b =>
      have hlt := (List.getElem?_eq_some_iff.1 hnext).1
      rw [length_encode] at hlt
      simp [Nat.le_of_lt hlt]

/-- Of the octets of a character, only the first is where a character may begin. -/
theorem getElem?_encode_cons_of_lt (text : List Char) (hpos : 0 < n) (hlt : n < c.utf8Size) :
    ∃ b ∈ (encode (c :: text))[n]?, isContinuation b = true := by
  obtain ⟨lead, tail, hc, -, htail⟩ := exists_lead c
  obtain ⟨n, rfl⟩ := Nat.exists_eq_succ_of_ne_zero (Nat.ne_of_gt hpos)
  have hn : n < tail.length := by
    rw [← String.length_utf8EncodeChar, hc, List.length_cons] at hlt
    omega
  refine ⟨tail[n], ?_, htail _ (List.getElem_mem hn)⟩
  rw [encode_cons, hc, List.cons_append, List.getElem?_cons_succ, List.getElem?_append_left hn,
    List.getElem?_eq_getElem hn]
  exact Option.mem_some_self _

theorem getElem?_encode_cons_add (c : Char) (text : List Char) (n : Nat) :
    (encode (c :: text))[c.utf8Size + n]? = (encode text)[n]? := by
  rw [encode_cons, List.getElem?_append_right (by simp), String.length_utf8EncodeChar,
    Nat.add_sub_cancel_left]

/-- A text may be cut where a character of it ends, and nowhere else. -/
theorem isBoundary_encode_iff :
    isBoundary (encode text) n = true ↔ ∃ front, front <+: text ∧ size front = n := by
  rw [isBoundary_encode_eq_true_iff]
  induction text generalizing n with
  | nil =>
    rw [encode_nil, List.getElem?_nil, size, Nat.le_zero]
    constructor
    · rintro ⟨rfl, -⟩
      exact ⟨[], List.prefix_rfl, rfl⟩
    · rintro ⟨front, hfront, rfl⟩
      rw [List.prefix_nil.1 hfront]
      refine ⟨rfl, fun b hb => ?_⟩
      cases hb
  | cons c text ih =>
    rcases Nat.eq_zero_or_pos n with rfl | hpos
    · exact iff_of_true (isBoundary_encode_eq_true_iff.1 (isBoundary_zero _))
        ⟨[], List.nil_prefix, rfl⟩
    rcases Nat.lt_or_ge n c.utf8Size with hlt | hge
    · -- within the first character, where every octet continues it
      obtain ⟨b, hb, hcontinues⟩ := getElem?_encode_cons_of_lt text hpos hlt
      refine iff_of_false (fun h => ?_) ?_
      · rw [h.2 b hb] at hcontinues
        cases hcontinues
      · rintro ⟨front, hfront, rfl⟩
        rcases List.prefix_cons_iff.1 hfront with rfl | ⟨front, rfl, -⟩
        · exact absurd hpos (Nat.lt_irrefl 0)
        · rw [size] at hlt
          omega
    · -- behind it the rest of the text decides
      obtain ⟨k, rfl⟩ := Nat.exists_eq_add_of_le hge
      rw [getElem?_encode_cons_add, size, Nat.add_le_add_iff_left, ih]
      constructor
      · rintro ⟨front, hfront, rfl⟩
        exact ⟨c :: front, List.prefix_cons_inj c |>.2 hfront, rfl⟩
      · rintro ⟨front, hfront, hfits⟩
        rcases List.prefix_cons_iff.1 hfront with rfl | ⟨front, rfl, hrest⟩
        · rw [size] at hfits
          omega
        · exact ⟨front, hrest, Nat.add_left_cancel hfits⟩

/-! ## Going back to a boundary -/

theorem boundaryFrom?_eq_some_iff :
    boundaryFrom? octets n = some m ↔
      m ≤ n ∧ isBoundary octets m = true ∧ ∀ k, m < k → k ≤ n → isBoundary octets k = false := by
  induction n with
  | zero =>
    rw [boundaryFrom?, if_pos (isBoundary_zero octets), Option.some_inj]
    constructor
    · rintro rfl
      exact ⟨Nat.le_refl 0, isBoundary_zero octets,
        fun k hk hle => absurd hk (Nat.not_lt_of_le hle)⟩
    · rintro ⟨hle, -, -⟩
      exact (Nat.le_zero.1 hle).symm
  | succ n ih =>
    rw [boundaryFrom?]
    split
    · next hboundary =>
      rw [Option.some_inj]
      constructor
      · rintro rfl
        exact ⟨Nat.le_refl _, hboundary, fun k hk hle => absurd hk (Nat.not_lt_of_le hle)⟩
      · rintro ⟨hle, -, hnone⟩
        refine Nat.le_antisymm (Nat.le_of_not_lt fun hlt => ?_) hle
        rw [hnone (n + 1) hlt (Nat.le_refl _)] at hboundary
        cases hboundary
    · next hboundary =>
      rw [ih]
      constructor
      · rintro ⟨hle, hm, hnone⟩
        refine ⟨Nat.le_succ_of_le hle, hm, fun k hk hk' => ?_⟩
        rcases Nat.le_succ_iff.1 hk' with hk' | rfl
        · exact hnone k hk hk'
        · exact Bool.eq_false_iff.2 hboundary
      · rintro ⟨hle, hm, hnone⟩
        refine ⟨?_, hm, fun k hk hk' => hnone k hk (Nat.le_succ_of_le hk')⟩
        rcases Nat.le_succ_iff.1 hle with hle | rfl
        · exact hle
        · exact absurd hm hboundary

/-- The search ends where the longest beginning does that fits. -/
theorem boundaryFrom?_encode (capacity : Nat) (text : List Char) :
    boundaryFrom? (encode text) (min (encode text).length capacity) =
      some (size (clip capacity text)) := by
  obtain ⟨rest, htext, hsize, hrest⟩ := exists_clip capacity text
  rw [boundaryFrom?_eq_some_iff]
  have hle : size (clip capacity text) ≤ size text := by
    have hsame := congrArg size htext
    rw [size_append] at hsame
    omega
  rw [length_encode]
  refine ⟨Nat.le_min.2 ⟨hle, hsize⟩,
    isBoundary_encode_iff.2 ⟨_, clip_prefix_self capacity text, rfl⟩, fun k hk hk' => ?_⟩
  rw [← Bool.not_eq_true, isBoundary_encode_iff]
  rintro ⟨front, hfront, rfl⟩
  have hfits := size_le_size_clip hfront (Nat.le_trans hk' (Nat.min_le_right ..))
  omega

/-- Cutting a text back is clipping it. Neither the search for a boundary fails, nor the reading of
what stands before it. -/
theorem cutBack?_encode (capacity : Nat) (text : List Char) :
    cutBack? capacity (encode text) = some (clip capacity text) := by
  rw [cutBack?, boundaryFrom?_encode, Option.bind_eq_bind, Option.bind_some,
    take_size_clip_encode]
  exact decode?_eq_some_iff.2 rfl

end Flowmeter.Utf8
