import Flowmeter.Octets.Utf8

/-!
# The octets of a text

`encode` writes each character in the octets that UTF-8 has for it, and `scan` reads a character
exactly off these (`scan_eq_some_iff`). So the strict reading succeeds on written texts and on
nothing else (`decode?_eq_some_iff`), and a text takes as many octets as it was read from.

The lenient reading adds no character of its own but U+FFFD (`infix_of_mem_decodeLossy`). An
ill-formed run may have a single octet, and U+FFFD takes three, so what is read off any octets takes
at most three times their number (`size_decodeLossy_le`).
-/

namespace Flowmeter.Utf8

/-! ## Writing a text -/

/-- The octets of a text, character after character. -/
def encode (text : List Char) : Octets :=
  text.flatMap String.utf8EncodeChar

@[simp] theorem encode_nil : encode [] = [] :=
  rfl

@[simp] theorem encode_cons (c : Char) (text : List Char) :
    encode (c :: text) = String.utf8EncodeChar c ++ encode text :=
  List.flatMap_cons

@[simp] theorem encode_append (text text' : List Char) :
    encode (text ++ text') = encode text ++ encode text' :=
  List.flatMap_append

theorem size_append (text text' : List Char) : size (text ++ text') = size text + size text' := by
  induction text with
  | nil => exact (Nat.zero_add _).symm
  | cons c text ih => rw [List.cons_append, size, ih, size, Nat.add_assoc]

@[simp] theorem length_encode (text : List Char) : (encode text).length = size text := by
  induction text with
  | nil => rfl
  | cons c text ih => rw [encode_cons, List.length_append, String.length_utf8EncodeChar, ih, size]

/-- A byte array is read from an index on, behind what has been read. -/
theorem toList_loop (bytes : ByteArray) (i : Nat) (read : Octets) :
    ByteArray.toList.loop bytes i read = read.reverse ++ bytes.data.toList.drop i := by
  fun_induction ByteArray.toList.loop bytes i read with
  | case1 i read hi ih =>
    have hlt : i < bytes.data.toList.length := by simpa using hi
    have hget : bytes.get! i = bytes.data.toList[i] := by simp [ByteArray.get!, hi]
    rw [ih, List.drop_eq_getElem_cons hlt, hget, List.reverse_cons, List.append_assoc]
    rfl
  | case2 i read hi =>
    rw [List.drop_eq_nil_of_le (by simpa using Nat.le_of_not_lt hi), List.append_nil]

/-- The octets of a text are those of its characters. -/
theorem ofText_ofList (text : List Char) : Octets.ofText (String.ofList text) = encode text := by
  rw [Octets.ofText, String.toUTF8_eq_toByteArray, String.toByteArray_ofList, ByteArray.toList,
    toList_loop, List.utf8Encode, List.toList_data_toByteArray]
  rfl

theorem utf8ByteSize_ofList (text : List Char) :
    (String.ofList text).utf8ByteSize = size text := by
  induction text with
  | nil => rfl
  | cons c text ih =>
    rw [String.ofList_cons, String.utf8ByteSize_append, String.utf8ByteSize_singleton, ih, size]

/-! ## One character -/

theorem isContinuation_iff {b : UInt8} :
    isContinuation b = true ↔ 0x80 ≤ b.toNat ∧ b.toNat ≤ 0xBF := by
  simp [isContinuation, UInt8.le_iff_toNat_le]

/-- The bounds of a second octet: narrower behind the first octets that could make a character too
short, a surrogate, or too great. -/
theorem continues_iff {lead b : UInt8} :
    continues lead b = true ↔
      0x80 ≤ b.toNat ∧ b.toNat ≤ 0xBF ∧ (lead.toNat = 0xE0 → 0xA0 ≤ b.toNat) ∧
        (lead.toNat = 0xED → b.toNat ≤ 0x9F) ∧ (lead.toNat = 0xF0 → 0x90 ≤ b.toNat) ∧
        (lead.toNat = 0xF4 → b.toNat ≤ 0x8F) := by
  unfold continues
  simp only [← UInt8.toNat_inj]
  repeat' split
  all_goals simp_all [isContinuation_iff, UInt8.le_iff_toNat_le]
  all_goals omega

theorem toNat_val_ofNat {n : Nat} (h : n.isValidChar) : (Char.ofNat n).val.toNat = n := by
  rw [Char.ofNat, dif_pos h]
  rfl

/-- Only the first octet of a character continues none. -/
theorem exists_lead (c : Char) :
    ∃ lead tail, String.utf8EncodeChar c = lead :: tail ∧ isContinuation lead = false ∧
      ∀ b ∈ tail, isContinuation b = true := by
  have hvalid : c.val.toNat.isValidChar := c.valid
  simp only [Nat.isValidChar] at hvalid
  simp only [String.utf8EncodeChar]
  repeat' split
  all_goals refine ⟨_, _, rfl, ?_, ?_⟩
  all_goals simp only [← Bool.not_eq_true, isContinuation_iff, UInt8.toNat_ofNat',
    List.forall_mem_cons, List.not_mem_nil, false_imp_iff, implies_true, and_true]
  all_goals omega

variable {lead : UInt8} {rest after : Octets} {c : Char}

/-- What is read as a character is how the character is written. -/
theorem eq_encode_of_scan (h : scan lead rest = (some c, after)) :
    lead :: rest = String.utf8EncodeChar c ++ after := by
  unfold scan at h
  repeat' split at h
  all_goals cases h
  all_goals simp only [Bool.and_eq_true, decide_eq_true_eq, UInt8.le_iff_toNat_le,
    UInt8.lt_iff_toNat_lt, UInt8.reduceToNat, isContinuation_iff, continues_iff, low6] at *
  all_goals unfold String.utf8EncodeChar
  -- One case for each number of octets. The bounds of the second octet keep the value in the range
  -- of that number and out of the surrogates.
  · rw [toNat_val_ofNat (.inl (by omega)), if_pos (by omega), UInt8.ofNat_toNat]
    rfl
  · rw [toNat_val_ofNat (.inl (by omega)), if_neg (by omega), if_pos (by omega)]
    simp only [List.cons_append, List.nil_append, List.cons.injEq, ← UInt8.toNat_inj,
      UInt8.toNat_ofNat', and_true]
    omega
  · rw [toNat_val_ofNat (by simp only [Nat.isValidChar]; omega), if_neg (by omega),
      if_neg (by omega), if_pos (by omega)]
    simp only [List.cons_append, List.nil_append, List.cons.injEq, ← UInt8.toNat_inj,
      UInt8.toNat_ofNat', and_true]
    omega
  · rw [toNat_val_ofNat (.inr (by omega)), if_neg (by omega), if_neg (by omega),
      if_neg (by omega)]
    simp only [List.cons_append, List.nil_append, List.cons.injEq, ← UInt8.toNat_inj,
      UInt8.toNat_ofNat', and_true]
    omega

/-- And a written character is read, whatever follows it. -/
theorem scan_of_eq_encode (h : lead :: rest = String.utf8EncodeChar c ++ after) :
    scan lead rest = (some c, after) := by
  have hvalid : c.val.toNat.isValidChar := c.valid
  have hc : c = Char.ofNat c.val.toNat := (Char.ofNat_toNat c).symm
  simp only [String.utf8EncodeChar] at h
  generalize c.val.toNat = n at *
  subst hc
  simp only [Nat.isValidChar] at hvalid
  repeat' split at h
  all_goals
    simp only [List.cons_append, List.nil_append, List.cons.injEq] at h
    obtain ⟨rfl, rfl⟩ := h
    unfold scan
    simp only [isContinuation_iff, continues_iff, UInt8.toNat_ofNat', low6, UInt8.lt_iff_toNat_lt,
      UInt8.le_iff_toNat_le, UInt8.reduceToNat, Bool.and_eq_true, decide_eq_true_eq]
  · rw [if_pos (by omega), Nat.mod_eq_of_lt (by omega)]
  · rw [if_neg (by omega), if_pos (by omega), if_pos (by omega)]
    congr 3
    omega
  · rw [if_neg (by omega), if_neg (by omega), if_pos (by omega), if_pos (by omega),
      if_pos (by omega)]
    congr 3
    omega
  · rw [if_neg (by omega), if_neg (by omega), if_neg (by omega), if_pos (by omega),
      if_pos (by omega), if_pos (by omega), if_pos (by omega)]
    congr 3
    omega

/-- A character is read exactly off the octets that it is written in. -/
theorem scan_eq_some_iff :
    scan lead rest = (some c, after) ↔ lead :: rest = String.utf8EncodeChar c ++ after :=
  ⟨eq_encode_of_scan, scan_of_eq_encode⟩

/-- A character takes the octets that it was read from. -/
theorem utf8Size_scan (h : scan lead rest = (some c, after)) :
    c.utf8Size + after.length = rest.length + 1 := by
  have hlength := congrArg List.length (scan_eq_some_iff.1 h)
  rw [List.length_append, String.length_utf8EncodeChar] at hlength
  exact hlength.symm

theorem scan_suffix (lead : UInt8) (rest : Octets) : (scan lead rest).2 <:+ rest := by
  unfold scan
  repeat' split
  all_goals simp only [List.suffix_refl, List.suffix_cons_iff, or_true]

/-! ## All characters -/

/-- Characters of a text are read first, then those of what follows it. -/
theorem scanAll_encode_append (text : List Char) (octets : Octets) :
    scanAll (encode text ++ octets) = text.map some ++ scanAll octets := by
  induction text with
  | nil => rfl
  | cons c text ih =>
    obtain ⟨lead, rest, hc⟩ := List.exists_cons_of_ne_nil (String.utf8EncodeChar_ne_nil (c := c))
    have hscan : scan lead (rest ++ (encode text ++ octets)) = (some c, encode text ++ octets) := by
      rw [scan_eq_some_iff, hc, List.cons_append]
    rw [encode_cons, hc, List.append_assoc, List.cons_append, scanAll, hscan, ih]
    rfl

theorem mapM_id_eq_some_iff {read : List (Option Char)} {text : List Char} :
    read.mapM id = some text ↔ read = text.map some := by
  induction read generalizing text with
  | nil => cases text <;> simp
  | cons c read ih =>
    cases c with
    | none => cases text <;> simp
    | some c =>
      simp only [List.mapM_cons, id_eq, Option.bind_eq_bind, Option.bind_some,
        Option.bind_eq_some_iff, ih]
      cases text with
      | nil => simp
      | cons => simpa using and_comm

variable {octets : Octets} {text : List Char}

/-- The strict reading succeeds on written texts, and gives them back. -/
theorem decode?_eq_some_iff : decode? octets = some text ↔ octets = encode text := by
  rw [decode?, mapM_id_eq_some_iff]
  constructor
  · intro h
    induction octets using scanAll.induct generalizing text with
    | case1 =>
      rw [scanAll] at h
      rw [List.map_eq_nil_iff.1 h.symm, encode_nil]
    | case2 lead rest ih =>
      rw [scanAll] at h
      obtain ⟨c, text, rfl, hc, htext⟩ := List.map_eq_cons_iff.1 h.symm
      rw [encode_cons, ← ih htext.symm]
      exact scan_eq_some_iff.1 (Prod.ext hc.symm rfl)
  · rintro rfl
    have hscan := scanAll_encode_append text []
    rwa [List.append_nil, scanAll, List.append_nil] at hscan

/-- The octets of a text are well formed. -/
theorem decode?_ofText (text : String) : decode? (Octets.ofText text) = some text.toList := by
  rw [decode?_eq_some_iff, ← ofText_ofList, String.ofList_toList]

theorem decodeLossy_nil : decodeLossy [] = [] := by
  rw [decodeLossy, scanAll, List.map_nil]

theorem decodeLossy_of_scan {read : Option Char} (h : scan lead rest = (read, after)) :
    decodeLossy (lead :: rest) = read.getD '\uFFFD' :: decodeLossy after := by
  rw [decodeLossy, scanAll, h, List.map_cons, decodeLossy]

/-- The two readings agree where the strict one succeeds. -/
theorem decodeLossy_of_decode? (h : decode? octets = some text) : decodeLossy octets = text := by
  rw [decode?, mapM_id_eq_some_iff] at h
  rw [decodeLossy, h, List.map_map]
  exact List.map_id text

/-- Well-formed octets are as many as their text takes. -/
theorem size_of_decode? (h : decode? octets = some text) : size text = octets.length := by
  rw [decode?_eq_some_iff.1 h, length_encode]

/-- What the lenient reading gives is read off the octets, or stands for an ill-formed run. -/
theorem infix_of_mem_decodeLossy (h : c ∈ decodeLossy octets) (hc : c ≠ '\uFFFD') :
    String.utf8EncodeChar c <:+: octets := by
  induction octets using scanAll.induct with
  | case1 =>
    rw [decodeLossy_nil] at h
    cases h
  | case2 lead rest ih =>
    have hsuffix := (scan_suffix lead rest).trans (List.suffix_cons lead rest)
    rcases hscan : scan lead rest with ⟨read, after⟩
    rw [hscan] at ih hsuffix
    rw [decodeLossy_of_scan hscan] at h
    rcases List.mem_cons.1 h with hfirst | hlater
    · cases read with
      | none => exact absurd hfirst hc
      | some first =>
        obtain rfl : c = first := hfirst
        rw [scan_eq_some_iff.1 hscan]
        exact (List.prefix_append _ _).isInfix
    · exact (ih hlater).trans hsuffix.isInfix

/-- An ill-formed run has an octet at least, and U+FFFD takes three. -/
theorem size_decodeLossy_le (octets : Octets) :
    size (decodeLossy octets) ≤ 3 * octets.length := by
  induction octets using scanAll.induct with
  | case1 =>
    rw [decodeLossy_nil]
    exact Nat.le_refl 0
  | case2 lead rest ih =>
    have hskip := length_scan_le lead rest
    rcases hscan : scan lead rest with ⟨read, after⟩
    simp only [hscan] at ih hskip
    have hread : (read.getD '\uFFFD').utf8Size ≤ 3 * (rest.length + 1 - after.length) := by
      cases read with
      | none =>
        change 3 ≤ _
        omega
      | some c =>
        have hsize := utf8Size_scan hscan
        rw [Option.getD_some]
        omega
    rw [decodeLossy_of_scan hscan, size, List.length_cons]
    omega

/-- The bound is attained: `FF` is in no character. -/
theorem size_decodeLossy_replicate (n : Nat) :
    size (decodeLossy (List.replicate n 0xFF)) = 3 * n := by
  induction n with
  | zero =>
    rw [List.replicate_zero, decodeLossy_nil]
    rfl
  | succ n ih =>
    have hscan : scan 0xFF (List.replicate n 0xFF) = (none, List.replicate n 0xFF) := rfl
    rw [List.replicate_succ, decodeLossy_of_scan hscan, size, ih, Nat.mul_succ, Nat.add_comm]
    rfl

end Flowmeter.Utf8
