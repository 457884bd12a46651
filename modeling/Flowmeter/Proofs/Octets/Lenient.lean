import Flowmeter.Proofs.Octets.Utf8

/-!
# The lenient reading

`ReadsLeniently octets text` says what the lenient reading of octets is, without saying how it is
found: where a character stands it is read, and where none stands U+FFFD is read for the longest run
that could have begun one, or for one octet if none could (`IsLongestStart`). Any octets have one
such reading, which is what `decodeLossy` gives (`readsLeniently_iff`).
-/

namespace Flowmeter.Utf8

variable {lead b d : UInt8} {rest after run octets tail : Octets} {c : Char} {text : List Char}

/-! ## What begins a character -/

/-- Some character begins with these octets, or is written in them. -/
def Begins (octets : Octets) : Prop :=
  ∃ c, octets <+: String.utf8EncodeChar c

/-- A beginning of what begins a character begins it too. -/
theorem Begins.shorter {front : Octets} (h : Begins octets) (hfront : front <+: octets) :
    Begins front := by
  obtain ⟨c, hc⟩ := h
  exact ⟨c, hfront.trans hc⟩

/-- Behind its first octet a character has continuations only. -/
theorem Begins.isContinuation (h : Begins (lead :: tail)) (hb : b ∈ tail) :
    isContinuation b = true := by
  obtain ⟨c, hc⟩ := h
  obtain ⟨_, _, hencode, -, htail⟩ := exists_lead c
  rw [hencode, List.cons_prefix_cons] at hc
  exact htail b (hc.2.subset hb)

/-- What may stand first and second in a character of more than one octet. -/
theorem continues_of_utf8EncodeChar (h : String.utf8EncodeChar c = lead :: b :: tail) :
    0xC2 ≤ lead ∧ lead ≤ 0xF4 ∧ continues lead b = true := by
  have hvalid : c.val.toNat.isValidChar := c.valid
  simp only [Nat.isValidChar] at hvalid
  simp only [String.utf8EncodeChar] at h
  generalize c.val.toNat = n at *
  repeat' split at h
  all_goals simp only [List.cons.injEq, reduceCtorEq, and_false] at h
  all_goals
    obtain ⟨rfl, rfl, -⟩ := h
    simp only [continues_iff, UInt8.le_iff_toNat_le, UInt8.toNat_ofNat', UInt8.reduceToNat]
    omega

/-- The same for what begins a character. -/
theorem Begins.second (h : Begins (lead :: b :: tail)) :
    0xC2 ≤ lead ∧ lead ≤ 0xF4 ∧ continues lead b = true := by
  obtain ⟨c, more, hc⟩ := h
  exact continues_of_utf8EncodeChar hc.symm

/-- What some octets complete to a character begins one. -/
theorem begins_of_scan (more : Octets) (h : ∃ c, scan lead (tail ++ more) = (some c, [])) :
    Begins (lead :: tail) := by
  obtain ⟨c, hc⟩ := h
  have hencode := eq_encode_of_scan hc
  rw [List.append_nil, ← List.cons_append] at hencode
  exact ⟨c, more, hencode⟩

/-- Two octets that agree are completed by any continuation. -/
theorem begins_two_of_three (hlead : 0xE0 ≤ lead ∧ lead ≤ 0xEF) (hb : continues lead b = true) :
    Begins [lead, b] := by
  have hlast : isContinuation 0x80 = true := rfl
  simp only [UInt8.le_iff_toNat_le, UInt8.reduceToNat] at hlead
  apply begins_of_scan [0x80]
  simp only [scan, List.cons_append, List.nil_append, UInt8.lt_iff_toNat_lt,
    UInt8.le_iff_toNat_le, UInt8.reduceToNat, Bool.and_eq_true, decide_eq_true_eq]
  rw [if_neg (by omega), if_neg (by omega), if_pos (by omega), if_pos hb, if_pos hlast]
  exact ⟨_, rfl⟩

/-- So are three octets of a character of four. -/
theorem begins_three_of_four (hlead : 0xF0 ≤ lead ∧ lead ≤ 0xF4) (hb : continues lead b = true)
    (hd : isContinuation d = true) : Begins [lead, b, d] := by
  have hlast : isContinuation 0x80 = true := rfl
  simp only [UInt8.le_iff_toNat_le, UInt8.reduceToNat] at hlead
  apply begins_of_scan [0x80]
  simp only [scan, List.cons_append, List.nil_append, UInt8.lt_iff_toNat_lt,
    UInt8.le_iff_toNat_le, UInt8.reduceToNat, Bool.and_eq_true, decide_eq_true_eq]
  rw [if_neg (by omega), if_neg (by omega), if_neg (by omega), if_pos (by omega), if_pos hb,
    if_pos hd, if_pos hlast]
  exact ⟨_, rfl⟩

/-- And two of four, by two continuations. -/
theorem begins_two_of_four (hlead : 0xF0 ≤ lead ∧ lead ≤ 0xF4) (hb : continues lead b = true) :
    Begins [lead, b] := by
  have hd : isContinuation 0x80 = true := rfl
  exact (begins_three_of_four hlead hb hd).shorter ⟨[0x80], rfl⟩

/-! ## Ill-formed runs -/

/-- The run is all of the octets that could have begun a character, and one octet if none could. -/
structure IsLongestStart (run after : Octets) : Prop where
  ne_nil : run ≠ []
  begins : Begins run ∨ run.length = 1
  ends : ∀ next ∈ after.head?, ¬ Begins (run ++ [next])

theorem isLongestStart_cons (h : Begins (lead :: tail) ∨ tail = [])
    (hends : ∀ b ∈ after.head?, ¬ Begins (lead :: tail ++ [b])) :
    IsLongestStart (lead :: tail) after where
  ne_nil := List.cons_ne_nil _ _
  begins := h.imp_right fun htail => by rw [htail, List.length_singleton]
  ends := hends

/-- A run that begins a character is as long as it can be if the next octet continues none. -/
theorem isLongestStart_of_begins (h : Begins (lead :: tail))
    (hends : ∀ b ∈ after.head?, ¬ isContinuation b = true) :
    IsLongestStart (lead :: tail) after :=
  isLongestStart_cons (.inl h) fun b hb hmore =>
    hends b hb (hmore.isContinuation (List.mem_append_right tail List.mem_cons_self))

/-- An octet is a run of its own if it cannot be the first of two octets of a character. -/
theorem isLongestStart_singleton (hends : ∀ b ∈ after.head?, ¬ continues lead b = true) :
    IsLongestStart [lead] after :=
  isLongestStart_cons (.inr rfl) fun b hb hmore => hends b hb hmore.second.2.2

/-! ## What is skipped

One lemma for each class of first octets. Where no character is read, the octets stop to be those of
a character at one of the places behind the first, or end there.
-/

/-- The first octet of two. It is skipped alone, since its second octet could only have completed
it. -/
theorem exists_run_of_scan_two (hlead : 0xC2 ≤ lead ∧ lead ≤ 0xDF)
    (h : scan lead rest = (none, after)) :
    ∃ run, lead :: rest = run ++ after ∧ IsLongestStart run after := by
  simp only [UInt8.le_iff_toNat_le, UInt8.reduceToNat] at hlead
  simp only [scan, UInt8.lt_iff_toNat_lt, UInt8.le_iff_toNat_le, UInt8.reduceToNat,
    Bool.and_eq_true, decide_eq_true_eq] at h
  rw [if_neg (by omega), if_pos (by omega)] at h
  have hends : ∀ b, ¬ isContinuation b = true → ¬ Begins [lead, b] :=
    fun b hb hmore => hb (hmore.isContinuation List.mem_cons_self)
  cases rest with
  | nil =>
    cases h
    exact ⟨[lead], rfl, isLongestStart_cons (.inr rfl) nofun⟩
  | cons b tail =>
    dsimp only at h
    split at h
    · cases h
    · next hb =>
      cases h
      refine ⟨[lead], rfl, isLongestStart_cons (.inr rfl) fun next hnext => ?_⟩
      cases hnext
      exact hends b hb

/-- The first octet of three. One or two octets are skipped, as far as they agree. -/
theorem exists_run_of_scan_three (hlead : 0xE0 ≤ lead ∧ lead ≤ 0xEF)
    (h : scan lead rest = (none, after)) :
    ∃ run, lead :: rest = run ++ after ∧ IsLongestStart run after := by
  have hbounds := hlead
  simp only [UInt8.le_iff_toNat_le, UInt8.reduceToNat] at hbounds
  simp only [scan, UInt8.lt_iff_toNat_lt, UInt8.le_iff_toNat_le, UInt8.reduceToNat,
    Bool.and_eq_true, decide_eq_true_eq] at h
  rw [if_neg (by omega), if_neg (by omega), if_pos (by omega)] at h
  cases rest with
  | nil =>
    cases h
    exact ⟨[lead], rfl, isLongestStart_singleton nofun⟩
  | cons b tail =>
    dsimp only at h
    split at h
    · next hb =>
      have hbegins : Begins [lead, b] := begins_two_of_three hlead hb
      cases tail with
      | nil =>
        cases h
        exact ⟨[lead, b], rfl, isLongestStart_of_begins hbegins nofun⟩
      | cons d tail =>
        dsimp only at h
        split at h
        · cases h
        · next hd =>
          cases h
          exact ⟨[lead, b], rfl, isLongestStart_of_begins hbegins (by simpa using hd)⟩
    · next hb =>
      cases h
      exact ⟨[lead], rfl, isLongestStart_singleton (by simpa using hb)⟩

/-- The first octet of four. Up to three octets are skipped. -/
theorem exists_run_of_scan_four (hlead : 0xF0 ≤ lead ∧ lead ≤ 0xF4)
    (h : scan lead rest = (none, after)) :
    ∃ run, lead :: rest = run ++ after ∧ IsLongestStart run after := by
  have hbounds := hlead
  simp only [UInt8.le_iff_toNat_le, UInt8.reduceToNat] at hbounds
  simp only [scan, UInt8.lt_iff_toNat_lt, UInt8.le_iff_toNat_le, UInt8.reduceToNat,
    Bool.and_eq_true, decide_eq_true_eq] at h
  rw [if_neg (by omega), if_neg (by omega), if_neg (by omega), if_pos (by omega)] at h
  cases rest with
  | nil =>
    cases h
    exact ⟨[lead], rfl, isLongestStart_singleton nofun⟩
  | cons b tail =>
    dsimp only at h
    split at h
    · next hb =>
      have htwo : Begins [lead, b] := begins_two_of_four hlead hb
      cases tail with
      | nil =>
        cases h
        exact ⟨[lead, b], rfl, isLongestStart_of_begins htwo nofun⟩
      | cons d tail =>
        dsimp only at h
        split at h
        · next hd =>
          have hthree : Begins [lead, b, d] := begins_three_of_four hlead hb hd
          cases tail with
          | nil =>
            cases h
            exact ⟨[lead, b, d], rfl, isLongestStart_of_begins hthree nofun⟩
          | cons e tail =>
            dsimp only at h
            split at h
            · cases h
            · next he =>
              cases h
              exact ⟨[lead, b, d], rfl, isLongestStart_of_begins hthree (by simpa using he)⟩
        · next hd =>
          cases h
          exact ⟨[lead, b], rfl, isLongestStart_of_begins htwo (by simpa using hd)⟩
    · next hb =>
      cases h
      exact ⟨[lead], rfl, isLongestStart_singleton (by simpa using hb)⟩

/-- Where no character is read, what is skipped is the longest start of one. -/
theorem exists_run_of_scan (h : scan lead rest = (none, after)) :
    ∃ run, lead :: rest = run ++ after ∧ IsLongestStart run after := by
  by_cases htwo : 0xC2 ≤ lead ∧ lead ≤ 0xDF
  · exact exists_run_of_scan_two htwo h
  by_cases hthree : 0xE0 ≤ lead ∧ lead ≤ 0xEF
  · exact exists_run_of_scan_three hthree h
  by_cases hfour : 0xF0 ≤ lead ∧ lead ≤ 0xF4
  · exact exists_run_of_scan_four hfour h
  -- an octet of its own, or one that is in no character
  simp only [scan, Bool.and_eq_true, decide_eq_true_eq, if_neg htwo, if_neg hthree,
    if_neg hfour] at h
  split at h
  · cases h
  · cases h
    refine ⟨[lead], rfl, isLongestStart_cons (.inr rfl) fun b _ hmore => ?_⟩
    obtain ⟨hlow, hhigh, -⟩ := hmore.second
    simp only [UInt8.le_iff_toNat_le, UInt8.reduceToNat] at *
    omega

/-- Of two longest starts, neither goes on behind the other. -/
theorem IsLongestStart.append_eq_nil {more : Octets} (h : IsLongestStart run (more ++ after))
    (h' : IsLongestStart (run ++ more) after) : more = [] := by
  cases more with
  | nil => rfl
  | cons next more =>
    rcases h'.begins with hbegins | hlength
    · have hfront : run ++ [next] <+: run ++ next :: more :=
        (List.prefix_append_right_inj run).2 ⟨more, rfl⟩
      exact absurd (hbegins.shorter hfront) (h.ends next rfl)
    · have hpos := List.length_pos_iff.2 h.ne_nil
      rw [List.length_append, List.length_cons] at hlength
      omega

/-- Octets have one longest start only. -/
theorem IsLongestStart.unique {run' after' : Octets} (h : IsLongestStart run after)
    (h' : IsLongestStart run' after') (hsame : run ++ after = run' ++ after') :
    after = after' := by
  rcases List.append_eq_append_iff.1 hsame with ⟨more, rfl, rfl⟩ | ⟨more, rfl, rfl⟩
  · rw [h.append_eq_nil h', List.nil_append]
  · rw [h'.append_eq_nil h, List.nil_append]

/-- No character is read exactly where none stands, and then the longest start of one is skipped. -/
theorem scan_eq_none_iff :
    scan lead rest = (none, after) ↔
      (∀ c, ¬ String.utf8EncodeChar c <+: lead :: rest) ∧
        ∃ run, lead :: rest = run ++ after ∧ IsLongestStart run after := by
  constructor
  · intro h
    refine ⟨?_, exists_run_of_scan h⟩
    rintro c ⟨left, hleft⟩
    rw [scan_eq_some_iff.2 hleft.symm] at h
    cases h
  · rintro ⟨hnone, run, hrun, hstart⟩
    rcases hscan : scan lead rest with ⟨_ | c, after'⟩
    · obtain ⟨run', hrun', hstart'⟩ := exists_run_of_scan hscan
      rw [hstart.unique hstart' (hrun.symm.trans hrun')]
    · exact absurd ⟨after', (scan_eq_some_iff.1 hscan).symm⟩ (hnone c)

/-! ## The whole reading -/

/-- The text is a lenient reading of the octets. -/
inductive ReadsLeniently : Octets → List Char → Prop
  | nil : ReadsLeniently [] []
  | character {c : Char} {after : Octets} {text : List Char} (h : ReadsLeniently after text) :
      ReadsLeniently (String.utf8EncodeChar c ++ after) (c :: text)
  | replacement {run after : Octets} {text : List Char}
      (hnone : ∀ c, ¬ String.utf8EncodeChar c <+: run ++ after) (hrun : IsLongestStart run after)
      (h : ReadsLeniently after text) : ReadsLeniently (run ++ after) ('\uFFFD' :: text)

/-- The lenient reading is found character by character, run by run. -/
theorem readsLeniently_decodeLossy (octets : Octets) :
    ReadsLeniently octets (decodeLossy octets) := by
  induction octets using scanAll.induct with
  | case1 =>
    rw [decodeLossy_nil]
    exact .nil
  | case2 lead rest ih =>
    rcases hscan : scan lead rest with ⟨_ | c, after⟩
    · rw [hscan] at ih
      obtain ⟨hnone, run, hrun, hstart⟩ := scan_eq_none_iff.1 hscan
      rw [decodeLossy_of_scan hscan]
      rw [hrun] at hnone ⊢
      exact .replacement hnone hstart ih
    · rw [hscan] at ih
      rw [decodeLossy_of_scan hscan, scan_eq_some_iff.1 hscan]
      exact .character ih

/-- Any octets have one lenient reading. -/
theorem readsLeniently_iff : ReadsLeniently octets text ↔ decodeLossy octets = text := by
  constructor
  · intro h
    induction h with
    | nil => exact decodeLossy_nil
    | @character c after text _ ih =>
      obtain ⟨lead, rest, hc⟩ := List.exists_cons_of_ne_nil (String.utf8EncodeChar_ne_nil (c := c))
      have hscan : scan lead (rest ++ after) = (some c, after) := by
        rw [scan_eq_some_iff, hc, List.cons_append]
      rw [hc, List.cons_append, decodeLossy_of_scan hscan, ih]
      rfl
    | @replacement run after text hnone hrun _ ih =>
      obtain ⟨lead, rest, rfl⟩ := List.exists_cons_of_ne_nil hrun.ne_nil
      have hscan : scan lead (rest ++ after) = (none, after) :=
        scan_eq_none_iff.2 ⟨hnone, _, rfl, hrun⟩
      rw [List.cons_append, decodeLossy_of_scan hscan, ih]
      rfl
  · rintro rfl
    exact readsLeniently_decodeLossy octets

end Flowmeter.Utf8
