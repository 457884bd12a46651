import Flowmeter.HeaderField
import Flowmeter.Proofs.Octets.Search
import Flowmeter.Proofs.Tokens

/-!
# Header blocks on the wire

A `Line` is a header line taken apart: name, the octet after the colon, value. The tokenizer of
header fields cuts exactly these lines (`cuts_line`, `spells_line`) and takes its definite end from
an empty line (`finished_step_iff`). So a block that is written out reads back as its fields, and
all that is ever read of a view is a run of lines, with the empty line behind it if the sequence
has succeeded (`block_round_trip`).
-/

namespace Flowmeter.HeaderField

/-- A header line taken apart. -/
structure Line where
  name : Octets
  /-- The octet after the colon, which belongs to neither side. Only a line that ends with its
  colon has none. -/
  gap : Octets
  value : Octets
  name_ne_nil : name ≠ []
  colon_not_mem : 0x3A ∉ name
  gap_length_le : gap.length ≤ 1
  value_eq_nil : gap = [] → value = []
  not_lineEnd_infix : ¬ lineEnd <:+: name ++ colon ++ gap ++ value

/-- The line without its end. -/
def Line.content (line : Line) : Octets :=
  line.name ++ colon ++ line.gap ++ line.value

/-- Header lines on the wire, and the fields that they are. -/
def lineFormat : WireFormat Line HeaderField where
  encode line := line.content ++ lineEnd
  token offset line :=
    ⟨⟨offset, line.name⟩, ⟨offset + line.name.length + 1 + line.gap.length, line.value⟩⟩

namespace Line

variable (line : Line)

theorem content_ne_nil : line.content ≠ [] := by
  intro h
  simp only [content, List.append_eq_nil_iff] at h
  exact line.name_ne_nil h.1.1.1

/-- The value ends with the line; where it would start, a line that ends with its colon is over. -/
theorem drop_content :
    line.content.drop (min (line.name.length + 2) line.content.length) = line.value ∧
      min (line.name.length + 2) line.content.length = line.name.length + 1 + line.gap.length := by
  have hstart : min (line.name.length + 2) line.content.length =
      (line.name ++ colon ++ line.gap).length := by
    have hgap := line.gap_length_le
    simp only [content, colon, List.length_append, List.length_singleton]
    by_cases h : line.gap = []
    · simp only [h, line.value_eq_nil h, List.length_nil]
      omega
    · have := List.length_pos_iff.2 h
      omega
  refine ⟨?_, ?_⟩
  · rw [hstart, content]
    exact List.drop_left
  · rw [hstart]
    simp only [colon, List.length_append, List.length_singleton]

theorem not_lineEnd_infix_name : ¬ lineEnd <:+: line.name := by
  intro h
  apply line.not_lineEnd_infix
  rw [List.append_assoc, List.append_assoc]
  exact List.infix_append_of_infix_left h

theorem not_lineEnd_infix_value : ¬ lineEnd <:+: line.value := by
  intro h
  exact line.not_lineEnd_infix (List.infix_append_of_infix_right h)

end Line

/-! ## Lines and fields -/

theorem ofLine?_of_find? {v : View} {n : Nat} (h : v.find? colon = some n) (hn : n ≠ 0) :
    ofLine? v = some ⟨v.take n, v.drop (min (n + 2) v.length)⟩ := by
  unfold ofLine?
  rw [h]
  cases n with
  | zero => exact absurd rfl hn
  | succ n => rfl

theorem exists_find?_of_ofLine? {v : View} {field : HeaderField} (h : ofLine? v = some field) :
    ∃ n, v.find? colon = some n ∧ n ≠ 0 := by
  unfold ofLine? at h
  split at h
  · cases h
  · cases h
  · next n hn hfind => exact ⟨n, hfind, hn⟩

theorem ofLine?_content (offset : Nat) (line : Line) :
    ofLine? ⟨offset, line.content⟩ = some (lineFormat.token offset line) := by
  have hcolon : ¬ colon <:+: line.name := by
    intro h
    exact line.colon_not_mem (h.subset (List.mem_singleton_self _))
  have hfind : View.find? ⟨offset, line.content⟩ colon = some line.name.length := by
    rw [View.find?, Line.content, List.append_assoc]
    exact Octets.indexOf?_append List.not_mem_nil hcolon
  have hpos : line.name.length ≠ 0 := by
    intro h
    exact line.name_ne_nil (List.eq_nil_of_length_eq_zero h)
  have hname : line.content.take line.name.length = line.name := by
    rw [Line.content, List.append_assoc, List.append_assoc]
    exact List.take_left
  obtain ⟨hvalue, hstart⟩ := line.drop_content
  rw [ofLine?_of_find? hfind hpos]
  simp only [lineFormat, View.take, View.drop, View.length, hname, hvalue]
  rw [hstart, ← Nat.add_assoc, ← Nat.add_assoc]

/-- What is split at a colon is a line, provided that it does not hold the end of one. -/
theorem exists_line_of_ofLine? {v : View} {field : HeaderField} (h : ofLine? v = some field)
    (hend : ¬ lineEnd <:+: v.bytes) :
    ∃ line : Line, line.content = v.bytes ∧ field = lineFormat.token v.offset line := by
  obtain ⟨n, hfind, hn⟩ := exists_find?_of_ofLine? h
  have hcolon_ne : colon ≠ [] := List.cons_ne_nil _ _
  obtain ⟨name, after, hbytes, hlength, hcolon⟩ := Octets.exists_of_indexOf? hcolon_ne hfind
  have hcontent : name ++ colon ++ after.take 1 ++ after.drop 1 = v.bytes := by
    rw [List.append_assoc, List.take_append_drop, hbytes]
  let line : Line :=
    { name := name
      gap := after.take 1
      value := after.drop 1
      name_ne_nil := by
        rintro rfl
        exact hn hlength.symm
      colon_not_mem := by
        intro hmem
        obtain ⟨s, t, rfl⟩ := List.append_of_mem hmem
        refine hcolon ⟨s, t, ?_⟩
        rw [colon, List.append_assoc]
        rfl
      gap_length_le := by
        rw [List.length_take]
        exact Nat.min_le_left ..
      value_eq_nil := by
        intro hnil
        cases after with
        | nil => rfl
        | cons b rest => cases hnil
      not_lineEnd_infix := by
        rw [hcontent]
        exact hend }
  refine ⟨line, hcontent, ?_⟩
  have hfield := ofLine?_content v.offset line
  have hv : (⟨v.offset, line.content⟩ : View) = v := by rw [Line.content, hcontent]
  rw [hv, h] at hfield
  exact Option.some.inj hfield

/-! ## Steps -/

theorem step_eq_token_iff {v rest : View} {field : HeaderField} :
    step v = .token field rest ↔ ∃ n, v.find? lineEnd = some n ∧ n ≠ 0 ∧
      ofLine? (v.take n) = some field ∧ v.drop (n + lineEnd.length) = rest := by
  unfold step
  cases v.find? lineEnd with
  | none => simp
  | some n =>
    cases n with
    | zero => simp
    | succ n => cases hfield : ofLine? (v.take (n + 1)) <;> simp [hfield]

theorem step_eq_finished_iff {v rest : View} :
    step v = .finished rest ↔ v.find? lineEnd = some 0 ∧ v.drop lineEnd.length = rest := by
  unfold step
  cases v.find? lineEnd with
  | none => simp
  | some n =>
    cases n with
    | zero => simp
    | succ n => cases hfield : ofLine? (v.take (n + 1)) <;> simp [hfield]

theorem cuts_line (line : Line) : tokenizer.Cuts lineFormat line := by
  intro offset rest
  have hfind : View.find? ⟨offset, line.content ++ lineEnd ++ rest⟩ lineEnd =
      some line.content.length :=
    Octets.indexOf?_append (by decide) line.not_lineEnd_infix
  have hpos : line.content.length ≠ 0 := by
    intro h
    exact line.content_ne_nil (List.eq_nil_of_length_eq_zero h)
  refine step_eq_token_iff.2 ⟨line.content.length, hfind, hpos, ?_, ?_⟩
  · change ofLine? ⟨offset, (line.content ++ lineEnd ++ rest).take line.content.length⟩ = _
    rw [List.append_assoc, List.take_left]
    exact ofLine?_content offset line
  · simp only [View.drop, lineFormat, List.length_append]
    rw [List.drop_left' List.length_append]

theorem spells_line : tokenizer.Spells lineFormat := by
  intro v field rest h
  obtain ⟨n, hfind, -, hfield, rfl⟩ := step_eq_token_iff.1 h
  have hne : lineEnd ≠ [] := List.cons_ne_nil _ _
  obtain ⟨content, after, hbytes, hlength, hend⟩ := Octets.exists_of_indexOf? hne hfind
  have htake : v.take n = ⟨v.offset, content⟩ := by
    rw [View.take, hbytes, List.append_assoc, List.take_left' hlength]
  rw [htake] at hfield
  obtain ⟨line, hcontent, htoken⟩ := exists_line_of_ofLine? hfield hend
  have hdrop : v.bytes.drop (n + lineEnd.length) = after := by
    rw [hbytes, ← hlength, List.drop_left' List.length_append]
  refine ⟨line, htoken, ?_, ?_⟩
  · change v.bytes = line.content ++ lineEnd ++ v.bytes.drop (n + lineEnd.length)
    rw [hdrop, hcontent, hbytes]
  · change v.offset + (n + lineEnd.length) = v.offset + (line.content ++ lineEnd).length
    rw [List.length_append, hcontent, hlength]

/-- The definite end is an empty line. -/
theorem finished_step_iff {v rest : View} :
    tokenizer.step v = .finished rest ↔
      v.bytes = lineEnd ++ rest.bytes ∧ rest.offset = v.offset + lineEnd.length := by
  have hne : lineEnd ≠ [] := List.cons_ne_nil _ _
  change step v = .finished rest ↔ _
  rw [step_eq_finished_iff]
  constructor
  · rintro ⟨hfind, rfl⟩
    obtain ⟨before, after, hbytes, hlength, -⟩ := Octets.exists_of_indexOf? hne hfind
    have hnil : before = [] := List.eq_nil_of_length_eq_zero hlength
    rw [hnil, List.nil_append] at hbytes
    refine ⟨?_, rfl⟩
    rw [View.bytes_drop, hbytes, List.drop_left]
  · rintro ⟨hbytes, hoffset⟩
    refine ⟨?_, ?_⟩
    · rw [View.find?, hbytes]
      exact Octets.indexOf?_of_isPrefixOf (List.isPrefixOf_iff_prefix.2 (List.prefix_append _ _))
    · rw [View.drop, hbytes, List.drop_left, ← hoffset]

/-! ## Blocks -/

/-- Name and value of a field, without their places. -/
def octets (field : HeaderField) : Octets × Octets :=
  (field.name.bytes, field.value.bytes)

theorem map_octets_tokens (offset : Nat) (lines : List Line) :
    (lineFormat.tokens offset lines).map octets =
      lines.map fun line => (line.name, line.value) := by
  induction lines generalizing offset with
  | nil => rfl
  | cons line rest ih =>
    simp only [WireFormat.tokens, List.map_cons, ih]
    rfl

/-- A name without a colon and a value are written as a line, with a space after the colon. -/
theorem exists_line {name value : Octets} (hname : name ≠ []) (hcolon : 0x3A ∉ name)
    (hend : ¬ lineEnd <:+: name ++ [0x3A, 0x20] ++ value) :
    ∃ line : Line, lineFormat.encode line = encode name value ∧ line.name = name ∧
      line.value = value := by
  have hcontent : name ++ colon ++ [0x20] ++ value = name ++ [0x3A, 0x20] ++ value := by
    rw [colon, List.append_assoc name]
    rfl
  refine ⟨⟨name, [0x20], value, hname, hcolon, Nat.le_refl 1, ?_, ?_⟩, rfl, rfl, rfl⟩
  · intro hnil
    cases hnil
  · rw [hcontent]
    exact hend

theorem exists_lines {fields : List (Octets × Octets)}
    (h : ∀ field ∈ fields, field.1 ≠ [] ∧ 0x3A ∉ field.1 ∧
      ¬ lineEnd <:+: field.1 ++ [0x3A, 0x20] ++ field.2) :
    ∃ lines : List Line, encodeBlock fields = lineFormat.encodeAll lines ++ lineEnd ∧
      lines.map (fun line => (line.name, line.value)) = fields := by
  induction fields with
  | nil => exact ⟨[], rfl, rfl⟩
  | cons field fields ih =>
    obtain ⟨hname, hcolon, hend⟩ := h field List.mem_cons_self
    obtain ⟨line, hline, hln, hlv⟩ := exists_line hname hcolon hend
    obtain ⟨lines, hlines, hmap⟩ := ih fun f hf => h f (List.mem_cons_of_mem _ hf)
    unfold encodeBlock at hlines ⊢
    refine ⟨line :: lines, ?_, ?_⟩
    · rw [List.flatMap_cons, List.append_assoc, hlines, WireFormat.encodeAll_cons, hline,
        List.append_assoc]
    · rw [List.map_cons, hmap, hln, hlv]

theorem tokens_lines (offset : Nat) (lines : List Line) (body : Octets) :
    tokenizer.tokens ⟨offset, lineFormat.encodeAll lines ++ lineEnd ++ body⟩ =
      (lineFormat.tokens offset lines,
        ⟨⟨offset + (lineFormat.encodeAll lines ++ lineEnd).length, body⟩, .succeeded⟩) := by
  have hend : tokenizer.tokens ⟨offset + (lineFormat.encodeAll lines).length, lineEnd ++ body⟩ =
      ([], ⟨⟨offset + (lineFormat.encodeAll lines ++ lineEnd).length, body⟩, .succeeded⟩) := by
    refine Tokenizer.tokens_of_finished (finished_step_iff.2 ⟨rfl, ?_⟩)
    simp only [List.length_append, Nat.add_assoc]
  rw [List.append_assoc, Tokenizer.tokens_encodeAll (fun line _ => cuts_line line), hend,
    List.append_nil]

/-- A sequence does not stop before an empty line. -/
theorem not_lineEnd_prefix_of_stop {v : View} (h : tokenizer.step v = .stop) :
    ¬ lineEnd <+: v.bytes := by
  rintro ⟨rest, hrest⟩
  have hfinished : tokenizer.step v = .finished ⟨v.offset + lineEnd.length, rest⟩ :=
    finished_step_iff.2 ⟨hrest.symm, rfl⟩
  rw [h] at hfinished
  cases hfinished

theorem exists_line_of_mem_tokens {offset : Nat} {lines : List Line} {field : HeaderField}
    (h : field ∈ lineFormat.tokens offset lines) :
    ∃ line ∈ lines, line.name = field.name.bytes ∧ line.value = field.value.bytes := by
  have hoctets : field.octets ∈ lines.map fun line => (line.name, line.value) := by
    rw [← map_octets_tokens offset]
    exact List.mem_map_of_mem h
  obtain ⟨line, hmem, hline⟩ := List.mem_map.1 hoctets
  exact ⟨line, hmem, congrArg Prod.fst hline, congrArg Prod.snd hline⟩

/-- **Header blocks round trip.** A block that is written out, whatever follows it, reads back as
its fields and leaves what follows. Of any view, what has been read is a run of lines, closed by
the empty line if the sequence has succeeded; if it has failed, neither a line nor an empty line
comes next. -/
theorem block_round_trip :
    (∀ (fields : List (Octets × Octets)) (body : Octets) (offset : Nat),
      (∀ field ∈ fields, field.1 ≠ [] ∧ 0x3A ∉ field.1 ∧
        ¬ lineEnd <:+: field.1 ++ [0x3A, 0x20] ++ field.2) →
      (tokenizer.tokens ⟨offset, encodeBlock fields ++ body⟩).1.map octets = fields ∧
      (tokenizer.tokens ⟨offset, encodeBlock fields ++ body⟩).2 =
        ⟨⟨offset + (encodeBlock fields).length, body⟩, .succeeded⟩) ∧
    ∀ v : View, ∃ (lines : List Line) (remaining : View),
      (tokenizer.tokens v).1 = lineFormat.tokens v.offset lines ∧
      ((tokenizer.tokens v).2 = ⟨remaining, .succeeded⟩ ∧
          v.bytes = lineFormat.encodeAll lines ++ lineEnd ++ remaining.bytes ∨
        (tokenizer.tokens v).2 = ⟨remaining, .failed⟩ ∧
          v.bytes = lineFormat.encodeAll lines ++ remaining.bytes ∧
          ¬ lineEnd <+: remaining.bytes ∧
          ∀ line, ¬ lineFormat.encode line <+: remaining.bytes) ∧
      remaining.offset + remaining.length = v.offset + v.length ∧
      ∀ field ∈ (tokenizer.tokens v).1, field.name.bytes ≠ [] ∧ 0x3A ∉ field.name.bytes ∧
        ¬ lineEnd <:+: field.name.bytes ∧ ¬ lineEnd <:+: field.value.bytes := by
  constructor
  · intro fields body offset h
    obtain ⟨lines, hencode, hmap⟩ := exists_lines h
    rw [hencode, tokens_lines]
    exact ⟨(map_octets_tokens offset lines).trans hmap, rfl⟩
  · intro v
    obtain ⟨lines, last, htokens, hbytes, hoffset, hlast⟩ := Tokenizer.exists_items spells_line v
    have hlength : v.length = (lineFormat.encodeAll lines).length + last.length := by
      rw [View.length, hbytes, List.length_append]
      rfl
    have hfields : ∀ field ∈ (tokenizer.tokens v).1, field.name.bytes ≠ [] ∧
        0x3A ∉ field.name.bytes ∧ ¬ lineEnd <:+: field.name.bytes ∧
        ¬ lineEnd <:+: field.value.bytes := by
      intro field hmem
      rw [htokens] at hmem
      obtain ⟨line, -, hname, hvalue⟩ := exists_line_of_mem_tokens hmem
      rw [← hname, ← hvalue]
      exact ⟨line.name_ne_nil, line.colon_not_mem, line.not_lineEnd_infix_name,
        line.not_lineEnd_infix_value⟩
    rcases hlast with ⟨hstop, hrun⟩ | ⟨rest, hfinished, hrun⟩
    · refine ⟨lines, last, htokens, .inr ⟨hrun, hbytes, not_lineEnd_prefix_of_stop hstop, ?_⟩, ?_,
        hfields⟩
      · intro line
        exact Tokenizer.not_prefix_of_stop (cuts_line line) hstop
      · omega
    · obtain ⟨hempty, hplace⟩ := finished_step_iff.1 hfinished
      -- the step that ends the block has read its CRLF, which no line contains
      have hrest : last.length = lineEnd.length + rest.length := by
        rw [View.length, hempty, List.length_append]
        rfl
      refine ⟨lines, rest, htokens, .inl ⟨hrun, ?_⟩, ?_, hfields⟩
      · rw [List.append_assoc, ← hempty, hbytes]
      · omega

/-- A value with a colon that ends with a carriage return, and an empty value. -/
theorem block_round_trip_colon_and_return :
    let fields : List (Octets × Octets) := [([0x41], [0x3A, 0x62, 0x0D]), ([0x42, 0x0A], [])]
    (∀ field ∈ fields, field.1 ≠ [] ∧ 0x3A ∉ field.1 ∧
      ¬ lineEnd <:+: field.1 ++ [0x3A, 0x20] ++ field.2) ∧
    (tokenizer.tokens ⟨7, encodeBlock fields ++ [0x0D, 0x0A, 0x78]⟩).1.map octets = fields ∧
    (tokenizer.tokens ⟨7, encodeBlock fields ++ [0x0D, 0x0A, 0x78]⟩).2 =
      ⟨⟨23, [0x0D, 0x0A, 0x78]⟩, .succeeded⟩ := by
  intro fields
  have h : ∀ field ∈ fields, field.1 ≠ [] ∧ 0x3A ∉ field.1 ∧
      ¬ lineEnd <:+: field.1 ++ [0x3A, 0x20] ++ field.2 := by decide
  exact ⟨h, block_round_trip.1 fields [0x0D, 0x0A, 0x78] 7 h⟩

end Flowmeter.HeaderField
