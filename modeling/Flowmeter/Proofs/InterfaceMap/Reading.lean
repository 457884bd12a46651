import Flowmeter.Export.InterfaceMap.Grammar

/-!
# Reading interface maps

Each reader takes exactly what the grammar derives off the front of a text: a name with its blanks
(`name_eq_ok_iff`), the names of a group up to the parenthesis that closes it
(`groupNames_eq_ok_iff`), an item (`item_eq_ok_iff`). So a text is read into groups exactly if the
grammar derives it from them, and from no others (`parse_eq_ok_iff_spells`).

The readers are greedy: a name and the blanks behind it run as far as they can. `EndsBefore read
rest` says that they have done so when `rest` follows.
-/

namespace Flowmeter.InterfaceMap

variable {kind : Char → Bool} {inGroup : Bool} {c : Char} {n : String} {ns : List String}
  {g : InterfaceGroup} {gs gs' : List InterfaceGroup} {text read rest rest' blanks : List Char}

/-! ## Runs of characters -/

/-- The first character of a text, if there is one, is not of the kind. -/
def StartsWithout (kind : Char → Bool) (text : List Char) : Prop :=
  ∀ c ∈ text.head?, kind c = false

theorem startsWithout_nil : StartsWithout kind [] := by
  intro c hc
  cases hc

@[simp] theorem startsWithout_cons : StartsWithout kind (c :: text) ↔ kind c = false := by
  simp only [StartsWithout, List.head?_cons, Option.mem_some_iff, forall_eq']

/-- Dropping characters of a kind stops at one that is not of it. -/
theorem startsWithout_dropWhile (text : List Char) : StartsWithout kind (text.dropWhile kind) := by
  intro c hc
  have h := List.head?_dropWhile_not kind text
  rw [Option.mem_def.1 hc] at h
  exact h

/-- Only the first character counts. -/
theorem StartsWithout.congr (h : StartsWithout kind rest) (hhead : rest'.head? = rest.head?) :
    StartsWithout kind rest' := by
  unfold StartsWithout
  rw [hhead]
  exact h

/-- Taking characters of a kind stops where they end. -/
theorem StartsWithout.takeWhile_append (h : StartsWithout kind rest)
    (hread : ∀ c ∈ read, kind c = true) : (read ++ rest).takeWhile kind = read := by
  rw [List.takeWhile_append_of_pos hread]
  cases rest with
  | nil => exact List.append_nil read
  | cons c rest =>
    rw [List.takeWhile_cons_of_neg (Bool.eq_false_iff.1 (startsWithout_cons.1 h)), List.append_nil]

theorem StartsWithout.dropWhile_append (h : StartsWithout kind rest)
    (hread : ∀ c ∈ read, kind c = true) : (read ++ rest).dropWhile kind = rest := by
  rw [List.dropWhile_append_of_pos hread]
  cases rest with
  | nil => rfl
  | cons c rest => exact List.dropWhile_cons_of_neg (Bool.eq_false_iff.1 (startsWithout_cons.1 h))

theorem isEmpty_takeWhile_iff : (text.takeWhile kind).isEmpty = true ↔ StartsWithout kind text := by
  cases text with
  | nil => simp [startsWithout_nil]
  | cons c text => cases h : kind c <;> simp [h]

/-- A blank is in no name. -/
theorem isNameChar_of_isBlank (h : Text.isBlank c = true) : isNameChar c = false := by
  simp only [isNameChar, Text.isSpace_of_isBlank h, Bool.not_true, Bool.and_false]

theorem isBlank_of_isNameChar (h : isNameChar c = true) : Text.isBlank c = false := by
  refine Bool.eq_false_iff.2 fun hb => ?_
  rw [isNameChar_of_isBlank hb] at h
  cases h

/-! ## Blanks -/

theorem isBlanks_nil : IsBlanks [] := by
  intro c hc
  cases hc

theorem startsWithout_skipBlanks (text : List Char) :
    StartsWithout Text.isBlank (Text.skipBlanks text) :=
  startsWithout_dropWhile text

/-- What is skipped are blanks. -/
theorem exists_blanks (text : List Char) :
    ∃ blanks, IsBlanks blanks ∧ text = blanks ++ Text.skipBlanks text :=
  ⟨text.takeWhile Text.isBlank, List.all_eq_true.1 List.all_takeWhile,
    List.takeWhile_append_dropWhile.symm⟩

/-- All blanks are skipped. -/
theorem skipBlanks_append (h : IsBlanks blanks) (hrest : StartsWithout Text.isBlank rest) :
    Text.skipBlanks (blanks ++ rest) = rest :=
  hrest.dropWhile_append h

theorem skipBlanks_of_startsWithout (h : StartsWithout Text.isBlank text) :
    Text.skipBlanks text = text :=
  skipBlanks_append isBlanks_nil h

/-! ## Names -/

/-- Neither the blanks behind `read` nor the name that it ends in go on in `rest`. -/
def EndsBefore (read rest : List Char) : Prop :=
  StartsWithout Text.isBlank rest ∧
    ((∃ c ∈ read.getLast?, isNameChar c = true) → StartsWithout isNameChar rest)

/-- What is read ends before a text for its first character alone. -/
theorem EndsBefore.congr (h : EndsBefore read rest) (hhead : rest'.head? = rest.head?) :
    EndsBefore read rest' :=
  ⟨h.1.congr hhead, fun hlast => (h.2 hlast).congr hhead⟩

theorem endsBefore_nil : EndsBefore read [] :=
  ⟨startsWithout_nil, fun _ => startsWithout_nil⟩

/-- A character that is neither a blank nor of a name ends whatever was read. -/
theorem endsBefore_cons (hb : Text.isBlank c = false) (hn : isNameChar c = false) :
    EndsBefore read (c :: rest) :=
  ⟨startsWithout_cons.2 hb, fun _ => startsWithout_cons.2 hn⟩

theorem endsBefore_comma : EndsBefore read (',' :: rest) :=
  endsBefore_cons rfl rfl

theorem endsBefore_close : EndsBefore read (')' :: rest) :=
  endsBefore_cons rfl rfl

/-- Behind letters and blanks, a name ends where neither blanks nor letters can go on. -/
theorem endsBefore_append_iff {letters after : List Char} (hn : IsName letters)
    (ha : IsBlanks after) :
    EndsBefore (read ++ letters ++ after) rest ↔
      StartsWithout Text.isBlank rest ∧ StartsWithout isNameChar (after ++ rest) := by
  refine and_congr_right fun _ => ?_
  cases after with
  | nil =>
    obtain ⟨first, last, rfl⟩ := List.eq_nil_or_concat letters |>.resolve_left hn.1
    have hlast : isNameChar last = true := hn.2 last (by simp)
    simp [hlast]
  | cons c after =>
    obtain ⟨last, hlast⟩ : ∃ last, (read ++ letters ++ c :: after).getLast? = some last ∧
        last ∈ c :: after := by
      refine ⟨(c :: after).getLast (List.cons_ne_nil _ _), ?_, List.getLast_mem _⟩
      rw [List.getLast?_append, List.getLast?_eq_some_getLast (List.cons_ne_nil _ _),
        Option.some_or]
    have hstart : StartsWithout isNameChar (c :: after ++ rest) :=
      startsWithout_cons.2 (isNameChar_of_isBlank (ha c List.mem_cons_self))
    refine iff_of_true (fun ⟨l, hl, hname⟩ => ?_) hstart
    rw [hlast.1, Option.mem_some_iff] at hl
    rw [← hl, isNameChar_of_isBlank (ha last hlast.2)] at hname
    cases hname

/-- Blanks before a name make no difference. -/
theorem name_skipBlanks (text : List Char) :
    name inGroup (Text.skipBlanks text) = name inGroup text := by
  simp only [name, skipBlanks_of_startsWithout (startsWithout_skipBlanks text)]

/-- A name is read with its blanks, as far as both go. -/
theorem name_eq_ok_iff :
    name inGroup text = .ok (n, rest) ↔
      ∃ read, text = read ++ rest ∧ SpellsName n read ∧ EndsBefore read rest := by
  constructor
  · intro h
    obtain ⟨before, hbefore, htext⟩ := exists_blanks text
    simp only [name] at h
    split at h
    · cases h
    · next hne =>
      cases h
      generalize Text.skipBlanks text = named at *
      obtain ⟨after, hafter, hrest⟩ := exists_blanks (named.dropWhile isNameChar)
      have hletters : IsName (named.takeWhile isNameChar) :=
        ⟨fun h => hne (List.isEmpty_iff.2 h), List.all_eq_true.1 List.all_takeWhile⟩
      refine ⟨before ++ named.takeWhile isNameChar ++ after, ?_, .mk hbefore hletters hafter, ?_⟩
      · rw [List.append_assoc, ← hrest, List.append_assoc, List.takeWhile_append_dropWhile, htext]
      · rw [endsBefore_append_iff hletters hafter, ← hrest]
        exact ⟨startsWithout_skipBlanks _, startsWithout_dropWhile _⟩
  · rintro ⟨_, rfl, ⟨hbefore, hletters, hafter⟩, hends⟩
    next before letters after =>
    obtain ⟨hblank, hname⟩ := (endsBefore_append_iff hletters hafter).1 hends
    have hnamed : StartsWithout Text.isBlank (letters ++ (after ++ rest)) := by
      cases letters with
      | nil => exact absurd rfl hletters.1
      | cons l letters =>
        exact startsWithout_cons.2 (isBlank_of_isNameChar (hletters.2 l List.mem_cons_self))
    have hempty : letters.isEmpty = false := List.isEmpty_eq_false_iff.2 hletters.1
    simp only [name, List.append_assoc, skipBlanks_append hbefore hnamed,
      hname.takeWhile_append hletters.2, hname.dropWhile_append hletters.2,
      skipBlanks_append hafter hblank, hempty, Bool.false_eq_true, ↓reduceIte]

/-- No name is read where no letter stands behind the blanks. -/
theorem name_eq_error_iff {stop : Stop} :
    name inGroup text = .error stop ↔
      stop.violation = missingName inGroup stop.remaining ∧
        ∃ read, text = read ++ stop.remaining ∧ IsBlanks read ∧
          StartsWithout Text.isBlank stop.remaining ∧ StartsWithout isNameChar stop.remaining := by
  constructor
  · intro h
    obtain ⟨before, hbefore, htext⟩ := exists_blanks text
    simp only [name] at h
    split at h
    · next hempty =>
      cases h
      exact ⟨rfl, before, htext, hbefore, startsWithout_skipBlanks text,
        isEmpty_takeWhile_iff.1 hempty⟩
    · cases h
  · obtain ⟨violation, remaining⟩ := stop
    rintro ⟨hviolation, read, rfl, hread, hblank, hname⟩
    dsimp only at *
    simp only [hviolation, name, skipBlanks_append hread hblank, isEmpty_takeWhile_iff.2 hname,
      ↓reduceIte]

/-! ## The names of a group -/

theorem groupNames_of_name_error {stop : Stop} (h : name true text = .error stop) :
    groupNames text = .error stop := by
  rw [groupNames]
  split
  · next h' =>
    rw [h] at h'
    cases h'
    rfl
  all_goals
    next h' => rw [h] at h'; cases h'

/-- Behind a comma the names go on. -/
theorem groupNames_of_name_comma (h : name true text = .ok (n, ',' :: rest)) :
    groupNames text = (groupNames rest).map fun (ns, after) => (n :: ns, after) := by
  rw [groupNames]
  split
  · next h' => rw [h] at h'; cases h'
  · next h' =>
    rw [h] at h'
    cases h'
    cases groupNames rest <;> rfl
  · next h' => rw [h] at h'; cases h'
  · next hcomma _ h' =>
    rw [h] at h'
    cases h'
    exact (hcomma _ rfl).elim

/-- A closing parenthesis ends them. -/
theorem groupNames_of_name_close (h : name true text = .ok (n, ')' :: rest)) :
    groupNames text = .ok ([n], rest) := by
  rw [groupNames]
  split
  · next h' => rw [h] at h'; cases h'
  · next h' => rw [h] at h'; cases h'
  · next h' =>
    rw [h] at h'
    cases h'
    rfl
  · next hclose h' =>
    rw [h] at h'
    cases h'
    exact (hclose _ rfl).elim

/-- Anything else is a broken group, reported where it stands. -/
theorem groupNames_of_name_broken (h : name true text = .ok (n, c :: rest)) (hcomma : c ≠ ',')
    (hclose : c ≠ ')') : groupNames text = .error ⟨brokenGroup (c :: rest), c :: rest⟩ := by
  rw [groupNames]
  split
  · next h' => rw [h] at h'; cases h'
  · next h' =>
    rw [h] at h'
    cases h'
    exact absurd rfl hcomma
  · next h' =>
    rw [h] at h'
    cases h'
    exact absurd rfl hclose
  · next h' =>
    rw [h] at h'
    cases h'
    rfl

theorem groupNames_skipBlanks (text : List Char) :
    groupNames (Text.skipBlanks text) = groupNames text := by
  rw [groupNames, groupNames, name_skipBlanks]

/-- The names of a group are read up to the parenthesis that closes it. -/
theorem groupNames_eq_ok_iff :
    groupNames text = .ok (ns, rest) ↔
      ∃ read, text = read ++ ')' :: rest ∧ SpellsNames ns read := by
  constructor
  · intro h
    fun_induction groupNames text generalizing ns rest with
    | case1 => cases h
    | case2 => cases h
    | case3 text n tail hn ns' after hg ih =>
      cases h
      obtain ⟨first, rfl, hfirst, -⟩ := name_eq_ok_iff.1 hn
      obtain ⟨read, rfl, hread⟩ := ih hg
      exact ⟨first ++ ',' :: read, by simp only [List.append_assoc, List.cons_append],
        .cons hfirst hread⟩
    | case4 text n tail hn =>
      cases h
      obtain ⟨read, rfl, hread, -⟩ := name_eq_ok_iff.1 hn
      exact ⟨read, rfl, .single hread⟩
    | case5 => cases h
  · rintro ⟨read, rfl, hread⟩
    induction hread with
    | single hn =>
      exact groupNames_of_name_close (name_eq_ok_iff.2 ⟨_, rfl, hn, endsBefore_close⟩)
    | @cons n ns first read hn _ ih =>
      rw [List.append_assoc, List.cons_append,
        groupNames_of_name_comma (name_eq_ok_iff.2 ⟨first, rfl, hn, endsBefore_comma⟩), ih]
      rfl

/-! ## Items -/

/-- A group is its names up to the closing parenthesis and the blanks behind it. The parenthesis
may not come first; the reader of names would not have it either. -/
theorem group_cases (text : List Char) :
    (∃ rest, group text = .error ⟨.emptyGroup, ')' :: rest⟩ ∧
      groupNames text = .error ⟨.expectedName, ')' :: rest⟩) ∨
    group text = (groupNames text).map fun (ns, rest) => (⟨ns⟩, Text.skipBlanks rest) := by
  rw [← groupNames_skipBlanks, group]
  split
  · next rest h =>
    rw [h]
    exact .inl ⟨rest, rfl, groupNames_of_name_error rfl⟩
  · right
    cases groupNames (Text.skipBlanks text) <;> rfl

/-- A group is read up to its closing parenthesis and the blanks behind it. -/
theorem group_eq_ok_iff :
    group text = .ok (g, rest) ↔
      ∃ names after, text = names ++ ')' :: after ++ rest ∧ SpellsNames g.names names ∧
        IsBlanks after ∧ StartsWithout Text.isBlank rest := by
  constructor
  · intro h
    rcases group_cases text with ⟨_, hg, -⟩ | hg
    · rw [hg] at h
      cases h
    · rw [hg] at h
      cases hn : groupNames text with
      | error => rw [hn] at h; cases h
      | ok read =>
        obtain ⟨ns, closed⟩ := read
        rw [hn] at h
        cases h
        obtain ⟨names, rfl, hnames⟩ := groupNames_eq_ok_iff.1 hn
        obtain ⟨after, hafter, hclosed⟩ := exists_blanks closed
        refine ⟨names, after, ?_, hnames, hafter, startsWithout_skipBlanks closed⟩
        rw [List.append_assoc, List.cons_append, ← hclosed]
  · rintro ⟨names, after, rfl, hnames, hafter, hrest⟩
    have hn : groupNames (names ++ ')' :: after ++ rest) = .ok (g.names, after ++ rest) :=
      groupNames_eq_ok_iff.2 ⟨names, by rw [List.append_assoc, List.cons_append], hnames⟩
    rcases group_cases (names ++ ')' :: after ++ rest) with ⟨_, -, hn'⟩ | hg
    · rw [hn] at hn'
      cases hn'
    · have hrest' : Text.skipBlanks (after ++ rest) = rest := skipBlanks_append hafter hrest
      simp only [hg, hn, Except.map, hrest']

/-- What an item begins with decides between a group and a name. -/
theorem item_of_open (h : Text.skipBlanks text = '(' :: rest) : item text = group rest := by
  simp only [item, h]

/-- Without a parenthesis an item is a single name. -/
theorem item_of_not_open (h : (Text.skipBlanks text).head? ≠ some '(') :
    item text = (name false text).map fun (n, rest) => (⟨[n]⟩, rest) := by
  rw [← name_skipBlanks, item]
  split
  · next hopen => rw [hopen] at h; exact absurd rfl h
  · cases name false (Text.skipBlanks text) <;> rfl

/-- Behind a group, only blanks are taken. -/
theorem endsBefore_append_close_iff {after : List Char} (ha : IsBlanks after) :
    EndsBefore (read ++ ')' :: after) rest ↔ StartsWithout Text.isBlank rest := by
  refine and_iff_left fun ⟨last, hlast, hname⟩ => ?_
  rw [List.getLast?_append, List.getLast?_eq_some_getLast (List.cons_ne_nil _ _), Option.some_or,
    Option.mem_some_iff] at hlast
  rcases List.mem_cons.1 (hlast ▸ List.getLast_mem (List.cons_ne_nil _ _)) with h | h
  · rw [h] at hname
    cases hname
  · rw [isNameChar_of_isBlank (ha _ h)] at hname
    cases hname

/-- An item is read as far as it goes. -/
theorem item_eq_ok_iff :
    item text = .ok (g, rest) ↔
      ∃ read, text = read ++ rest ∧ SpellsItem g read ∧ EndsBefore read rest := by
  constructor
  · intro h
    obtain ⟨before, hbefore, htext⟩ := exists_blanks text
    by_cases hopen : (Text.skipBlanks text).head? = some '('
    · obtain ⟨inner, hinner⟩ := List.head?_eq_some_iff.1 hopen
      rw [item_of_open hinner] at h
      obtain ⟨names, after, rfl, hnames, hafter, hrest⟩ := group_eq_ok_iff.1 h
      refine ⟨before ++ '(' :: names ++ ')' :: after, ?_, .group hbefore hnames hafter,
        (endsBefore_append_close_iff hafter).2 hrest⟩
      rw [htext, hinner]
      simp only [List.append_assoc, List.cons_append]
    · rw [item_of_not_open hopen] at h
      cases hn : name false text with
      | error => rw [hn] at h; cases h
      | ok read =>
        obtain ⟨n, after⟩ := read
        rw [hn] at h
        cases h
        obtain ⟨read, htext, hread, hends⟩ := name_eq_ok_iff.1 hn
        exact ⟨read, htext, .name hread, hends⟩
  · rintro ⟨read, rfl, hread, hends⟩
    cases hread with
    | @name n _ hn =>
      have hname : name false (read ++ rest) = .ok (n, rest) :=
        name_eq_ok_iff.2 ⟨read, rfl, hn, hends⟩
      -- no name begins with a parenthesis, so what was read as a name is not taken for a group
      have hopen : (Text.skipBlanks (read ++ rest)).head? ≠ some '(' := by
        intro h
        obtain ⟨inner, hinner⟩ := List.head?_eq_some_iff.1 h
        rw [← name_skipBlanks, hinner] at hname
        cases hname
      rw [item_of_not_open hopen, hname]
      rfl
    | @group ns before names after hbefore hnames hafter =>
      have hopen : Text.skipBlanks (before ++ '(' :: names ++ ')' :: after ++ rest) =
          '(' :: (names ++ ')' :: after ++ rest) := by
        simp only [List.append_assoc, List.cons_append]
        exact skipBlanks_append hbefore (startsWithout_cons.2 rfl)
      rw [item_of_open hopen]
      exact group_eq_ok_iff.2 ⟨names, after, rfl, hnames, hafter,
        (endsBefore_append_close_iff hafter).1 hends⟩

/-! ## Lists -/

theorem items_of_item_error {stop : Stop} (h : item text = .error stop) :
    items text = .error stop := by
  rw [items]
  split
  · next h' =>
    rw [h] at h'
    cases h'
    rfl
  all_goals
    next h' => rw [h] at h'; cases h'

theorem items_of_item_end (h : item text = .ok (g, [])) : items text = .ok [g] := by
  rw [items]
  split
  · next h' => rw [h] at h'; cases h'
  · next h' =>
    rw [h] at h'
    cases h'
    rfl
  · next h' => rw [h] at h'; cases h'
  · next hend _ h' =>
    rw [h] at h'
    cases h'
    exact (hend rfl).elim

/-- Behind a comma the items go on. -/
theorem items_of_item_comma (h : item text = .ok (g, ',' :: rest)) :
    items text = (items rest).map (g :: ·) := by
  rw [items]
  split
  · next h' => rw [h] at h'; cases h'
  · next h' => rw [h] at h'; cases h'
  · next h' =>
    rw [h] at h'
    cases h'
    cases items rest <;> rfl
  · next hcomma h' =>
    rw [h] at h'
    cases h'
    exact (hcomma _ rfl).elim

/-- An item must be followed by a comma or the end of the text. -/
theorem items_of_item_broken (h : item text = .ok (g, c :: rest)) (hcomma : c ≠ ',') :
    items text = .error ⟨brokenList (c :: rest), c :: rest⟩ := by
  rw [items]
  split
  · next h' => rw [h] at h'; cases h'
  · next h' => rw [h] at h'; cases h'
  · next h' =>
    rw [h] at h'
    cases h'
    exact absurd rfl hcomma
  · next h' =>
    rw [h] at h'
    cases h'
    rfl

/-- The items of a text are read up to its end. -/
theorem items_eq_ok_iff : items text = .ok gs ↔ Spells gs text := by
  constructor
  · intro h
    fun_induction items text generalizing gs with
    | case1 => cases h
    | case2 text g hg =>
      cases h
      obtain ⟨read, rfl, hread, -⟩ := item_eq_ok_iff.1 hg
      rw [List.append_nil]
      exact .single hread
    | case3 => cases h
    | case4 text g tail hg gs' htail ih =>
      cases h
      obtain ⟨read, rfl, hread, -⟩ := item_eq_ok_iff.1 hg
      exact .cons hread (ih htail)
    | case5 => cases h
  · intro h
    induction h with
    | @single g text hg =>
      exact items_of_item_end (item_eq_ok_iff.2 ⟨text, (List.append_nil text).symm, hg,
        endsBefore_nil⟩)
    | @cons g gs text rest hg _ ih =>
      rw [items_of_item_comma (item_eq_ok_iff.2 ⟨text, rfl, hg, endsBefore_comma⟩), ih]
      rfl

/-! ## Whole texts -/

/-- No name is empty. -/
theorem SpellsName.exists_isNameChar (h : SpellsName n text) : ∃ c ∈ text, isNameChar c = true := by
  obtain ⟨_, hn, _⟩ := h
  obtain ⟨c, hc⟩ := List.exists_mem_of_ne_nil _ hn.1
  exact ⟨c, by simp [hc], hn.2 c hc⟩

theorem Spells.exists_isNameChar (h : Spells gs text) : ∃ c ∈ text, isNameChar c = true := by
  have hitem : ∀ {g text}, SpellsItem g text → ∃ c ∈ text, isNameChar c = true := by
    intro g text hg
    cases hg with
    | name hn => exact hn.exists_isNameChar
    | group _ hns _ =>
      cases hns with
      | single hn =>
        obtain ⟨c, hc, hname⟩ := hn.exists_isNameChar
        exact ⟨c, by simp [hc], hname⟩
      | cons hn _ =>
        obtain ⟨c, hc, hname⟩ := hn.exists_isNameChar
        exact ⟨c, by simp [hc], hname⟩
  cases h with
  | single hg => exact hitem hg
  | cons hg _ =>
    obtain ⟨c, hc, hname⟩ := hitem hg
    exact ⟨c, List.mem_append_left _ hc, hname⟩

theorem isSpace_of_dropWhile_eq_nil (h : text.dropWhile Text.isSpace = []) :
    ∀ c ∈ text, Text.isSpace c = true := by
  intro c hc
  rw [← List.takeWhile_append_dropWhile (p := Text.isSpace) (l := text), h, List.append_nil] at hc
  exact List.all_eq_true.1 List.all_takeWhile c hc

/-- A text that trims to nothing is white space throughout. -/
theorem isSpace_of_isEmpty_trim (h : (Text.trim text).isEmpty = true) :
    ∀ c ∈ text, Text.isSpace c = true := by
  have hreversed := isSpace_of_dropWhile_eq_nil (List.reverse_eq_nil_iff.1 (List.isEmpty_iff.1 h))
  -- what is left in front is white space throughout, and begins with none
  have hdrop : text.dropWhile Text.isSpace = [] := by
    cases hleft : text.dropWhile Text.isSpace with
    | nil => rfl
    | cons c left =>
      have hstart : StartsWithout Text.isSpace (text.dropWhile Text.isSpace) :=
        startsWithout_dropWhile text
      rw [hleft, startsWithout_cons] at hstart
      rw [hreversed c (by simp [hleft])] at hstart
      cases hstart
  exact isSpace_of_dropWhile_eq_nil hdrop

/-- A text of white space has no items, so the test for one excludes nothing else. -/
theorem groups_eq_ok_iff : groups text = .ok gs ↔ Spells gs text := by
  rw [← items_eq_ok_iff, groups]
  split
  · next hempty =>
    refine iff_of_false nofun fun h => ?_
    obtain ⟨c, hc, hname⟩ := (items_eq_ok_iff.1 h).exists_isNameChar
    simp only [isNameChar, isSpace_of_isEmpty_trim hempty c hc] at hname
    simp at hname
  · rfl

/-- A text is read as groups exactly if the grammar derives it from them. -/
theorem parse_eq_ok_iff {text : String} : parse text = .ok gs ↔ Spells gs text.toList := by
  rw [← groups_eq_ok_iff, parse]
  cases groups text.toList with
  | error => exact iff_of_false nofun nofun
  | ok => simp only [Except.ok.injEq]

/-- **A text is read into groups exactly if the grammar derives it from them**, and it derives it
from no others. -/
theorem parse_eq_ok_iff_spells (text : String) (gs : List InterfaceGroup) :
    (parse text = .ok gs ↔ Spells gs text.toList) ∧
      ∀ gs', Spells gs text.toList → Spells gs' text.toList → gs' = gs := by
  refine ⟨parse_eq_ok_iff, fun gs' h h' => ?_⟩
  have hparse : parse text = .ok gs := parse_eq_ok_iff.2 h
  rw [parse_eq_ok_iff.2 h'] at hparse
  exact Except.ok.inj hparse

/-- Blanks at every place that they may stand in. -/
theorem parse_spaced :
    parse " a ,\n( b,c )\t" = .ok [⟨["a"]⟩, ⟨["b", "c"]⟩] ∧
      ∀ gs, Spells gs " a ,\n( b,c )\t".toList → gs = [⟨["a"]⟩, ⟨["b", "c"]⟩] := by
  have ha : SpellsName "a" ([' '] ++ ['a'] ++ [' ']) := .mk (by decide) (by decide) (by decide)
  have hb : SpellsName "b" ([' '] ++ ['b'] ++ []) := .mk (by decide) (by decide) (by decide)
  have hc : SpellsName "c" ([] ++ ['c'] ++ [' ']) := .mk (by decide) (by decide) (by decide)
  have hgroup : SpellsItem ⟨["b", "c"]⟩ (['\n'] ++ '(' :: " b,c ".toList ++ ')' :: ['\t']) :=
    .group (by decide) (.cons hb (.single hc)) (by decide)
  have hspells : Spells [⟨["a"]⟩, ⟨["b", "c"]⟩] " a ,\n( b,c )\t".toList :=
    .cons (.name ha) (.single hgroup)
  obtain ⟨hparse, hunique⟩ := parse_eq_ok_iff_spells " a ,\n( b,c )\t" [⟨["a"]⟩, ⟨["b", "c"]⟩]
  exact ⟨hparse.2 hspells, fun gs hgs => hunique gs hspells hgs⟩

end Flowmeter.InterfaceMap
