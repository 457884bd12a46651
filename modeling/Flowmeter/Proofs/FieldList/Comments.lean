import Flowmeter.Export.FieldAction.Grammar
import Flowmeter.Proofs.InterfaceMap.Reading
import Mathlib.Data.List.Basic
import Mathlib.Data.List.TakeDrop
import Mathlib.Data.List.TakeWhile

/-!
# Comments in field lists

A field list is stripped of its comments line by line, and the lines are put together again. Here
this is said character by character (`stripComments_cons` and the lemmas around it), so that a
comment can be followed to the place where it is put in: at the end of a line it leaves nothing
behind, but that the empty last line counts as one more (`stripComments_insert`).

The list between the quotes is found exactly where the grammar has it (`quotedList?_eq_some_iff`),
and a line feed more at the end makes no difference to it (`parseList_comment`).
-/

namespace Flowmeter

variable {c sep : Char} {text rest before after comment list : List Char}

/-! ## Lines -/

namespace Text

theorem lines_newline (rest : List Char) : lines ('\n' :: rest) = [] :: lines rest := by
  rw [lines]

theorem lines_return_newline (rest : List Char) :
    lines ('\r' :: '\n' :: rest) = [] :: lines rest := by
  rw [lines]

/-- The character does not end a line in front of `rest`. -/
def StaysInLine (c : Char) (rest : List Char) : Prop :=
  c ≠ '\n' ∧ (c = '\r' → rest.head? ≠ some '\n')

/-- A character that does not end a line begins the first one. -/
theorem lines_cons (h : StaysInLine c rest) :
    lines (c :: rest) = (c :: (lines rest).headD []) :: (lines rest).tail := by
  rw [lines]
  · cases lines rest <;> rfl
  · exact h.1
  · rintro rest' rfl rfl
    exact h.2 rfl rfl

/-- A character that ends a line without being a line feed is the carriage return before one. -/
theorem exists_newline_of_not_staysInLine (hc : c ≠ '\n') (h : ¬ StaysInLine c rest) :
    c = '\r' ∧ ∃ others, rest = '\n' :: others := by
  have hreturn : c = '\r' ∧ rest.head? = some '\n' := by simpa [StaysInLine, hc] using h
  exact ⟨hreturn.1, List.head?_eq_some_iff.1 hreturn.2⟩

theorem lines_cons_ne_nil (c : Char) (rest : List Char) : lines (c :: rest) ≠ [] := by
  by_cases hc : c = '\n'
  · rw [hc, lines_newline]
    exact List.cons_ne_nil _ _
  · by_cases h : StaysInLine c rest
    · rw [lines_cons h]
      exact List.cons_ne_nil _ _
    · obtain ⟨rfl, others, rfl⟩ := exists_newline_of_not_staysInLine hc h
      rw [lines_return_newline]
      exact List.cons_ne_nil _ _

/-- The lines behind the first one are those behind its next character. -/
theorem tail_lines_cons (hc : c ≠ '\n') : (lines (c :: rest)).tail = (lines rest).tail := by
  by_cases h : StaysInLine c rest
  · rw [lines_cons h, List.tail_cons]
  · obtain ⟨rfl, others, rfl⟩ := exists_newline_of_not_staysInLine hc h
    rw [lines_return_newline, lines_newline]

/-! ## Texts up to a separator -/

open InterfaceMap (StartsWithout startsWithout_cons startsWithout_dropWhile)

theorem forall_ne_iff : (∀ d ∈ text, decide (d ≠ sep) = true) ↔ sep ∉ text := by
  simp only [decide_eq_true_eq]
  exact ⟨fun h hmem => h sep hmem rfl, fun h d hd hsep => h (hsep ▸ hd)⟩

theorem span_eq_cons_iff :
    text.span (· ≠ sep) = (before, c :: after) ↔
      c = sep ∧ text = before ++ sep :: after ∧ sep ∉ before := by
  rw [List.span_eq_takeWhile_dropWhile, Prod.mk.injEq]
  constructor
  · rintro ⟨rfl, hafter⟩
    have hc : StartsWithout (· ≠ sep) (c :: after) := hafter ▸ startsWithout_dropWhile text
    obtain rfl : c = sep := by simpa using startsWithout_cons.1 hc
    refine ⟨rfl, ?_, forall_ne_iff.1 (List.all_eq_true.1 List.all_takeWhile)⟩
    rw [← hafter, List.takeWhile_append_dropWhile]
  · rintro ⟨rfl, rfl, hbefore⟩
    have hstop : StartsWithout (· ≠ c) (c :: after) := startsWithout_cons.2 (by simp)
    exact ⟨hstop.takeWhile_append (forall_ne_iff.2 hbefore),
      hstop.dropWhile_append (forall_ne_iff.2 hbefore)⟩

theorem span_eq_nil_iff : text.span (· ≠ sep) = (before, []) ↔ text = before ∧ sep ∉ before := by
  rw [List.span_eq_takeWhile_dropWhile, Prod.mk.injEq, List.dropWhile_eq_nil_iff, forall_ne_iff]
  constructor
  · rintro ⟨rfl, htext⟩
    rw [List.takeWhile_eq_self_iff.2 (forall_ne_iff.2 htext)]
    exact ⟨rfl, htext⟩
  · rintro ⟨rfl, htext⟩
    exact ⟨List.takeWhile_eq_self_iff.2 (forall_ne_iff.2 htext), htext⟩

end Text

namespace FieldAction

open Text (StaysInLine)

/-! ## Stripping, character by character -/

theorem stripComments_newline_end : stripComments ['\n'] = [] :=
  rfl

theorem stripComments_newline (h : rest ≠ []) :
    stripComments ('\n' :: rest) = '\n' :: stripComments rest := by
  obtain ⟨c, rest, rfl⟩ := List.exists_cons_of_ne_nil h
  obtain ⟨line, lines, hlines⟩ := List.exists_cons_of_ne_nil (Text.lines_cons_ne_nil c rest)
  simp only [stripComments, Text.lines_newline, hlines, List.map_cons, List.takeWhile_nil,
    List.intercalate_cons_cons, List.nil_append, List.singleton_append]

theorem stripComments_return_newline (rest : List Char) :
    stripComments ('\r' :: '\n' :: rest) = stripComments ('\n' :: rest) := by
  rw [stripComments, stripComments, Text.lines_return_newline, Text.lines_newline]

theorem intercalate_cons_first {sep line : List Char} {lines : List (List Char)} :
    sep.intercalate ((c :: line) :: lines) = c :: sep.intercalate (line :: lines) := by
  cases lines with
  | nil => simp only [List.intercalate_singleton]
  | cons => simp only [List.intercalate_cons_cons, List.cons_append]

theorem stripComments_cons (h : StaysInLine c rest) (hc : c ≠ '#') :
    stripComments (c :: rest) = c :: stripComments rest := by
  have htake (line : List Char) :
      (c :: line).takeWhile (· ≠ '#') = c :: line.takeWhile (· ≠ '#') :=
    List.takeWhile_cons_of_pos (decide_eq_true hc)
  rw [stripComments, stripComments, Text.lines_cons h, List.map_cons, htake, intercalate_cons_first]
  cases Text.lines rest with
  | nil => rfl
  | cons => rfl

theorem staysInLine_hash : StaysInLine '#' rest :=
  ⟨by decide, fun h => absurd h (by decide)⟩

/-- A comment takes what is left of its line. -/
theorem stripComments_hash (rest : List Char) :
    stripComments ('#' :: rest) =
      ['\n'].intercalate ([] :: (Text.lines rest).tail.map (·.takeWhile (· ≠ '#'))) := by
  rw [stripComments, Text.lines_cons staysInLine_hash]
  rfl

theorem stripComments_hash_newline (rest : List Char) :
    stripComments ('#' :: '\n' :: rest) = stripComments ('\n' :: rest) := by
  rw [stripComments_hash, stripComments, Text.lines_newline]
  rfl

theorem stripComments_hash_cons (hc : c ≠ '\n') :
    stripComments ('#' :: c :: rest) = stripComments ('#' :: rest) := by
  rw [stripComments_hash, stripComments_hash, Text.tail_lines_cons hc]

theorem stripComments_hash_append (h : '\n' ∉ comment) :
    stripComments ('#' :: (comment ++ rest)) = stripComments ('#' :: rest) := by
  induction comment with
  | nil => rfl
  | cons c comment ih =>
    obtain ⟨hc, hcomment⟩ := List.ne_and_not_mem_of_not_mem_cons h
    rw [List.cons_append, stripComments_hash_cons (Ne.symm hc), ih hcomment]

/-! ## A comment at the end of a line -/

/-- The place between the two texts is the end of a line: that of the last one, which may be empty,
or the one before a line feed or before a carriage return and line feed. -/
def EndsLine (before after : List Char) : Prop :=
  after = [] ∨ (∃ rest, after = '\r' :: '\n' :: rest) ∨
    (∃ rest, after = '\n' :: rest) ∧ before.getLast? ≠ some '\r'

theorem EndsLine.of_cons (h : EndsLine (c :: before) after) : EndsLine before after := by
  refine h.imp_right (Or.imp_right (And.imp_right fun hlast => ?_))
  cases before with
  | nil => nofun
  | cons => exact hlast

/-- A carriage return and a line feed are one end of a line. -/
theorem not_endsLine_return : ¬ EndsLine ['\r'] ('\n' :: rest) := by
  rintro (h | ⟨_, h⟩ | ⟨-, h⟩)
  · cases h
  · cases h
  · exact h rfl

/-- A comment that begins where its line ends leaves nothing behind. -/
theorem EndsLine.stripComments_hash (h : EndsLine before after) :
    FieldAction.stripComments ('#' :: after) = FieldAction.stripComments after := by
  obtain rfl | ⟨rest, rfl⟩ | ⟨⟨rest, rfl⟩, -⟩ := h
  · rfl
  · rw [stripComments_hash_cons (by decide), stripComments_hash_newline,
      stripComments_return_newline]
  · exact stripComments_hash_newline rest

theorem EndsLine.stripComments_comment (h : EndsLine before after) (hcomment : '\n' ∉ comment) :
    FieldAction.stripComments ('#' :: (comment ++ after)) = FieldAction.stripComments after := by
  rw [stripComments_hash_append hcomment, h.stripComments_hash]

/-- What stays in its line without the comment does so with it. -/
theorem staysInLine_comment (h : StaysInLine c (before ++ after)) :
    StaysInLine c (before ++ '#' :: (comment ++ after)) := by
  refine ⟨h.1, fun hc => ?_⟩
  cases before with
  | nil => exact fun hhead => absurd (Option.some.inj hhead) (by decide)
  | cons => exact h.2 hc

/-- The same text, or the same with a line feed at the end. -/
def SameOrLonger (text longer : List Char) : Prop :=
  longer = text ∨ longer = text ++ ['\n']

theorem SameOrLonger.cons {longer : List Char} (h : SameOrLonger text longer) :
    SameOrLonger (c :: text) (c :: longer) :=
  h.imp (congrArg (c :: ·)) (congrArg (c :: ·))

/-- Behind the last line feed, a comment begins a line, which counts as one more. -/
theorem SameOrLonger.newline (hcomment : '\n' ∉ comment) (h : EndsLine before after)
    (hline : SameOrLonger (stripComments (before ++ after))
      (stripComments (before ++ '#' :: (comment ++ after)))) :
    SameOrLonger (stripComments ('\n' :: (before ++ after)))
      (stripComments ('\n' :: (before ++ '#' :: (comment ++ after)))) := by
  have hne : before ++ '#' :: (comment ++ after) ≠ [] :=
    List.append_ne_nil_of_right_ne_nil _ (List.cons_ne_nil _ _)
  rw [stripComments_newline hne]
  by_cases hlast : before ++ after = []
  · obtain ⟨rfl, rfl⟩ := List.append_eq_nil_iff.1 hlast
    right
    rw [List.nil_append, h.stripComments_comment hcomment]
    rfl
  · rw [stripComments_newline hlast]
    exact hline.cons

/-- What a new comment leaves behind, in a line and in a comment that is there already. -/
theorem stripComments_insert (hcomment : '\n' ∉ comment) (h : EndsLine before after) :
    SameOrLonger (stripComments (before ++ after))
        (stripComments (before ++ '#' :: (comment ++ after))) ∧
      SameOrLonger (stripComments ('#' :: (before ++ after)))
        (stripComments ('#' :: (before ++ '#' :: (comment ++ after)))) := by
  induction before with
  | nil =>
    refine ⟨.inl (h.stripComments_comment hcomment), .inl ?_⟩
    rw [List.nil_append, List.nil_append, stripComments_hash_cons (by decide),
      h.stripComments_comment hcomment, h.stripComments_hash]
  | cons c before ih =>
    obtain ⟨ihline, ihcomment⟩ := ih h.of_cons
    have hnewline := ihline.newline hcomment h.of_cons
    rw [List.cons_append, List.cons_append]
    by_cases hc : c = '\n'
    · rw [hc, stripComments_hash_newline, stripComments_hash_newline]
      exact ⟨hnewline, hnewline⟩
    · rw [stripComments_hash_cons hc, stripComments_hash_cons hc]
      refine ⟨?_, ihcomment⟩
      by_cases hhash : c = '#'
      · rw [hhash]
        exact ihcomment
      · by_cases hstays : StaysInLine c (before ++ after)
        · rw [stripComments_cons hstays hhash, stripComments_cons (staysInLine_comment hstays) hhash]
          exact ihline.cons
        · -- `c` is the return of a line end, and no comment stands between that and its line feed
          obtain ⟨rfl, others, hothers⟩ := Text.exists_newline_of_not_staysInLine hc hstays
          cases before with
          | nil =>
            obtain rfl : after = '\n' :: others := hothers
            exact absurd h not_endsLine_return
          | cons d before =>
            obtain rfl : d = '\n' := List.head_eq_of_cons_eq hothers
            rw [List.cons_append, List.cons_append, stripComments_return_newline,
              stripComments_return_newline]
            exact ihline

/-! ## The quoted list -/

open InterfaceMap (IsBlanks StartsWithout exists_blanks skipBlanks_append startsWithout_cons
  startsWithout_nil)

theorem startsWithout_keyword : StartsWithout Text.isBlank (keyword ++ rest) :=
  startsWithout_cons.2 rfl

theorem startsWithout_quote : StartsWithout Text.isBlank ('\'' :: rest) :=
  startsWithout_cons.2 rfl

theorem isEmpty_skipBlanks_iff : (Text.skipBlanks text).isEmpty = true ↔ IsBlanks text := by
  obtain ⟨blanks, hblanks, htext⟩ := exists_blanks text
  constructor
  · intro h
    rw [List.isEmpty_iff.1 h, List.append_nil] at htext
    rwa [htext]
  · intro h
    have hskip := skipBlanks_append h startsWithout_nil
    rw [List.append_nil] at hskip
    rw [hskip]
    rfl

/-- The list is found exactly in the texts that the grammar encloses it by. -/
theorem quotedList?_eq_some_iff : quotedList? text = some list ↔ Encloses list text := by
  simp only [quotedList?, Option.bind_eq_bind, Option.bind_eq_some_iff,
    List.isPrefixOf?_eq_some_iff_append_eq]
  constructor
  · rintro ⟨rest, hkeyword, h⟩
    obtain ⟨before, hbefore, htext⟩ := exists_blanks text
    obtain ⟨between, hbetween, hrest⟩ := exists_blanks rest
    split at h
    · next quoted hquoted =>
      split at h
      · next found c after hspan =>
        obtain ⟨rfl, hlist, hnot⟩ := Text.span_eq_cons_iff.1 hspan
        split at h
        · next hafter =>
          cases h
          have htext : text = before ++ keyword ++ between ++ '\'' :: list ++ '\'' :: after := by
            rw [htext, ← hkeyword, hrest, hquoted, hlist]
            simp only [List.append_assoc, List.cons_append]
          rw [htext]
          exact .mk hbefore hbetween hnot (isEmpty_skipBlanks_iff.1 hafter)
        · cases h
      · cases h
    · cases h
  · rintro @⟨before, between, after, hbefore, hbetween, hlist, hafter⟩
    refine ⟨between ++ '\'' :: (list ++ '\'' :: after), ?_, ?_⟩
    · simp only [List.append_assoc, List.cons_append]
      exact (skipBlanks_append hbefore startsWithout_keyword).symm
    · have hspan : (list ++ '\'' :: after).span (· ≠ '\'') = (list, '\'' :: after) :=
        Text.span_eq_cons_iff.2 ⟨rfl, rfl, hlist⟩
      simp only [skipBlanks_append hbetween startsWithout_quote, hspan,
        isEmpty_skipBlanks_iff.2 hafter, ↓reduceIte]

theorem encloses_append_newline : Encloses list (text ++ ['\n']) ↔ Encloses list text := by
  constructor
  · intro h
    generalize htext : text ++ ['\n'] = ended at h
    obtain @⟨before, between, after, hbefore, hbetween, hlist, hafter⟩ := h
    obtain rfl | ⟨blanks, c, rfl⟩ := List.eq_nil_or_concat after
    · obtain ⟨-, hlast⟩ := List.append_inj' htext rfl
      cases hlast
    · obtain ⟨hblanks, -⟩ := List.forall_mem_append.1 (List.concat_eq_append ▸ hafter)
      rw [List.concat_eq_append, ← List.cons_append, ← List.append_assoc] at htext
      obtain ⟨rfl, -⟩ := List.append_inj' htext rfl
      exact .mk hbefore hbetween hlist hblanks
  · rintro @⟨before, between, after, hbefore, hbetween, hlist, hafter⟩
    have hended : Encloses list (before ++ keyword ++ between ++ '\'' :: list ++
        '\'' :: (after ++ ['\n'])) :=
      .mk hbefore hbetween hlist
        (List.forall_mem_append.2 ⟨hafter, List.forall_mem_singleton.2 rfl⟩)
    rwa [← List.cons_append, ← List.append_assoc] at hended

theorem SameOrLonger.quotedList?_eq {longer : List Char} (h : SameOrLonger text longer) :
    quotedList? longer = quotedList? text := by
  refine Option.ext fun list => ?_
  rw [quotedList?_eq_some_iff, quotedList?_eq_some_iff]
  obtain rfl | rfl := h
  · rfl
  · exact encloses_append_newline

/-- **A comment at the end of a line changes nothing**, whatever it says: the list is read into the
same actions, or refused for the same reason. Any line will do, of any text: the last one, empty or
not, one that has a comment already, and one outside the quotes. -/
theorem parseList_comment {before after comment : List Char} (hcomment : '\n' ∉ comment)
    (h : EndsLine before after) :
    parseList (before ++ '#' :: (comment ++ after)) = parseList (before ++ after) := by
  rw [parseList, parseList, (stripComments_insert hcomment h).1.quotedList?_eq]

/-- A comment with a quote and a comma in it, on a line that ends in a carriage return. -/
theorem parseList_comment_quoted :
    '\n' ∉ "b', c".toList ∧ EndsLine "fields: 'a,".toList "\r\n-b'".toList ∧
      parseList ("fields: 'a,".toList ++ '#' :: ("b', c".toList ++ "\r\n-b'".toList)) =
        .ok [⟨.include, .plugin "a"⟩, ⟨.exclude, .plugin "b"⟩] := by
  have hcomment : '\n' ∉ "b', c".toList := by decide
  have hends : EndsLine "fields: 'a,".toList "\r\n-b'".toList := .inr (.inl ⟨_, rfl⟩)
  refine ⟨hcomment, hends, ?_⟩
  rw [parseList_comment hcomment hends]
  with_unfolding_all rfl

end FieldAction

end Flowmeter
