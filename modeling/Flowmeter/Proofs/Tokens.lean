import Flowmeter.Tokens

/-!
# Token sequences, token by token

What `Tokenizer.tokens` gives for a view is decided by the first step on it: a token stands before
the tokens of the rest, a definite end and a stop end the sequence where they are. So what ended
sequences have and a token carries over, all sequences have (`tokens_induct`).

A `WireFormat` says how items are put on the wire and which tokens they are. If the tokenizer cuts
every item off whatever follows it (`Tokenizer.Cuts`), a run of items is read as the tokens of these
items (`tokens_encodeAll`). If each token it cuts is that of an item (`Tokenizer.Spells`), what has
been read of any view is a run of items (`exists_items`).
-/

namespace Flowmeter

variable {τ : Type} {tk : Tokenizer τ} {v rest : View} {t : τ}

namespace Cursor

/-- A pull hands out the token that stands first, and goes on behind it. -/
theorem next_start_of_token (h : tk.step v = .token t rest) :
    (start v).next tk = (some t, start rest) := by
  simp only [next, start, h]

theorem next_start_of_finished (h : tk.step v = .finished rest) :
    (start v).next tk = (none, ⟨rest, .succeeded⟩) := by
  simp only [next, start, h]

theorem next_start_of_stop (h : tk.step v = .stop) :
    (start v).next tk = (none, ⟨v, .failed⟩) := by
  simp only [next, start, h]

variable {c : Cursor}

/-- Draining hands out the token of the first pull, then those of the cursor after it. -/
theorem drain_of_next_some {c' : Cursor} (h : c.next tk = (some t, c')) :
    c.drain tk = (t :: (c'.drain tk).1, (c'.drain tk).2) := by
  rw [drain]
  split
  · next t' ht =>
    rw [h] at ht ⊢
    cases ht
    rfl
  · next ht =>
    rw [h] at ht
    cases ht

theorem drain_of_next_none {c' : Cursor} (h : c.next tk = (none, c')) : c.drain tk = ([], c') := by
  rw [drain]
  split
  · next t' ht =>
    rw [h] at ht
    cases ht
  · rw [h]

end Cursor

namespace Tokenizer

/-- A token stands before the tokens of what it leaves. -/
theorem tokens_of_token (h : tk.step v = .token t rest) :
    tk.tokens v = (t :: (tk.tokens rest).1, (tk.tokens rest).2) :=
  Cursor.drain_of_next_some (Cursor.next_start_of_token h)

theorem tokens_of_finished (h : tk.step v = .finished rest) :
    tk.tokens v = ([], ⟨rest, .succeeded⟩) :=
  Cursor.drain_of_next_none (Cursor.next_start_of_finished h)

/-- A step that stops leaves the view where it was, and the sequence has failed. -/
theorem tokens_of_stop (h : tk.step v = .stop) : tk.tokens v = ([], ⟨v, .failed⟩) :=
  Cursor.drain_of_next_none (Cursor.next_start_of_stop h)

/-- What the two ways to end have, and every token carries over from the rest, all sequences
have. -/
theorem tokens_induct {P : View → List τ × Cursor → Prop}
    (finished : ∀ {v rest}, tk.step v = .finished rest → P v ([], ⟨rest, .succeeded⟩))
    (stop : ∀ {v}, tk.step v = .stop → P v ([], ⟨v, .failed⟩))
    (token : ∀ {v t rest run}, tk.step v = .token t rest → P rest run → P v (t :: run.1, run.2))
    (v : View) : P v (tk.tokens v) := by
  induction hn : v.length using Nat.strongRecOn generalizing v with
  | ind n ih =>
    cases hs : tk.step v with
    | token t rest =>
      have hlt : rest.length < n := by
        rw [← hn]
        exact tk.shortens hs
      rw [tokens_of_token hs]
      exact token hs (ih _ hlt rest rfl)
    | finished rest =>
      rw [tokens_of_finished hs]
      exact finished hs
    | stop =>
      rw [tokens_of_stop hs]
      exact stop hs

/-- What holds of every token that a step cuts off holds of all tokens of a view. -/
theorem forall_mem_tokens (tk : Tokenizer τ) {P : τ → Prop}
    (h : ∀ {v t rest}, tk.step v = .token t rest → P t) (v : View) :
    ∀ t ∈ (tk.tokens v).1, P t := by
  refine tk.tokens_induct (P := fun _ run => ∀ t ∈ run.1, P t) ?_ ?_ ?_ v
  · intro v rest _ t ht
    cases ht
  · intro v _ t ht
    cases ht
  · intro v t rest run hs hrun t' ht'
    rcases List.mem_cons.1 ht' with rfl | ht'
    · exact h hs
    · exact hrun t' ht'

end Tokenizer

/-! ## The same octets at another place -/

/-- Both steps cut off the same token, as far as `f` tells, or both end; what they leave is the
same. -/
inductive Step.Alike {σ : Type} (f : τ → σ) : Step τ → Step τ → Prop
  | token {t t' : τ} {rest rest' : View} (ht : f t = f t') (hrest : rest.bytes = rest'.bytes) :
    Alike f (.token t rest) (.token t' rest')
  | finished {rest rest' : View} (hrest : rest.bytes = rest'.bytes) :
    Alike f (.finished rest) (.finished rest')
  | stop : Alike f .stop .stop

namespace Tokenizer

/-- A tokenizer that looks at octets alone gives the same sequence at every place, as far as `f`
tells. -/
theorem tokens_congr {σ : Type} {f : τ → σ} {v' : View}
    (hstep : ∀ {v v' : View}, v.bytes = v'.bytes → (tk.step v).Alike f (tk.step v'))
    (h : v.bytes = v'.bytes) : (tk.tokens v).1.map f = (tk.tokens v').1.map f ∧
      (tk.tokens v).2.status = (tk.tokens v').2.status := by
  refine tk.tokens_induct (P := fun v run => ∀ v' : View, v.bytes = v'.bytes →
    run.1.map f = (tk.tokens v').1.map f ∧ run.2.status = (tk.tokens v').2.status)
    ?_ ?_ ?_ v v' h
  · intro v rest hs v' h
    have halike := hstep h
    rw [hs] at halike
    generalize hs' : tk.step v' = step at halike
    cases halike
    rw [tokens_of_finished hs']
    exact ⟨rfl, rfl⟩
  · intro v hs v' h
    have halike := hstep h
    rw [hs] at halike
    generalize hs' : tk.step v' = step at halike
    cases halike
    rw [tokens_of_stop hs']
    exact ⟨rfl, rfl⟩
  · intro v t rest run hs ih v' h
    have halike := hstep h
    rw [hs] at halike
    generalize hs' : tk.step v' = step at halike
    cases halike with
    | token ht hrest =>
      obtain ⟨htokens, hstatus⟩ := ih _ hrest
      rw [tokens_of_token hs', List.map_cons, List.map_cons, ht, htokens]
      exact ⟨rfl, hstatus⟩

end Tokenizer

/-! ## Runs of items -/

/-- How an item is put on the wire, and the token that an item at an offset is. -/
structure WireFormat (ω τ : Type) where
  encode : ω → Octets
  token : (offset : Nat) → ω → τ

namespace WireFormat

variable {ω : Type} (format : WireFormat ω τ)

def encodeAll (items : List ω) : Octets :=
  items.flatMap format.encode

/-- The tokens of a run of items whose first one starts at an offset. -/
def tokens : (offset : Nat) → List ω → List τ
  | _, [] => []
  | offset, item :: rest =>
    format.token offset item :: tokens (offset + (format.encode item).length) rest

@[simp] theorem encodeAll_nil : format.encodeAll [] = [] := rfl

@[simp] theorem encodeAll_cons (item : ω) (rest : List ω) :
    format.encodeAll (item :: rest) = format.encode item ++ format.encodeAll rest := rfl

end WireFormat

namespace Tokenizer

variable {ω : Type} {format : WireFormat ω τ}

/-- The tokenizer cuts the item off, whatever stands behind it. -/
def Cuts (tk : Tokenizer τ) (format : WireFormat ω τ) (item : ω) : Prop :=
  ∀ (offset : Nat) (rest : Octets), tk.step ⟨offset, format.encode item ++ rest⟩ =
    .token (format.token offset item) ⟨offset + (format.encode item).length, rest⟩

/-- Every token that the tokenizer cuts is that of an item. -/
def Spells (tk : Tokenizer τ) (format : WireFormat ω τ) : Prop :=
  ∀ {v : View} {t : τ} {rest : View}, tk.step v = .token t rest →
    ∃ item, t = format.token v.offset item ∧ v.bytes = format.encode item ++ rest.bytes ∧
      rest.offset = v.offset + (format.encode item).length

/-- Items that are cut off one by one are read as their tokens, and the sequence goes on with what
follows. -/
theorem tokens_encodeAll {items : List ω} (h : ∀ item ∈ items, tk.Cuts format item)
    (offset : Nat) (rest : Octets) :
    tk.tokens ⟨offset, format.encodeAll items ++ rest⟩ =
      (format.tokens offset items ++
          (tk.tokens ⟨offset + (format.encodeAll items).length, rest⟩).1,
        (tk.tokens ⟨offset + (format.encodeAll items).length, rest⟩).2) := by
  induction items generalizing offset with
  | nil => rfl
  | cons item items ih =>
    have hcut := h item List.mem_cons_self offset (format.encodeAll items ++ rest)
    have hrest := ih (fun i hi => h i (List.mem_cons_of_mem _ hi))
      (offset + (format.encode item).length)
    rw [WireFormat.encodeAll_cons, List.append_assoc, tokens_of_token hcut, hrest,
      List.length_append, Nat.add_assoc]
    rfl

/-- A sequence does not stop before an item. -/
theorem not_prefix_of_stop {item : ω} {v : View} (hcut : tk.Cuts format item)
    (hs : tk.step v = .stop) : ¬ format.encode item <+: v.bytes := by
  rintro ⟨rest, hrest⟩
  have hv : (⟨v.offset, format.encode item ++ rest⟩ : View) = v := by rw [hrest]
  have htoken := hcut v.offset rest
  rw [hv, hs] at htoken
  cases htoken

/-- What has been read of a view, up to where the sequence ends, is a run of items. -/
theorem exists_items (hspells : tk.Spells format) (v : View) :
    ∃ (items : List ω) (last : View), (tk.tokens v).1 = format.tokens v.offset items ∧
      v.bytes = format.encodeAll items ++ last.bytes ∧
      last.offset = v.offset + (format.encodeAll items).length ∧
      (tk.step last = .stop ∧ (tk.tokens v).2 = ⟨last, .failed⟩ ∨
        ∃ rest, tk.step last = .finished rest ∧ (tk.tokens v).2 = ⟨rest, .succeeded⟩) := by
  refine tk.tokens_induct (P := fun v run => ∃ (items : List ω) (last : View),
    run.1 = format.tokens v.offset items ∧ v.bytes = format.encodeAll items ++ last.bytes ∧
    last.offset = v.offset + (format.encodeAll items).length ∧
    (tk.step last = .stop ∧ run.2 = ⟨last, .failed⟩ ∨
      ∃ rest, tk.step last = .finished rest ∧ run.2 = ⟨rest, .succeeded⟩)) ?_ ?_ ?_ v
  · intro v rest hs
    exact ⟨[], v, rfl, rfl, rfl, .inr ⟨rest, hs, rfl⟩⟩
  · intro v hs
    exact ⟨[], v, rfl, rfl, rfl, .inl ⟨hs, rfl⟩⟩
  · rintro v t rest run hs ⟨items, last, hrun, hbytes, hoffset, hend⟩
    obtain ⟨item, ht, hv, hrest⟩ := hspells hs
    refine ⟨item :: items, last, ?_, ?_, ?_, hend⟩
    · rw [ht, hrun, hrest]
      rfl
    · rw [hv, hbytes, WireFormat.encodeAll_cons, List.append_assoc]
    · rw [hoffset, hrest, WireFormat.encodeAll_cons, List.length_append, Nat.add_assoc]

end Tokenizer

end Flowmeter
