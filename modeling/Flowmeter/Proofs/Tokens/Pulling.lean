import Flowmeter.Proofs.Decoder
import Flowmeter.Proofs.HeaderBlock
import Flowmeter.Proofs.Mqtt.Segmentation
import Flowmeter.Proofs.Quic.LongHeader

/-!
# Pulling tokens one by one

What a cursor is after any number of pulls (`Cursor.pulled`). A pull either takes a token off the
view, ends the sequence, or finds it ended (`Cursor.next_cases`); all that follows rests on these
cases. The pulls from a cursor answer with the tokens that draining it gives, one after the other,
and then with none (`Cursor.next_pulled_eq_getElem?`).

A tokenizer that only moves forward (`Tokenizer.IsForward`) leaves a tail of the payload after any
number of pulls. Those of header fields, control packets and long headers do.
-/

namespace Flowmeter

variable {τ : Type} {tk : Tokenizer τ}

/-- What the steps of the tokenizer leave is a tail of what they were given. -/
structure Tokenizer.IsForward (tk : Tokenizer τ) : Prop where
  token : ∀ {v rest : View} {t : τ}, tk.step v = .token t rest → rest.IsTailOf v
  finished : ∀ {v rest : View}, tk.step v = .finished rest → rest.IsTailOf v

namespace Cursor

variable {c : Cursor}

/-! ## One pull -/

theorem isDone_eq_false_iff : c.isDone = false ↔ c = start c.remaining := by
  obtain ⟨remaining, status⟩ := c
  cases status <;> simp [isDone, start]

theorem next_of_isDone (tk : Tokenizer τ) (h : c.isDone = true) : c.next tk = (none, c) := by
  obtain ⟨remaining, status⟩ := c
  cases status with
  | running => cases h
  | succeeded | failed => rfl

/-- All that a pull can do. -/
theorem next_cases (tk : Tokenizer τ) (c : Cursor) {P : Option τ × Cursor → Prop}
    (ended : c.isDone = true → P (none, c))
    (token : ∀ {t rest}, c.isDone = false → tk.step c.remaining = .token t rest →
      P (some t, start rest))
    (finished : ∀ {rest}, c.isDone = false → tk.step c.remaining = .finished rest →
      P (none, ⟨rest, .succeeded⟩))
    (stop : c.isDone = false → tk.step c.remaining = .stop → P (none, ⟨c.remaining, .failed⟩)) :
    P (c.next tk) := by
  cases hdone : c.isDone with
  | true =>
    rw [next_of_isDone tk hdone]
    exact ended hdone
  | false =>
    rw [isDone_eq_false_iff.1 hdone]
    cases hs : tk.step c.remaining with
    | token t rest =>
      rw [next_start_of_token hs]
      exact token hdone hs
    | finished rest =>
      rw [next_start_of_finished hs]
      exact finished hdone hs
    | stop =>
      rw [next_start_of_stop hs]
      exact stop hdone hs

theorem isDone_of_next_eq_none : (c.next tk).1 = none → (c.next tk).2.isDone = true :=
  c.next_cases tk (P := fun answer => answer.1 = none → answer.2.isDone = true)
    (fun hdone _ => hdone) (fun _ _ hnone => nomatch hnone) (fun _ _ _ => rfl) (fun _ _ _ => rfl)

theorem remaining_next_isTailOf (htk : tk.IsForward) :
    (c.next tk).2.remaining.IsTailOf c.remaining :=
  c.next_cases tk (P := fun answer => answer.2.remaining.IsTailOf c.remaining)
    (fun _ => c.remaining.isTailOf_refl) (fun _ hs => htk.token hs) (fun _ hs => htk.finished hs)
    (fun _ _ => c.remaining.isTailOf_refl)

@[simp] theorem hasSucceeded_start (v : View) : (start v).hasSucceeded = false := rfl

theorem hasSucceeded_of_isDone_eq_false (h : c.isDone = false) : c.hasSucceeded = false := by
  rw [isDone_eq_false_iff.1 h]
  rfl

/-- A sequence has succeeded if it had before the pull, or if the pull came upon its end. -/
theorem hasSucceeded_next_iff : (c.next tk).2.hasSucceeded = true ↔
    c.hasSucceeded = true ∨ c.isDone = false ∧ ∃ rest, tk.step c.remaining = .finished rest := by
  refine c.next_cases tk (P := fun answer => answer.2.hasSucceeded = true ↔ c.hasSucceeded = true ∨
    c.isDone = false ∧ ∃ rest, tk.step c.remaining = .finished rest) ?ended ?token ?finished ?stop
  case ended =>
    intro hdone
    simp [hdone]
  case token =>
    intro t rest hrunning hs
    simp [hrunning, hs, hasSucceeded_of_isDone_eq_false hrunning]
  case finished =>
    intro rest hrunning hs
    simp [hrunning, hs, hasSucceeded]
  case stop =>
    intro hrunning hs
    have hfailed : (⟨c.remaining, .failed⟩ : Cursor).hasSucceeded = false := rfl
    simp [hrunning, hs, hfailed, hasSucceeded_of_isDone_eq_false hrunning]

/-! ## Any number of pulls -/

/-- The cursor after a number of pulls. -/
def pulled (tk : Tokenizer τ) (c : Cursor) : Nat → Cursor
  | 0 => c
  | n + 1 => ((c.pulled tk n).next tk).2

@[simp] theorem pulled_zero : c.pulled tk 0 = c := rfl

theorem pulled_succ (n : Nat) : c.pulled tk (n + 1) = ((c.pulled tk n).next tk).2 := rfl

theorem pulled_add (m n : Nat) : c.pulled tk (m + n) = (c.pulled tk m).pulled tk n := by
  induction n with
  | zero => rfl
  | succ n ih => rw [← Nat.add_assoc, pulled_succ, pulled_succ, ih]

theorem pulled_succ' (n : Nat) : c.pulled tk (n + 1) = (c.next tk).2.pulled tk n := by
  rw [Nat.add_comm, pulled_add]
  rfl

theorem pulled_of_isDone (h : c.isDone = true) (n : Nat) : c.pulled tk n = c := by
  induction n with
  | zero => rfl
  | succ n ih => rw [pulled_succ, ih, next_of_isDone tk h]

/-- After a pull without a token nothing changes any more. -/
theorem pulled_of_next_eq_none (h : (c.next tk).1 = none) {n : Nat} (hn : 0 < n) :
    c.pulled tk n = (c.next tk).2 := by
  obtain ⟨n, rfl⟩ := Nat.exists_eq_succ_of_ne_zero (Nat.ne_of_gt hn)
  rw [pulled_succ', pulled_of_isDone (isDone_of_next_eq_none h)]

theorem remaining_pulled_isTailOf (htk : tk.IsForward) (n : Nat) :
    (c.pulled tk n).remaining.IsTailOf c.remaining := by
  induction n with
  | zero => exact c.remaining.isTailOf_refl
  | succ n ih => exact (remaining_next_isTailOf htk).trans ih

theorem hasSucceeded_pulled_iff (tk : Tokenizer τ) (c : Cursor) (n : Nat) :
    (c.pulled tk n).hasSucceeded = true ↔
      c.hasSucceeded = true ∨ ∃ m < n, (c.pulled tk m).isDone = false ∧
        ∃ rest, tk.step (c.pulled tk m).remaining = .finished rest := by
  induction n with
  | zero => simp
  | succ n ih => rw [pulled_succ, hasSucceeded_next_iff, ih, Nat.exists_lt_succ_right, or_assoc]

/-! ## Pulling all that is left -/

theorem drain_induct {P : Cursor → List τ × Cursor → Prop}
    (none : ∀ {c c'}, c.next tk = (none, c') → P c ([], c'))
    (some : ∀ {c t c' run}, c.next tk = (some t, c') → P c' run → P c (t :: run.1, run.2))
    (c : Cursor) : P c (c.drain tk) := by
  induction hn : c.remaining.length using Nat.strongRecOn generalizing c with
  | ind n ih =>
    cases hnext : c.next tk with
    | mk answer c' =>
      cases answer with
      | none =>
        rw [drain_of_next_none hnext]
        exact none hnext
      | some t =>
        have hlt := length_next_lt (congrArg Prod.fst hnext)
        rw [hnext, hn] at hlt
        rw [drain_of_next_some hnext]
        exact some hnext (ih _ hlt c' rfl)

/-- The pulls from a cursor answer with its tokens in order, and then with none. -/
theorem next_pulled_eq_getElem? (tk : Tokenizer τ) (c : Cursor) :
    ∀ i, ((c.pulled tk i).next tk).1 = (c.drain tk).1[i]? := by
  refine drain_induct (P := fun c run => ∀ i, ((c.pulled tk i).next tk).1 = run.1[i]?) ?_ ?_ c
  · intro c c' hnext i
    have hnone : (c.next tk).1 = none := congrArg Prod.fst hnext
    cases i with
    | zero => exact hnone
    | succ i =>
      rw [pulled_of_next_eq_none hnone (Nat.succ_pos i), List.getElem?_nil,
        next_of_isDone tk (isDone_of_next_eq_none hnone)]
  · intro c t c' run hnext ih i
    cases i with
    | zero => exact congrArg Prod.fst hnext
    | succ i =>
      rw [pulled_succ', hnext, List.getElem?_cons_succ]
      exact ih i

/-- Each token takes an octet at least. -/
theorem length_drain_le (tk : Tokenizer τ) (c : Cursor) :
    (c.drain tk).1.length ≤ c.remaining.length := by
  refine drain_induct (P := fun c run => run.1.length ≤ c.remaining.length) ?_ ?_ c
  · intro c c' _
    exact Nat.zero_le _
  · intro c t c' run hnext ih
    have hlt := length_next_lt (congrArg Prod.fst hnext)
    rw [hnext] at hlt
    exact Nat.lt_of_le_of_lt ih hlt

/-- Draining ends where the first pull without a token does. -/
theorem snd_drain (tk : Tokenizer τ) (c : Cursor) :
    (c.drain tk).2 = c.pulled tk ((c.drain tk).1.length + 1) := by
  refine drain_induct (P := fun c run => run.2 = c.pulled tk (run.1.length + 1)) ?_ ?_ c
  · intro c c' hnext
    exact (congrArg Prod.snd hnext).symm
  · intro c t c' run hnext ih
    rw [List.length_cons, pulled_succ', hnext]
    exact ih

theorem next_pulled_eq_none {n : Nat} (h : c.remaining.length ≤ n) :
    ((c.pulled tk n).next tk).1 = none := by
  rw [next_pulled_eq_getElem?, List.getElem?_eq_none_iff]
  exact Nat.le_trans (length_drain_le tk c) h

end Cursor

/-! ## The tokenizers of payloads -/

/-- A token that spells an item is cut off the front. -/
theorem Tokenizer.Spells.isTailOf {ω : Type} {format : WireFormat ω τ} {v rest : View} {t : τ}
    (h : tk.Spells format) (hs : tk.step v = .token t rest) : rest.IsTailOf v := by
  obtain ⟨item, -, hbytes, hoffset⟩ := h hs
  exact ⟨format.encode item, hbytes, hoffset⟩

theorem HeaderField.isForward_tokenizer : HeaderField.tokenizer.IsForward where
  token := spells_line.isTailOf
  finished hs := ⟨lineEnd, finished_step_iff.1 hs⟩

theorem Mqtt.ControlPacket.isForward_tokenizer : Mqtt.ControlPacket.tokenizer.IsForward where
  token := spells_wirePacket.isTailOf
  finished {v _} hs := (finished_step_iff.1 hs).2 ▸ v.isTailOf_refl

namespace Quic

namespace LongHeader

/-- No body is longer than the octets that are there for it. -/
theorem bodyLength_le (h : LongHeader) (available : Nat) : h.bodyLength available ≤ available := by
  unfold bodyLength
  split
  · exact Nat.min_le_right _ _
  · exact Nat.le_refl _

theorem isForward_tokenizer : tokenizer.IsForward where
  token := by
    intro v rest h hs
    change step v = _ at hs
    unfold step at hs
    split at hs
    · cases hs
    · split at hs
      · next header after hd =>
        cases hs
        exact (View.isTailOf_drop (bodyLength_le _ _)).trans (local_decoder.isTailOf hd)
      · cases hs
  finished := by
    intro v rest hs
    change step v = _ at hs
    unfold step at hs
    split at hs
    · cases hs
      exact v.isTailOf_refl
    · split at hs <;> cases hs

end LongHeader

end Quic

/-- What payloads are cut into. -/
inductive TokenKind where
  | headerField
  | controlPacket
  | longHeader

namespace TokenKind

abbrev Token : TokenKind → Type
  | headerField => HeaderField
  | controlPacket => Mqtt.ControlPacket
  | longHeader => Quic.LongHeader

def tokenizer : (kind : TokenKind) → Tokenizer kind.Token
  | headerField => HeaderField.tokenizer
  | controlPacket => Mqtt.ControlPacket.tokenizer
  | longHeader => Quic.LongHeader.tokenizer

theorem isForward_tokenizer (kind : TokenKind) : kind.tokenizer.IsForward := by
  cases kind with
  | headerField => exact HeaderField.isForward_tokenizer
  | controlPacket => exact Mqtt.ControlPacket.isForward_tokenizer
  | longHeader => exact Quic.LongHeader.isForward_tokenizer

/-- **Pulls only move forward, end, and then stand still.** After any number of pulls from a payload
what remains is a tail of it at its own place. A token shortens what remains, so that no more tokens
come than the payload has octets. The sequence has succeeded exactly if a pull before the end came
upon the definite end of the tokens. After a pull without a token every other one finds the same
cursor and gives none. Draining gives the tokens that the pulls from here on would, and stops where
the first one without a token does. -/
theorem pulls_forward_and_fused (kind : TokenKind) (payload : View) (n : Nat) :
    let tk := kind.tokenizer
    let cursor := (Cursor.start payload).pulled tk
    (∃ taken, payload.bytes = taken ++ (cursor n).remaining.bytes ∧
      (cursor n).remaining.offset = payload.offset + taken.length) ∧
    (∀ t, ((cursor n).next tk).1 = some t →
      ((cursor n).next tk).2.remaining.length < (cursor n).remaining.length) ∧
    (payload.length ≤ n → ((cursor n).next tk).1 = none) ∧
    ((cursor n).hasSucceeded = true ↔ ∃ m < n, (cursor m).isDone = false ∧
      ∃ rest, tk.step (cursor m).remaining = .finished rest) ∧
    (((cursor n).next tk).1 = none → ∀ m, n < m →
      (cursor m).next tk = (none, ((cursor n).next tk).2)) ∧
    (∀ i, ((cursor n).drain tk).1[i]? = ((cursor (n + i)).next tk).1) ∧
    ((cursor n).drain tk).2 = cursor (n + ((cursor n).drain tk).1.length + 1) := by
  intro tk cursor
  have hadd (i : Nat) : cursor (n + i) = (cursor n).pulled tk i := Cursor.pulled_add n i
  have hend : (Cursor.start payload).remaining.length ≤ n → ((cursor n).next tk).1 = none :=
    Cursor.next_pulled_eq_none
  have hsucceeded := Cursor.hasSucceeded_pulled_iff tk (Cursor.start payload) n
  rw [Cursor.hasSucceeded_start, Bool.false_eq_true, false_or] at hsucceeded
  refine ⟨?_, fun _ => Cursor.length_next_lt, hend, hsucceeded, ?_, ?_, ?_⟩
  · exact Cursor.remaining_pulled_isTailOf (c := Cursor.start payload) kind.isForward_tokenizer n
  · intro hnone m hm
    obtain ⟨i, rfl⟩ := Nat.exists_eq_add_of_lt hm
    rw [Nat.add_assoc, hadd, Cursor.pulled_of_next_eq_none hnone (Nat.succ_pos i),
      Cursor.next_of_isDone tk (Cursor.isDone_of_next_eq_none hnone)]
  · intro i
    rw [hadd, Cursor.next_pulled_eq_getElem?]
  · rw [Nat.add_assoc, hadd, Cursor.snd_drain]

end TokenKind

end Flowmeter
