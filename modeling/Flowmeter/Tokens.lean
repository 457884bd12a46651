import Flowmeter.Octets.View

/-!
# Lazy token sequences

A `Tokenizer` says how the next token is cut off a view; a `Cursor` is how far a view has been
tokenized. `Cursor.next` pulls one token, `Cursor.drain` pulls all that are left. A sequence ends
either at a definite end (`Status.succeeded`) or because the octets ran out or are malformed
(`Status.failed`); an ended sequence stays ended.

Each token takes at least one octet (`Tokenizer.shortens`), so a sequence is finite.
-/

namespace Flowmeter

/-- One step of a tokenizer. -/
inductive Step (τ : Type) where
  /-- A token, and the view after it. -/
  | token (t : τ) (rest : View)
  /-- The definite end, and the view after it. -/
  | finished (rest : View)
  /-- Out of octets, or malformed. -/
  | stop
  deriving DecidableEq, Repr

/-- How the next token is cut off a view. -/
structure Tokenizer (τ : Type) where
  step : View → Step τ
  shortens : ∀ {v : View} {t : τ} {rest : View},
    step v = .token t rest → rest.length < v.length

/-- Whether a token sequence goes on, and how it ended. -/
inductive Status where
  | running
  | succeeded
  | failed
  deriving DecidableEq, Repr

/-- How far a view has been tokenized. -/
structure Cursor where
  remaining : View
  status : Status
  deriving DecidableEq, Repr

namespace Cursor

variable {τ : Type}

/-- Before the first token of a view. -/
def start (v : View) : Cursor :=
  ⟨v, .running⟩

def isDone (c : Cursor) : Bool :=
  c.status != .running

def hasSucceeded (c : Cursor) : Bool :=
  c.status == .succeeded

def next (tk : Tokenizer τ) (c : Cursor) : Option τ × Cursor :=
  match c.status with
  | .running =>
    match tk.step c.remaining with
    | .token t rest => (some t, { c with remaining := rest })
    | .finished rest => (none, ⟨rest, .succeeded⟩)
    | .stop => (none, { c with status := .failed })
  | _ => (none, c)

theorem length_next_lt {tk : Tokenizer τ} {c : Cursor} {t : τ} (h : (c.next tk).1 = some t) :
    (c.next tk).2.remaining.length < c.remaining.length := by
  simp only [next] at h ⊢
  repeat' split at h
  all_goals simp_all
  exact tk.shortens ‹_›

/-- Pulls all tokens that are left. -/
def drain (tk : Tokenizer τ) (c : Cursor) : List τ × Cursor :=
  match _h : (c.next tk).1 with
  | some t =>
    let (tokens, last) := (c.next tk).2.drain tk
    (t :: tokens, last)
  | none => ([], (c.next tk).2)
termination_by c.remaining.length
decreasing_by exact length_next_lt ‹_›

end Cursor

/-- All tokens of a view, and where and how they ended. -/
def Tokenizer.tokens {τ : Type} (tk : Tokenizer τ) (v : View) : List τ × Cursor :=
  (Cursor.start v).drain tk

end Flowmeter
