import Flowmeter.Tokens

/-!
# Header blocks

A header block is a run of lines `name: value`, each ended by a carriage return and a line feed,
and closed by an empty line. `HeaderField.tokenizer` cuts one line at a time. A line without a
colon, or with nothing before it, is malformed and ends the sequence.
-/

namespace Flowmeter

/-- One header line, without its colon and its end. -/
structure HeaderField where
  name : View
  value : View
  deriving DecidableEq, Repr

namespace HeaderField

def lineEnd : Octets := [0x0D, 0x0A]

def colon : Octets := [0x3A]

/-- Splits a line at its first colon. The octet after the colon, a space as a rule, belongs to
neither side. -/
def ofLine? (line : View) : Option HeaderField :=
  match line.find? colon with
  | none | some 0 => none
  | some n => some ⟨line.take n, line.drop (min (n + 2) line.length)⟩

/-- Cuts the next line: a field, the empty line that closes the block, or neither. -/
def step (v : View) : Step HeaderField :=
  match v.find? lineEnd with
  | none => .stop
  | some 0 => .finished (v.drop lineEnd.length)
  | some n =>
    match ofLine? (v.take n) with
    | none => .stop
    | some field => .token field (v.drop (n + lineEnd.length))

theorem step_shortens {v : View} {field : HeaderField} {rest : View}
    (h : step v = .token field rest) : rest.length < v.length := by
  simp only [step] at h
  repeat' split at h
  all_goals cases h
  rename_i n _ hf _ _
  have := Octets.indexOf?_lt_length (by simp [lineEnd]) hf
  simp only [View.length_drop, lineEnd, List.length_cons]
  simp only [View.length]
  omega

def tokenizer : Tokenizer HeaderField :=
  ⟨step, step_shortens⟩

/-- A line on the wire, with a space after its colon. -/
def encode (name value : Octets) : Octets :=
  name ++ colon ++ [0x20] ++ value ++ lineEnd

/-- A header block on the wire, with the empty line that closes it. -/
def encodeBlock (fields : List (Octets × Octets)) : Octets :=
  fields.flatMap (fun field => encode field.1 field.2) ++ lineEnd

/-- Whether the field has the given name, up to the case of ASCII letters. -/
def isNamed (field : HeaderField) (name : String) : Bool :=
  Octets.sameFolded field.name.bytes (Octets.ofText name)

end HeaderField

end Flowmeter
