import Flowmeter.Http.Transaction
import Flowmeter.Proofs.Octets.Boundary
import Flowmeter.Proofs.Octets.Lenient

/-!
# Text values

`shorten` keeps the longest beginning of a value that there is room for (`shorten_longest`). It ends
where a search back from the last octet that there is room for finds a boundary of characters. So
whatever messages a transaction takes in, the texts that it records are well formed and stay within
their capacities.
-/

namespace Flowmeter.Http

/-- A recorded text takes no more octets than there is room for, and these are well formed. -/
def IsWithin (capacity : Nat) (recorded : Option String) : Prop :=
  ∀ text ∈ recorded, text.utf8ByteSize ≤ capacity ∧
    Utf8.decode? (Octets.ofText text) = some text.toList

theorem isWithin_none (capacity : Nat) : IsWithin capacity none :=
  nofun

/-- Going back from where the room ends keeps the longest beginning that fits. -/
theorem shorten_eq (capacity : Nat) (value : View) :
    shorten capacity value =
      String.ofList (Utf8.clip capacity (Utf8.decodeLossy value.bytes)) := by
  rw [shorten, Utf8.ofText_ofList, Utf8.cutBack?_encode, Option.getD_some]

theorem toList_shorten (capacity : Nat) (value : View) :
    (shorten capacity value).toList = Utf8.clip capacity (Utf8.decodeLossy value.bytes) := by
  rw [shorten_eq, String.toList_ofList]

theorem utf8ByteSize_shorten (capacity : Nat) (value : View) :
    (shorten capacity value).utf8ByteSize =
      Utf8.size (Utf8.clip capacity (Utf8.decodeLossy value.bytes)) := by
  rw [shorten_eq, Utf8.utf8ByteSize_ofList]

/-- A shortened value is within its capacity, and text. -/
theorem isWithin_shorten (capacity : Nat) (value : View) :
    IsWithin capacity (some (shorten capacity value)) := by
  intro text htext
  obtain ⟨-, -, hsize, -⟩ := Utf8.exists_clip capacity (Utf8.decodeLossy value.bytes)
  rw [← Option.some_inj.1 htext, utf8ByteSize_shorten]
  exact ⟨hsize, Utf8.decode?_ofText _⟩

namespace Transaction

/-- The recorded texts stay within their capacities. -/
structure WithinCapacities (t : Transaction) : Prop where
  method : IsWithin capacities.method t.method
  host : IsWithin capacities.host t.host
  target : IsWithin capacities.target t.target
  userAgent : IsWithin capacities.userAgent t.userAgent
  referer : IsWithin capacities.referer t.referer
  contentType : IsWithin capacities.contentType t.contentType
  server : IsWithin capacities.server t.server

variable {t : Transaction}

theorem withinCapacities_empty : ({} : Transaction).WithinCapacities := by
  constructor <;> exact isWithin_none _

/-- A field of a request writes shortened values only. -/
theorem WithinCapacities.observeRequestField (h : t.WithinCapacities) (field : HeaderField) :
    (t.observeRequestField field).WithinCapacities := by
  unfold Transaction.observeRequestField
  repeat' split
  · exact { h with host := isWithin_shorten _ _ }
  · exact { h with userAgent := isWithin_shorten _ _ }
  · exact { h with referer := isWithin_shorten _ _ }
  · exact h

/-- So does a field of a response. Cookie names have a capacity of their own and are not among these
texts. -/
theorem WithinCapacities.observeResponseField (h : t.WithinCapacities) (field : HeaderField) :
    (t.observeResponseField field).WithinCapacities := by
  unfold Transaction.observeResponseField
  repeat' split
  · exact { h with contentType := isWithin_shorten _ _ }
  · exact { h with server := isWithin_shorten _ _ }
  · exact { h with }
  · exact h

/-- A message keeps every text within its capacity. -/
theorem WithinCapacities.observe (h : t.WithinCapacities) (m : Message) :
    (t.observe m).WithinCapacities := by
  unfold Transaction.observe
  split
  · next line _ =>
    have hstarted : { t with
        method := some (shorten capacities.method line.method)
        target := some (shorten capacities.target line.target) : Transaction
      }.WithinCapacities :=
      { h with method := isWithin_shorten _ _, target := isWithin_shorten _ _ }
    have hfields := List.foldlRecOn (HeaderField.tokenizer.tokens m.headers).1
      Transaction.observeRequestField hstarted fun _ h field _ => h.observeRequestField field
    exact { hfields with }
  · next status _ =>
    have hstarted : { t with status := some status : Transaction }.WithinCapacities := { h with }
    have hfields := List.foldlRecOn (HeaderField.tokenizer.tokens m.headers).1
      Transaction.observeResponseField hstarted fun _ h field _ => h.observeResponseField field
    exact { hfields with }

end Transaction

/-- **Values are cut to the longest beginning that there is room for.** A value has one lenient
reading. What is recorded of it is a beginning of that which takes no more octets than the capacity;
it is all of the reading, or the next character would be too much. It ends at a boundary of
characters, which a search back from the last octet that there is room for finds. So in every
transaction that messages make, each text is well formed and within its capacity. -/
theorem shorten_longest :
    (∀ (capacity : Nat) (value : View),
      let text := Utf8.decodeLossy value.bytes
      let octets := Octets.ofText (String.ofList text)
      let recorded := shorten capacity value
      (∀ read, Utf8.ReadsLeniently value.bytes read ↔ text = read) ∧
      (∃ rest, text = recorded.toList ++ rest ∧
        ∀ c ∈ rest.head?, capacity < recorded.utf8ByteSize + c.utf8Size) ∧
      recorded.utf8ByteSize ≤ capacity ∧
      Octets.ofText recorded = octets.take recorded.utf8ByteSize ∧
      Utf8.isBoundary octets recorded.utf8ByteSize = true ∧
      Utf8.boundaryFrom? octets (min octets.length capacity) = some recorded.utf8ByteSize) ∧
    ∀ messages : List Message,
      (messages.foldl Transaction.observe {}).WithinCapacities := by
  refine ⟨fun capacity value => ?_, fun messages => ?_⟩
  · intro text octets recorded
    obtain ⟨rest, htext, hsize, hrest⟩ := Utf8.exists_clip capacity text
    have hsearch := Utf8.boundaryFrom?_encode capacity text
    have hoctets : octets = Utf8.encode text := Utf8.ofText_ofList text
    have hrecorded : recorded.utf8ByteSize = Utf8.size (Utf8.clip capacity text) :=
      utf8ByteSize_shorten capacity value
    rw [hoctets, hrecorded]
    have hboundary := (Utf8.boundaryFrom?_eq_some_iff.1 hsearch).2.1
    refine ⟨fun _ => Utf8.readsLeniently_iff, ⟨rest, ?_, hrest⟩, hsize, ?_, hboundary, hsearch⟩
    · rw [toList_shorten]
      exact htext
    · rw [Utf8.take_size_clip_encode, ← Utf8.ofText_ofList, ← shorten_eq]
  · exact List.foldlRecOn messages _ Transaction.withinCapacities_empty fun _ h m _ => h.observe m

/-- Room for one of the two octets of a character, and a method with one octet too many. -/
theorem shorten_longest_accented :
    let value := View.ofBytes [0x61, 0xC3, 0xB1, 0x62]
    let method := View.ofBytes (Octets.ofText "SUBSCRIBERS")
    let request : Message := ⟨.request ⟨method, value⟩, .ofBytes []⟩
    (shorten 2 value = "a" ∧ 2 < "a".utf8ByteSize + 'ñ'.utf8Size ∧
      Utf8.boundaryFrom? [0x61, 0xC3, 0xB1, 0x62] 2 = some 1) ∧
    ([request].foldl Transaction.observe {}).method = some "SUBSCRIBER" ∧
      "SUBSCRIBER".utf8ByteSize ≤ capacities.method := by
  intro value method request
  have htext : Utf8.decodeLossy value.bytes = ['a', 'ñ', 'b'] := by decide +kernel
  have hshort : shorten 2 value = "a" := by decide +kernel
  have hmethod : ([request].foldl Transaction.observe {}).method = some "SUBSCRIBER" := by
    decide +kernel
  obtain ⟨-, ⟨rest, hrest, hlong⟩, -, -, -, hsearch⟩ := shorten_longest.1 2 value
  have hoctets : Octets.ofText (String.ofList ['a', 'ñ', 'b']) = [0x61, 0xC3, 0xB1, 0x62] := by
    decide +kernel
  rw [htext, hshort] at hrest hsearch
  rw [hoctets] at hsearch
  have hhead : 'ñ' ∈ rest.head? := by
    have hcons : ['a'] ++ ['ñ', 'b'] = ['a'] ++ rest := hrest
    rw [← List.append_cancel_left hcons]
    rfl
  rw [hshort] at hlong
  exact ⟨⟨hshort, hlong 'ñ' hhead, hsearch⟩, hmethod,
    ((shorten_longest.2 [request]).method _ hmethod).1⟩

end Flowmeter.Http
