/-!
# Terminated lists of texts

A list of texts written one after the other, a separator after each (`terminate`). Texts without the
separator come back when the list is split at it; behind the last separator stands the empty text
(`split_terminate`). So a written list stands for one list of texts only.
-/

namespace Flowmeter.Text

/-- The texts one after the other, a separator after each. -/
def terminate (separator : Char) (texts : List String) : String :=
  String.ofList (texts.flatMap fun text => text.toList ++ [separator])

variable {separator : Char}

theorem toList_terminate (texts : List String) :
    (terminate separator texts).toList = texts.flatMap fun text => text.toList ++ [separator] :=
  String.toList_ofList

@[simp] theorem terminate_nil : terminate separator [] = "" :=
  rfl

theorem terminate_cons (text : String) (texts : List String) :
    terminate separator (text :: texts) = text.push separator ++ terminate separator texts := by
  apply String.toList_injective
  simp only [toList_terminate, String.toList_push, String.toList_append, List.flatMap_cons]

/-- One more text at the end brings its own separator. -/
theorem terminate_append (texts : List String) (text : String) :
    terminate separator (texts ++ [text]) = (terminate separator texts ++ text).push separator := by
  apply String.toList_injective
  simp only [toList_terminate, String.toList_push, String.toList_append, List.flatMap_append,
    List.flatMap_singleton, List.append_assoc]

/-- On characters: splitting at the separator undoes the writing. -/
theorem splitOn_terminate {texts : List String} (h : ∀ text ∈ texts, separator ∉ text.toList) :
    (terminate separator texts).toList.splitOn separator = texts.map String.toList ++ [[]] := by
  rw [toList_terminate]
  induction texts with
  | nil => rfl
  | cons text rest ih =>
    obtain ⟨htext, hrest⟩ := List.forall_mem_cons.1 h
    rw [List.flatMap_cons, List.append_assoc, List.singleton_append,
      List.splitOn_append_cons_self_of_not_mem htext, ih hrest]
    rfl

/-- Splitting at the separator gives the texts back. -/
theorem split_terminate {texts : List String} (h : ∀ text ∈ texts, separator ∉ text.toList) :
    ((terminate separator texts).split separator).toList.map (·.copy) = texts ++ [""] := by
  rw [String.toList_split_char, splitOn_terminate h, List.map_append, List.map_map]
  simp

end Flowmeter.Text
