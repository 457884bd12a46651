import Flowmeter.Settings.File.Fault

/-!
# Settings files

`read` is the dictionary that a settings file holds, with its texts folded and its envelopes opened,
unless the file has a fault or holds something else.
-/

namespace Flowmeter.Settings.File

def failWith {α : Type} (fault : Fault) : Reading α :=
  fail (.other fault.message)

/-- Reads the dictionary that a file with a tree holds. Anything else at the root is refused as soon
as its start is taken in. -/
def read : Value → Reading Entries
  | .dict entries =>
    match fault? (.dict entries) with
    | some fault => failWith fault
    | none => .ok (openedEntries (foldedEntries entries))
  | v =>
    match (notationFault? v).filter (·.taken = 0) with
    | some found => failWith found.fault
    | none => fail (.other s!"invalid type: {(folded v).describe .file}, expected a map")

end Flowmeter.Settings.File
