import ScriptDesk.Service.Response
import ScriptDesk.Script.Identity
import ScriptDesk.Table

/-!
# Tracked files

For each script the files that the code service reported are tracked by name: the last known buffer
and how often it was modified. The names of one script mean nothing for another. A modification
whose changes cannot be applied changes nothing; a renaming moves what is known to the new name and
gives back what it displaced there.
-/

namespace ScriptDesk

/-- What is known of a file. -/
structure TrackedFile where
  /-- The last known buffer; none before the first modification. -/
  buffer : Option Text := none
  /-- How many modifications there were, as a counter of 64 bits tells up to `2^64 - 1`. -/
  revision : Nat := 0
  deriving DecidableEq, Repr, Inhabited

/-- The tracked files of all scripts. -/
structure Files where
  /-- The files of each script by name. -/
  scripts : Table ScriptId (Table Text TrackedFile) := .empty
  deriving Inhabited

namespace Files

/-- The files of a script by name. -/
def ofScript (files : Files) (script : ScriptId) : Table Text TrackedFile :=
  (files.scripts.get? script).getD .empty

/-- What is known of a file of a script. -/
def get? (files : Files) (script : ScriptId) (name : Text) : Option TrackedFile :=
  (files.ofScript script).get? name

/-- The names of a script's files in order. -/
def names (files : Files) (script : ScriptId) : List Text :=
  (files.ofScript script).keys.mergeSort Text.before

/-- The files with those of one script replaced. -/
def setScript (files : Files) (script : ScriptId) (known : Table Text TrackedFile) : Files :=
  ⟨files.scripts.set script known⟩

/-- The files of one script after a response about them, and what a renaming displaced. -/
def applyTo (known : Table Text TrackedFile) :
    Response → Except EditError (Table Text TrackedFile × Option TrackedFile)
  | .modified name buffer changes => do
    let edited ← Buffer.apply buffer changes
    let file := (known.get? name).getD {}
    return (known.set name { buffer := some edited, revision := file.revision + 1 }, none)
  | .opened name =>
    return (known.set name ((known.get? name).getD {}), none)
  | .renamed name newName =>
    let file := (known.get? name).getD {}
    let others := known.erase name
    return (others.set newName file, others.get? newName)

/-- Take a response about a script's files into account; gives back what a renaming displaced. -/
def apply (files : Files) (script : ScriptId) (response : Response) :
    Except EditError (Files × Option TrackedFile) := do
  let (known, displaced) ← applyTo (files.ofScript script) response
  return (files.setScript script known, displaced)

/-- Drop the files of a script; gives back how many there were. -/
def forget (files : Files) (script : ScriptId) : Files × Nat :=
  (⟨files.scripts.erase script⟩, (files.ofScript script).size)

end Files

end ScriptDesk
