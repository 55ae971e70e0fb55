import ScriptDesk.Proofs.Disk.Footprint
import ScriptDesk.Proofs.Document.Saving
import ScriptDesk.Proofs.InPlace

/-!
# Saving in place

A document can also be saved step by step, where it and the disk are: directories are made, a file
is opened, which makes it or empties it, the text is written to it, and then the document gets its
path and is not edited any more. What was done stays done if a later step fails. But nothing fails
once a file is opened, so all this comes to what the document itself answers (`outcome_saveBy`).
-/

namespace ScriptDesk.Document.Stepwise

open InPlace

/-- Work on a document and the disk. -/
abbrev Work : Type → Type :=
  InPlace DocumentError (Document × Disk)

/-- The document. -/
def document : Work Document :=
  return (← get).1

/-- Change the document. -/
def change (f : Document → Document) : Work Unit :=
  modify fun (document, disk) => (f document, disk)

/-- Make the directory that holds a path, with all those above it. -/
def makeParents (path : Path) : Work Unit := do
  let (result, disk) := (← get).2.makeParents path
  modify fun (document, _) => (document, disk)
  match result with
  | .ok () => return
  | .error e => throw (.disk path e)

/-- Open a file to write it, which must not be there if it is to be `fresh`. It is empty then. -/
def openFile (path : Path) (fresh : Bool) (wrap : DiskError → DocumentError) : Work Place := do
  let disk := (← get).2
  match disk.placeToOpen path fresh with
  | .error e => throw (wrap e)
  | .ok place =>
    modify fun (document, disk) => (document, disk.put place (.file []))
    return place

/-- Write to a file behind what it has. -/
def append (place : Place) (bytes : Bytes) : Work Unit :=
  modify fun (document, disk) =>
    (document, disk.put place (.file ((disk.content? place).getD [] ++ bytes)))

/-- Open a file and write to it. -/
def writeFile (path : Path) (fresh : Bool) (wrap : DiskError → DocumentError) (bytes : Bytes) :
    Work Unit := do
  let place ← openFile path fresh wrap
  append place bytes

/-- Write the document to its path. -/
def save : Work Unit := do
  match (← document).path with
  | none => throw (.noPath (← document).id)
  | some path =>
    writeFile path false (.disk path) (← document).text.toBytes
    change fun document => { document with edited := false }

/-- Write the document to a path, which becomes its own; `fresh` if no file may be there. -/
def saveTo (path : Path) (fresh : Bool) : Work Unit := do
  let bytes := (← document).text.toBytes
  makeParents path
  writeFile path fresh (.ofOpening path) bytes
  change (·.setPath path)
  change fun document => { document with edited := false }

/-- Save the document in one of the ways. -/
def saveBy : Saving → Work Unit
  | .inPlace => save
  | .under path => saveTo path false
  | .fresh path => saveTo path true

/-! ### What is left -/

/-- The outcome of saving that answers so: a document that was saved is there afterwards, and one
that was not is as it was. -/
def left (document : Document) :
    Except DocumentError Document × Disk → Except DocumentError Unit × Document × Disk
  | (.ok saved, disk) => (.ok (), saved, disk)
  | (.error e, disk) => (.error e, document, disk)

theorem outcome_document (state : Document × Disk) :
    document.outcome state = (.ok state.1, state) := rfl

theorem outcome_change (f : Document → Document) (document : Document) (disk : Disk) :
    (change f).outcome (document, disk) = (.ok (), f document, disk) := rfl

theorem outcome_makeParents (path : Path) (document : Document) (disk : Disk) :
    (makeParents path).outcome (document, disk) =
      match disk.makeParents path with
      | (.error e, disk) => (.error (.disk path e), document, disk)
      | (.ok (), disk) => (.ok (), document, disk) := by
  simp only [makeParents, outcome_bind, outcome_get, outcome_modify]
  obtain ⟨result, made⟩ := disk.makeParents path
  cases result with
  | error e => rfl
  | ok u => rfl

/-- To open a file and to write to it comes to the same as putting one with these bytes in place. -/
theorem outcome_writeFile (path : Path) (fresh : Bool) (wrap : DiskError → DocumentError)
    (bytes : Bytes) (document : Document) (disk : Disk) :
    (writeFile path fresh wrap bytes).outcome (document, disk) =
      match if fresh then disk.create path bytes else disk.write path bytes with
      | .error e => (.error (wrap e), document, disk)
      | .ok disk => (.ok (), document, disk) := by
  simp only [writeFile, openFile, outcome_bind, outcome_get, Disk.put_of_placeToOpen]
  cases hopen : disk.placeToOpen path fresh with
  | error e => rfl
  | ok place =>
    obtain ⟨directory, name, -, rfl⟩ :=
      Disk.leadsTo_of_placeToWrite (Disk.placeToWrite_of_placeToOpen hopen)
    have hempty : (disk.put (directory ++ [name]) (.file [])).content? (directory ++ [name]) =
        some [] :=
      (disk.content?_put (by simp) [] _).trans (if_pos rfl)
    simp only [outcome_bind, outcome_modify, outcome_pure, append, hempty, Disk.put_put]
    rfl

theorem outcome_save (document : Document) (disk : Disk) :
    save.outcome (document, disk) =
      left document (match document.save disk with
        | .ok (saved, disk) => (.ok saved, disk)
        | .error e => (.error e, disk)) := by
  simp only [save, Document.save, outcome_bind, outcome_document]
  cases hpath : document.path with
  | none => rfl
  | some path =>
    simp only [outcome_bind, outcome_document, outcome_writeFile, Bool.false_eq_true, if_false]
    cases disk.write path document.text.toBytes with
    | error e => rfl
    | ok written =>
      simp only [outcome_change, hpath]
      rfl

theorem outcome_saveTo (path : Path) (fresh : Bool) (document : Document) (disk : Disk) :
    (saveTo path fresh).outcome (document, disk) =
      left document (document.saveTo disk path fresh) := by
  simp only [saveTo, Document.saveTo, outcome_bind, outcome_document, outcome_makeParents]
  obtain ⟨made, disk⟩ := disk.makeParents path
  cases made with
  | error e => rfl
  | ok u =>
    simp only [outcome_writeFile]
    cases (if fresh then disk.create path document.text.toBytes
        else disk.write path document.text.toBytes) with
    | error e => rfl
    | ok written => rfl

theorem outcome_saveBy (way : Saving) (document : Document) (disk : Disk) :
    (saveBy way).outcome (document, disk) = left document (document.saveBy disk way) := by
  cases way with
  | inPlace => exact outcome_save document disk
  | under path => exact outcome_saveTo path false document disk
  | fresh path => exact outcome_saveTo path true document disk

end ScriptDesk.Document.Stepwise
