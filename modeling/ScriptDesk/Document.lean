import ScriptDesk.Disk
import ScriptDesk.Script.File
import ScriptDesk.Script.Program

/-!
# Documents

A document is a script that is being edited: what its file holds, and besides that its path, its
name and whether it was edited since it was last read or written. The name is the stem of the path
as soon as there is a path, and it is not part of the file.

Saving writes the document to its path. Saving under a path makes the directories above it first and
the path the document's own afterwards. An attempt that fails leaves the document as it was.
-/

namespace ScriptDesk

/-- A script that is being edited. -/
structure Document (unit : Type := Char) where
  /-- The identity of the script. -/
  id : ScriptId
  /-- The name under which it is shown. -/
  name : Text
  /-- The path of its file, if it has one. -/
  path : Option (Path unit) := none
  /-- Its settings. -/
  config : ScriptConfig := {}
  /-- Its code. -/
  code : Text := []
  /-- It was edited since it was last read or written. -/
  edited : Bool := false
  /-- How the lines of its file end. -/
  lineEnding : LineEnding := .lf
  deriving DecidableEq, Repr, Inhabited

/-- Why a document cannot be read or written. -/
inductive DocumentError (unit : Type := Char) where
  /-- It has no path. -/
  | noPath (id : ScriptId)
  /-- The disk refused. -/
  | disk (path : Path unit) (error : DiskError)
  /-- A file is there already. -/
  | exists (path : Path unit)
  /-- The file is no script file. -/
  | format (path : Path unit) (error : ScriptFile.FormatError)
  deriving DecidableEq, Repr

open PathUnit (shown)

section Units

variable {α : Type} [DecidableEq α] [PathUnit α]

namespace DocumentError

/-- The wording of an error. -/
def message : DocumentError α → Text
  | .noPath id => "script ".toList ++ id.text ++ " has no file path; cannot save".toList
  | .disk path error =>
    "failed to access script file ".toList ++ shown path ++ ": ".toList ++ error.message
  | .exists path => "script file ".toList ++ shown path ++ " already exists".toList
  | .format path error =>
    "invalid script file ".toList ++ shown path ++ ": ".toList ++ error.message

/-- The wording of the error and of those behind it, the outermost first. -/
def chain (error : DocumentError α) : List Text :=
  match error with
  | .noPath _ | .exists _ => [error.message]
  | .disk _ cause => [error.message, cause.message]
  | .format _ (.config fault) =>
    [error.message, (ScriptFile.FormatError.config fault).message, fault.message]
  | .format _ cause => [error.message, cause.message]

/-- The error of a file that could not be opened. -/
def ofOpening (path : Path α) : DiskError → DocumentError α
  | .exists => .exists path
  | error => .disk path error

end DocumentError

namespace Document

/-- The document as it would be written. -/
def file (document : Document α) : ScriptFile :=
  { id := document.id, config := document.config, code := document.code,
    lineEnding := document.lineEnding }

/-- The text of the document's file. -/
def text (document : Document α) : Text :=
  document.file.write

/-- The program of the document. -/
def program (document : Document α) : Text :=
  Program.ofScript document.config document.code

/-- The documents agree in everything; of their paths only the parts count. -/
def agrees (a b : Document α) : Bool :=
  ({ a with path := none } : Document α) == { b with path := none } &&
    match a.path, b.path with
    | some p, some q => Path.sameParts p q
    | none, none => true
    | _, _ => false

/-- The document was never saved. -/
def isNew (document : Document α) : Bool :=
  document.path.isNone

/-- The document has something to save. -/
def isDirty (document : Document α) : Bool :=
  document.edited || document.isNew

/-- The directory that holds the document's file. -/
def directory? (document : Document α) : Option (Path α) :=
  document.path.bind Path.parent?

/-- The document with another path and the name that goes with it. -/
def setPath (document : Document α) (path : Path α) : Document α :=
  { document with name := Path.stem path, path := some path }

/-- The document with another code. -/
def setCode (document : Document α) (code : Text) : Document α :=
  { document with code, edited := true }

/-- The document with other namespaces. -/
def setNamespaces (document : Document α) (namespaces : List Text) : Document α :=
  { document with config := document.config.setNamespaces namespaces, edited := true }

/-- The document with another kind. -/
def setKind (document : Document α) (kind : ScriptKind) : Document α :=
  { document with config := { document.config with kind }, edited := true }

/-- The document whose file a text is, at a path. -/
def ofFile (path : Path α) (file : ScriptFile) : Document α :=
  { id := file.id, name := Path.stem path, path := some path, config := file.config,
    code := file.code, lineEnding := file.lineEnding }

/-- Read a document from the disk. -/
def load (disk : Disk α) (path : Path α) : Except (DocumentError α) (Document α) := do
  let text ← (disk.readText path).mapError (.disk path)
  let file ← (ScriptFile.read text).mapError (.format path)
  return ofFile path file

/-- Write the document to its path. -/
def save (document : Document α) (disk : Disk α) :
    Except (DocumentError α) (Document α × Disk α) := do
  let some path := document.path | throw (.noPath document.id)
  let disk ← (disk.write path document.text.toBytes).mapError (.disk path)
  return ({ document with edited := false }, disk)

/-- Write the document to a path, which becomes its own; `fresh` if no file may be there. -/
def saveTo (document : Document α) (disk : Disk α) (path : Path α) (fresh : Bool) :
    Except (DocumentError α) (Document α) × Disk α :=
  match disk.makeParents path with
  | (.error e, disk) => (.error (.disk path e), disk)
  | (.ok (), disk) =>
    let bytes := document.text.toBytes
    match if fresh then disk.create path bytes else disk.write path bytes with
    | .error e => (.error (.ofOpening path e), disk)
    | .ok disk => (.ok { document.setPath path with edited := false }, disk)

/-- Write the document to a path, in place of a file that is there. -/
def saveAs (document : Document α) (disk : Disk α) (path : Path α) :
    Except (DocumentError α) (Document α) × Disk α :=
  document.saveTo disk path false

/-- Write the document to a path where no file is. -/
def saveNew (document : Document α) (disk : Disk α) (path : Path α) :
    Except (DocumentError α) (Document α) × Disk α :=
  document.saveTo disk path true

/-- The path under which the document is first saved into a directory. -/
def defaultPath (document : Document α) (directory : Path α) : Path α :=
  Path.forScript directory document.name

end Document

end Units

end ScriptDesk
