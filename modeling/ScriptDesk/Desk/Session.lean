import ScriptDesk.Desk.Holders
import ScriptDesk.Text.Quoted

/-!
# Working with scripts

What the user of the desk does: create and open scripts, edit, save, run and close them. Only
running takes more than one step: the program is read, the status is set to running, the program is
handed to the backend, and if that rejects it the status is set to error.
-/

namespace ScriptDesk

/-- Why the desk refuses something. -/
inductive SessionError where
  /-- The script is not open. -/
  | notOpen (script : ScriptId)
  /-- The document could not be read or written. -/
  | document (error : DocumentError)
  /-- The environment refused. -/
  | environment (error : EnvironmentError)
  /-- There is nothing to execute programs. -/
  | noBackend
  /-- The backend rejected the program. -/
  | rejected (script : ScriptId) (reason : Text)
  deriving DecidableEq, Repr

namespace SessionError

/-- The wording of an error. -/
def message : SessionError → Text
  | .notOpen script => "script ".toList ++ script.text ++ " is not open".toList
  | .document error => error.message
  | .environment error => error.message
  | .noBackend => "no execution backend configured".toList
  | .rejected script reason =>
    "execution backend rejected script ".toList ++ script.text ++ ": ".toList ++ reason

end SessionError

namespace Settings

/-- How settings are shown. -/
def shown (settings : Settings) : Text :=
  "DaemonConfig \x7b scripts_directory_path: ".toList ++ Path.quoted settings.scriptsDirectory ++
    ", observer_channel_capacity: ".toList ++ Text.ofNat settings.observerCapacity ++
    " \x7d".toList

end Settings

namespace Desk

/-- The seat of an open script. -/
def openSeat (desk : Desk) (script : ScriptId) : Except SessionError Nat :=
  match desk.register.get? script with
  | some seat => .ok seat
  | none => .error (.notOpen script)

/-- The document of a seat. -/
def document? (desk : Desk) (seat : Nat) : Option Document :=
  (desk.seat? seat).map (·.environment.document)

/-- Open a new script with the given identity. -/
def create (desk : Desk) (script : ScriptId) (name : Text) : Desk × Nat :=
  desk.getOrCreate { id := script, name }

/-- Read a script file and open it. -/
def openFile (desk : Desk) (path : Path) : Except SessionError (Desk × Nat) :=
  match Document.load desk.disk path with
  | .error e => .error (.document e)
  | .ok document => .ok (desk.getOrCreate document)

/-- Close a script. -/
def close (desk : Desk) (script : ScriptId) : Except SessionError Desk :=
  match desk.remove script with
  | (desk, true) => .ok desk
  | (_, false) => .error (.notOpen script)

/-- Change the document of an open script. -/
def editDocument (desk : Desk) (script : ScriptId) (edit : Document → Document) :
    Except SessionError Desk := do
  let seat ← desk.openSeat script
  return desk.modifySeat seat fun s =>
    { s with environment := { s.environment with document := edit s.environment.document } }

/-- Change the code of an open script. -/
def updateCode (desk : Desk) (script : ScriptId) (code : Text) : Except SessionError Desk :=
  desk.editDocument script (·.setCode code)

/-- Change the namespaces of an open script. -/
def setNamespaces (desk : Desk) (script : ScriptId) (namespaces : List Text) :
    Except SessionError Desk :=
  desk.editDocument script (·.setNamespaces namespaces)

/-- Write a document: a new one into the directory for scripts under its name, where no file may be
yet, another one to its path. -/
def saveDocument (settings : Settings) (disk : Disk) (document : Document) :
    Except DocumentError Document × Disk :=
  if document.isNew then
    document.saveNew disk (document.defaultPath settings.scriptsDirectory)
  else
    match document.save disk with
    | .ok (document, disk) => (.ok document, disk)
    | .error e => (.error e, disk)

/-- Save an open script, and say where. -/
def save (desk : Desk) (script : ScriptId) : Except SessionError Path × Desk :=
  match desk.openSeat script with
  | .error e => (.error e, desk)
  | .ok seat =>
    match desk.document? seat with
    | none => (.error (.notOpen script), desk)
    | some document =>
      match saveDocument desk.settings desk.disk document with
      | (.error e, disk) => (.error (.document e), { desk with disk })
      | (.ok document, disk) =>
        (.ok (document.path.getD []), { desk with disk }.setDocument seat document)

/-! ## Running -/

/-- What a run works with: the seat of the script and its program. -/
def prepareRun (desk : Desk) (script : ScriptId) : Except SessionError (Nat × Text) := do
  let seat ← desk.openSeat script
  let some _ := desk.backend | throw .noBackend
  let some document := desk.document? seat | throw (.notOpen script)
  return (seat, document.program)

/-- Hand a program to the backend; gives back why it was rejected, if it was. -/
def submit (desk : Desk) (script : ScriptId) (program : Text) : Desk × Option Text :=
  match desk.backend with
  | none => (desk, none)
  | some backend =>
    let submission := { script, program, accepted := backend.rejection.isNone }
    ({ desk with
       backend := some { backend with submissions := backend.submissions ++ [submission] } },
     backend.rejection.map (Text.join ": ".toList))

/-- End a run whose program was rejected. -/
def failRun (desk : Desk) (script : ScriptId) (seat : Nat) (reason : Text) :
    Except SessionError Unit × Desk :=
  match desk.setStatus seat .error with
  | (.error e, desk) => (.error (.environment e), desk)
  | (.ok _, desk) => (.error (.rejected script reason), desk)

/-- Run an open script. -/
def run (desk : Desk) (script : ScriptId) : Except SessionError Unit × Desk :=
  match desk.prepareRun script with
  | .error e => (.error e, desk)
  | .ok (seat, program) =>
    match desk.setStatus seat .running with
    | (.error e, desk) => (.error (.environment e), desk)
    | (.ok _, desk) =>
      match desk.submit script program with
      | (desk, none) => (.ok (), desk)
      | (desk, some reason) => desk.failRun script seat reason

/-- How the desk is shown. -/
def shown (desk : Desk) : Text :=
  "ScriptSession \x7b config: ".toList ++ desk.settings.shown ++ ", has_backend: ".toList ++
    (if desk.backend.isSome then "true" else "false").toList ++ ", .. \x7d".toList

end Desk

namespace Environment

/-- How an environment is shown. -/
def shown (environment : Environment) : Text :=
  "ScriptEnvironment \x7b id: ".toList ++ environment.id.text ++ ", .. \x7d".toList

end Environment

end ScriptDesk
