import ScriptDesk.Document
import ScriptDesk.Files
import ScriptDesk.Service.Event

/-!
# Environments

An environment is an open script: its document, its status, and the results that the service
reported since it last began to run. Whoever observes it is sent a notice of each change, and the
environment keeps the notices it ever sent (`log`).

`deliver` applies one event of the service. Events about other scripts, and all events once the
environment is disposed, are dropped. An event that cannot be applied changes nothing.
-/

namespace ScriptDesk

/-- What observers are told. -/
inductive Notice where
  /-- The status changed. -/
  | statusChanged (source target : Status)
  /-- The results were cleared. -/
  | resultsCleared
  /-- There is more output. -/
  | outputAppended (output : Text)
  /-- There are new diagnostics. -/
  | diagnosticsUpdated (diagnostics : Json.Value)
  /-- A response about a file was taken into account. -/
  | fileApplied (response : Response)
  /-- The document has a new name. -/
  | documentRenamed (name : Text)
  deriving Inhabited

/-- Why an environment refuses something. -/
inductive EnvironmentError where
  /-- The status may not change so. -/
  | transition (source target : Status)
  /-- The environment is disposed. -/
  | disposed (id : ScriptId)
  /-- The changes of a buffer cannot be applied. -/
  | edit (error : EditError)
  deriving DecidableEq, Repr

namespace EnvironmentError

/-- The wording of an error. -/
def message : EnvironmentError → Text
  | .transition source target => Status.refusal source target
  | .disposed id => "script environment ".toList ++ id.text ++ " is disposed".toList
  | .edit error => error.message

end EnvironmentError

/-- What became of an event. -/
inductive Delivery where
  /-- It was applied. -/
  | applied
  /-- It was dropped: it is about another script, or the environment is disposed. -/
  | dropped
  deriving DecidableEq, Repr

/-- A change of status that was made. -/
structure Transition where
  /-- The status before. -/
  source : Status
  /-- The status after. -/
  target : Status
  /-- The results were cleared. -/
  cleared : Bool
  deriving DecidableEq, Repr

/-- An open script. -/
structure Environment where
  /-- The identity of the script. -/
  id : ScriptId
  /-- The document. -/
  document : Document
  /-- How far the execution is. -/
  status : Status := .idle
  /-- The pieces of output in order. -/
  output : List Text := []
  /-- The latest diagnostics. -/
  diagnostics : Option Json.Value := none
  /-- Nothing changes any more. -/
  disposed : Bool := false
  /-- The notices sent so far. -/
  log : List Notice := []
  deriving Inhabited

namespace Environment

/-- The environment of a document that was just opened. -/
def ofDocument (document : Document) : Environment :=
  { id := document.id, document }

/-- Send a notice. -/
def emit (environment : Environment) (notice : Notice) : Environment :=
  { environment with log := environment.log ++ [notice] }

/-- Change the status. A change to the same status, where it is allowed, does nothing. -/
def changeStatus (environment : Environment) (target : Status) :
    Except EnvironmentError (Environment × Transition) :=
  let source := environment.status
  match Status.clears? source target with
  | none => .error (.transition source target)
  | some cleared =>
    let transition := ⟨source, target, cleared⟩
    if source = target then .ok (environment, transition)
    else
      let changed := { environment with status := target }.emit (.statusChanged source target)
      if cleared then .ok ({ changed with output := [] }.emit .resultsCleared, transition)
      else .ok (changed, transition)

/-- Change the status from outside. -/
def setStatus (environment : Environment) (target : Status) :
    Except EnvironmentError (Environment × Transition) :=
  if environment.disposed then .error (.disposed environment.id)
  else environment.changeStatus target

/-- The document after the code service renamed a file: if it is the document's file, the document
goes with it. -/
def renamedDocument (document : Document) (name newName : Text) : Option Document :=
  match document.path with
  | none => none
  | some path =>
    if Path.fileName? path = some name then some (document.setPath (Path.withFileName path newName))
    else none

/-- Rename the document's file if it is the one that the response names. -/
def renameDocument (environment : Environment) (name newName : Text) : Environment :=
  match renamedDocument environment.document name newName with
  | some document => { environment with document }.emit (.documentRenamed document.name)
  | none => environment

/-- Take a response about a file into account. -/
def applyResponse (environment : Environment) (response : Response) : Environment :=
  let environment := match response with
    | .renamed name newName => environment.renameDocument name newName
    | _ => environment
  environment.emit (.fileApplied response)

/-- Apply what is new about the script. -/
def applyNews (environment : Environment) (files : Files) :
    News → Except EnvironmentError (Environment × Files)
  | .output none => .ok (environment, files)
  | .output (some text) =>
    if text.isEmpty then .ok (environment, files)
    else
      let extended := { environment with output := environment.output ++ [text] }
      .ok (extended.emit (.outputAppended text), files)
  | .diagnostics value =>
    .ok ({ environment with diagnostics := some value }.emit (.diagnosticsUpdated value), files)
  | .status target => (environment.changeStatus target).map fun (changed, _) => (changed, files)
  | .file response =>
    match files.apply environment.id response with
    | .error e => .error (.edit e)
    | .ok (files, _) => .ok (environment.applyResponse response, files)

/-- Apply one event. -/
def deliver (environment : Environment) (files : Files) (event : Event) :
    Except EnvironmentError (Delivery × Environment × Files) :=
  if event.script ≠ environment.id ∨ environment.disposed then .ok (.dropped, environment, files)
  else (environment.applyNews files event.news).map fun changed => (.applied, changed)

/-- The event is applied only while nobody else uses the document. -/
def needsDocument (environment : Environment) (event : Event) : Bool :=
  event.script == environment.id &&
    match event.news with
    | .file (.renamed _ _) => true
    | _ => false

end Environment

end ScriptDesk
