import ScriptDesk.Environment
import ScriptDesk.Proofs.Files.Frame
import ScriptDesk.Proofs.InPlace

/-!
# Delivering in place

An event can also be applied where the environment and the tracked files are, in small steps one
after the other: a status is set and the observers are told, then the output is cleared and they are
told again; a script or a file that is not tracked yet is entered and then changed.

Still nothing is ever left half done. Each part of the work returns what the environment itself
answers and leaves what that makes of the two, and where it fails both are as they were; so it is
with the whole (`outcome_deliver`, `outcome_setStatus`).
-/

namespace ScriptDesk.Environment.Stepwise

open InPlace

/-- Work on an environment and the tracked files. -/
abbrev Work : Type → Type :=
  InPlace EnvironmentError (Environment × Files)

/-- The environment. -/
def environment : Work Environment :=
  return (← get).1

/-- The tracked files. -/
def files : Work Files :=
  return (← get).2

/-- Change the environment. -/
def change (f : Environment → Environment) : Work Unit :=
  modify fun (environment, files) => (f environment, files)

/-- Change the tracked files of a script; they are entered if there are none. -/
def changeFiles (script : ScriptId)
    (f : Table Text TrackedFile → Table Text TrackedFile) : Work Unit :=
  modify fun (environment, files) =>
    (environment, files.setScript script (f (files.ofScript script)))

/-- Tell the observers. -/
def emit (notice : Notice) : Work Unit :=
  change (·.emit notice)

/-! ### The status -/

/-- Change the status. -/
def changeStatus (target : Status) : Work Transition := do
  let source := (← environment).status
  match Status.clears? source target with
  | none => throw (.transition source target)
  | some cleared =>
    if source = target then return ⟨source, target, cleared⟩
    change fun environment => { environment with status := target }
    emit (.statusChanged source target)
    if cleared then
      change fun environment => { environment with output := [] }
      emit .resultsCleared
    return ⟨source, target, cleared⟩

/-- Change the status from outside. -/
def setStatus (target : Status) : Work Transition := do
  if (← environment).disposed then throw (.disposed (← environment).id)
  changeStatus target

/-! ### Files -/

/-- Enter the script's files if there are none. -/
def enterScript (script : ScriptId) : Work Unit :=
  changeFiles script fun known => known

/-- Enter a file of a script, of which nothing is known if it is new. -/
def enterFile (script : ScriptId) (name : Text) : Work Unit :=
  changeFiles script fun known => known.set name ((known.get? name).getD {})

/-- Change what is known of a file of a script. -/
def changeFile (script : ScriptId) (name : Text) (f : TrackedFile → TrackedFile) : Work Unit :=
  changeFiles script fun known => known.modify name f

/-- Take a response about a script's files into account; gives back what a renaming displaced. -/
def applyFiles (script : ScriptId) : Response → Work (Option TrackedFile)
  | .modified name buffer changes => do
    match Buffer.apply buffer changes with
    | .error e => throw (.edit e)
    | .ok edited =>
      enterScript script
      enterFile script name
      changeFile script name fun file => { file with buffer := some edited }
      changeFile script name fun file => { file with revision := file.revision + 1 }
      return none
  | .opened name => do
    enterScript script
    enterFile script name
    return none
  | .renamed name newName => do
    enterScript script
    let file := (((← files).ofScript script).get? name).getD {}
    changeFiles script fun known => known.erase name
    let displaced := ((← files).ofScript script).get? newName
    changeFiles script fun known => known.set newName file
    return displaced

/-- Rename the document's file if it is the one that the response names. -/
def renameDocument (name newName : Text) : Work Unit := do
  let document := (← environment).document
  match document.path with
  | none => return
  | some path =>
    if Path.fileName? path = some name then
      change fun environment =>
        { environment with document := document.setPath (Path.withFileName path newName) }
      emit (.documentRenamed (← environment).document.name)

/-! ### Events -/

/-- Apply what is new about the script. -/
def applyNews : News → Work Unit
  | .output none => return
  | .output (some text) => do
    if text.isEmpty then return
    change fun environment => { environment with output := environment.output ++ [text] }
    emit (.outputAppended text)
  | .diagnostics value => do
    change fun environment => { environment with diagnostics := some value }
    emit (.diagnosticsUpdated value)
  | .status target => do
    let _ ← changeStatus target
  | .file response => do
    let _ ← applyFiles (← environment).id response
    match response with
    | .renamed name newName => renameDocument name newName
    | _ => pure ()
    emit (.fileApplied response)

/-- Apply one event. -/
def deliver (event : Event) : Work Delivery := do
  if event.script ≠ (← environment).id then return .dropped
  if (← environment).disposed then return .dropped
  applyNews event.news
  return .applied

/-! ### Nothing is left half done -/

theorem outcome_environment (state : Environment × Files) :
    environment.outcome state = (.ok state.1, state) := rfl

theorem outcome_files (state : Environment × Files) :
    files.outcome state = (.ok state.2, state) := rfl

theorem outcome_changeFiles (script : ScriptId)
    (f : Table Text TrackedFile → Table Text TrackedFile) (environment : Environment)
    (files : Files) :
    (changeFiles script f).outcome (environment, files) =
      (.ok (), environment, files.setScript script (f (files.ofScript script))) := rfl

theorem outcome_changeStatus (target : Status) (environment : Environment) (files : Files) :
    (changeStatus target).outcome (environment, files) =
      settled (environment, files) ((environment.changeStatus target).map
        fun (changed, transition) => (transition, changed, files)) := by
  simp only [changeStatus, Environment.changeStatus, outcome_bind, outcome_environment]
  cases Status.clears? environment.status target with
  | none => rfl
  | some cleared =>
    by_cases hsame : environment.status = target
    · simp only [hsame, if_true]
      rfl
    · simp only [hsame, if_false]
      cases cleared with
      | true => rfl
      | false => rfl

theorem outcome_setStatus (target : Status) (environment : Environment) (files : Files) :
    (setStatus target).outcome (environment, files) =
      settled (environment, files) ((environment.setStatus target).map
        fun (changed, transition) => (transition, changed, files)) := by
  simp only [setStatus, Environment.setStatus, outcome_bind, outcome_environment]
  cases environment.disposed with
  | true => rfl
  | false => exact outcome_changeStatus target environment files

/-- Entering a script and a file and changing what is known of it comes to the same as putting the
changed file in place at once. -/
theorem outcome_applyFiles (script : ScriptId) (response : Response) (environment : Environment)
    (files : Files) :
    (applyFiles script response).outcome (environment, files) =
      settled (environment, files) (((files.apply script response).mapError .edit).map
        fun (files, displaced) => (displaced, environment, files)) := by
  have hself : ∀ known, (files.setScript script known).ofScript script = known := fun known =>
    (Files.ofScript_setScript files script script known).trans (if_pos rfl)
  cases response with
  | modified name buffer changes =>
    rw [Files.apply_eq, applyFiles, Files.applyTo]
    cases Buffer.apply buffer changes with
    | error e => rfl
    | ok edited =>
      simp only [outcome_bind, outcome_pure, enterScript, enterFile, changeFile,
        outcome_changeFiles, hself, Files.setScript_setScript, Table.modify_set]
      rfl
  | opened name =>
    simp only [applyFiles, outcome_bind, outcome_pure, enterScript, enterFile, outcome_changeFiles,
      hself, Files.setScript_setScript]
    rfl
  | renamed name newName =>
    simp only [applyFiles, outcome_bind, outcome_pure, enterScript, outcome_files,
      outcome_changeFiles, hself, Files.setScript_setScript]
    rfl

theorem outcome_renameDocument (name newName : Text) (environment : Environment) (files : Files) :
    (renameDocument name newName).outcome (environment, files) =
      (.ok (), environment.renameDocument name newName, files) := by
  simp only [renameDocument, Environment.renameDocument, renamedDocument, outcome_bind,
    outcome_environment]
  cases environment.document.path with
  | none => rfl
  | some path =>
    by_cases hname : Path.fileName? path = some name
    · simp only [hname, if_true]
      rfl
    · simp only [hname, if_false]
      rfl

theorem outcome_applyNews (news : News) (environment : Environment) (files : Files) :
    (applyNews news).outcome (environment, files) =
      settled (environment, files) ((environment.applyNews files news).map ((), ·)) := by
  cases news with
  | output text =>
    cases text with
    | none => rfl
    | some text =>
      simp only [applyNews, Environment.applyNews]
      cases text.isEmpty with
      | true => rfl
      | false => rfl
  | diagnostics value => rfl
  | status target =>
    simp only [applyNews, Environment.applyNews, outcome_bind, outcome_changeStatus]
    cases environment.changeStatus target with
    | error e => rfl
    | ok result => rfl
  | file response =>
    simp only [applyNews, Environment.applyNews, outcome_bind, outcome_environment,
      outcome_applyFiles]
    cases files.apply environment.id response with
    | error e => rfl
    | ok result =>
      obtain ⟨files', displaced⟩ := result
      cases response with
      | modified name buffer changes => rfl
      | opened name => rfl
      | renamed name newName =>
        change (renameDocument name newName >>= fun _ =>
          emit (.fileApplied (.renamed name newName))).outcome (environment, files') = _
        rw [outcome_bind, outcome_renameDocument]
        rfl

theorem outcome_deliver (event : Event) (environment : Environment) (files : Files) :
    (deliver event).outcome (environment, files) =
      settled (environment, files) (environment.deliver files event) := by
  simp only [deliver, Environment.deliver, outcome_bind, outcome_environment]
  by_cases hscript : event.script = environment.id
  · cases hdisposed : environment.disposed with
    | true => simp [hscript, hdisposed, settled, outcome_bind, outcome_environment, outcome_pure]
    | false =>
      simp only [hscript, ne_eq, not_true, Bool.false_eq_true, or_self, if_false, outcome_bind,
        outcome_environment, hdisposed, outcome_applyNews]
      cases environment.applyNews files event.news with
      | error e => rfl
      | ok after => rfl
  · simp [hscript, settled, outcome_pure]

end ScriptDesk.Environment.Stepwise
