import ScriptDesk.Proofs.Environment.Delivery
import ScriptDesk.Proofs.Environment.Stepwise

/-!
# What is refused leaves no trace

News are refused in two cases only (`Refused`): the status may not change so, or one of the changes
of a buffer cannot be made. News that are applied change the part they are about (`Concerned`). So
in the end an environment does not know what was asked of it in vain: requests come to the same as
those of them that were granted (`afterAll_granted`). And whatever is asked, of the document only
the path and the name may change (`keeps_afterAll`).
-/

namespace ScriptDesk.Environment

open InPlace

/-- Why news are refused. -/
inductive Refused (environment : Environment) : News → EnvironmentError → Prop
  /-- The status may not change so. -/
  | transition {target : Status} (h : Status.clears? environment.status target = none) :
      Refused environment (.status target) (.transition environment.status target)
  /-- A change of the buffer cannot be made. -/
  | edit {name buffer : Text} {changes : List Change} {e : EditError}
      (h : Buffer.apply buffer changes = .error e) :
      Refused environment (.file (.modified name buffer changes)) (.edit e)

/-! ### One piece of news -/

theorem changeStatus_eq_error_iff {environment : Environment} {target : Status}
    {e : EnvironmentError} :
    environment.changeStatus target = .error e ↔
      Status.clears? environment.status target = none ∧
        e = .transition environment.status target := by
  simp only [changeStatus]
  cases Status.clears? environment.status target with
  | none => simp [eq_comm]
  | some cleared =>
    by_cases hsame : environment.status = target
    · simp [hsame]
    · cases cleared <;> simp [hsame]

/-- Of the responses only a modification can be refused, because of its changes. -/
theorem applyTo_eq_error_iff {known : Table Text TrackedFile} {response : Response}
    {e : EditError} :
    Files.applyTo known response = .error e ↔
      ∃ name buffer changes, response = .modified name buffer changes ∧
        Buffer.apply buffer changes = .error e := by
  cases response with
  | modified name buffer changes =>
    cases hedit : Buffer.apply buffer changes with
    | error e' => simp [Files.applyTo, hedit, bind, Except.bind, and_assoc]
    | ok edited => simp [Files.applyTo, hedit, bind, Except.bind, pure, Except.pure, and_assoc]
  | opened name => simp [Files.applyTo, pure, Except.pure]
  | renamed name newName => simp [Files.applyTo, pure, Except.pure]

theorem applyNews_eq_error_iff {environment : Environment} {files : Files} {news : News}
    {e : EnvironmentError} :
    environment.applyNews files news = .error e ↔ Refused environment news e := by
  constructor
  · intro h
    cases news with
    | output text =>
      cases text with
      | none => cases h
      | some text =>
        simp only [applyNews] at h
        split at h <;> cases h
    | diagnostics value => cases h
    | status target =>
      simp only [applyNews] at h
      cases hstatus : environment.changeStatus target with
      | ok result => rw [hstatus] at h; cases h
      | error e' =>
        rw [hstatus] at h
        cases h
        obtain ⟨hclears, rfl⟩ := changeStatus_eq_error_iff.mp hstatus
        exact .transition hclears
    | file response =>
      simp only [applyNews, Files.apply_eq] at h
      cases happly : Files.applyTo (files.ofScript environment.id) response with
      | ok result => rw [happly] at h; cases h
      | error e' =>
        rw [happly] at h
        cases h
        obtain ⟨name, buffer, changes, rfl, hedit⟩ := applyTo_eq_error_iff.mp happly
        exact .edit hedit
  · rintro (hclears | hedit)
    · simp [applyNews, changeStatus_eq_error_iff.mpr ⟨hclears, rfl⟩, Except.map]
    · simp [applyNews, Files.apply_eq,
        applyTo_eq_error_iff.mpr ⟨_, _, _, rfl, hedit⟩, Except.map]

/-- There is only one reason. -/
theorem Refused.unique {environment : Environment} {news : News} {e e' : EnvironmentError}
    (h : Refused environment news e) (h' : Refused environment news e') : e = e' := by
  have hnews : environment.applyNews {} news = .error e := applyNews_eq_error_iff.mpr h
  rw [applyNews_eq_error_iff.mpr h'] at hnews
  cases hnews
  rfl

/-! ### One request -/

/-- How the delivery of an event turns out. -/
inductive Delivered (environment : Environment) (files : Files) (event : Event) :
    Except EnvironmentError Delivery × Environment × Files → Prop
  /-- It is about another script, or the environment is disposed; all is as it was. -/
  | dropped (h : event.script ≠ environment.id ∨ environment.disposed = true) :
      Delivered environment files event (.ok .dropped, environment, files)
  /-- What is new is refused; all is as it was. -/
  | refused (hscript : event.script = environment.id) (hlive : environment.disposed = false)
      {e : EnvironmentError} (h : Refused environment event.news e) :
      Delivered environment files event (.error e, environment, files)
  /-- Nothing speaks against what is new; it is applied. -/
  | applied (hscript : event.script = environment.id) (hlive : environment.disposed = false)
      (hnot : ∀ e, ¬ Refused environment event.news e) {after : Environment} {files' : Files}
      (h : Concerned environment files event.news after files') :
      Delivered environment files event (.ok .applied, after, files')

/-- How a change of the status from outside turns out. -/
inductive StatusSet (environment : Environment) (files : Files) (target : Status) :
    Except EnvironmentError Transition × Environment × Files → Prop
  /-- The environment is disposed; all is as it was. -/
  | disposed (h : environment.disposed = true) :
      StatusSet environment files target (.error (.disposed environment.id), environment, files)
  /-- The status may not change so; all is as it was. -/
  | refused (hlive : environment.disposed = false)
      (h : Status.clears? environment.status target = none) :
      StatusSet environment files target
        (.error (.transition environment.status target), environment, files)
  /-- The status may change so, and it does. -/
  | changed (hlive : environment.disposed = false)
      (hclears : Status.clears? environment.status target ≠ none) (transition : Transition)
      {after : Environment} (h : Concerned environment files (.status target) after files) :
      StatusSet environment files target (.ok transition, after, files)

theorem delivered_outcome (environment : Environment) (files : Files) (event : Event) :
    Delivered environment files event ((Stepwise.deliver event).outcome (environment, files)) := by
  rw [Stepwise.outcome_deliver, deliver]
  by_cases hdropped : event.script ≠ environment.id ∨ environment.disposed = true
  · rw [if_pos hdropped]
    exact .dropped hdropped
  · rw [if_neg hdropped]
    obtain ⟨hscript, hlive⟩ : event.script = environment.id ∧ environment.disposed = false := by
      simpa using hdropped
    cases hnews : environment.applyNews files event.news with
    | error e => exact .refused hscript hlive (applyNews_eq_error_iff.mp hnews)
    | ok after =>
      refine .applied hscript hlive (fun e hrefused => ?_) (concerned_of_applyNews hnews)
      cases hnews.symm.trans (applyNews_eq_error_iff.mpr hrefused)

theorem statusSet_outcome (environment : Environment) (files : Files) (target : Status) :
    StatusSet environment files target
      ((Stepwise.setStatus target).outcome (environment, files)) := by
  rw [Stepwise.outcome_setStatus, setStatus]
  by_cases hdisposed : environment.disposed = true
  · rw [if_pos hdisposed]
    exact .disposed hdisposed
  · rw [if_neg hdisposed]
    have hlive : environment.disposed = false := by simpa using hdisposed
    cases hstatus : environment.changeStatus target with
    | error e =>
      obtain ⟨hclears, rfl⟩ := changeStatus_eq_error_iff.mp hstatus
      exact .refused hlive hclears
    | ok result =>
      refine .changed hlive (fun hclears => ?_) result.2 (concerned_of_changeStatus hstatus files)
      cases hstatus.symm.trans (changeStatus_eq_error_iff.mpr ⟨hclears, rfl⟩)

/-! ### Many requests -/

/-- Something that is asked of an environment. -/
inductive Request where
  /-- To take an event into account. -/
  | deliver (event : Event)
  /-- To change the status. -/
  | setStatus (target : Status)

namespace Request

/-- Do what is asked, and say whether it was done. -/
def work : Request → Stepwise.Work Bool
  | .deliver event => return (← Stepwise.deliver event) == .applied
  | .setStatus target => do
    let _ ← Stepwise.setStatus target
    return true

/-- What a request leaves of an environment and the tracked files. -/
def after (state : Environment × Files) (request : Request) : Environment × Files :=
  (request.work.outcome state).2

/-- The request is granted. -/
def isGranted (state : Environment × Files) (request : Request) : Bool :=
  match (request.work.outcome state).1 with
  | .ok done => done
  | .error _ => false

/-- What requests leave, one after the other. -/
def afterAll (state : Environment × Files) (requests : List Request) : Environment × Files :=
  requests.foldl after state

/-- Those of the requests that are granted, one after the other. -/
def granted : Environment × Files → List Request → List Request
  | _, [] => []
  | state, request :: requests =>
    let later := granted (after state request) requests
    if isGranted state request then request :: later else later

/-- What no request changes: whose environment it is and whether it is disposed, what the document
is but for its path and its name, what the observers were told, and the files of other scripts. -/
structure Keeps (before after : Environment × Files) : Prop where
  /-- The script is the same. -/
  id_eq : after.1.id = before.1.id
  /-- The environment is disposed if it was. -/
  disposed_eq : after.1.disposed = before.1.disposed
  /-- The document has at most another path and another name. -/
  document_eq : ∃ path name, after.1.document = { before.1.document with path, name }
  /-- What the observers were told is only added to. -/
  log_prefix : before.1.log <+: after.1.log
  /-- The files of other scripts are the same. -/
  others_eq : ∀ script, script ≠ before.1.id →
    after.2.scripts.get? script = before.2.scripts.get? script

theorem Keeps.refl (state : Environment × Files) : Keeps state state where
  id_eq := rfl
  disposed_eq := rfl
  document_eq := ⟨state.1.document.path, state.1.document.name, rfl⟩
  log_prefix := List.prefix_rfl
  others_eq _ _ := rfl

theorem Keeps.trans {first second third : Environment × Files} (h : Keeps first second)
    (hlater : Keeps second third) : Keeps first third where
  id_eq := hlater.id_eq.trans h.id_eq
  disposed_eq := hlater.disposed_eq.trans h.disposed_eq
  document_eq := by
    obtain ⟨path, name, hdocument⟩ := h.document_eq
    obtain ⟨path', name', hdocument'⟩ := hlater.document_eq
    exact ⟨path', name', by rw [hdocument', hdocument]⟩
  log_prefix := h.log_prefix.trans hlater.log_prefix
  others_eq script hscript :=
    (hlater.others_eq script (h.id_eq ▸ hscript)).trans (h.others_eq script hscript)

theorem keeps_of_concerned {environment after : Environment} {files files' : Files} {news : News}
    (h : Concerned environment files news after files') :
    Keeps (environment, files) (after, files') := by
  cases h with
  | output text output hlog => exact ⟨rfl, rfl, ⟨_, _, rfl⟩, hlog, fun _ _ => rfl⟩
  | diagnostics value diagnostics hlog => exact ⟨rfl, rfl, ⟨_, _, rfl⟩, hlog, fun _ _ => rfl⟩
  | status target status output hlog => exact ⟨rfl, rfl, ⟨_, _, rfl⟩, hlog, fun _ _ => rfl⟩
  | file response path name hlog hothers => exact ⟨rfl, rfl, ⟨path, name, rfl⟩, hlog, hothers⟩

/-- A request that is granted concerns what its news are about; another one leaves all as it is. -/
theorem after_cases (state : Environment × Files) (request : Request) :
    (isGranted state request = false ∧ after state request = state) ∨
      isGranted state request = true ∧
        ∃ news, Concerned state.1 state.2 news (after state request).1 (after state request).2 := by
  cases request with
  | deliver event =>
    have h := delivered_outcome state.1 state.2 event
    simp only [isGranted, after, work, outcome_bind]
    generalize (Stepwise.deliver event).outcome state = outcome at h ⊢
    cases h with
    | dropped h => exact .inl ⟨rfl, rfl⟩
    | refused hscript hlive h => exact .inl ⟨rfl, rfl⟩
    | applied hscript hlive hnot h => exact .inr ⟨rfl, event.news, h⟩
  | setStatus target =>
    have h := statusSet_outcome state.1 state.2 target
    simp only [isGranted, after, work, outcome_bind]
    generalize (Stepwise.setStatus target).outcome state = outcome at h ⊢
    cases h with
    | disposed h => exact .inl ⟨rfl, rfl⟩
    | refused hlive h => exact .inl ⟨rfl, rfl⟩
    | changed hlive hclears transition h => exact .inr ⟨rfl, .status target, h⟩

theorem keeps_after (state : Environment × Files) (request : Request) :
    Keeps state (after state request) := by
  rcases after_cases state request with ⟨-, hstays⟩ | ⟨-, news, hconcerned⟩
  · rw [hstays]
    exact .refl state
  · exact keeps_of_concerned hconcerned

/-- Requests come to the same as those of them that are granted. -/
theorem afterAll_granted (state : Environment × Files) (requests : List Request) :
    afterAll state (granted state requests) = afterAll state requests := by
  induction requests generalizing state with
  | nil => rfl
  | cons request requests ih =>
    rcases after_cases state request with ⟨hgranted, hstays⟩ | ⟨hgranted, -⟩
    · have hskip : afterAll state (request :: requests) = afterAll (after state request) requests :=
        rfl
      rw [hskip, granted, hgranted, hstays]
      exact ih state
    · rw [granted, hgranted]
      exact ih (after state request)

/-- Whatever is asked, whose environment it is, the document but for its path and its name, and the
files of other scripts stay as they are. -/
theorem keeps_afterAll (state : Environment × Files) (requests : List Request) :
    Keeps state (afterAll state requests) := by
  induction requests generalizing state with
  | nil => exact .refl state
  | cons request requests ih => exact (keeps_after state request).trans (ih (after state request))

end Request

/-- What comes of the requests to an environment, those that are refused and those that are not. -/
structure LeavesNoTrace (environment : Environment) (files : Files) : Prop where
  /-- Done in place, step by step, a delivery comes to what the environment itself answers. -/
  deliver_eq : ∀ event, (Stepwise.deliver event).outcome (environment, files) =
    settled (environment, files) (environment.deliver files event)
  /-- So does a change of the status. -/
  setStatus_eq : ∀ target, (Stepwise.setStatus target).outcome (environment, files) =
    settled (environment, files) ((environment.setStatus target).map
      fun (changed, transition) => (transition, changed, files))
  /-- An event is dropped if it is about another script or comes after the environment was disposed,
  and it is refused as `Refused` says; then everything is as before. If it is applied, it changes
  the part that its kind is about, and nothing else. -/
  delivered : ∀ event result after,
    (Stepwise.deliver event).outcome (environment, files) = (result, after) →
    (result ≠ .ok .applied → after = (environment, files)) ∧
    (result = .ok .applied → Concerned environment files event.news after.1 after.2) ∧
    (result = .ok .dropped ↔ event.script ≠ environment.id ∨ environment.disposed = true) ∧
    ∀ e, result = .error e ↔ event.script = environment.id ∧ environment.disposed = false ∧
      Refused environment event.news e
  /-- A change of the status is refused if it is not allowed or the environment was disposed. -/
  statusSet : ∀ target result after,
    (Stepwise.setStatus target).outcome (environment, files) = (result, after) →
    (∀ e, result = .error e → after = (environment, files)) ∧
    (∀ transition, result = .ok transition →
      Concerned environment files (.status target) after.1 after.2) ∧
    ((∃ e, result = .error e) ↔
      environment.disposed = true ∨ Status.clears? environment.status target = none)
  /-- Any requests come to the same as those of them that were granted. -/
  granted : ∀ requests,
    Request.afterAll (environment, files) (Request.granted (environment, files) requests) =
      Request.afterAll (environment, files) requests
  /-- Whatever is asked, the document keeps its script, its settings, its code, its line ends and
  whether it was edited. -/
  keeps : ∀ requests,
    Request.Keeps (environment, files) (Request.afterAll (environment, files) requests)

/-- **What is refused leaves no trace**, neither in the environment and its document nor in the
files of any script or in what the observers were told. -/
theorem refused_without_trace (environment : Environment) (files : Files) :
    LeavesNoTrace environment files := by
  refine ⟨fun event => Stepwise.outcome_deliver event environment files,
    fun target => Stepwise.outcome_setStatus target environment files, ?_, ?_,
    Request.afterAll_granted _, Request.keeps_afterAll _⟩
  · intro event result after houtcome
    have h := delivered_outcome environment files event
    rw [houtcome] at h
    cases h with
    | dropped h =>
      have hnot : ∀ e, ¬ (event.script = environment.id ∧ environment.disposed = false ∧
          Refused environment event.news e) := by
        rintro e ⟨hscript, hlive, -⟩
        simp [hscript, hlive] at h
      simp [h, hnot]
    | @refused hscript hlive reason h =>
      have hunique : ∀ e, Refused environment event.news e ↔ reason = e := fun e =>
        ⟨h.unique, fun he => he ▸ h⟩
      simp [hscript, hlive, hunique]
    | applied hscript hlive hnot h => simp [h, hscript, hlive, hnot]
  · intro target result after houtcome
    have h := statusSet_outcome environment files target
    rw [houtcome] at h
    cases h with
    | disposed h => simp [h]
    | refused hlive h => simp [h]
    | changed hlive hclears transition h => simp [h, hlive, hclears]

/-- The second change of the batch cannot be made, so the file is not even entered. -/
example :
    let environment := ofDocument { id := ⟨7⟩, name := [] }
    let changes : List Change := [⟨⟨0, 0⟩, ⟨0, 1⟩, []⟩, ⟨⟨1, 0⟩, ⟨1, 0⟩, ['y']⟩]
    (Stepwise.deliver ⟨⟨7⟩, .file (.modified ['a'] ['x'] changes)⟩).outcome (environment, {}) =
      (.error (.edit (.lineOutOfRange 1 1)), environment, {}) := rfl

end ScriptDesk.Environment
