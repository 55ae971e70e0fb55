import ScriptDesk.Environment
import ScriptDesk.Proofs.Files.Frame

/-!
# Delivering many events

`afterEvent` is an environment and the tracked files after one event, and `deliverAll` after many;
events that cannot be applied are skipped. News that are applied change the part they are about and
no other (`Concerned`). So whatever is delivered, the environment keeps its identity
(`sameIdentity_deliverAll`) and only its own script's files change (`ofScript_deliverAll_of_ne`). Of
the files only these matter for the outcome (`outcome_congr`), and of the events only those about
the script (`outcome_filter`). So environments with different identities do not disturb one another.
-/

namespace ScriptDesk

namespace Environment

/-- The environment and the tracked files after an event. -/
def afterEvent (environment : Environment) (files : Files) (event : Event) : Environment × Files :=
  match environment.deliver files event with
  | .ok (_, changed) => changed
  | .error _ => (environment, files)

/-- The environment and the tracked files after events in order. -/
def deliverAll (environment : Environment) (files : Files) : List Event → Environment × Files
  | [] => (environment, files)
  | event :: events =>
    let (environment, files) := environment.afterEvent files event
    environment.deliverAll files events

/-- What events make of an environment and the files of its script. -/
def outcome (environment : Environment) (files : Files) (events : List Event) :
    Environment × Table Text TrackedFile :=
  let result := environment.deliverAll files events
  (result.1, result.2.ofScript environment.id)

theorem deliverAll_cons (environment : Environment) (files : Files) (event : Event)
    (events : List Event) :
    environment.deliverAll files (event :: events) =
      (environment.afterEvent files event).1.deliverAll (environment.afterEvent files event).2
        events :=
  rfl

/-! ### The identity of an environment -/

/-- The script, that of the document, and whether the environment is disposed are the same. -/
structure SameIdentity (before after : Environment) : Prop where
  /-- The script is the same. -/
  id_eq : after.id = before.id
  /-- The script of the document is the same. -/
  document_eq : after.document.id = before.document.id
  /-- The environment is disposed if it was. -/
  disposed_eq : after.disposed = before.disposed

theorem SameIdentity.refl (environment : Environment) : environment.SameIdentity environment :=
  ⟨rfl, rfl, rfl⟩

theorem SameIdentity.trans {first second third : Environment} (h : first.SameIdentity second)
    (hlater : second.SameIdentity third) : first.SameIdentity third :=
  ⟨hlater.id_eq.trans h.id_eq, hlater.document_eq.trans h.document_eq,
    hlater.disposed_eq.trans h.disposed_eq⟩

/-- A change of the status concerns the status and the output, and observers may be told. -/
theorem eq_of_changeStatus {environment changed : Environment} {target : Status}
    {transition : Transition} (h : environment.changeStatus target = .ok (changed, transition)) :
    ∃ status output notices,
      changed = { environment with status, output, log := environment.log ++ notices } := by
  simp only [changeStatus] at h
  split at h
  · cases h
  · split at h
    · cases h
      exact ⟨_, _, [], by rw [List.append_nil]⟩
    · split at h
      · cases h
        exact ⟨target, [], [.statusChanged environment.status target, .resultsCleared],
          by simp [emit]⟩
      · cases h
        exact ⟨target, environment.output, [.statusChanged environment.status target], rfl⟩

theorem sameIdentity_of_changeStatus {environment changed : Environment} {target : Status}
    {transition : Transition} (h : environment.changeStatus target = .ok (changed, transition)) :
    environment.SameIdentity changed := by
  obtain ⟨_, _, _, rfl⟩ := eq_of_changeStatus h
  exact ⟨rfl, rfl, rfl⟩

theorem sameIdentity_of_setStatus {environment changed : Environment} {target : Status}
    {transition : Transition} (h : environment.setStatus target = .ok (changed, transition)) :
    environment.SameIdentity changed := by
  unfold setStatus at h
  split at h
  · cases h
  · exact sameIdentity_of_changeStatus h

/-! ### What news are about -/

/-- What news may make of an environment and the tracked files: only the part they are about is
changed, and the observers are told more. -/
inductive Concerned (environment : Environment) (files : Files) :
    News → Environment → Files → Prop
  /-- Output is about the output. -/
  | output (text : Option Text) (output : List Text) {log : List Notice}
      (hlog : environment.log <+: log) :
      Concerned environment files (.output text) { environment with output, log } files
  /-- Diagnostics are about the diagnostics. -/
  | diagnostics (value : Json.Value) (diagnostics : Option Json.Value) {log : List Notice}
      (hlog : environment.log <+: log) :
      Concerned environment files (.diagnostics value) { environment with diagnostics, log } files
  /-- A status is about the status and about the output, too. -/
  | status (target status : Status) (output : List Text) {log : List Notice}
      (hlog : environment.log <+: log) :
      Concerned environment files (.status target) { environment with status, output, log } files
  /-- A response is about the script's files and about the path and the name of the document. -/
  | file (response : Response) (path : Option Path) (name : Text) {log : List Notice}
      {files' : Files} (hlog : environment.log <+: log)
      (hothers : ∀ script, script ≠ environment.id →
        files'.scripts.get? script = files.scripts.get? script) :
      Concerned environment files (.file response)
        { environment with document := { environment.document with path, name }, log } files'

theorem concerned_of_changeStatus {environment changed : Environment} {target : Status}
    {transition : Transition} (h : environment.changeStatus target = .ok (changed, transition))
    (files : Files) : Concerned environment files (.status target) changed files := by
  obtain ⟨status, output, notices, rfl⟩ := eq_of_changeStatus h
  exact .status target status output (List.prefix_append _ notices)

/-- A response takes the document along, if at all, by its path and its name. -/
theorem concerned_applyResponse (environment : Environment) {files files' : Files}
    (hothers : ∀ script, script ≠ environment.id →
      files'.scripts.get? script = files.scripts.get? script) (response : Response) :
    Concerned environment files (.file response) (environment.applyResponse response) files' := by
  have hlog : ∀ notices, environment.log <+: environment.log ++ notices := List.prefix_append _
  have hstays : Concerned environment files (.file response)
      (environment.emit (.fileApplied response)) files' :=
    .file response environment.document.path environment.document.name (hlog _) hothers
  cases response with
  | modified name buffer changes => exact hstays
  | opened name => exact hstays
  | renamed name newName =>
    simp only [applyResponse, renameDocument, renamedDocument]
    cases environment.document.path with
    | none => exact hstays
    | some path =>
      by_cases hname : Path.fileName? path = some name
      · simp only [hname, if_true]
        exact .file _ (some (Path.withFileName path newName)) _
          ((hlog _).trans (List.prefix_append _ _)) hothers
      · simp only [hname, if_false]
        exact hstays

theorem concerned_of_applyNews {environment after : Environment} {files files' : Files}
    {news : News} (h : environment.applyNews files news = .ok (after, files')) :
    Concerned environment files news after files' := by
  cases news with
  | output text =>
    cases text with
    | none =>
      cases h
      exact .output none environment.output List.prefix_rfl
    | some text =>
      simp only [applyNews] at h
      split at h
      · cases h
        exact .output (some text) environment.output List.prefix_rfl
      · cases h
        exact .output (some text) (environment.output ++ [text]) (List.prefix_append _ _)
  | diagnostics value =>
    cases h
    exact .diagnostics value (some value) (List.prefix_append _ _)
  | status target =>
    simp only [applyNews] at h
    cases hstatus : environment.changeStatus target with
    | error e => rw [hstatus] at h; cases h
    | ok result =>
      rw [hstatus] at h
      cases h
      exact concerned_of_changeStatus hstatus files
  | file response =>
    simp only [applyNews, Files.apply_eq] at h
    cases happly : Files.applyTo (files.ofScript environment.id) response with
    | error e => rw [happly] at h; cases h
    | ok result =>
      rw [happly] at h
      cases h
      exact concerned_applyResponse environment
        (fun script hne => Table.get?_set_of_ne files.scripts hne result.1) response

/-! ### One event -/

/-- The environment and its script's files after news. -/
def afterNews (environment : Environment) (files : Files) (news : News) : Environment × Files :=
  match environment.applyNews files news with
  | .ok changed => changed
  | .error _ => (environment, files)

/-- An event about the script is applied unless the environment is disposed; others are dropped. -/
theorem afterEvent_eq (environment : Environment) (files : Files) (event : Event) :
    environment.afterEvent files event =
      if event.script ≠ environment.id ∨ environment.disposed then (environment, files)
      else environment.afterNews files event.news := by
  unfold afterEvent deliver afterNews
  by_cases h : event.script ≠ environment.id ∨ environment.disposed
  · rw [if_pos h, if_pos h]
  · rw [if_neg h, if_neg h]
    cases environment.applyNews files event.news with
    | ok changed => rfl
    | error e => rfl

theorem afterEvent_of_ne {environment : Environment} {event : Event}
    (h : event.script ≠ environment.id) (files : Files) :
    environment.afterEvent files event = (environment, files) := by
  rw [afterEvent_eq, if_pos (.inl h)]

/-- News leave the identity of an environment and the files of other scripts. -/
theorem frame_of_applyNews {environment changed : Environment} {files files' : Files} {news : News}
    (h : environment.applyNews files news = .ok (changed, files')) :
    environment.SameIdentity changed ∧
      ∀ script, script ≠ environment.id → files'.ofScript script = files.ofScript script := by
  cases concerned_of_applyNews h with
  | output | diagnostics | status => exact ⟨⟨rfl, rfl, rfl⟩, fun _ _ => rfl⟩
  | file response path name hlog hothers =>
    refine ⟨⟨rfl, rfl, rfl⟩, fun script hne => ?_⟩
    unfold Files.ofScript
    rw [hothers script hne]

/-- Of the tracked files only those of the script matter for the outcome. -/
theorem afterNews_congr (environment : Environment) {files files' : Files}
    (h : files.ofScript environment.id = files'.ofScript environment.id) (news : News) :
    (environment.afterNews files news).1 = (environment.afterNews files' news).1 ∧
      (environment.afterNews files news).2.ofScript environment.id =
        (environment.afterNews files' news).2.ofScript environment.id := by
  cases news with
  | output text =>
    cases text with
    | none => exact ⟨rfl, h⟩
    | some text =>
      simp only [afterNews, applyNews]
      cases text.isEmpty with
      | true => exact ⟨rfl, h⟩
      | false => exact ⟨rfl, h⟩
  | diagnostics value => exact ⟨rfl, h⟩
  | status target =>
    simp only [afterNews, applyNews]
    cases environment.changeStatus target with
    | error e => exact ⟨rfl, h⟩
    | ok result => exact ⟨rfl, h⟩
  | file response =>
    simp only [afterNews, applyNews, Files.apply]
    rw [← h]
    cases Files.applyTo (files.ofScript environment.id) response with
    | error e => exact ⟨rfl, h⟩
    | ok result =>
      refine ⟨rfl, ?_⟩
      have hset := Files.ofScript_setScript files environment.id environment.id result.1
      have hset' := Files.ofScript_setScript files' environment.id environment.id result.1
      rw [if_pos rfl] at hset hset'
      exact hset.trans hset'.symm

theorem frame_afterEvent (environment : Environment) (files : Files) (event : Event) :
    environment.SameIdentity (environment.afterEvent files event).1 ∧
      ∀ script, script ≠ environment.id →
        (environment.afterEvent files event).2.ofScript script = files.ofScript script := by
  rw [afterEvent_eq]
  split
  · exact ⟨.refl environment, fun _ _ => rfl⟩
  · unfold afterNews
    split
    · rename_i changed hnews
      exact frame_of_applyNews hnews
    · exact ⟨.refl environment, fun _ _ => rfl⟩

theorem afterEvent_congr (environment : Environment) {files files' : Files}
    (h : files.ofScript environment.id = files'.ofScript environment.id) (event : Event) :
    (environment.afterEvent files event).1 = (environment.afterEvent files' event).1 ∧
      (environment.afterEvent files event).2.ofScript environment.id =
        (environment.afterEvent files' event).2.ofScript environment.id := by
  rw [afterEvent_eq, afterEvent_eq]
  split
  · exact ⟨rfl, h⟩
  · exact afterNews_congr environment h event.news

/-! ### Many events -/

theorem deliverAll_append (events later : List Event) :
    ∀ (environment : Environment) (files : Files),
      environment.deliverAll files (events ++ later) =
        (environment.deliverAll files events).1.deliverAll
          (environment.deliverAll files events).2 later := by
  induction events with
  | nil => intro environment files; rfl
  | cons event events ih =>
    intro environment files
    rw [List.cons_append, deliverAll_cons, deliverAll_cons]
    exact ih _ _

/-- Whatever is delivered, an environment keeps its identity. -/
theorem sameIdentity_deliverAll (events : List Event) :
    ∀ (environment : Environment) (files : Files),
      environment.SameIdentity (environment.deliverAll files events).1 := by
  induction events with
  | nil => intro environment files; exact .refl environment
  | cons event events ih =>
    intro environment files
    exact (frame_afterEvent environment files event).1.trans (ih _ _)

theorem id_deliverAll (events : List Event) (environment : Environment) (files : Files) :
    (environment.deliverAll files events).1.id = environment.id :=
  (sameIdentity_deliverAll events environment files).id_eq

/-- The files of other scripts stay as they are. -/
theorem ofScript_deliverAll_of_ne (events : List Event) :
    ∀ (environment : Environment) (files : Files) {script : ScriptId}, script ≠ environment.id →
      (environment.deliverAll files events).2.ofScript script = files.ofScript script := by
  induction events with
  | nil => intro environment files script _; rfl
  | cons event events ih =>
    intro environment files script hne
    obtain ⟨hsame, hfiles⟩ := frame_afterEvent environment files event
    rw [deliverAll_cons, ih _ _ (by rw [hsame.id_eq]; exact hne)]
    exact hfiles script hne

/-! ### What events come to -/

theorem outcome_append (environment : Environment) (files : Files) (events later : List Event) :
    environment.outcome files (events ++ later) =
      (environment.deliverAll files events).1.outcome (environment.deliverAll files events).2
        later := by
  unfold outcome
  rw [deliverAll_append, id_deliverAll events]

/-- Of the tracked files only those of the script matter for what events come to. -/
theorem outcome_congr (events : List Event) :
    ∀ (environment : Environment) {files files' : Files},
      files.ofScript environment.id = files'.ofScript environment.id →
        environment.outcome files events = environment.outcome files' events := by
  induction events with
  | nil =>
    intro environment files files' h
    exact congrArg (environment, ·) h
  | cons event events ih =>
    intro environment files files' h
    obtain ⟨henvironment, hfiles⟩ := afterEvent_congr environment h event
    have hid := (frame_afterEvent environment files event).1.id_eq
    rw [← hid] at hfiles
    have hrest := ih (environment.afterEvent files event).1 hfiles
    unfold outcome at hrest ⊢
    rw [hid] at hrest
    rw [deliverAll_cons, deliverAll_cons, ← henvironment]
    exact hrest

/-- Events about other scripts make no difference. -/
theorem deliverAll_filter (events : List Event) :
    ∀ (environment : Environment) (files : Files),
      environment.deliverAll files (events.filter (·.script = environment.id)) =
        environment.deliverAll files events := by
  induction events with
  | nil => intro environment files; rfl
  | cons event events ih =>
    intro environment files
    by_cases h : event.script = environment.id
    · have hid := (frame_afterEvent environment files event).1.id_eq
      rw [List.filter_cons_of_pos (by simpa using h), deliverAll_cons, deliverAll_cons, ← hid]
      exact ih _ _
    · rw [List.filter_cons_of_neg (by simpa using h), deliverAll_cons, afterEvent_of_ne h]
      exact ih _ _

theorem outcome_filter (environment : Environment) (files : Files) (events : List Event) :
    environment.outcome files (events.filter (·.script = environment.id)) =
      environment.outcome files events := by
  unfold outcome
  rw [deliverAll_filter]

end Environment

end ScriptDesk
