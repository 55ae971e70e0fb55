import ScriptDesk.Proofs.Environment.Delivery

/-!
# Replaying the notices of an environment

An observer keeps a `Picture` of an environment: it takes each notice it is sent into account
(`Picture.see`), and nothing else. A step of an environment tells all it does if an observer whose
picture was right has a right picture again after the notices of that step (`Tells`). Applying an
event and setting the status do so (`exists_tells_afterEvent`, `exists_tells_setStatus`), and steps
that do can be put together (`Tells.trans`). A step that is refused, or that changes nothing, sends
no notice.

The changes of the status that are sent lead from one to the next (`Status.Leads`).
-/

namespace ScriptDesk

/-- The changes lead from one status to another: each begins where the one before it ended, and is
an allowed one to another status. -/
def Status.Leads : (source : Status) → List (Status × Status) → (target : Status) → Prop
  | source, [], target => target = source
  | source, change :: later, target =>
    change.1 = source ∧ change.1 ≠ change.2 ∧ (clears? change.1 change.2).isSome ∧
      Leads change.2 later target

theorem Status.Leads.append {changes later : List (Status × Status)} :
    ∀ {source middle target : Status}, Leads source changes middle → Leads middle later target →
      Leads source (changes ++ later) target := by
  induction changes with
  | nil =>
    intro source middle target h hlater
    cases h
    exact hlater
  | cons change changes ih =>
    rintro source middle target ⟨hsource, hne, hallowed, h⟩ hlater
    exact ⟨hsource, hne, hallowed, ih h hlater⟩

namespace Notice

/-- The change of the status that a notice is about. -/
def change? : Notice → Option (Status × Status)
  | .statusChanged source target => some (source, target)
  | _ => none

/-- The response about a file that a notice is about. -/
def response? : Notice → Option Response
  | .fileApplied response => some response
  | _ => none

end Notice

/-- What an observer knows of an environment. -/
structure Picture where
  /-- How far the execution is. -/
  status : Status := .idle
  /-- The pieces of output in order. -/
  output : List Text := []
  /-- The latest diagnostics. -/
  diagnostics : Option Json.Value := none
  /-- The name of the document. -/
  name : Text
  /-- The tracked files, of which only those of the script matter. -/
  files : Files := {}

namespace Picture

/-- The picture of a script's environment after a notice. -/
def see (script : ScriptId) (picture : Picture) : Notice → Picture
  | .statusChanged _ target => { picture with status := target }
  | .resultsCleared => { picture with output := [] }
  | .outputAppended output => { picture with output := picture.output ++ [output] }
  | .diagnosticsUpdated diagnostics => { picture with diagnostics := some diagnostics }
  | .fileApplied response => { picture with files := picture.files.act (.apply script response) }
  | .documentRenamed name => { picture with name }

/-- The picture after notices in order. -/
def seeAll (script : ScriptId) (picture : Picture) (notices : List Notice) : Picture :=
  notices.foldl (see script) picture

/-- The picture is right. -/
structure Shows (picture : Picture) (environment : Environment) (files : Files) : Prop where
  /-- The status is that of the environment. -/
  status_eq : picture.status = environment.status
  /-- So is the output. -/
  output_eq : picture.output = environment.output
  /-- So are the diagnostics. -/
  diagnostics_eq : picture.diagnostics = environment.diagnostics
  /-- The name is that of the document. -/
  name_eq : picture.name = environment.document.name
  /-- The tracked files of the script are the same. -/
  files_eq : picture.files.ofScript environment.id = files.ofScript environment.id

theorem seeAll_append (script : ScriptId) (picture : Picture) (notices later : List Notice) :
    picture.seeAll script (notices ++ later) =
      (picture.seeAll script notices).seeAll script later :=
  List.foldl_append

/-- The files in a picture are what the responses that were told make of them. -/
theorem ofScript_seeAll (script : ScriptId) (notices : List Notice) :
    ∀ picture : Picture, (picture.seeAll script notices).files.ofScript script =
      (notices.filterMap Notice.response?).foldl Files.afterResponse
        (picture.files.ofScript script) := by
  induction notices with
  | nil => intro picture; rfl
  | cons notice notices ih =>
    intro picture
    refine (ih (picture.see script notice)).trans ?_
    cases notice with
    | fileApplied response =>
      have hfiles := Files.ofScript_act_apply picture.files script script response
      rw [if_pos rfl] at hfiles
      simp only [see, hfiles]
      rfl
    | _ => rfl

end Picture

namespace Environment

/-- In a step the notices were sent, and they tell all of it. -/
structure Tells (before after : Environment) (files files' : Files) (notices : List Notice) :
    Prop where
  /-- The script is the same. -/
  id_eq : after.id = before.id
  /-- These are the notices that were sent. -/
  log_eq : after.log = before.log ++ notices
  /-- With them a right picture is right again. -/
  shows : ∀ {picture : Picture}, picture.Shows before files →
    (picture.seeAll before.id notices).Shows after files'
  /-- The changes of the status lead from what it was to what it is. -/
  leads : before.status.Leads (notices.filterMap Notice.change?) after.status

theorem Tells.refl (environment : Environment) (files : Files) :
    environment.Tells environment files files [] :=
  ⟨rfl, (List.append_nil _).symm, fun h => h, rfl⟩

theorem Tells.trans {first second third : Environment} {files files' files'' : Files}
    {notices later : List Notice} (h : first.Tells second files files' notices)
    (hlater : second.Tells third files' files'' later) :
    first.Tells third files files'' (notices ++ later) where
  id_eq := hlater.id_eq.trans h.id_eq
  log_eq := by rw [hlater.log_eq, h.log_eq, List.append_assoc]
  shows hpicture := by
    rw [Picture.seeAll_append, ← h.id_eq]
    refine hlater.shows ?_
    rw [h.id_eq]
    exact h.shows hpicture
  leads := by
    rw [List.filterMap_append]
    exact h.leads.append hlater.leads

/-- The files of the script are what the responses that were told make of them. -/
theorem Tells.files_eq {before after : Environment} {files files' : Files} {notices : List Notice}
    (h : before.Tells after files files' notices) :
    files'.ofScript before.id = (notices.filterMap Notice.response?).foldl Files.afterResponse
      (files.ofScript before.id) := by
  let picture : Picture :=
    ⟨before.status, before.output, before.diagnostics, before.document.name, files⟩
  have hpicture : picture.Shows before files := ⟨rfl, rfl, rfl, rfl, rfl⟩
  have hfiles := (h.shows hpicture).files_eq
  rw [h.id_eq, Picture.ofScript_seeAll] at hfiles
  exact hfiles.symm

/-- The files of other scripts, and whether the environment is disposed, are not told. -/
theorem tells_of_same {environment : Environment} {files files' : Files} (disposed : Bool)
    (hfiles : files'.ofScript environment.id = files.ofScript environment.id) :
    environment.Tells { environment with disposed } files files' [] where
  id_eq := rfl
  log_eq := (List.append_nil _).symm
  shows h :=
    ⟨h.status_eq, h.output_eq, h.diagnostics_eq, h.name_eq, h.files_eq.trans hfiles.symm⟩
  leads := rfl

/-- A change of the status is told, and that it clears the results. -/
theorem exists_tells_changeStatus {environment changed : Environment} {target : Status}
    {transition : Transition} (h : environment.changeStatus target = .ok (changed, transition))
    (files : Files) : ∃ notices, environment.Tells changed files files notices := by
  simp only [changeStatus] at h
  cases hclears : Status.clears? environment.status target with
  | none =>
    rw [hclears] at h
    cases h
  | some cleared =>
    rw [hclears] at h
    have hallowed : (Status.clears? environment.status target).isSome := by rw [hclears]; rfl
    simp only at h
    split at h
    · cases h
      exact ⟨[], .refl environment files⟩
    · rename_i hne
      have hleads : environment.status.Leads [(environment.status, target)] target :=
        ⟨rfl, hne, hallowed, rfl⟩
      split at h
      · cases h
        refine ⟨[.statusChanged environment.status target, .resultsCleared], rfl, ?_, ?_, hleads⟩
        · simp [emit]
        · exact fun hpicture =>
            ⟨rfl, rfl, hpicture.diagnostics_eq, hpicture.name_eq, hpicture.files_eq⟩
      · cases h
        refine ⟨[.statusChanged environment.status target], rfl, rfl, ?_, hleads⟩
        exact fun hpicture =>
          ⟨rfl, hpicture.output_eq, hpicture.diagnostics_eq, hpicture.name_eq, hpicture.files_eq⟩

/-- A document that goes with its file is told by its new name. -/
theorem exists_tells_renameDocument (environment : Environment) (files : Files)
    (name newName : Text) :
    ∃ notices, environment.Tells (environment.renameDocument name newName) files files notices := by
  unfold renameDocument
  split
  · rename_i document _
    refine ⟨[.documentRenamed document.name], rfl, rfl, ?_, rfl⟩
    exact fun h => ⟨h.status_eq, h.output_eq, h.diagnostics_eq, rfl, h.files_eq⟩
  · exact ⟨[], .refl environment files⟩

/-- What a response about a file does is told by the response. -/
theorem tells_emit_fileApplied (environment : Environment) (files : Files) (response : Response) :
    environment.Tells (environment.emit (.fileApplied response)) files
      (files.act (.apply environment.id response)) [.fileApplied response] where
  id_eq := rfl
  log_eq := rfl
  shows {picture} h := by
    refine ⟨h.status_eq, h.output_eq, h.diagnostics_eq, h.name_eq, ?_⟩
    have hpicture := Files.ofScript_act_apply picture.files environment.id environment.id response
    have hfiles := Files.ofScript_act_apply files environment.id environment.id response
    rw [h.files_eq] at hpicture
    exact hpicture.trans hfiles.symm
  leads := rfl

theorem exists_tells_applyResponse (environment : Environment) (files : Files)
    (response : Response) :
    ∃ notices, environment.Tells (environment.applyResponse response) files
      (files.act (.apply environment.id response)) notices := by
  have hrenamed : ∀ renamed, (∃ notices, environment.Tells renamed files files notices) →
      ∃ notices, environment.Tells (renamed.emit (.fileApplied response)) files
        (files.act (.apply environment.id response)) notices := by
    rintro renamed ⟨notices, h⟩
    have hlater := renamed.tells_emit_fileApplied files response
    rw [h.id_eq] at hlater
    exact ⟨_, h.trans hlater⟩
  unfold applyResponse
  cases response with
  | renamed name newName =>
    exact hrenamed _ (environment.exists_tells_renameDocument files name newName)
  | modified _ _ _ => exact hrenamed _ ⟨[], .refl environment files⟩
  | opened _ => exact hrenamed _ ⟨[], .refl environment files⟩

theorem exists_tells_afterNews (environment : Environment) (files : Files) (news : News) :
    ∃ notices, environment.Tells (environment.afterNews files news).1 files
      (environment.afterNews files news).2 notices := by
  cases news with
  | output text =>
    cases text with
    | none => exact ⟨[], .refl environment files⟩
    | some text =>
      simp only [afterNews, applyNews]
      cases text.isEmpty with
      | true => exact ⟨[], .refl environment files⟩
      | false =>
        refine ⟨[.outputAppended text], rfl, rfl, fun h => ?_, rfl⟩
        exact ⟨h.status_eq, congrArg (· ++ [text]) h.output_eq, h.diagnostics_eq, h.name_eq,
          h.files_eq⟩
  | diagnostics value =>
    refine ⟨[.diagnosticsUpdated value], rfl, rfl, fun h => ?_, rfl⟩
    exact ⟨h.status_eq, h.output_eq, rfl, h.name_eq, h.files_eq⟩
  | status target =>
    simp only [afterNews, applyNews]
    cases hchange : environment.changeStatus target with
    | error e => exact ⟨[], .refl environment files⟩
    | ok result => exact exists_tells_changeStatus hchange files
  | file response =>
    have htells := environment.exists_tells_applyResponse files response
    simp only [afterNews, applyNews]
    simp only [Files.act] at htells
    cases happly : files.apply environment.id response with
    | error e => exact ⟨[], .refl environment files⟩
    | ok result =>
      rw [happly] at htells
      exact htells

/-- What an event does is told; an event that is dropped or refused does nothing. -/
theorem exists_tells_afterEvent (environment : Environment) (files : Files) (event : Event) :
    ∃ notices, environment.Tells (environment.afterEvent files event).1 files
      (environment.afterEvent files event).2 notices := by
  rw [afterEvent_eq]
  split
  · exact ⟨[], .refl environment files⟩
  · exact exists_tells_afterNews environment files event.news

/-- So is what many events do. -/
theorem exists_tells_deliverAll (events : List Event) :
    ∀ (environment : Environment) (files : Files), ∃ notices,
      environment.Tells (environment.deliverAll files events).1 files
        (environment.deliverAll files events).2 notices := by
  induction events with
  | nil => exact fun environment files => ⟨[], .refl environment files⟩
  | cons event events ih =>
    intro environment files
    obtain ⟨notices, h⟩ := environment.exists_tells_afterEvent files event
    obtain ⟨later, hlater⟩ := ih (environment.afterEvent files event).1
      (environment.afterEvent files event).2
    exact ⟨notices ++ later, h.trans hlater⟩

/-- So is what is done to the status from outside. -/
theorem exists_tells_setStatus {environment changed : Environment} {target : Status}
    {transition : Transition} (h : environment.setStatus target = .ok (changed, transition))
    (files : Files) : ∃ notices, environment.Tells changed files files notices := by
  unfold setStatus at h
  split at h
  · cases h
  · exact exists_tells_changeStatus h files

end Environment

end ScriptDesk
