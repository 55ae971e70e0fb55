import ScriptDesk.Proofs.Environment.Delivery
import ScriptDesk.Proofs.Path.Names

/-!
# Renaming the document's file

Among the events that are delivered only those that rename the document's own file concern the
document (`renames?`). The document then gets the path that the new name leads to from its directory
and the name that goes with it, and observers are told (`afterEvent_of_renames?`).

If the new name is a name, it becomes the file name and the document stays in its directory. Nobody
checks that, however. A text with a slash in it, an empty one and those made of dots lead elsewhere:
none of them is the file name afterwards. So documents stay in their directories as long as all new
names are names (`renamed_within_directory`).
-/

namespace ScriptDesk.Environment

/-- The new name that an event gives to the document's file, if it renames that. -/
def renames? (environment : Environment) (event : Event) : Option Text :=
  match event.news with
  | .file (.renamed name newName) =>
    if event.script = environment.id ∧ environment.disposed = false ∧
        environment.document.path.bind Path.fileName? = some name then some newName
    else none
  | _ => none

/-- What an event has to be to rename the document's file. -/
theorem renames?_eq_some_iff {environment : Environment} {event : Event} {newName : Text} :
    environment.renames? event = some newName ↔
      event.script = environment.id ∧ environment.disposed = false ∧ ∃ path name,
        environment.document.path = some path ∧ Path.fileName? path = some name ∧
          event.news = .file (.renamed name newName) := by
  obtain ⟨script, news⟩ := event
  unfold renames?
  constructor
  · intro h
    split at h
    · rename_i name other hnews
      split at h
      · rename_i hmatch
        cases h
        obtain ⟨hscript, hlive, hname⟩ := hmatch
        obtain ⟨path, hpath, hname⟩ := Option.bind_eq_some_iff.mp hname
        exact ⟨hscript, hlive, path, name, hpath, hname, hnews⟩
      · cases h
    · cases h
  · rintro ⟨hscript, hlive, path, name, hpath, hname, hnews⟩
    simp only at hnews
    subst hnews
    simp only
    rw [if_pos ⟨hscript, hlive, by rw [hpath]; exact hname⟩]

/-! ### One event -/

/-- An event that renames the document's file takes the document with it, and tells the
observers. -/
theorem afterEvent_of_renames? {environment : Environment} {event : Event} {newName : Text}
    (h : environment.renames? event = some newName) (files : Files) :
    ∃ path name, environment.document.path = some path ∧ Path.fileName? path = some name ∧
      (environment.afterEvent files event).1.document =
        environment.document.setPath (Path.withFileName path newName) ∧
      (environment.afterEvent files event).1.log = environment.log ++
        [.documentRenamed (Path.stem (Path.withFileName path newName)),
          .fileApplied (.renamed name newName)] := by
  obtain ⟨hscript, hlive, path, name, hpath, hname, hnews⟩ := renames?_eq_some_iff.mp h
  have hrenamed : renamedDocument environment.document name newName =
      some (environment.document.setPath (Path.withFileName path newName)) := by
    unfold renamedDocument
    rw [hpath]
    exact if_pos hname
  have hafter : (environment.afterEvent files event).1 =
      environment.applyResponse (.renamed name newName) := by
    rw [afterEvent_eq, if_neg (by simp [hscript, hlive]), hnews]
    rfl
  refine ⟨path, name, hpath, hname, ?_, ?_⟩
  · rw [hafter]
    simp only [applyResponse, renameDocument, hrenamed]
    rfl
  · rw [hafter]
    simp only [applyResponse, renameDocument, hrenamed, emit, List.append_assoc]
    rfl

theorem document_of_changeStatus {environment changed : Environment} {target : Status}
    {transition : Transition} (h : environment.changeStatus target = .ok (changed, transition)) :
    changed.document = environment.document := by
  obtain ⟨_, _, _, rfl⟩ := eq_of_changeStatus h
  rfl

theorem document_of_setStatus {environment changed : Environment} {target : Status}
    {transition : Transition} (h : environment.setStatus target = .ok (changed, transition)) :
    changed.document = environment.document := by
  unfold setStatus at h
  split at h
  · cases h
  · exact document_of_changeStatus h

/-- A response that renames another file, or none, leaves the document alone. -/
theorem document_applyResponse {environment : Environment} {response : Response}
    (h : ∀ name newName, response = .renamed name newName →
      environment.document.path.bind Path.fileName? ≠ some name) :
    (environment.applyResponse response).document = environment.document := by
  unfold applyResponse
  split
  · rename_i name newName
    have hnone : renamedDocument environment.document name newName = none := by
      unfold renamedDocument
      split
      · rfl
      · rename_i path hpath
        refine if_neg fun hname => h name newName rfl ?_
        rw [hpath]
        exact hname
    unfold renameDocument
    rw [hnone]
    rfl
  · rfl

/-- Other events leave the document as it is. -/
theorem document_afterEvent {environment : Environment} {event : Event}
    (h : environment.renames? event = none) (files : Files) :
    (environment.afterEvent files event).1.document = environment.document := by
  obtain ⟨script, news⟩ := event
  rw [afterEvent_eq]
  split
  · rfl
  · rename_i hlive
    simp only [ne_eq, not_or, Decidable.not_not, Bool.not_eq_true] at hlive
    obtain ⟨hscript, hlive⟩ := hlive
    unfold afterNews
    cases news with
    | output text =>
      cases text with
      | none => rfl
      | some text =>
        simp only [applyNews]
        cases text.isEmpty with
        | true => rfl
        | false => rfl
    | diagnostics value => rfl
    | status target =>
      simp only [applyNews]
      cases hstatus : environment.changeStatus target with
      | error e => rfl
      | ok result => exact document_of_changeStatus hstatus
    | file response =>
      simp only [applyNews, Files.apply]
      cases Files.applyTo (files.ofScript environment.id) response with
      | error e => rfl
      | ok result =>
        refine document_applyResponse ?_
        rintro name newName rfl hname
        simp only [renames?] at h
        rw [if_pos ⟨hscript, hlive, hname⟩] at h
        cases h

/-! ### Directories -/

/-- An event keeps the document in its directory if the new name that it gives, if any, is a
name. -/
theorem directory?_afterEvent {environment : Environment} {event : Event}
    (h : ∀ newName, environment.renames? event = some newName → Path.IsName newName)
    (files : Files) :
    (environment.afterEvent files event).1.document.directory? =
      environment.document.directory? := by
  cases hrenames : environment.renames? event with
  | none => rw [document_afterEvent hrenames]
  | some newName =>
    obtain ⟨path, name, hpath, hname, hdocument, -⟩ := afterEvent_of_renames? hrenames files
    rw [hdocument, Document.directory?, Document.directory?, hpath]
    exact (Path.withFileName_of_isName hname (h newName hrenames)).2

/-- Each new name that the events give to the document's file, one after the other, is a name. -/
def GivesNames (environment : Environment) (files : Files) : List Event → Prop
  | [] => True
  | event :: events =>
    (∀ newName, environment.renames? event = some newName → Path.IsName newName) ∧
      (environment.afterEvent files event).1.GivesNames
        (environment.afterEvent files event).2 events

theorem directory?_deliverAll (events : List Event) :
    ∀ {environment : Environment} {files : Files}, environment.GivesNames files events →
      (environment.deliverAll files events).1.document.directory? =
        environment.document.directory? := by
  induction events with
  | nil => intro environment files _; rfl
  | cons event events ih =>
    rintro environment files ⟨hfirst, hrest⟩
    rw [deliverAll_cons, ih hrest, directory?_afterEvent hfirst]

/-- **A renamed document stays in its directory if the new name is a name.** An event that renames
the document's file gives it the path that the new name leads to, and the observers are told the
stem of that path. The new name is the file name then if and only if it is a name; in this case the
directory is the one from before, and the observers are told the stem of the new name. So whatever
events are delivered, the document's directory never changes as long as all new names that they give
to its file are names. -/
theorem renamed_within_directory (environment : Environment) (files : Files) :
    (∀ event newName, environment.renames? event = some newName → ∃ path name,
      (environment.afterEvent files event).1.document = environment.document.setPath path ∧
        (environment.afterEvent files event).1.log = environment.log ++
          [.documentRenamed (Path.stem path), .fileApplied (.renamed name newName)] ∧
        (Path.fileName? path = some newName ↔ Path.IsName newName) ∧
        (Path.IsName newName → Path.parent? path = environment.document.directory? ∧
          Path.stem path = Path.stemOf newName)) ∧
    ∀ events, environment.GivesNames files events →
      (environment.deliverAll files events).1.document.directory? =
        environment.document.directory? := by
  refine ⟨fun event newName h => ?_, fun events => directory?_deliverAll events⟩
  obtain ⟨path, name, hpath, hname, hdocument, hlog⟩ := afterEvent_of_renames? h files
  refine ⟨Path.withFileName path newName, name, hdocument, hlog,
    Path.fileName?_withFileName_iff hname, fun hnew => ?_⟩
  obtain ⟨hfile, hparent⟩ := Path.withFileName_of_isName hname hnew
  refine ⟨?_, Path.stem_of_fileName? hfile⟩
  rw [hparent, Document.directory?, hpath]
  rfl

/-- An open script with a file. -/
def withFile : Environment :=
  ofDocument { id := ⟨7⟩, name := "a".toList, path := some "/home/a.spad".toList }

/-- An event that renames a file of that script. -/
def renamedFile (name newName : Text) : Event :=
  ⟨⟨7⟩, .file (.renamed name newName)⟩

/-- The file of that script is renamed, then another one, and then its file once more. -/
def renamedTwice : List Event :=
  [renamedFile "a.spad".toList "b.spad".toList, renamedFile "x.cs".toList "../x.cs".toList,
    renamedFile "b.spad".toList "c.d.spad".toList]

theorem renamed_within_directory_twice :
    withFile.GivesNames {} renamedTwice ∧
      (withFile.deliverAll {} renamedTwice).1.document.directory? = some "/home".toList ∧
      (withFile.afterEvent {} (renamedFile "a.spad".toList "b.spad".toList)).1.document.name =
        "b".toList := by
  have hnames : withFile.GivesNames {} renamedTwice := by
    refine ⟨fun newName h => ?_, fun newName h => ?_, fun newName h => ?_, trivial⟩
    · rw [show newName = "b.spad".toList from (Option.some.inj h).symm]
      decide
    · cases h
    · rw [show newName = "c.d.spad".toList from (Option.some.inj h).symm]
      decide
  obtain ⟨hrenamed, hdirectory⟩ := renamed_within_directory withFile {}
  obtain ⟨path, name, hdocument, -, -, hname⟩ :=
    hrenamed (renamedFile "a.spad".toList "b.spad".toList) "b.spad".toList rfl
  refine ⟨hnames, (hdirectory renamedTwice hnames).trans rfl, ?_⟩
  rw [hdocument]
  exact (hname (by decide)).2.trans rfl

/-- With a slash in the new name the document gets into another directory, and the new name is not
the file name. -/
theorem renamed_into_other_directory :
    let event := renamedFile "a.spad".toList "b/c.spad".toList
    let renamed := (withFile.afterEvent {} event).1.document
    withFile.renames? event = some "b/c.spad".toList ∧
      withFile.document.directory? = some "/home".toList ∧
      renamed.directory? = some "/home/b".toList ∧
      renamed.path.bind Path.fileName? = some "c.spad".toList :=
  ⟨rfl, rfl, rfl, rfl⟩

end ScriptDesk.Environment
