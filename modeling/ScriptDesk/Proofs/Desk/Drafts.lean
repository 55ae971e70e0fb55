import ScriptDesk.Proofs.Desk.Shares
import ScriptDesk.Proofs.Environment.Renaming
import ScriptDesk.Proofs.Path.Names

/-!
# Where drafts are saved

A draft is a document without a path. Whatever is done on a desk, a document that is a draft still
has the name that it was created with (`Document.KeepsDraft`, `keepsDrafts_workAll`): only with a
path there comes another name, and no document loses its path.

So a script that is saved for the first time goes to the path of its name in the directory for
scripts. What that means depends on the name, which may be any text (`first_save`). A name without a
slash becomes the file name, with the ending of script files, in that directory; and it is the name
of the document afterwards unless it is empty. A name with a slash leads elsewhere.
-/

namespace ScriptDesk

namespace Document

/-! ### Drafts -/

/-- If the document is a draft now it was one before, with the same name. -/
def KeepsDraft (before after : Document) : Prop :=
  after.path = none → before.path = none ∧ after.name = before.name

theorem KeepsDraft.refl (document : Document) : document.KeepsDraft document :=
  fun h => ⟨h, rfl⟩

theorem KeepsDraft.trans {first second third : Document} (h : first.KeepsDraft second)
    (hlater : second.KeepsDraft third) : first.KeepsDraft third := by
  intro hpath
  obtain ⟨hsecond, hname⟩ := hlater hpath
  obtain ⟨hfirst, hname'⟩ := h hsecond
  exact ⟨hfirst, hname.trans hname'⟩

theorem keepsDraft_of_path {after : Document} {path : Path} (h : after.path = some path)
    (before : Document) : before.KeepsDraft after := by
  intro hpath
  rw [hpath] at h
  cases h

theorem keepsDraft_act (document : Document) (action : Action) :
    document.KeepsDraft (document.act action) := by
  cases action with
  | code code => exact fun h => ⟨h, rfl⟩
  | namespaces namespaces => exact fun h => ⟨h, rfl⟩
  | kind kind => exact fun h => ⟨h, rfl⟩
  | path path => exact keepsDraft_of_path rfl document
  | save disk way =>
    rcases document.act_save disk way with hsame | ⟨path, ⟨-, hsaved⟩ | hsaved⟩
    · rw [hsame]
      exact .refl document
    · rw [hsaved]
      exact fun h => ⟨h, rfl⟩
    · rw [hsaved]
      exact keepsDraft_of_path rfl document

end Document

namespace Environment

theorem keepsDraft_afterEvent (environment : Environment) (files : Files) (event : Event) :
    environment.document.KeepsDraft (environment.afterEvent files event).1.document := by
  cases hrenames : environment.renames? event with
  | none =>
    rw [document_afterEvent hrenames]
    exact .refl _
  | some newName =>
    obtain ⟨path, name, -, -, hdocument, -⟩ := afterEvent_of_renames? hrenames files
    rw [hdocument]
    exact Document.keepsDraft_of_path rfl _

theorem keepsDraft_deliverAll (events : List Event) :
    ∀ (environment : Environment) (files : Files),
      environment.document.KeepsDraft (environment.deliverAll files events).1.document := by
  induction events with
  | nil => intro environment files; exact .refl _
  | cons event events ih =>
    intro environment files
    exact (keepsDraft_afterEvent environment files event).trans (ih _ _)

end Environment

namespace Desk

/-! ### Settings -/

theorem settings_dropSubscription (desk : Desk) (seat : Nat) :
    (desk.dropSubscription seat).settings = desk.settings := by
  unfold dropSubscription
  split <;> rfl

theorem settings_stopPump (desk : Desk) (seat : Nat) :
    (desk.stopPump seat).settings = desk.settings := by
  unfold stopPump
  split <;> rfl

theorem settings_dispose (desk : Desk) (seat : Nat) :
    (desk.dispose seat).settings = desk.settings := by
  unfold dispose
  split
  · rfl
  · split
    · exact settings_dropSubscription desk seat
    · exact (settings_stopPump _ seat).trans (settings_dropSubscription desk seat)

theorem settings_getOrCreate (desk : Desk) (document : Document) :
    (desk.getOrCreate document).1.settings = desk.settings := by
  unfold getOrCreate attach
  split
  · rfl
  · simp only
    split
    · rfl
    · exact (settings_stopPump _ _).trans (settings_dropSubscription _ _)

/-! ### What keeps drafts -/

/-- The settings stay, and every environment stays, its document being a draft of the same name if
it is one. -/
structure KeepsDrafts (desk desk' : Desk) : Prop where
  /-- The settings are the same. -/
  settings_eq : desk'.settings = desk.settings
  /-- The environment stays. -/
  stays : ∀ {seat environment}, desk.environment? seat = some environment →
    ∃ environment', desk'.environment? seat = some environment' ∧
      environment.document.KeepsDraft environment'.document

variable {desk desk' : Desk}

theorem keepsDrafts_of_eq (hsettings : desk'.settings = desk.settings)
    (henvironment : desk'.environment? = desk.environment?) : desk.KeepsDrafts desk' where
  settings_eq := hsettings
  stays {_ environment} h := ⟨environment, henvironment ▸ h, .refl _⟩

theorem KeepsDrafts.refl (desk : Desk) : desk.KeepsDrafts desk :=
  keepsDrafts_of_eq rfl rfl

theorem KeepsDrafts.trans {first second third : Desk} (h : first.KeepsDrafts second)
    (hlater : second.KeepsDrafts third) : first.KeepsDrafts third where
  settings_eq := hlater.settings_eq.trans h.settings_eq
  stays henvironment := by
    obtain ⟨environment', henvironment', hkeeps⟩ := h.stays henvironment
    obtain ⟨environment'', henvironment'', hkeeps'⟩ := hlater.stays henvironment'
    exact ⟨environment'', henvironment'', hkeeps.trans hkeeps'⟩

theorem keepsDrafts_modifySeat {seat : Nat} {change : Seat → Seat}
    (h : ∀ s, desk.seat? seat = some s →
      s.environment.document.KeepsDraft (change s).environment.document) :
    desk.KeepsDrafts (desk.modifySeat seat change) where
  settings_eq := rfl
  stays {other environment} henvironment := by
    obtain ⟨s, hs, rfl⟩ := exists_seat? henvironment
    unfold environment?
    rw [seat?_modifySeat]
    split
    · rename_i hother
      subst hother
      rw [hs]
      exact ⟨_, rfl, h s hs⟩
    · rw [hs]
      exact ⟨_, rfl, .refl _⟩

theorem keepsDrafts_getOrCreate (desk : Desk) (document : Document) :
    desk.KeepsDrafts (desk.getOrCreate document).1 where
  settings_eq := desk.settings_getOrCreate document
  stays {seat environment} h := by
    obtain ⟨s, hs, -⟩ := exists_seat? h
    refine ⟨environment, ?_, .refl _⟩
    rw [environment?_getOrCreate desk document (List.getElem?_eq_some_iff.mp hs).1]
    exact h

theorem keepsDrafts_dispose (desk : Desk) (seat : Nat) : desk.KeepsDrafts (desk.dispose seat) where
  settings_eq := desk.settings_dispose seat
  stays {other environment} h := by
    by_cases hother : other = seat
    · subst hother
      exact ⟨_, environment?_dispose h, .refl _⟩
    · exact ⟨environment, (environment?_dispose_of_ne desk hother).trans h, .refl _⟩

theorem keepsDrafts_remove (desk : Desk) (script : ScriptId) :
    desk.KeepsDrafts (desk.remove script).1 := by
  unfold remove unregister?
  cases desk.register.get? script with
  | none => exact .refl desk
  | some seat => exact (desk.keepsDrafts_dispose seat).trans (keepsDrafts_of_eq rfl rfl)

theorem keepsDrafts_closeTaken (taken : List (ScriptId × Nat)) :
    ∀ desk : Desk, desk.KeepsDrafts (closeTaken taken desk) := by
  induction taken with
  | nil => exact .refl
  | cons entry taken ih =>
    intro desk
    obtain ⟨script, seat⟩ := entry
    have hclosed : (desk.dispose seat).KeepsDrafts ((desk.dispose seat).forget script).1 :=
      keepsDrafts_of_eq rfl rfl
    exact ((desk.keepsDrafts_dispose seat).trans hclosed).trans (ih _)

theorem keepsDrafts_editDocument (desk : Desk) (script : ScriptId) {edit : Document → Document}
    (hedit : ∀ document : Document, document.KeepsDraft (edit document)) :
    desk.KeepsDrafts ((desk.editDocument script edit).toOption.getD desk) := by
  unfold editDocument
  cases desk.openSeat script with
  | error e => exact .refl desk
  | ok seat => exact keepsDrafts_modifySeat fun s _ => hedit _

theorem keepsDrafts_save (desk : Desk) (script : ScriptId) :
    desk.KeepsDrafts (desk.save script).2 := by
  have hdisk : ∀ disk, desk.KeepsDrafts { desk with disk } := fun _ => keepsDrafts_of_eq rfl rfl
  rcases desk.save_cases script with
    ⟨error, disk, hsave⟩ | ⟨seat, s, saved, disk, -, hs, hsaved, hsave⟩
  · rw [hsave]
    exact hdisk disk
  · rw [hsave]
    refine (hdisk disk).trans (keepsDrafts_modifySeat fun o ho => ?_)
    cases hs.symm.trans ho
    rcases saved_of_saveDocument hsaved with ⟨-, rfl⟩ | ⟨-, rfl⟩
    · exact Document.keepsDraft_of_path rfl _
    · exact fun h => ⟨h, rfl⟩

theorem keepsDrafts_setStatus (desk : Desk) (seat : Nat) (target : Status) :
    desk.KeepsDrafts (desk.setStatus seat target).2 := by
  unfold setStatus
  split
  · exact .refl desk
  · rename_i s hs
    split
    · exact .refl desk
    · rename_i changed transition hstatus
      refine keepsDrafts_modifySeat fun o ho => ?_
      cases hs.symm.trans ho
      change s.environment.document.KeepsDraft changed.document
      rw [Environment.document_of_setStatus hstatus]
      exact .refl _

theorem keepsDrafts_submit (desk : Desk) (script : ScriptId) (program : Text) :
    desk.KeepsDrafts (desk.submit script program).1 := by
  unfold submit
  split
  · exact .refl desk
  · exact keepsDrafts_of_eq rfl rfl

theorem keepsDrafts_run (desk : Desk) (script : ScriptId) :
    desk.KeepsDrafts (desk.run script).2 :=
  run_preserves (fun target _ _ h => h.trans (keepsDrafts_setStatus _ _ target))
    (fun program h => h.trans (keepsDrafts_submit _ script program)) (.refl desk)

theorem keepsDrafts_of_pumpStep? {seat : Nat} {refusal : Option Refusal}
    (h : desk.pumpStep? seat = some (desk', refusal)) : desk.KeepsDrafts desk' := by
  obtain ⟨_, _, _, -, -, hframe⟩ := frame_of_pumpStep? h
  obtain ⟨s, pump, pump', delivered, hadvance⟩ := advance_of_pumpStep? h
  refine ⟨congrArg (·.settings) hframe, fun {other environment} henvironment => ?_⟩
  obtain ⟨o, ho, rfl⟩ := exists_seat? henvironment
  unfold environment?
  rw [hadvance.seat?_eq]
  split
  · rename_i hother
    subst hother
    cases hadvance.attached.seat_eq.symm.trans ho
    exact ⟨_, rfl, Environment.keepsDraft_deliverAll _ _ _⟩
  · rw [ho]
    exact ⟨_, rfl, .refl _⟩

/-- Every operation keeps drafts. -/
theorem keepsDrafts_perform (desk : Desk) (operation : Operation) :
    desk.KeepsDrafts (desk.perform operation) := by
  cases operation with
  | create script name => exact desk.keepsDrafts_getOrCreate _
  | openFile path =>
    rcases perform_openFile desk path with hsame | ⟨document, hopened⟩
    · rw [hsame]
      exact .refl desk
    · rw [hopened]
      exact desk.keepsDrafts_getOrCreate document
  | close script =>
    rw [perform_close]
    exact desk.keepsDrafts_remove script
  | closeAll =>
    have hempty : desk.KeepsDrafts { desk with register := .empty } := keepsDrafts_of_eq rfl rfl
    exact hempty.trans (keepsDrafts_closeTaken _ _)
  | updateCode script code => exact desk.keepsDrafts_editDocument script fun _ h => ⟨h, rfl⟩
  | setNamespaces script namespaces =>
    exact desk.keepsDrafts_editDocument script fun _ h => ⟨h, rfl⟩
  | save script => exact desk.keepsDrafts_save script
  | run script => exact desk.keepsDrafts_run script
  | publish event => exact keepsDrafts_of_eq rfl rfl
  | pump seat =>
    simp only [perform]
    cases hstep : desk.pumpStep? seat with
    | none => exact .refl desk
    | some result => exact keepsDrafts_of_pumpStep? hstep
  | setRejection reasons => exact keepsDrafts_of_eq rfl rfl
  | setDisk disk => exact keepsDrafts_of_eq rfl rfl

/-- So does everything that is done. -/
theorem keepsDrafts_work (desk : Desk) (deed : Deed) : desk.KeepsDrafts (desk.work deed) := by
  cases deed with
  | perform operation => exact desk.keepsDrafts_perform operation
  | enter document => exact desk.keepsDrafts_getOrCreate document
  | submit script program => exact desk.keepsDrafts_submit script program
  | hold seat held => exact keepsDrafts_modifySeat fun s _ => .refl _
  | edit seat action => exact keepsDrafts_modifySeat fun s _ => Document.keepsDraft_act _ action
  | setStatus seat target => exact desk.keepsDrafts_setStatus seat target

theorem keepsDrafts_workAll (deeds : List Deed) :
    ∀ desk : Desk, desk.KeepsDrafts (desk.workAll deeds) := by
  induction deeds with
  | nil => exact .refl
  | cons deed deeds ih => exact fun desk => (desk.keepsDrafts_work deed).trans (ih _)

/-! ### The first save -/

theorem document?_setDocument {seat : Nat} {s : Seat} (h : desk.seat? seat = some s)
    (document : Document) : (desk.setDocument seat document).document? seat = some document := by
  unfold document? setDocument
  rw [seat?_modifySeat, if_pos rfl, h]
  rfl

/-- **Where a script is saved first.** A script is created, and then anything may be done as long as
it stays open and gets no path. When it is saved its path is that of its name in the directory for
scripts, and the document goes by the stem of this path. If and only if the name has no slash the
file has this name, with the ending of script files; then it is in the directory. The document keeps
its name if and only if it has no slash and is not empty. -/
theorem first_save {desk : Desk} {script : ScriptId} (hnew : desk.register.get? script = none)
    (name : Text) (later : List Deed) {last : Desk}
    (hlast : (desk.create script name).1.workAll later = last)
    (hopen : last.register.get? script = some (desk.create script name).2)
    (hdraft : ∀ document, last.document? (desk.create script name).2 = some document →
      document.path = none)
    {path : Path} {saved : Desk} (hsave : last.save script = (.ok path, saved)) :
    ∃ document, saved.document? (desk.create script name).2 = some document ∧
      document.path = some path ∧ document.name = Path.stem path ∧
      path = Path.forScript desk.settings.scriptsDirectory name ∧
      (Path.fileName? path = some (name ++ Path.scriptEnding) ↔ '/' ∉ name) ∧
      ('/' ∉ name → ∃ directory, Path.parent? path = some directory ∧
        Path.sameParts directory desk.settings.scriptsDirectory = true) ∧
      (document.name = name ↔ name ≠ [] ∧ '/' ∉ name) := by
  let draft : Document := { id := script, name }
  have hclosed : desk.register.get? draft.id = none := hnew
  -- what was created is kept up to now
  have hcreated : (desk.create script name).1.environment? (desk.create script name).2 =
      some (.ofDocument draft) := by
    unfold environment? create
    rw [(getOrCreate_new hclosed).2.2.2, if_pos (seat_getOrCreate_new hclosed)]
    rfl
  have hkeeps := (desk.keepsDrafts_getOrCreate draft).trans
    ((desk.create script name).1.keepsDrafts_workAll later)
  obtain ⟨environment, henvironment, hdocument⟩ :=
    ((desk.create script name).1.keepsDrafts_workAll later).stays hcreated
  rw [hlast] at hkeeps henvironment
  obtain ⟨s, hs, rfl⟩ := exists_seat? henvironment
  have hpath := hdraft s.environment.document (congrArg (Option.map _) hs)
  have hname : s.environment.document.name = name := (hdocument hpath).2
  -- and saved under its name
  rcases last.save_cases script with
    ⟨error, disk, hfailed⟩ | ⟨seat, o, written, disk, hseat, ho, hsaved, hdone⟩
  · rw [hsave] at hfailed
    cases hfailed
  · cases hopen.symm.trans hseat
    cases hs.symm.trans ho
    rw [hsave] at hdone
    cases hdone
    rcases saved_of_saveDocument hsaved with ⟨-, rfl⟩ | ⟨hsome, -⟩
    · have hwritten : s.environment.document.defaultPath last.settings.scriptsDirectory =
          Path.forScript desk.settings.scriptsDirectory name := by
        rw [Document.defaultPath, hname, hkeeps.settings_eq]
      rw [hwritten]
      have hunder : { last with disk }.seat? (desk.create script name).2 = some s := hs
      exact ⟨_, document?_setDocument hunder _, rfl, rfl, rfl, Path.fileName?_forScript_iff _,
        Path.exists_parent?_forScript _, Path.stem_forScript_iff _⟩
    · exact absurd hpath hsome

/-- A desk with a directory for scripts, on an empty disk. -/
def emptyDesk : Desk :=
  fresh { scriptsDirectory := "/s".toList } none {}

/-- The code is edited, a run is refused, and the kind is set. -/
def editing : List Deed :=
  [.perform (.updateCode ⟨7⟩ "x();".toList), .perform (.run ⟨7⟩), .edit 0 (.kind .statements)]

theorem first_save_edited :
    let last := (emptyDesk.create ⟨7⟩ "v1.0".toList).1.workAll editing
    (last.save ⟨7⟩).1 = .ok "/s/v1.0.spad".toList ∧
      ((last.save ⟨7⟩).2.document? 0).map (·.name) = some "v1.0".toList := by
  intro last
  have hnew : emptyDesk.register.get? ⟨7⟩ = none := rfl
  have hsave : last.save ⟨7⟩ = (.ok "/s/v1.0.spad".toList, (last.save ⟨7⟩).2) := rfl
  have hdraft : ∀ document, last.document? 0 = some document → document.path = none := by
    intro document h
    cases h
    rfl
  obtain ⟨document, hdocument, -, -, -, -, -, hname⟩ :=
    first_save hnew "v1.0".toList editing rfl rfl hdraft hsave
  refine ⟨rfl, ?_⟩
  rw [show (last.save ⟨7⟩).2.document? 0 = some document from hdocument]
  exact congrArg some (hname.mpr (by decide))

/-- **A name can lead elsewhere, or be lost.** With a slash in the name the file is in another
directory and the document has another name. And a script without a name is called by the ending of
its file. -/
theorem first_save_elsewhere :
    let (nested, seat) := emptyDesk.create ⟨7⟩ "a/b".toList
    let (unnamed, other) := emptyDesk.create ⟨7⟩ []
    ((nested.save ⟨7⟩).1 = .ok "/s/a/b.spad".toList ∧
        Path.parent? "/s/a/b.spad".toList = some "/s/a".toList ∧
        ((nested.save ⟨7⟩).2.document? seat).map (·.name) = some "b".toList) ∧
      (unnamed.save ⟨7⟩).1 = .ok "/s/.spad".toList ∧
        ((unnamed.save ⟨7⟩).2.document? other).map (·.name) = some ".spad".toList :=
  ⟨⟨rfl, rfl, rfl⟩, rfl, rfl⟩

end Desk

end ScriptDesk
