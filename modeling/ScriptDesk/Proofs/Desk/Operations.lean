import ScriptDesk.Desk.Session
import ScriptDesk.Proofs.Desk.Order
import ScriptDesk.Proofs.Document.Saving

/-!
# Working with scripts keeps the desk orderly

An `Operation` is what users do with the desk (create and open scripts, edit, save, run and close
them), or what happens meanwhile: events are published, pumps make steps, the backend changes its
mind about programs, and the disk changes. Each of them is done as a whole; one that is refused may
have come some way, as a run has that the backend rejects.

Whatever is done, the desk stays orderly (`Orderly.perform`, `orderly_performAll`).
`performAll_orderly` says what that means for those who work with it.
-/

namespace ScriptDesk.Desk

/-- What is done on the desk. -/
inductive Operation where
  /-- Open a new script. -/
  | create (script : ScriptId) (name : Text)
  /-- Read a script file and open it. -/
  | openFile (path : Path)
  /-- Close a script. -/
  | close (script : ScriptId)
  /-- Close all scripts. -/
  | closeAll
  /-- Change the code of an open script. -/
  | updateCode (script : ScriptId) (code : Text)
  /-- Change the namespaces of an open script. -/
  | setNamespaces (script : ScriptId) (namespaces : List Text)
  /-- Save an open script. -/
  | save (script : ScriptId)
  /-- Run an open script. -/
  | run (script : ScriptId)
  /-- Publish an event. -/
  | publish (event : Event)
  /-- Let the pump of a seat make a step. -/
  | pump (seat : Nat)
  /-- From now on the backend rejects programs for some reasons, or accepts them. -/
  | setRejection (reasons : Option (List Text))
  /-- Someone else changes the disk. -/
  | setDisk (disk : Disk)

/-- The operation closes a script, if that is open. -/
def Operation.closes (script : ScriptId) : Operation → Bool
  | .close other => other == script
  | .closeAll => true
  | _ => false

/-- The desk after an operation. -/
def perform (desk : Desk) : Operation → Desk
  | .create script name => (desk.create script name).1
  | .openFile path => ((desk.openFile path).map (·.1)).toOption.getD desk
  | .close script => (desk.close script).toOption.getD desk
  | .closeAll => desk.closeAll.1
  | .updateCode script code => (desk.updateCode script code).toOption.getD desk
  | .setNamespaces script namespaces => (desk.setNamespaces script namespaces).toOption.getD desk
  | .save script => (desk.save script).2
  | .run script => (desk.run script).2
  | .publish event => (desk.publish event).1
  | .pump seat => ((desk.pumpStep? seat).map (·.1)).getD desk
  | .setRejection reasons =>
    { desk with backend := desk.backend.map fun backend => { backend with rejection := reasons } }
  | .setDisk disk => { desk with disk }

/-- The desk after operations in order. -/
def performAll (desk : Desk) (operations : List Operation) : Desk :=
  operations.foldl perform desk

/-- A desk on which nothing was done. -/
def fresh (settings : Settings) (backend : Option Backend) (disk : Disk) : Desk :=
  { settings, backend, disk }

/-! ### What opens and closes nothing -/

theorem proceeds_editDocument (desk : Desk) (script : ScriptId) {edit : Document → Document}
    (hedit : ∀ document, (edit document).id = document.id) :
    desk.Proceeds ((desk.editDocument script edit).toOption.getD desk) := by
  unfold editDocument
  cases desk.openSeat script with
  | error e => exact .refl desk
  | ok seat => exact proceeds_modifySeat fun s _ => ⟨⟨rfl, hedit _, rfl⟩, rfl, rfl⟩

/-- A document without a path gets one in the directory for scripts when it is saved, and another
one keeps its path. -/
theorem saved_of_saveDocument {settings : Settings} {disk disk' : Disk} {document saved : Document}
    (h : saveDocument settings disk document = (.ok saved, disk')) :
    document.path = none ∧
        saved = { document.setPath (document.defaultPath settings.scriptsDirectory) with
          edited := false } ∨
      document.path ≠ none ∧ saved = { document with edited := false } := by
  unfold saveDocument at h
  split at h
  · rename_i hnew
    exact .inl ⟨Option.isNone_iff_eq_none.mp hnew, (Document.saved_of_saveTo h).1⟩
  · split at h
    · rename_i hsave
      cases h
      obtain ⟨path, hpath, rfl, -⟩ := Document.eq_of_save hsave
      exact .inr ⟨by rw [hpath]; exact Option.some_ne_none path, rfl⟩
    · cases h

theorem openSeat_eq_ok_iff {desk : Desk} {script : ScriptId} {seat : Nat} :
    desk.openSeat script = .ok seat ↔ desk.register.get? script = some seat := by
  unfold openSeat
  cases desk.register.get? script with
  | some place => simp
  | none => simp

/-- A script is saved where it is open, or an attempt to save it has changed the disk at most. -/
theorem save_cases (desk : Desk) (script : ScriptId) :
    (∃ error disk, desk.save script = (.error error, { desk with disk })) ∨
      ∃ seat s saved disk, desk.register.get? script = some seat ∧ desk.seat? seat = some s ∧
        saveDocument desk.settings desk.disk s.environment.document = (.ok saved, disk) ∧
        desk.save script =
          (.ok (saved.path.getD []), { desk with disk }.setDocument seat saved) := by
  unfold save
  cases hopen : desk.openSeat script with
  | error e => exact .inl ⟨e, desk.disk, rfl⟩
  | ok seat =>
    simp only
    cases hdocument : desk.document? seat with
    | none => exact .inl ⟨_, desk.disk, rfl⟩
    | some document =>
      obtain ⟨s, hs, rfl⟩ := Option.map_eq_some_iff.mp hdocument
      simp only
      split
      · rename_i e disk _
        exact .inl ⟨.document e, disk, rfl⟩
      · rename_i saved disk hsaved
        exact .inr ⟨seat, s, saved, disk, openSeat_eq_ok_iff.mp hopen, hs, hsaved, rfl⟩

theorem proceeds_save (desk : Desk) (script : ScriptId) : desk.Proceeds (desk.save script).2 := by
  have hdisk : ∀ disk, desk.Proceeds { desk with disk } := fun _ => proceeds_of_eq rfl rfl rfl rfl
  rcases desk.save_cases script with
    ⟨error, disk, hsave⟩ | ⟨seat, s, saved, disk, -, hs, hsaved, hsave⟩
  · rw [hsave]
    exact hdisk disk
  · rw [hsave]
    refine (hdisk disk).trans (proceeds_modifySeat fun o ho => ⟨⟨rfl, ?_, rfl⟩, rfl, rfl⟩)
    cases hs.symm.trans ho
    rcases saved_of_saveDocument hsaved with ⟨-, rfl⟩ | ⟨-, rfl⟩
    · rfl
    · rfl

theorem proceeds_submit (desk : Desk) (script : ScriptId) (program : Text) :
    desk.Proceeds (desk.submit script program).1 := by
  unfold submit
  split
  · exact .refl desk
  · exact proceeds_of_eq rfl rfl rfl rfl

/-- A run is prepared for open scripts only. -/
theorem get?_of_prepareRun {desk : Desk} {script : ScriptId} {seat : Nat} {program : Text}
    (h : desk.prepareRun script = .ok (seat, program)) :
    desk.register.get? script = some seat := by
  unfold prepareRun at h
  cases hseat : desk.openSeat script with
  | error e => rw [hseat] at h; cases h
  | ok place =>
    rw [hseat] at h
    simp only [bind, Except.bind] at h
    split at h
    · split at h
      · cases h
        exact openSeat_eq_ok_iff.mp hseat
      · cases h
    · cases h

theorem snd_failRun (desk : Desk) (script : ScriptId) (seat : Nat) (reason : Text) :
    (desk.failRun script seat reason).2 = (desk.setStatus seat .error).2 := by
  unfold failRun
  split
  · rename_i h
    rw [h]
  · rename_i h
    rw [h]

/-- What the change of the status and the handing over of a program preserve a run preserves. -/
theorem run_preserves {desk : Desk} {script : ScriptId} {P : Desk → Prop}
    (hstatus : ∀ {now : Desk} {seat : Nat} (target : Status), now.register = desk.register →
      desk.register.get? script = some seat → P now → P (now.setStatus seat target).2)
    (hsubmit : ∀ {now : Desk} (program : Text), P now → P (now.submit script program).1)
    (h : P desk) : P (desk.run script).2 := by
  unfold run
  cases hprepare : desk.prepareRun script with
  | error e => exact h
  | ok prepared =>
    obtain ⟨seat, program⟩ := prepared
    have hopen := get?_of_prepareRun hprepare
    have hbegun := hstatus .running rfl hopen h
    have hregister := (proceeds_setStatus desk seat .running).register_eq
    simp only
    split
    · rename_i hset
      rwa [hset] at hbegun
    · rename_i begun hset
      rw [hset] at hbegun hregister
      have hsubmitted := hsubmit program hbegun
      have hregister' := (proceeds_submit begun script program).register_eq
      split
      · rename_i hrejected
        rwa [hrejected] at hsubmitted
      · rename_i submitted reason hrejected
        rw [hrejected] at hsubmitted hregister'
        rw [snd_failRun]
        exact hstatus .error (hregister'.trans hregister) hopen hsubmitted

theorem proceeds_run (desk : Desk) (script : ScriptId) : desk.Proceeds (desk.run script).2 :=
  run_preserves (fun target _ _ h => h.trans (proceeds_setStatus _ _ target))
    (fun program h => h.trans (proceeds_submit _ script program)) (.refl desk)

/-! ### Operations -/

theorem perform_close (desk : Desk) (script : ScriptId) :
    desk.perform (.close script) = (desk.remove script).1 := by
  have hremove : (desk.remove script).2 = false → (desk.remove script).1 = desk := by
    unfold remove
    split
    · exact fun _ => rfl
    · intro h
      cases h
  simp only [perform, close]
  split
  · rename_i h
    rw [h]
    rfl
  · rename_i h
    rw [h] at hremove
    rw [h]
    exact (hremove rfl).symm

theorem perform_openFile (desk : Desk) (path : Path) :
    desk.perform (.openFile path) = desk ∨
      ∃ document, desk.perform (.openFile path) = (desk.getOrCreate document).1 := by
  simp only [perform, openFile]
  cases Document.load desk.disk path with
  | error e => exact .inl rfl
  | ok document => exact .inr ⟨document, rfl⟩

/-- Every operation keeps the desk orderly, and keeps the seats. -/
theorem Orderly.perform {desk : Desk} (h : desk.Orderly desk.register.get?)
    (operation : Operation) :
    (desk.perform operation).Orderly (desk.perform operation).register.get? ∧
      desk.Retains (desk.perform operation) := by
  have hproceeds : ∀ {desk'}, desk.Proceeds desk' →
      desk'.Orderly desk'.register.get? ∧ desk.Retains desk' := by
    intro desk' hproceeds
    rw [hproceeds.register_eq]
    exact ⟨h.proceeds hproceeds, hproceeds.retains⟩
  cases operation with
  | create script name => exact ⟨h.getOrCreate _, retains_getOrCreate desk _⟩
  | openFile path =>
    rcases perform_openFile desk path with hsame | ⟨document, hopened⟩
    · rw [hsame]
      exact ⟨h, .refl desk⟩
    · rw [hopened]
      exact ⟨h.getOrCreate document, retains_getOrCreate desk document⟩
  | close script =>
    rw [perform_close]
    exact h.remove script
  | closeAll =>
    obtain ⟨horderly, hretains, hclosed⟩ := h.closeAll
    simp only [Desk.perform, hclosed]
    exact ⟨horderly, hretains⟩
  | updateCode script code =>
    exact hproceeds (desk.proceeds_editDocument script fun document => rfl)
  | setNamespaces script namespaces =>
    exact hproceeds (desk.proceeds_editDocument script fun document => rfl)
  | save script => exact hproceeds (desk.proceeds_save script)
  | run script => exact hproceeds (desk.proceeds_run script)
  | publish event => exact hproceeds (desk.proceeds_publish event)
  | pump seat =>
    simp only [Desk.perform]
    cases hstep : desk.pumpStep? seat with
    | none => exact ⟨h, .refl desk⟩
    | some result => exact hproceeds (proceeds_of_pumpStep? hstep)
  | setRejection reasons => exact hproceeds (proceeds_of_eq rfl rfl rfl rfl)
  | setDisk disk => exact hproceeds (proceeds_of_eq rfl rfl rfl rfl)

/-- So do many operations. -/
theorem Orderly.performAll (operations : List Operation) :
    ∀ {desk : Desk}, desk.Orderly desk.register.get? →
      (desk.performAll operations).Orderly (desk.performAll operations).register.get? ∧
        desk.Retains (desk.performAll operations) := by
  induction operations with
  | nil => intro desk h; exact ⟨h, .refl desk⟩
  | cons operation operations ih =>
    intro desk h
    obtain ⟨hperform, hretains⟩ := h.perform operation
    obtain ⟨hrest, hretains'⟩ := ih hperform
    exact ⟨hrest, hretains.trans hretains'⟩

theorem orderly_fresh (settings : Settings) (backend : Option Backend) (disk : Disk) :
    (fresh settings backend disk).Orderly (fresh settings backend disk).register.get? where
  serving h := by cases h
  retired h := by cases h
  silent _ := rfl
  fileless _ := rfl
  numbered script number hmem := by cases hmem

/-! ### What is left of scripts that were closed -/

theorem isOpen_eq_false_iff {desk : Desk} {script : ScriptId} :
    desk.isOpen script = false ↔ desk.register.get? script = none := by
  unfold isOpen Table.contains
  rw [Option.isSome_eq_false_iff, Option.isNone_iff_eq_none]

/-- An event reaches the environment of its script if that is open. -/
theorem Orderly.reached {desk : Desk} (h : desk.Orderly desk.register.get?) (event : Event) :
    (desk.publish event).2 = if desk.isOpen event.script then 1 else 0 := by
  change (desk.bus.receivers event.script).length = _
  unfold Bus.receivers
  cases hopen : desk.register.get? event.script with
  | none =>
    rw [h.silent hopen, isOpen_eq_false_iff.mpr hopen]
    rfl
  | some seat =>
    obtain ⟨s, number, hs⟩ := h.serving hopen
    have hcontains : desk.isOpen event.script = true := congrArg Option.isSome hopen
    rw [hs.subscribers_eq, hcontains]
    simp [hs.feeds.receiving]

/-- A script that was open before it is closed leaves its seat. -/
theorem Orderly.leaves {desk : Desk} (h : desk.Orderly desk.register.get?) {closing : Operation}
    {script : ScriptId} {seat : Nat} (hscript : desk.register.get? script = some seat)
    (hcloses : closing.closes script = true) (other : ScriptId) :
    (desk.perform closing).register.get? other ≠ some seat := by
  intro hother
  cases closing with
  | close closed =>
    cases beq_iff_eq.mp hcloses
    rw [perform_close, get?_remove, Function.update_apply] at hother
    split at hother
    · cases hother
    · rename_i hne
      exact hne (h.script_eq hother hscript)
  | closeAll =>
    simp only [Desk.perform, h.closeAll.2.2] at hother
    cases hother
  | _ => cases hcloses

/-- A document that is not open is opened without results, and with nothing to deliver. -/
theorem Orderly.opened_afresh {desk : Desk} (h : desk.Orderly desk.register.get?)
    {document : Document} (hclosed : desk.register.get? document.id = none) :
    (desk.getOrCreate document).1.register.get? document.id = some (desk.getOrCreate document).2 ∧
      ∃ s pump, (desk.getOrCreate document).1.Attached (desk.getOrCreate document).2 s pump ∧
      s.environment = .ofDocument document ∧
      pump.pending (desk.getOrCreate document).1.bus = [] ∧
      (desk.getOrCreate document).1.files.ofScript document.id = .empty := by
  obtain ⟨hbus, hregister, hfiles, hseats⟩ := getOrCreate_new hclosed
  have hseat := seat_getOrCreate_new hclosed
  refine ⟨?_, desk.newSeat document, { channel := desk.bus.next }, ⟨?_, rfl⟩, rfl, ?_, ?_⟩
  · rw [hregister, hseat, Table.get?_set_self]
  · rw [hseats, hseat, if_pos rfl]
  · unfold Pump.pending Bus.queue
    rw [hbus, Bus.channel_subscribe, if_pos rfl]
    rfl
  · rw [hfiles]
    exact h.fileless hclosed

/-- **Open scripts are served, and nothing is left of those that were closed**, after any operations
on a fresh desk. A script that is not open has neither subscribers nor files, and the environment
that was its own is disposed; its document is opened without results, with nothing to deliver and
without files. -/
theorem open_scripts_served (settings : Settings) (backend : Option Backend) (disk : Disk)
    (operations : List Operation) :
    let desk := (fresh settings backend disk).performAll operations
    (∀ script seat, desk.register.get? script = some seat → ∃ s number,
      desk.Serving script seat s number) ∧
    (∀ script, desk.isOpen script = false →
      desk.bus.subscribers script = [] ∧ desk.files.ofScript script = .empty) ∧
    (∀ event, (desk.publish event).2 = if desk.isOpen event.script then 1 else 0) ∧
    (∀ (earlier : List Operation) (closing : Operation) (later : List Operation) script seat,
      operations = earlier ++ closing :: later →
        ((fresh settings backend disk).performAll earlier).register.get? script = some seat →
          closing.closes script = true →
            ∃ s, desk.seat? seat = some s ∧ s.environment.disposed = true) ∧
    ∀ document, desk.isOpen document.id = false →
      let (reopened, seat) := desk.getOrCreate document
      reopened.register.get? document.id = some seat ∧
        ∃ s pump, reopened.Attached seat s pump ∧ s.environment.document = document ∧
          s.environment.status = .idle ∧ s.environment.output = [] ∧
          s.environment.diagnostics = none ∧ pump.pending reopened.bus = [] ∧
          reopened.files.ofScript document.id = .empty := by
  have horderly := (orderly_fresh settings backend disk).performAll
  obtain ⟨hnow, -⟩ := horderly operations
  refine ⟨fun _ _ hscript => hnow.serving hscript, fun script hclosed => ?_, hnow.reached, ?_,
    fun document hclosed => ?_⟩
  · have hnone := isOpen_eq_false_iff.mp hclosed
    exact ⟨hnow.silent hnone, hnow.fileless hnone⟩
  · rintro earlier closing later script seat rfl hscript hcloses
    have hbefore := (horderly earlier).1
    obtain ⟨s, number, hs⟩ := hbefore.serving hscript
    obtain ⟨hafter, hretains⟩ := hbefore.perform closing
    obtain ⟨s', hs', -⟩ := hretains seat s hs.seat_eq
    have hdisposed := (hafter.retired hs' (hbefore.leaves hscript hcloses)).1
    obtain ⟨s'', hs'', hstays⟩ := (hafter.performAll later).2 seat s' hs'
    refine ⟨s'', ?_, hstays hdisposed⟩
    simp only [performAll, List.foldl_append, List.foldl_cons]
    exact hs''
  · have hnone := isOpen_eq_false_iff.mp hclosed
    obtain ⟨hregister, s, pump, hs, henvironment, hpending, hfiles⟩ := hnow.opened_afresh hnone
    refine ⟨hregister, s, pump, hs, ?_, ?_, ?_, ?_, hpending, hfiles⟩ <;> rw [henvironment] <;> rfl

end ScriptDesk.Desk
