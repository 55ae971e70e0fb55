import ScriptDesk.Proofs.Desk.Shares
import ScriptDesk.Proofs.Environment.Renaming

/-!
# The manuscript of an open script

Of a document only the settings and the code get into its program: its manuscript. Whatever is done
on a desk, as long as a script is open its manuscript changes just where the document is edited
(`Deed.revise`, `Orderly.revises_work`). So at any time it is the one from the beginning with the
edits that were made since then (`Orderly.revises_workAll`). Whether it was saved meanwhile, and
whether the script was run, does not matter.
-/

namespace ScriptDesk

/-- What of a document gets into its program. -/
structure Manuscript where
  /-- The settings. -/
  config : ScriptConfig
  /-- The code. -/
  code : Text

/-- The manuscript after something was done to the document. -/
def Manuscript.act (manuscript : Manuscript) : Document.Action → Manuscript
  | .code code => { manuscript with code }
  | .namespaces namespaces =>
    { manuscript with config := manuscript.config.setNamespaces namespaces }
  | .kind kind => { manuscript with config := { manuscript.config with kind } }
  | .path _ | .save _ _ => manuscript

/-- The manuscript of a document. -/
def Document.manuscript (document : Document) : Manuscript :=
  ⟨document.config, document.code⟩

theorem Document.manuscript_act (document : Document) (action : Action) :
    (document.act action).manuscript = document.manuscript.act action := by
  cases action with
  | code code => rfl
  | namespaces namespaces => rfl
  | kind kind => rfl
  | path path => rfl
  | save disk way =>
    rcases document.act_save disk way with hsame | ⟨path, ⟨-, hsaved⟩ | hsaved⟩
    · rw [hsame]
      rfl
    · rw [hsaved]
      rfl
    · rw [hsaved]
      rfl

namespace Environment

/-- An event gives the document another path at most. -/
theorem manuscript_afterEvent (environment : Environment) (files : Files) (event : Event) :
    (environment.afterEvent files event).1.document.manuscript =
      environment.document.manuscript := by
  cases hrenames : environment.renames? event with
  | none => rw [document_afterEvent hrenames]
  | some newName =>
    obtain ⟨path, name, -, -, hdocument, -⟩ := afterEvent_of_renames? hrenames files
    rw [hdocument]
    rfl

theorem manuscript_deliverAll (events : List Event) :
    ∀ (environment : Environment) (files : Files),
      (environment.deliverAll files events).1.document.manuscript =
        environment.document.manuscript := by
  induction events with
  | nil => intro environment files; rfl
  | cons event events ih =>
    intro environment files
    exact (ih _ _).trans (manuscript_afterEvent environment files event)

end Environment

namespace Desk

/-- The manuscript of a seat. -/
def manuscript? (desk : Desk) (seat : Nat) : Option Manuscript :=
  (desk.document? seat).map (·.manuscript)

/-- The script stays open on its seat, and its manuscript is revised. -/
structure Revises (desk desk' : Desk) (script : ScriptId) (seat : Nat)
    (revise : Manuscript → Manuscript) : Prop where
  /-- The script is open there. -/
  opened : desk'.register.get? script = some seat
  /-- The manuscript is the one from before, revised. -/
  manuscript_eq : desk'.manuscript? seat = (desk.manuscript? seat).map revise

variable {desk desk' : Desk} {script : ScriptId} {seat : Nat}

theorem workAll_append (desk : Desk) (earlier later : List Deed) :
    desk.workAll (earlier ++ later) = (desk.workAll earlier).workAll later :=
  List.foldl_append

/-! ### What leaves a manuscript alone -/

theorem revises_of_eq (hopen : desk.register.get? script = some seat)
    (hregister : desk'.register = desk.register) (hseats : desk'.seats = desk.seats) :
    desk.Revises desk' script seat id where
  opened := hregister ▸ hopen
  manuscript_eq := by
    unfold manuscript? document? seat?
    rw [hseats, Option.map_id_apply]

theorem Revises.refl (hopen : desk.register.get? script = some seat) :
    desk.Revises desk script seat id :=
  revises_of_eq hopen rfl rfl

theorem Revises.trans {first second third : Desk} {revise further : Manuscript → Manuscript}
    (h : first.Revises second script seat revise)
    (hlater : second.Revises third script seat further) :
    first.Revises third script seat (further ∘ revise) where
  opened := hlater.opened
  manuscript_eq := by rw [hlater.manuscript_eq, h.manuscript_eq, Option.map_map]

/-- What spares a script leaves its manuscript alone. -/
theorem Spares.revises (h : desk.Spares desk' script)
    (hopen : desk.register.get? script = some seat) : desk.Revises desk' script seat id where
  opened := h.register_eq.trans hopen
  manuscript_eq := by
    unfold manuscript? document?
    rw [h.seat_eq hopen, Option.map_id_apply]

/-- A change of the seat itself. -/
theorem revises_modifySeat (hopen : desk.register.get? script = some seat)
    {change : Seat → Seat} {revise : Manuscript → Manuscript}
    (h : ∀ s, desk.seat? seat = some s →
      (change s).environment.document.manuscript = revise s.environment.document.manuscript) :
    desk.Revises (desk.modifySeat seat change) script seat revise where
  opened := hopen
  manuscript_eq := by
    unfold manuscript? document?
    rw [seat?_modifySeat, if_pos rfl]
    cases hseat : desk.seat? seat with
    | none => rfl
    | some s => exact congrArg some (h s hseat)

/-- A change of another seat. -/
theorem revises_modifySeat_of_ne (hopen : desk.register.get? script = some seat) {place : Nat}
    (h : place ≠ seat) (change : Seat → Seat) :
    desk.Revises (desk.modifySeat place change) script seat id :=
  (spares_modifySeat (ne_of_eq_of_ne hopen (mt Option.some.inj (Ne.symm h))) change).revises hopen

theorem revises_setStatus (hopen : desk.register.get? script = some seat) (place : Nat)
    (target : Status) : desk.Revises (desk.setStatus place target).2 script seat id := by
  unfold setStatus
  split
  · exact .refl hopen
  · rename_i s hs
    split
    · exact .refl hopen
    · rename_i changed transition hstatus
      by_cases hplace : place = seat
      · subst hplace
        refine revises_modifySeat hopen fun o ho => ?_
        cases hs.symm.trans ho
        exact congrArg Document.manuscript (Environment.document_of_setStatus hstatus)
      · exact revises_modifySeat_of_ne hopen hplace _

theorem revises_run (hopen : desk.register.get? script = some seat) (other : ScriptId) :
    desk.Revises (desk.run other).2 script seat id :=
  run_preserves (P := (desk.Revises · script seat id))
    (fun {_ place} target _ _ h => h.trans (revises_setStatus h.opened place target))
    (fun program h => h.trans ((spares_submit other program).revises h.opened)) (.refl hopen)

/-- To save a script does not change its manuscript. -/
theorem revises_save (hopen : desk.register.get? script = some seat) :
    desk.Revises (desk.save script).2 script seat id := by
  have hdisk : ∀ disk, desk.Revises { desk with disk } script seat id :=
    fun _ => revises_of_eq hopen rfl rfl
  rcases desk.save_cases script with
    ⟨error, disk, hsave⟩ | ⟨place, s, saved, disk, hplace, hs, hsaved, hsave⟩
  · rw [hsave]
    exact hdisk disk
  · rw [hsave]
    cases hopen.symm.trans hplace
    have hseat : ({ desk with disk } : Desk).Revises ({ desk with disk }.setDocument seat saved)
        script seat id := by
      refine revises_modifySeat (hdisk disk).opened fun o ho => ?_
      cases hs.symm.trans ho
      rcases saved_of_saveDocument hsaved with ⟨-, rfl⟩ | ⟨-, rfl⟩
      · rfl
      · rfl
    exact (hdisk disk).trans hseat

theorem Orderly.revises_of_pumpStep? (h : desk.Orderly desk.register.get?)
    (hopen : desk.register.get? script = some seat) {place : Nat} {refusal : Option Refusal}
    (hstep : desk.pumpStep? place = some (desk', refusal)) :
    desk.Revises desk' script seat id := by
  by_cases hplace : place = seat
  · subst hplace
    obtain ⟨_, _, _, -, -, hframe⟩ := frame_of_pumpStep? hstep
    obtain ⟨s, pump, pump', delivered, hadvance⟩ := advance_of_pumpStep? hstep
    refine ⟨(congrArg (·.register.get? script) hframe).trans hopen, ?_⟩
    unfold manuscript? document?
    rw [hadvance.seat?_eq, if_pos rfl, hadvance.attached.seat_eq]
    exact congrArg some (Environment.manuscript_deliverAll _ _ _)
  · have hseat := ne_of_eq_of_ne hopen (mt Option.some.inj (Ne.symm hplace))
    exact (h.spares_of_pumpStep? hstep hseat).revises hopen

theorem Orderly.revises_getOrCreate (h : desk.Orderly desk.register.get?)
    (hopen : desk.register.get? script = some seat) (document : Document) :
    desk.Revises (desk.getOrCreate document).1 script seat id := by
  by_cases hid : document.id = script
  · rw [getOrCreate_of_open (hid ▸ hopen)]
    exact .refl hopen
  · exact (h.spares_getOrCreate hid).revises hopen

/-! ### What changes it -/

/-- What a deed makes of the manuscript of a script that is open on a seat. -/
def Deed.revise (script : ScriptId) (seat : Nat) (deed : Deed) (manuscript : Manuscript) :
    Manuscript :=
  match deed with
  | .perform (.updateCode other code) =>
    if other = script then manuscript.act (.code code) else manuscript
  | .perform (.setNamespaces other namespaces) =>
    if other = script then manuscript.act (.namespaces namespaces) else manuscript
  | .edit place action => if place = seat then manuscript.act action else manuscript
  | _ => manuscript

/-- The deed closes the script, if that is open. -/
def Deed.closes (script : ScriptId) : Deed → Bool
  | .perform operation => operation.closes script
  | _ => false

theorem Orderly.revises_editDocument (h : desk.Orderly desk.register.get?)
    (hopen : desk.register.get? script = some seat) (other : ScriptId) (action : Document.Action) :
    desk.Revises ((desk.editDocument other (·.act action)).toOption.getD desk) script seat
      fun manuscript => if other = script then manuscript.act action else manuscript := by
  by_cases hother : other = script
  · subst hother
    simp only [if_true]
    unfold editDocument
    rw [openSeat_eq_ok_iff.mpr hopen]
    exact revises_modifySeat hopen fun s _ => s.environment.document.manuscript_act action
  · simp only [hother, if_false]
    exact (h.spares_editDocument hother _).revises hopen

/-- Every deed that does not close a script revises its manuscript. -/
theorem Orderly.revises_work (h : desk.Orderly desk.register.get?)
    (hopen : desk.register.get? script = some seat) {deed : Deed}
    (hstays : deed.closes script = false) :
    desk.Revises (desk.work deed) script seat (deed.revise script seat) := by
  cases deed with
  | perform operation =>
    cases operation with
    | create other name => exact h.revises_getOrCreate hopen _
    | openFile path =>
      simp only [Desk.work]
      rcases perform_openFile desk path with hsame | ⟨document, hopened⟩
      · rw [hsame]
        exact .refl hopen
      · rw [hopened]
        exact h.revises_getOrCreate hopen document
    | close other =>
      simp only [Desk.work, perform_close]
      exact (h.spares_remove (by simpa [Deed.closes, Operation.closes] using hstays)).revises hopen
    | closeAll => cases hstays
    | updateCode other code => exact h.revises_editDocument hopen other (.code code)
    | setNamespaces other namespaces =>
      exact h.revises_editDocument hopen other (.namespaces namespaces)
    | save other =>
      by_cases hother : other = script
      · subst hother
        exact revises_save hopen
      · exact (h.spares_save hother).revises hopen
    | run other => exact revises_run hopen other
    | publish event => exact revises_of_eq hopen rfl rfl
    | pump place =>
      simp only [Desk.work, Desk.perform]
      cases hstep : desk.pumpStep? place with
      | none => exact .refl hopen
      | some result => exact h.revises_of_pumpStep? hopen hstep
    | setRejection reasons => exact revises_of_eq hopen rfl rfl
    | setDisk disk => exact revises_of_eq hopen rfl rfl
  | enter document => exact h.revises_getOrCreate hopen document
  | submit other program => exact (spares_submit other program).revises hopen
  | hold place held =>
    by_cases hplace : place = seat
    · subst hplace
      exact revises_modifySeat hopen fun s _ => rfl
    · exact revises_modifySeat_of_ne hopen hplace _
  | edit place action =>
    by_cases hplace : place = seat
    · subst hplace
      have hrevise : (Deed.edit place action).revise script place = (·.act action) :=
        funext fun _ => if_pos rfl
      rw [hrevise]
      exact revises_modifySeat hopen fun s _ => s.environment.document.manuscript_act action
    · have hrevise : (Deed.edit place action).revise script seat = id :=
        funext fun _ => if_neg hplace
      rw [hrevise]
      exact revises_modifySeat_of_ne hopen hplace _
  | setStatus place target => exact revises_setStatus hopen place target

/-- What deeds make of the manuscript, one after the other. -/
def reviseAll (script : ScriptId) (seat : Nat) (deeds : List Deed) (manuscript : Manuscript) :
    Manuscript :=
  deeds.foldl (fun manuscript deed => deed.revise script seat manuscript) manuscript

/-- Over many deeds the manuscript is revised by one after the other. -/
theorem Orderly.revises_workAll (deeds : List Deed) :
    ∀ {desk : Desk}, desk.Orderly desk.register.get? →
      desk.register.get? script = some seat → (∀ deed ∈ deeds, deed.closes script = false) →
      desk.Revises (desk.workAll deeds) script seat (reviseAll script seat deeds) := by
  induction deeds with
  | nil => exact fun _ hopen _ => .refl hopen
  | cons deed deeds ih =>
    intro desk h hopen hstays
    obtain ⟨hfirst, hlater⟩ := List.forall_mem_cons.mp hstays
    have hrevises := h.revises_work hopen hfirst
    exact hrevises.trans (ih (h.work deed) hrevises.opened hlater)

end Desk

end ScriptDesk
