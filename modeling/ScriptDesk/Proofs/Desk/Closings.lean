import ScriptDesk.Proofs.Bus.Departures
import ScriptDesk.Proofs.Daemon.Closing
import ScriptDesk.Proofs.Desk.Shares

/-!
# Closing all scripts and closing each

Closing a script disposes one seat and forgets the files of one script. What it does to the bus, the
seats and the files does not depend on what other closings did to them (`dispose_comm`,
`closeOne_comm`), so that the order does not matter (`closeTaken_of_perm`). Nor does it matter that
all scripts are taken out of the register first: who closes one script and then all others has
closed all (`closeAll_remove`). So closing each script and closing all come to the same
(`closeEach_eq_closeAll`).
-/

namespace ScriptDesk

/-- The environment, disposed. -/
def Environment.retired (environment : Environment) : Environment :=
  { environment with disposed := true }

namespace Desk

/-! ### Disposing two seats -/

/-- The bus after the environment of a seat was disposed. The pump of one that was disposed before
is left alone. -/
def busAfter (bus : Bus) (s : Seat) : Bus :=
  busStopped (busWithout bus s.subscription) (if s.environment.disposed then none else s.pump)

/-- A seat after its environment was disposed. -/
def vacate (s : Seat) : Seat :=
  if s.environment.disposed then { s with subscription := none } else retire s

theorem dispose_of_none {desk : Desk} {seat : Nat} (h : desk.seat? seat = none) :
    desk.dispose seat = desk := by
  unfold dispose
  rw [h]

theorem dispose_eq_vacate {desk : Desk} {seat : Nat} {s : Seat} (h : desk.seat? seat = some s) :
    desk.dispose seat = { desk with bus := busAfter desk.bus s }.modifySeat seat vacate := by
  -- only the seat that is there is changed
  have hvacate : ∀ {bus : Bus} {change : Seat → Seat}, change s = vacate s →
      { desk with bus }.modifySeat seat change = { desk with bus }.modifySeat seat vacate := by
    intro bus change hchange
    refine modifySeat_congr fun o ho => ?_
    cases h.symm.trans ho
    exact hchange
  cases hdisposed : s.environment.disposed with
  | true =>
    have hdispose : desk.dispose seat = desk.dropSubscription seat := by
      unfold dispose
      simp only [h, hdisposed, if_true]
    rw [hdispose, dropSubscription_eq h, busAfter, hdisposed]
    exact hvacate (if_pos hdisposed).symm
  | false =>
    rw [dispose_eq h hdisposed, busAfter, hdisposed]
    exact hvacate (if_neg (Bool.not_eq_true _ ▸ hdisposed)).symm

theorem modifySeat_comm (desk : Desk) {first second : Nat} (h : first ≠ second)
    (change other : Seat → Seat) :
    (desk.modifySeat first change).modifySeat second other =
      (desk.modifySeat second other).modifySeat first change := by
  have hseats : (desk.seats.modify first change).modify second other =
      (desk.seats.modify second other).modify first change := by
    apply List.ext_getElem?
    intro number
    simp only [List.getElem?_modify]
    cases desk.seats[number]? with
    | none => rfl
    | some s =>
      by_cases hfirst : first = number
      · have hsecond : second ≠ number := fun hsecond => h (hfirst.trans hsecond.symm)
        simp [hfirst, hsecond]
      · simp [hfirst]
  exact congrArg (fun seats => { desk with seats }) hseats

theorem busWithout_comm (bus : Bus) (first second : Option Subscription) :
    busWithout (busWithout bus first) second = busWithout (busWithout bus second) first := by
  cases first with
  | none => rfl
  | some first =>
    cases second with
    | none => rfl
    | some second => exact bus.unsubscribe_comm first second

theorem busStopped_comm (bus : Bus) (first second : Option Pump) :
    busStopped (busStopped bus first) second = busStopped (busStopped bus second) first := by
  cases first with
  | none => rfl
  | some first =>
    cases second with
    | none => rfl
    | some second => exact bus.stopReceiving_comm first.channel second.channel

theorem busWithout_busStopped (bus : Bus) (subscription : Option Subscription)
    (pump : Option Pump) :
    busWithout (busStopped bus pump) subscription =
      busStopped (busWithout bus subscription) pump := by
  cases subscription with
  | none => rfl
  | some subscription =>
    cases pump with
    | none => rfl
    | some pump => rfl

theorem busAfter_comm (bus : Bus) (s o : Seat) :
    busAfter (busAfter bus s) o = busAfter (busAfter bus o) s := by
  unfold busAfter
  rw [busWithout_busStopped, busWithout_busStopped, busWithout_comm, busStopped_comm]

/-- Disposing one seat leaves the others. -/
theorem seat?_dispose_of_ne (desk : Desk) {seat other : Nat} (h : other ≠ seat) :
    (desk.dispose seat).seat? other = desk.seat? other := by
  cases hseat : desk.seat? seat with
  | none => rw [dispose_of_none hseat]
  | some s =>
    rw [dispose_eq_vacate hseat, seat?_modifySeat, if_neg h]
    rfl

/-- In which order two seats are disposed does not matter. -/
theorem dispose_comm (desk : Desk) (first second : Nat) :
    (desk.dispose first).dispose second = (desk.dispose second).dispose first := by
  by_cases hsame : first = second
  · rw [hsame]
  have hfirst' := desk.seat?_dispose_of_ne hsame
  have hsecond' := desk.seat?_dispose_of_ne (Ne.symm hsame)
  cases hfirst : desk.seat? first with
  | none => rw [dispose_of_none hfirst, dispose_of_none (hfirst'.trans hfirst)]
  | some s =>
    cases hsecond : desk.seat? second with
    | none => rw [dispose_of_none hsecond, dispose_of_none (hsecond'.trans hsecond)]
    | some o =>
      rw [dispose_eq_vacate (hsecond'.trans hsecond), dispose_eq_vacate (hfirst'.trans hfirst),
        dispose_eq_vacate hfirst, dispose_eq_vacate hsecond]
      change ({ desk with bus := busAfter (busAfter desk.bus s) o }.modifySeat first
          vacate).modifySeat second vacate =
        ({ desk with bus := busAfter (busAfter desk.bus o) s }.modifySeat second
          vacate).modifySeat first vacate
      rw [busAfter_comm, modifySeat_comm _ hsame]

/-- Disposing is not about the register and the files. -/
theorem dispose_with (desk : Desk) (seat : Nat) (register : Table ScriptId Nat) (files : Files) :
    { desk with register, files }.dispose seat = { desk.dispose seat with register, files } := by
  cases hseat : desk.seat? seat with
  | none =>
    have hseat' : { desk with register, files }.seat? seat = none := hseat
    rw [dispose_of_none hseat, dispose_of_none hseat']
  | some s =>
    have hseat' : { desk with register, files }.seat? seat = some s := hseat
    rw [dispose_eq_vacate hseat, dispose_eq_vacate hseat']
    rfl

/-! ### Closing scripts one after the other -/

/-- The desk after a script was closed that had been taken out of the register. -/
def closeOne (desk : Desk) (taken : ScriptId × Nat) : Desk :=
  ((desk.dispose taken.2).forget taken.1).1

theorem closeOne_eq (desk : Desk) (taken : ScriptId × Nat) :
    desk.closeOne taken =
      { desk.dispose taken.2 with
        register := desk.register, files := (desk.files.forget taken.1).1 } := by
  obtain ⟨hregister, hfiles, -⟩ := desk.frame_dispose taken.2
  rw [closeOne, forget, hfiles, ← hregister]

theorem forget_comm (files : Files) (first second : ScriptId) :
    ((files.forget first).1.forget second).1 = ((files.forget second).1.forget first).1 :=
  congrArg Files.mk (files.scripts.erase_comm first second)

/-- In which order two scripts are closed does not matter. -/
theorem closeOne_comm (desk : Desk) (first second : ScriptId × Nat) :
    (desk.closeOne first).closeOne second = (desk.closeOne second).closeOne first := by
  have htwice : ∀ first second : ScriptId × Nat, (desk.closeOne first).closeOne second =
      { (desk.dispose first.2).dispose second.2 with
        register := desk.register
        files := ((desk.files.forget first.1).1.forget second.1).1 } := by
    intro first second
    rw [closeOne_eq, closeOne_eq desk, dispose_with]
  rw [htwice, htwice, dispose_comm, forget_comm]

/-- Closing a script that was taken out of the register does not concern the register. -/
theorem closeOne_with (desk : Desk) (register : Table ScriptId Nat) (taken : ScriptId × Nat) :
    { desk with register }.closeOne taken = { desk.closeOne taken with register } := by
  rw [closeOne_eq, closeOne_eq, dispose_with]

theorem closeTaken_eq_foldl (taken : List (ScriptId × Nat)) :
    ∀ desk : Desk, closeTaken taken desk = taken.foldl closeOne desk := by
  induction taken with
  | nil => intro desk; rfl
  | cons entry others ih => intro desk; exact ih (desk.closeOne entry)

/-- In which order scripts are closed does not matter. -/
theorem closeTaken_of_perm {taken other : List (ScriptId × Nat)} (h : taken.Perm other)
    (desk : Desk) : closeTaken taken desk = closeTaken other desk := by
  rw [closeTaken_eq_foldl, closeTaken_eq_foldl]
  exact h.foldl_eq' (fun first _ second _ desk => desk.closeOne_comm first second) desk

/-! ### The register -/

/-- Close scripts one after the other. -/
def closeEach (desk : Desk) (scripts : List ScriptId) : Except SessionError Desk :=
  scripts.foldlM close desk

theorem remove_eq_closeOne {desk : Desk} {script : ScriptId} {seat : Nat}
    (h : desk.register.get? script = some seat) :
    (desk.remove script).1 =
      { desk.closeOne (script, seat) with register := desk.register.erase script } :=
  congrArg Prod.fst (remove_of_some h)

theorem close_of_some {desk : Desk} {script : ScriptId} {seat : Nat}
    (h : desk.register.get? script = some seat) :
    desk.close script = .ok (desk.remove script).1 := by
  unfold close
  rw [remove_of_some h]

theorem closeAll_eq (desk : Desk) :
    desk.closeAll = (closeTaken desk.register.entries { desk with register := .empty },
      desk.register.entries.length) :=
  rfl

/-- Who closes one script and then all has closed all. -/
theorem closeAll_remove {desk : Desk} {script : ScriptId} {seat : Nat}
    (h : desk.register.get? script = some seat) :
    (desk.remove script).1.closeAll.1 = desk.closeAll.1 := by
  rw [remove_eq_closeOne h, closeAll_eq, closeAll_eq]
  simp only
  rw [closeTaken_of_perm (desk.register.perm_entries_erase h)]
  change _ = closeTaken _ ({ desk with register := .empty }.closeOne (script, seat))
  rw [closeOne_with desk .empty]

theorem closeAll_of_closed {desk : Desk} (h : desk.register.keys = []) : desk.closeAll.1 = desk := by
  have hentries : desk.register.entries = [] := List.map_eq_nil_iff.mp h
  have hregister : desk.register = .empty := Table.eq_of_entries_eq hentries
  rw [closeAll_eq, hentries, ← hregister]
  rfl

/-- Closing each open script and closing all come to the same. -/
theorem closeEach_of_perm {order : List ScriptId} :
    ∀ {desk : Desk}, order.Perm desk.register.keys → desk.closeEach order = .ok desk.closeAll.1 := by
  induction order with
  | nil =>
    intro desk h
    rw [closeAll_of_closed (List.nil_perm.mp h)]
    rfl
  | cons script order ih =>
    intro desk h
    have hopen := (desk.register.mem_keys_iff script).mp (h.subset List.mem_cons_self)
    obtain ⟨seat, hseat⟩ := Option.isSome_iff_exists.mp hopen
    have hrest : order.Perm (desk.remove script).1.register.keys := by
      have hkeys : desk.register.keys.Perm (script :: (desk.register.erase script).keys) :=
        (desk.register.perm_entries_erase hseat).map Prod.fst
      rw [remove_eq_closeOne hseat]
      exact (List.perm_cons script).mp (h.trans hkeys)
    rw [closeEach, List.foldlM_cons, close_of_some hseat]
    exact (ih hrest).trans (congrArg _ (closeAll_remove hseat))

/-! ### The environments -/

theorem environment?_closeOne (desk : Desk) (script : ScriptId) (seat : Nat) :
    (desk.closeOne (script, seat)).environment? seat =
      (desk.environment? seat).map Environment.retired := by
  change (desk.dispose seat).environment? seat = _
  cases henvironment : desk.environment? seat with
  | none =>
    have hseat : desk.seat? seat = none := Option.map_eq_none_iff.mp henvironment
    rw [dispose_of_none hseat, henvironment]
    rfl
  | some environment => exact environment?_dispose henvironment

/-- Of the environments just those are disposed whose scripts are closed. -/
theorem environment?_closeTaken (seat : Nat) (taken : List (ScriptId × Nat)) :
    ∀ desk : Desk, (closeTaken taken desk).environment? seat =
      if seat ∈ taken.map Prod.snd then
        (desk.environment? seat).map Environment.retired
      else desk.environment? seat := by
  induction taken with
  | nil => intro desk; rfl
  | cons entry others ih =>
    obtain ⟨script, place⟩ := entry
    intro desk
    refine (ih (desk.closeOne (script, place))).trans ?_
    by_cases hplace : seat = place
    · subst hplace
      have hfirst : seat ∈ ((script, seat) :: others).map Prod.snd := List.mem_cons_self
      -- to be disposed once more changes nothing
      rw [environment?_closeOne, if_pos hfirst, Option.map_map]
      exact ite_self _
    · have hothers : seat ∈ ((script, place) :: others).map Prod.snd ↔
          seat ∈ others.map Prod.snd := by
        rw [List.map_cons, List.mem_cons, or_iff_right hplace]
      have hkept : (desk.closeOne (script, place)).environment? seat = desk.environment? seat :=
        environment?_dispose_of_ne desk hplace
      rw [hkept, if_congr hothers rfl rfl]

theorem mem_seats_iff {register : Table ScriptId Nat} {seat : Nat} :
    seat ∈ register.entries.map Prod.snd ↔ ∃ script, register.get? script = some seat := by
  simp only [List.mem_map, Prod.exists, exists_eq_right, Table.mem_entries_iff]

/-- **Closing all scripts is closing each**, in whatever order: the desk is in the end the same in
everything, and the number that is given back is that of the scripts which were open. Their
environments are disposed and otherwise as they were, and nothing that is published or still waits
changes them. On a desk that was made by operations, no subscribers, files and pumps are left. -/
theorem closeEach_eq_closeAll (desk : Desk) :
    (∀ order : List ScriptId, order.Perm desk.register.keys →
      desk.closeEach order = .ok desk.closeAll.1 ∧ desk.closeAll.2 = order.length) ∧
    (∀ taken : List (ScriptId × Nat), taken.Perm desk.emptyRegister.2 →
      closeTaken taken desk.emptyRegister.1 = desk.closeAll.1) ∧
    desk.closeAll.1.register = .empty ∧
    (∀ script seat environment moves, desk.register.get? script = some seat →
      desk.environment? seat = some environment →
        (desk.closeAll.1.moveAll moves).environment? seat =
          some environment.retired) ∧
    (∀ seat, (∀ script, desk.register.get? script ≠ some seat) →
      desk.closeAll.1.environment? seat = desk.environment? seat) ∧
    ∀ settings backend disk deeds, desk = (fresh settings backend disk).workAll deeds →
      (∀ script, desk.closeAll.1.bus.subscribers script = [] ∧
        desk.closeAll.1.files.ofScript script = .empty) ∧
      ∀ seat s, desk.closeAll.1.seat? seat = some s →
        s.environment.disposed = true ∧ s.pump = none := by
  refine ⟨fun order h => ⟨closeEach_of_perm h, ?_⟩, fun taken h => closeTaken_of_perm h _, ?_, ?_,
    ?_, ?_⟩
  · rw [h.length_eq]
    exact (List.length_map _).symm
  · exact register_closeTaken desk.register.entries { desk with register := .empty }
  · intro script seat environment moves hscript henvironment
    refine environment?_moveAll_of_disposed rfl ?_
    rw [closeAll_eq, environment?_closeTaken, if_pos (mem_seats_iff.mpr ⟨script, hscript⟩)]
    exact congrArg (Option.map _) henvironment
  · intro seat hclosed
    rw [closeAll_eq, environment?_closeTaken, if_neg fun hseat => ?_]
    · rfl
    · obtain ⟨script, hscript⟩ := mem_seats_iff.mp hseat
      exact hclosed script hscript
  · rintro settings backend disk deeds rfl
    obtain ⟨horderly, -, -⟩ :=
      ((orderly_fresh settings backend disk).workAll deeds).closeAll
    refine ⟨fun script => ⟨horderly.silent rfl, horderly.fileless rfl⟩, fun seat s hs => ?_⟩
    exact horderly.retired hs fun script hscript => by cases hscript

end Desk

end ScriptDesk
