import ScriptDesk.Proofs.Desk.Accounts
import ScriptDesk.Proofs.Desk.Disposal
import ScriptDesk.Proofs.Environment.Replay

/-!
# Files of scripts that are opened again

The tracked files are kept by script, not by environment, and a call that closes a script forgets
them after it took the script out of the register. Meanwhile the script may be opened again, and
then the files of its new environment are forgotten (`late_forget_erases`,
`files_lost_after_reopening`).

A script is settled when no call has still to forget its files (`Reception.IsSettled`). If it is
opened while it is settled, then its files are those that its own environment recorded, for as long
as that environment is in the register (`files_of_open_kept`).
-/

namespace ScriptDesk

/-- The files of its script as the responses that the environment applied have left them. -/
def Environment.recorded (environment : Environment) : Table Text TrackedFile :=
  (environment.log.filterMap Notice.response?).foldl Files.afterResponse .empty

theorem Environment.Tells.recorded_eq {before after : Environment} {files files' : Files}
    {notices : List Notice} (h : before.Tells after files files' notices)
    (hfiles : files.ofScript before.id = before.recorded) :
    files'.ofScript before.id = after.recorded := by
  unfold recorded at hfiles ⊢
  rw [h.files_eq, hfiles, h.log_eq, List.filterMap_append, List.foldl_append]

namespace Desk

/-! ### What a step of a call does to a script -/

/-- The call has taken the script out of the register and has still to forget its files. -/
def Station.owes (script : ScriptId) : Station → Bool
  | .forget other => other == script
  | .close taken _ => taken.any (·.1 == script)
  | _ => false

/-- A call that closes several scripts owes what it owes to the next one, or to the others. -/
theorem Station.owes_close {taken : List (ScriptId × Nat)} {pick : Nat} {entry : ScriptId × Nat}
    (h : taken[pick]? = some entry) (script : ScriptId) (count : Nat) :
    Station.owes script (.close taken count) =
      (entry.1 == script || Station.owes script (.close (taken.eraseIdx pick) count)) :=
  (perm_of_getElem? h).any_eq

/-- What a step of a call, from one station to the next, does to a script. -/
inductive Served (script : ScriptId) (desk desk' : Desk) (station next : Station) : Prop where
  /-- Nothing. -/
  | keeps (register_eq : desk'.register.get? script = desk.register.get? script)
    (files_eq : desk'.files.ofScript script = desk.files.ofScript script)
    (owes_eq : next.owes script = station.owes script)
  /-- It opens the script, with an environment on a new seat. -/
  | opens (closed : desk.register.get? script = none)
    (opened : desk'.register.get? script = some desk.seats.length)
    (files_eq : desk'.files.ofScript script = desk.files.ofScript script)
    (owes_eq : next.owes script = false)
    (environment : ∃ document, document.id = script ∧
      desk'.environment? desk.seats.length = some (.ofDocument document))
  /-- It takes the script out of the register. -/
  | closes (closed : desk'.register.get? script = none) (owes_eq : next.owes script = true)
  /-- It forgets the files of the script, which was taken out of the register before. -/
  | forgets (register_eq : desk'.register.get? script = desk.register.get? script)
    (files_eq : desk'.files.ofScript script = .empty) (owes_eq : station.owes script = true)

theorem served_create (desk : Desk) (document : Document) (pick : Nat) (script : ScriptId) :
    Served script desk (desk.serve pick (.create document)).1 (.create document)
      (desk.serve pick (.create document)).2 := by
  simp only [serve]
  cases hopen : desk.register.get? document.id with
  | some seat =>
    unfold getOrCreate
    rw [hopen]
    exact .keeps rfl rfl rfl
  | none =>
    obtain ⟨-, hregister, hfiles, hseats⟩ := getOrCreate_new hopen
    by_cases hscript : script = document.id
    · subst hscript
      refine .opens hopen ?_ (by rw [hfiles]) rfl ⟨document, rfl, ?_⟩
      · rw [hregister, Table.get?_set_self]
      · unfold environment?
        rw [hseats, if_pos rfl]
        rfl
    · refine .keeps ?_ (by rw [hfiles]) rfl
      rw [hregister, Table.get?_set_of_ne _ hscript]

theorem served_unregister (desk : Desk) (other : ScriptId) (pick : Nat) (script : ScriptId) :
    Served script desk (desk.serve pick (.unregister other)).1 (.unregister other)
      (desk.serve pick (.unregister other)).2 := by
  simp only [serve, unregister?]
  cases desk.register.get? other with
  | none => exact .keeps rfl rfl rfl
  | some seat =>
    obtain ⟨hregister, hfiles, -⟩ := desk.frame_dispose seat
    by_cases hscript : script = other
    · subst hscript
      exact .closes (Table.get?_erase_self _ _) (beq_self_eq_true script)
    · refine .keeps ?_ (congrArg (·.ofScript script) hfiles) (beq_false_of_ne (Ne.symm hscript))
      exact (Table.get?_erase_of_ne _ hscript).trans (congrArg (·.get? script) hregister)

theorem served_forget (desk : Desk) (other : ScriptId) (pick : Nat) (script : ScriptId) :
    Served script desk (desk.serve pick (.forget other)).1 (.forget other)
      (desk.serve pick (.forget other)).2 := by
  have hfiles := Files.ofScript_forget desk.files other script
  by_cases hscript : script = other
  · rw [if_pos hscript] at hfiles
    exact .forgets rfl hfiles (beq_iff_eq.mpr hscript.symm)
  · rw [if_neg hscript] at hfiles
    exact .keeps rfl hfiles (beq_false_of_ne (Ne.symm hscript)).symm

theorem served_empty (desk : Desk) (pick : Nat) (script : ScriptId) :
    Served script desk (desk.serve pick .empty).1 .empty (desk.serve pick .empty).2 := by
  cases hopen : desk.register.get? script with
  | none =>
    refine .keeps hopen.symm rfl (List.any_eq_false.mpr ?_)
    rintro ⟨other, seat⟩ hentry heq
    cases beq_iff_eq.mp heq
    rw [(Table.mem_entries_iff _ _ _).mp hentry] at hopen
    cases hopen
  | some seat =>
    refine .closes rfl (List.any_eq_true.mpr ⟨(script, seat), ?_, beq_self_eq_true script⟩)
    exact (Table.mem_entries_iff _ _ _).mpr hopen

theorem served_close (desk : Desk) (taken : List (ScriptId × Nat)) (count pick : Nat)
    (script : ScriptId) :
    Served script desk (desk.serve pick (.close taken count)).1 (.close taken count)
      (desk.serve pick (.close taken count)).2 := by
  cases taken with
  | nil => exact .keeps rfl rfl rfl
  | cons first others =>
    simp only [serve]
    cases hpick : (first :: others)[pick]? with
    | none => exact .keeps rfl rfl rfl
    | some entry =>
      obtain ⟨other, seat⟩ := entry
      obtain ⟨hregister, hfiles, -⟩ := desk.frame_dispose seat
      have hforget := Files.ofScript_forget (desk.dispose seat).files other script
      have howes := Station.owes_close hpick script count
      by_cases hscript : script = other
      · rw [if_pos hscript] at hforget
        refine .forgets (congrArg (·.get? script) hregister) hforget ?_
        rw [howes, beq_iff_eq.mpr hscript.symm, Bool.true_or]
      · rw [if_neg hscript] at hforget
        refine .keeps (congrArg (·.get? script) hregister)
          (hforget.trans (congrArg (·.ofScript script) hfiles)) ?_
        rw [howes, beq_false_of_ne (Ne.symm hscript), Bool.false_or]

/-- Every step of a call does one of these things. -/
theorem served (desk : Desk) (pick : Nat) (station : Station) (script : ScriptId) :
    Served script desk (desk.serve pick station).1 station (desk.serve pick station).2 := by
  cases station with
  | lookUp document =>
    simp only [serve]
    cases desk.register.get? document.id with
    | some seat => exact .keeps rfl rfl rfl
    | none => exact .keeps rfl rfl rfl
  | create document => exact served_create desk document pick script
  | get other => exact .keeps rfl rfl rfl
  | unregister other => exact served_unregister desk other pick script
  | forget other => exact served_forget desk other pick script
  | empty => exact served_empty desk pick script
  | close taken count => exact served_close desk taken count pick script
  | answered reply => exact .keeps rfl rfl rfl

/-! ### What it does to the environment of another script -/

/-- A step of a call that is not about closing a script leaves the environment that is open for it
alone. -/
theorem Accounted.environment?_serve {desk : Desk} {station : Station}
    {rest : List (ScriptId × Nat)}
    (h : desk.Accounted (desk.register.entries ++ (station.taken ++ rest))) {script : ScriptId}
    {seat : Nat} (hopen : desk.register.get? script = some seat)
    (hbefore : station.owes script = false) {pick : Nat}
    (hafter : (desk.serve pick station).2.owes script = false) :
    (desk.serve pick station).1.environment? seat = desk.environment? seat := by
  have hentry : (script, seat) ∈ desk.register.entries ++ (station.taken ++ rest) :=
    List.mem_append_left _ ((Table.mem_entries_iff _ _ _).mpr hopen)
  -- environments of other scripts are on other seats
  have hplace : ∀ {other place}, (other, place) ∈ desk.register.entries ++ (station.taken ++ rest) →
      other ≠ script → seat ≠ place := by
    intro other place hmem hne heq
    exact hne (congrArg Prod.fst (h.eq_of_seat hmem hentry heq.symm))
  cases station with
  | lookUp document =>
    simp only [Desk.serve]
    split <;> rfl
  | create document =>
    exact environment?_getOrCreate desk document (h.lt_length (List.mem_map_of_mem hentry))
  | get other => rfl
  | unregister other =>
    simp only [Desk.serve, unregister?] at hafter ⊢
    cases hother : desk.register.get? other with
    | none => rfl
    | some place =>
      rw [hother] at hafter
      have hmem := List.mem_append_left (Station.taken (.unregister other) ++ rest)
        ((Table.mem_entries_iff _ _ _).mpr hother)
      exact environment?_dispose_of_ne desk (hplace hmem (beq_eq_false_iff_ne.mp hafter))
  | forget other => rfl
  | empty => rfl
  | close taken count =>
    cases taken with
    | nil => rfl
    | cons first others =>
      simp only [Desk.serve]
      cases hpick : (first :: others)[pick]? with
      | none => rfl
      | some entry =>
        obtain ⟨other, place⟩ := entry
        have htaken := List.mem_of_getElem? hpick
        have hne := List.any_eq_false.mp hbefore _ htaken
        have hmem := List.mem_append_right desk.register.entries
          (List.mem_append_left rest htaken)
        exact environment?_dispose_of_ne desk (hplace hmem fun heq => hne (beq_iff_eq.mpr heq))
  | answered reply => rfl

/-! ### Settled scripts -/

theorem Retains.length_le {desk desk' : Desk} (h : desk.Retains desk') :
    desk.seats.length ≤ desk'.seats.length := by
  by_contra hlt
  obtain ⟨s, hs, -⟩ := h desk'.seats.length _ (List.getElem?_eq_getElem (Nat.lt_of_not_le hlt))
  exact Nat.lt_irrefl _ (List.getElem?_eq_some_iff.mp hs).1

/-- No seat is taken away. -/
theorem length_seats_serve (desk : Desk) (pick : Nat) (station : Station) :
    desk.seats.length ≤ (desk.serve pick station).1.seats.length := by
  cases station with
  | lookUp document =>
    simp only [serve]
    split <;> exact Nat.le_refl _
  | create document => exact (desk.retains_getOrCreate document).length_le
  | unregister script =>
    simp only [serve, unregister?]
    cases desk.register.get? script with
    | none => exact Nat.le_refl _
    | some seat => exact Nat.le_of_eq (desk.frame_dispose seat).2.2.symm
  | close taken count =>
    cases taken with
    | nil => exact Nat.le_refl _
    | cons first others =>
      simp only [serve]
      cases (first :: others)[pick]? with
      | none => exact Nat.le_refl _
      | some entry => exact Nat.le_of_eq (desk.frame_dispose entry.2).2.2.symm
  | _ => exact Nat.le_refl _

namespace Reception

variable {reception : Reception} {script : ScriptId} {seat : Nat} {environment : Environment}

/-- No call has still to forget the files of the script. -/
def IsSettled (reception : Reception) (script : ScriptId) : Prop :=
  ∀ station ∈ reception.stations, station.owes script = false

theorem isSettled_iff {station : Station} {others : List Station}
    (h : reception.stations.Perm (station :: others)) (script : ScriptId) :
    reception.IsSettled script ↔
      station.owes script = false ∧ ∀ other ∈ others, other.owes script = false := by
  unfold IsSettled
  simp only [h.mem_iff, List.mem_cons, forall_eq_or_imp]

theorem isSettled_ask (reception : Reception) (errand : Errand) (script : ScriptId) :
    IsSettled { reception with stations := reception.stations ++ [errand.station] } script ↔
      reception.IsSettled script := by
  have howes : errand.station.owes script = false := by cases errand <;> rfl
  rw [isSettled_iff (List.perm_append_singleton errand.station reception.stations)]
  exact and_iff_right howes

/-- Of a settled script no environment has still to be disposed. -/
theorem IsSettled.not_mem_taken (h : reception.IsSettled script) (seat : Nat) :
    (script, seat) ∉ reception.taken := by
  intro hmem
  obtain ⟨station, hstation, htaken⟩ := List.mem_flatMap.mp hmem
  have howes := h station hstation
  cases station with
  | close taken count => exact List.any_eq_false.mp howes _ htaken (beq_self_eq_true script)
  | _ => cases htaken

/-- Who is attached and of a settled script is open. -/
theorem IsSettled.open_of_attached (h : reception.IsSettled script)
    (haccount : reception.desk.Accounted reception.live) {s : Seat} {pump : Pump}
    (hs : reception.desk.Attached seat s pump) (hid : s.environment.id = script) :
    reception.desk.register.get? script = some seat := by
  have hpump : s.pump ≠ none := by
    rw [hs.pump_eq]
    exact Option.some_ne_none pump
  have hmem := haccount.mem_live hs.seat_eq (.inr hpump)
  rw [hid] at hmem
  rcases List.mem_append.mp hmem with hregistered | htaken
  · exact (Table.mem_entries_iff _ _ _).mp hregistered
  · exact absurd htaken (h.not_mem_taken seat)

/-- The account of live environments is right, and of settled scripts that are not open there are no
files. -/
structure IsSound (reception : Reception) : Prop where
  /-- The live environments are those in the register and those that have still to be disposed. -/
  accounted : reception.desk.Accounted reception.live
  /-- No files are known of a settled script that is not open. -/
  fileless : ∀ {script}, reception.desk.register.get? script = none → reception.IsSettled script →
    reception.desk.files.ofScript script = .empty

theorem isSound_fresh (settings : Settings) (backend : Option Backend) (disk : Disk) :
    (fresh settings backend disk).IsSound :=
  ⟨accounted_fresh settings backend disk, fun _ _ => rfl⟩

theorem IsSound.step (h : reception.IsSound) {after : Reception} (hstep : reception.Stepped after) :
    after.IsSound := by
  refine ⟨accounted_step h.accounted hstep, fun {script} hclosed hsettled => ?_⟩
  cases hstep with
  | idle => exact h.fileless hclosed hsettled
  | asked errand => exact h.fileless hclosed ((isSettled_ask reception errand script).mp hsettled)
  | @served _ station hstation pick =>
    obtain ⟨hnext, hothers⟩ := (isSettled_iff (perm_set hstation _) script).mp hsettled
    cases reception.desk.served pick station script with
    | keeps register_eq files_eq owes_eq =>
      refine files_eq.trans (h.fileless (register_eq.symm.trans hclosed) ?_)
      exact (isSettled_iff (perm_of_getElem? hstation) script).mpr
        ⟨owes_eq.symm.trans hnext, hothers⟩
    | opens _ opened => cases hclosed.symm.trans opened
    | closes _ owes_eq => cases hnext.symm.trans owes_eq
    | forgets _ files_eq => exact files_eq
  | moved first =>
    have hproceeds := reception.desk.proceeds_move first
    rw [hproceeds.register_eq] at hclosed
    refine (hproceeds.files fun hs hid => ?_).trans (h.fileless hclosed hsettled)
    cases hclosed.symm.trans (IsSettled.open_of_attached hsettled h.accounted hs hid)

theorem IsSound.run (steps : List Step) :
    ∀ {reception : Reception}, reception.IsSound → (reception.run steps).IsSound := by
  induction steps with
  | nil => intro reception h; exact h
  | cons next steps ih => intro reception h; exact ih (h.step (reception.stepped next))

/-! ### Files of open scripts -/

/-- The script is open and settled, and its files are what its environment recorded. -/
structure Owns (reception : Reception) (script : ScriptId) (seat : Nat)
    (environment : Environment) : Prop where
  /-- The script is open. -/
  open_eq : reception.desk.register.get? script = some seat
  /-- No call has still to forget its files. -/
  settled : reception.IsSettled script
  /-- This is the environment on its seat. -/
  environment_eq : reception.desk.environment? seat = some environment
  /-- It is that of the script. -/
  id_eq : environment.id = script
  /-- The files are what it recorded. -/
  files_eq : reception.desk.files.ofScript script = environment.recorded

/-- A script that is opened while it is settled has no files yet. -/
theorem IsSound.exists_owns (h : reception.IsSound) {after : Reception}
    (hstep : reception.Stepped after) (hbefore : reception.desk.register.get? script ≠ some seat)
    (hsettled : reception.IsSettled script)
    (hopen : after.desk.register.get? script = some seat) :
    ∃ environment, after.Owns script seat environment := by
  cases hstep with
  | idle | asked errand => exact absurd hopen hbefore
  | @served _ station hstation pick =>
    obtain ⟨-, hothers⟩ := (isSettled_iff (perm_of_getElem? hstation) script).mp hsettled
    cases reception.desk.served pick station script with
    | keeps register_eq | forgets register_eq =>
      exact absurd (register_eq.symm.trans hopen) hbefore
    | opens closed opened files_eq owes_eq environment =>
      obtain ⟨document, hid, henvironment⟩ := environment
      cases opened.symm.trans hopen
      exact ⟨.ofDocument document, hopen,
        (isSettled_iff (perm_set hstation _) script).mpr ⟨owes_eq, hothers⟩, henvironment, hid,
        files_eq.trans (h.fileless closed hsettled)⟩
    | closes closed => cases closed.symm.trans hopen
  | moved first =>
    rw [(reception.desk.proceeds_move first).register_eq] at hopen
    exact absurd hopen hbefore

/-- What a pump delivers to the environment is recorded, and others do not touch the files. -/
theorem Owns.advance (h : reception.Owns script seat environment)
    (haccount : reception.desk.Accounted reception.live) {desk : Desk} {other : Nat} {s : Seat}
    {pump pump' : Pump} {delivered : Option Event}
    (hadvance : reception.desk.Advance desk other s pump pump' delivered)
    (hregister : desk.register = reception.desk.register) :
    ∃ after, Owns { reception with desk } script seat after := by
  have hopen : desk.register.get? script = some seat := by
    rw [hregister]
    exact h.open_eq
  have henvironment := hadvance.environment?_eq seat
  by_cases hseat : seat = other
  -- what its own pump delivers is recorded
  · subst hseat
    obtain ⟨o, ho, rfl⟩ := exists_seat? h.environment_eq
    cases hadvance.attached.seat_eq.symm.trans ho
    obtain ⟨notices, htells⟩ := Environment.exists_tells_deliverAll delivered.toList s.environment
      reception.desk.files
    rw [if_pos rfl] at henvironment
    refine ⟨_, hopen, h.settled, henvironment, htells.id_eq.trans h.id_eq, ?_⟩
    have hrecorded := htells.recorded_eq (h.id_eq.symm ▸ h.files_eq)
    rw [h.id_eq, ← hadvance.files_eq] at hrecorded
    exact hrecorded
  -- another pump would be that of a second live environment if it were of this script
  · rw [if_neg hseat] at henvironment
    have hne : script ≠ s.environment.id := by
      intro heq
      have hother := h.settled.open_of_attached haccount hadvance.attached heq.symm
      exact hseat (Option.some.inj (h.open_eq.symm.trans hother))
    refine ⟨environment, hopen, h.settled, henvironment.trans h.environment_eq, h.id_eq, ?_⟩
    refine Eq.trans ?_ h.files_eq
    rw [hadvance.files_eq]
    exact Environment.ofScript_deliverAll_of_ne _ _ _ hne

theorem Owns.move (h : reception.Owns script seat environment)
    (haccount : reception.desk.Accounted reception.live) (first : Move) :
    ∃ after, Owns { reception with desk := reception.desk.move first } script seat after := by
  cases first with
  | publish event =>
    exact ⟨environment, h.open_eq, h.settled, h.environment_eq, h.id_eq, h.files_eq⟩
  | take other =>
    simp only [Desk.move]
    cases htake : reception.desk.takeNext? other with
    | none => exact ⟨environment, h⟩
    | some desk =>
      obtain ⟨s, pump, pump', hadvance⟩ := advance_of_takeNext? htake
      exact h.advance haccount hadvance (proceeds_of_takeNext? htake).register_eq
  | pump other =>
    simp only [Desk.move]
    cases hstep : reception.desk.pumpStep? other with
    | none => exact ⟨environment, h⟩
    | some result =>
      obtain ⟨s, pump, pump', delivered, hadvance⟩ := advance_of_pumpStep? hstep
      exact h.advance haccount hadvance (proceeds_of_pumpStep? hstep).register_eq
  | hold other held =>
    refine ⟨environment, h.open_eq, h.settled, ?_, h.id_eq, h.files_eq⟩
    simp only [Desk.move, environment?_hold]
    exact h.environment_eq

/-- As long as the environment is in the register, its files are kept. -/
theorem Owns.step (h : reception.Owns script seat environment)
    (haccount : reception.desk.Accounted reception.live) {after : Reception}
    (hstep : reception.Stepped after) (hstill : after.desk.register.get? script = some seat) :
    ∃ environment, after.Owns script seat environment := by
  cases hstep with
  | idle => exact ⟨environment, h⟩
  | asked errand =>
    have hsettled := (isSettled_ask reception errand script).mpr h.settled
    exact ⟨environment, h.open_eq, hsettled, h.environment_eq, h.id_eq, h.files_eq⟩
  | @served _ station hstation pick =>
    obtain ⟨howes, hothers⟩ := (isSettled_iff (perm_of_getElem? hstation) script).mp h.settled
    cases reception.desk.served pick station script with
    | keeps register_eq files_eq owes_eq =>
      have hnext := owes_eq.trans howes
      refine ⟨environment, hstill,
        (isSettled_iff (perm_set hstation _) script).mpr ⟨hnext, hothers⟩, ?_, h.id_eq,
        files_eq.trans h.files_eq⟩
      refine Eq.trans ?_ h.environment_eq
      exact (accounted_apart haccount hstation).environment?_serve h.open_eq howes hnext
    | opens closed => cases closed.symm.trans h.open_eq
    | closes closed => cases closed.symm.trans hstill
    | forgets _ _ owes_eq => cases howes.symm.trans owes_eq
  | moved first => exact h.move haccount first

theorem length_seats_step {after : Reception} (hstep : reception.Stepped after) :
    reception.desk.seats.length ≤ after.desk.seats.length := by
  cases hstep with
  | idle | asked errand => exact Nat.le_refl _
  | @served _ station _ pick => exact reception.desk.length_seats_serve pick station
  | moved first => exact (reception.desk.proceeds_move first).retains.length_le

/-- A script that has left a seat does not come back to it. -/
theorem left_step (hseat : seat < reception.desk.seats.length)
    (hleft : reception.desk.register.get? script ≠ some seat) {after : Reception}
    (hstep : reception.Stepped after) : after.desk.register.get? script ≠ some seat := by
  cases hstep with
  | idle | asked errand => exact hleft
  | @served _ station _ pick =>
    cases reception.desk.served pick station script with
    | keeps register_eq | forgets register_eq => exact register_eq ▸ hleft
    | opens _ opened =>
      rw [opened]
      intro heq
      exact Nat.ne_of_lt hseat (Option.some.inj heq).symm
    | closes closed =>
      rw [closed]
      intro heq
      cases heq
  | moved first =>
    rw [(reception.desk.proceeds_move first).register_eq]
    exact hleft

theorem left_run (steps : List Step) :
    ∀ {reception : Reception}, seat < reception.desk.seats.length →
      reception.desk.register.get? script ≠ some seat →
        (reception.run steps).desk.register.get? script ≠ some seat := by
  induction steps with
  | nil => intro reception _ hleft; exact hleft
  | cons next steps ih =>
    intro reception hseat hleft
    have hstep := reception.stepped next
    exact ih (Nat.lt_of_lt_of_le hseat (length_seats_step hstep)) (left_step hseat hleft hstep)

/-- Many steps keep the files, too. -/
theorem Owns.run (steps : List Step) :
    ∀ {reception : Reception} {environment : Environment},
      reception.Owns script seat environment → reception.IsSound →
        (reception.run steps).desk.register.get? script = some seat →
          ∃ after, (reception.run steps).Owns script seat after := by
  induction steps with
  | nil => intro reception environment h _ _; exact ⟨environment, h⟩
  | cons next steps ih =>
    intro reception environment h hsound hlast
    have hstep := reception.stepped next
    by_cases hstill : (reception.step next).desk.register.get? script = some seat
    · obtain ⟨after, hafter⟩ := h.step hsound.accounted hstep hstill
      exact ih hafter (hsound.step hstep) hlast
    -- once it has left the register it does not come back
    · have hentry := (Table.mem_entries_iff _ _ _).mpr h.open_eq
      have hseat := hsound.accounted.lt_length
        (List.mem_map_of_mem (List.mem_append_left reception.taken hentry))
      have hlonger := length_seats_step hstep
      exact absurd hlast (left_run steps (Nat.lt_of_lt_of_le hseat hlonger) hstill)

/-- **Files of an open script are kept.** Calls of the register are served one beside the other,
events are published and pumps go on, in any order. If a script is opened while no call has still to
forget its files, then for as long as that environment is in the register, the files of the script
are what the environment recorded. -/
theorem files_of_open_kept (settings : Settings) (backend : Option Backend) (disk : Disk)
    (earlier : List Step) (opening : Step) (later : List Step) {script : ScriptId} {seat : Nat}
    (hbefore : ((fresh settings backend disk).run earlier).desk.register.get? script ≠ some seat)
    (hsettled : ((fresh settings backend disk).run earlier).IsSettled script)
    (hopen : (((fresh settings backend disk).run earlier).step opening).desk.register.get? script =
      some seat)
    (hstill : ((fresh settings backend disk).run (earlier ++ opening :: later)).desk.register.get?
      script = some seat) :
    let reception := (fresh settings backend disk).run (earlier ++ opening :: later)
    ∃ environment, reception.desk.environment? seat = some environment ∧
      environment.id = script ∧
        reception.desk.files.ofScript script = environment.recorded := by
  intro reception
  have hsound := (isSound_fresh settings backend disk).run earlier
  have hreception : reception =
      (((fresh settings backend disk).run earlier).step opening).run later := List.foldl_append
  have hstep := ((fresh settings backend disk).run earlier).stepped opening
  obtain ⟨environment, hopened⟩ := hsound.exists_owns hstep hbefore hsettled hopen
  obtain ⟨after, hafter⟩ := hopened.run later (hsound.step hstep) (hreception ▸ hstill)
  rw [hreception]
  exact ⟨after, hafter.environment_eq, hafter.id_eq, hafter.files_eq⟩

/-- A document. -/
def reopenedDocument : Document := { id := ⟨1⟩, name := ['a'] }

/-- A file of its script is opened. -/
def fileOpened : Event := ⟨⟨1⟩, .file (.opened ['x'])⟩

/-- The document is opened, its script is closed, and someone is about to open it again. -/
def closedBefore : List Step :=
  [.ask (.getOrCreate reopenedDocument), .go 0 0, .go 0 0, .ask (.remove ⟨1⟩), .go 1 0, .go 1 0,
    .ask (.getOrCreate reopenedDocument), .go 2 0]

/-- Once it is opened it gets a file. Someone else asks to close it, but nothing is done yet. -/
def openedAgain : List Step :=
  [.move (.publish fileOpened), .move (.pump 1), .ask (.remove ⟨1⟩)]

theorem files_of_open_kept_reopened :
    let reception := (fresh { scriptsDirectory := [] } none {}).run
      (closedBefore ++ .go 2 0 :: openedAgain)
    ∃ environment, reception.desk.environment? 1 = some environment ∧
      environment.recorded.keys = [['x']] ∧
        reception.desk.files.ofScript ⟨1⟩ = environment.recorded := by
  have hbefore : ((fresh { scriptsDirectory := [] } none {}).run closedBefore).desk.register.get?
      ⟨1⟩ ≠ some 1 := by decide
  have hsettled : ((fresh { scriptsDirectory := [] } none {}).run closedBefore).IsSettled ⟨1⟩ := by
    unfold IsSettled
    decide
  obtain ⟨environment, henvironment, -, hfiles⟩ :=
    files_of_open_kept { scriptsDirectory := [] } none {} closedBefore (.go 2 0) openedAgain hbefore
      hsettled rfl rfl
  refine ⟨environment, henvironment, ?_, hfiles⟩
  rw [← hfiles]
  rfl

/-- A call that comes late with forgetting erases the files of a script that is open again. -/
theorem late_forget_erases {reception : Reception} {number : Nat} {script : ScriptId}
    (h : reception.stations[number]? = some (.forget script)) (pick : Nat) :
    let after := reception.step (.go number pick)
    after.desk.register = reception.desk.register ∧
      after.desk.environment? = reception.desk.environment? ∧
        after.desk.files.ofScript script = .empty := by
  simp only [step, h]
  exact ⟨rfl, rfl, (Files.ofScript_forget _ script script).trans (if_pos rfl)⟩

/-- The document is opened, its script is being closed, and before the files are forgotten it is
opened again and gets a file. -/
def reopenedBeforeForgetting : List Step :=
  [.ask (.getOrCreate reopenedDocument), .go 0 0, .go 0 0, .ask (.remove ⟨1⟩), .go 1 0,
    .ask (.getOrCreate reopenedDocument), .go 2 0, .go 2 0, .move (.publish fileOpened),
    .move (.pump 1)]

/-- Then the script is open, and the call that closes it erases the file that the environment has
recorded. -/
theorem files_lost_after_reopening :
    let reception := (fresh { scriptsDirectory := [] } none {}).run reopenedBeforeForgetting
    let after := reception.step (.go 1 0)
    (reception.desk.register.get? ⟨1⟩ = some 1 ∧
      (reception.desk.files.ofScript ⟨1⟩).keys = [['x']]) ∧
    after.desk.register.get? ⟨1⟩ = some 1 ∧
      (after.desk.environment? 1).map (·.recorded.keys) = some [['x']] ∧
        after.desk.files.ofScript ⟨1⟩ = .empty :=
  ⟨⟨rfl, rfl⟩, rfl, rfl, rfl⟩

end Reception

end Desk

end ScriptDesk
