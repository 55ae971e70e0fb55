import ScriptDesk.Daemon.Run
import ScriptDesk.Proofs.Daemon.Forwarding
import ScriptDesk.Proofs.Desk.Deliveries
import ScriptDesk.Proofs.Desk.Errands
import ScriptDesk.Proofs.Desk.Watching

/-!
# The end of the input

When the bridge has noticed the end of the stream, every event was published, but it may still be
left to a pump (`Daemon.Accounts`). The closer does not wait for pumps. It closes the open scripts
one after the other, and what the pump of a script has not delivered at that moment it never
delivers (`Daemon.IsClosed`).

So how much of the input a script gets depends on the schedule: a first part of its events, and all
of them if its pump is done in time (`delivered_until_closed`). The closer alone is always able to
finish, and so the last events can be lost (`output_lost_at_end`).
-/

namespace ScriptDesk

namespace Desk

/-- Moves do not change a disposed environment. -/
theorem environment?_moveAll_of_disposed {seat : Nat} {environment : Environment}
    (hdisposed : environment.disposed = true) {moves : List Move} :
    ∀ {desk : Desk}, desk.environment? seat = some environment →
      (desk.moveAll moves).environment? seat = some environment := by
  induction moves with
  | nil => exact id
  | cons first rest ih =>
    intro desk h
    refine ih ?_
    cases first with
    | publish event => exact h
    | take other =>
      rw [move]
      cases htake : desk.takeNext? other with
      | none => exact h
      | some desk' =>
        obtain ⟨s, pump, pump', hadvance⟩ := advance_of_takeNext? htake
        exact (hadvance.of_disposed h hdisposed).1
    | pump other =>
      rw [move]
      cases hstep : desk.pumpStep? other with
      | none => exact h
      | some result =>
        obtain ⟨desk', refusal⟩ := result
        obtain ⟨s, pump, pump', taken, hadvance⟩ := advance_of_pumpStep? hstep
        exact (hadvance.of_disposed h hdisposed).1
    | hold other held => exact (congrFun (environment?_hold desk other held) seat).trans h

end Desk

namespace Daemon

variable {daemon daemon' : Daemon} {task : Task}

/-! ### Which scripts are still to be closed -/

/-- The seats of the scripts that are open or have still to be closed. -/
def opened (daemon : Daemon) : ScriptId → Option Nat :=
  match daemon.phase with
  | .serving | .ended => daemon.desk.register.get?
  | .closing left _ => (Table.find? · left)
  | .stopped => fun _ => none

/-- The desk is orderly, and no script is closed twice. -/
structure IsOrderly (daemon : Daemon) : Prop where
  /-- The desk is orderly. -/
  orderly : daemon.desk.Orderly daemon.opened
  /-- The scripts that are left to the closer are different. -/
  nodup : ∀ {left scripts}, daemon.phase = .closing left scripts → (left.map Prod.fst).Nodup

/-- The other tasks leave to the closer what there is to close. -/
theorem opened_step (hstep : daemon.step? task = some daemon') (htask : task ≠ .closer) :
    daemon'.opened = daemon.opened := by
  obtain ⟨hphase, moves, hforwards, -⟩ := forwards_step hstep htask
  have hregister : daemon'.desk.register = daemon.desk.register := by
    rw [hforwards.desk, (Desk.proceeds_moveAll moves daemon.desk).register_eq]
  rcases hphase with hphase | ⟨hphase, hphase'⟩
  · rw [opened, opened, hphase, hregister]
  · rw [opened, opened, hphase, hphase', hregister]

theorem opened_perform {tasks : List Task} (htasks : ∀ task ∈ tasks, task ≠ .closer) :
    ∀ daemon : Daemon, (daemon.perform tasks).opened = daemon.opened := by
  induction tasks with
  | nil => exact fun _ => rfl
  | cons task tasks ih =>
    intro daemon
    obtain ⟨htask, hrest⟩ := List.forall_mem_cons.mp htasks
    cases hstep : daemon.step? task with
    | none => rw [perform_cons_none hstep, ih hrest]
    | some daemon' => rw [perform_cons_some hstep, ih hrest, opened_step hstep htask]

/-- The closer takes the scripts out of the register, or closes the next one, or stops. -/
theorem closerStep?_cases (h : daemon.IsOrderly) (hstep : daemon.closerStep? = some daemon') :
    (daemon'.opened = daemon.opened ∧
        ∃ register, daemon'.desk = { daemon.desk with register := register }) ∨
      ∃ script seat, daemon.opened script = some seat ∧
        daemon'.opened = Function.update daemon.opened script none ∧
        daemon'.desk = ((daemon.desk.dispose seat).forget script).1 := by
  rw [closerStep?] at hstep
  split at hstep
  · cases hstep
  · cases hstep
  · rename_i hphase
    cases hstep
    refine .inl ⟨?_, _, rfl⟩
    rw [opened, opened, hphase]
    rfl
  · rename_i script seat left scripts hphase
    cases hstep
    refine .inr ⟨script, seat, ?_, ?_, rfl⟩
    · rw [opened, hphase]
      exact if_pos rfl
    · rw [opened, opened, hphase]
      exact (Desk.update_find?_cons (h.nodup hphase)).symm
  · rename_i scripts hphase
    cases hstep
    refine .inl ⟨?_, daemon.desk.register, rfl⟩
    rw [opened, opened, hphase]
    rfl

theorem nodup_closerStep? (h : daemon.IsOrderly) (hstep : daemon.closerStep? = some daemon')
    {left : List (ScriptId × Nat)} {scripts : Nat} (hphase' : daemon'.phase = .closing left scripts) :
    (left.map Prod.fst).Nodup := by
  rw [closerStep?] at hstep
  split at hstep
  · cases hstep
  · cases hstep
  · cases hstep
    cases hphase'
    exact daemon.desk.register.nodup
  · rename_i hphase
    cases hstep
    cases hphase'
    exact (List.nodup_cons.mp (h.nodup hphase)).2
  · cases hstep
    cases hphase'

theorem IsOrderly.step? (h : daemon.IsOrderly) (hstep : daemon.step? task = some daemon') :
    daemon'.IsOrderly := by
  by_cases htask : task = .closer
  · subst htask
    refine ⟨?_, nodup_closerStep? h hstep⟩
    rcases closerStep?_cases h hstep with ⟨hopened, register, hdesk⟩ |
      ⟨script, seat, hscript, hopened, hdesk⟩
    · rw [hopened, hdesk]
      exact h.orderly.setRegister register
    · rw [hopened, hdesk]
      exact h.orderly.close hscript
  · obtain ⟨hphase, moves, hforwards, -⟩ := forwards_step hstep htask
    refine ⟨?_, fun {left scripts} hclosing => ?_⟩
    · rw [opened_step hstep htask, hforwards.desk]
      exact h.orderly.proceeds (Desk.proceeds_moveAll moves daemon.desk)
    · rcases hphase with hphase | ⟨-, hphase⟩
      · exact h.nodup (hphase.symm.trans hclosing)
      · cases hphase.symm.trans hclosing

theorem IsOrderly.perform (h : daemon.IsOrderly) {tasks : List Task} :
    (daemon.perform tasks).IsOrderly :=
  perform_of_step? (fun h hstep => h.step? hstep) h

/-! ### The account of a script -/

section Account

variable {seat : Nat} {environment : Environment} {files : Files}
  {events delivered waiting : List Event}

/-- Of the events about its script, a seat has got `delivered`, its pump has `waiting`, and the
others are coming. -/
structure Accounts (daemon : Daemon) (seat : Nat) (environment : Environment) (files : Files)
    (events delivered waiting : List Event) : Prop where
  /-- The script is not yet closed. -/
  opened_eq : daemon.opened environment.id = some seat
  /-- What was delivered and what is left to the pump. -/
  hasDelivered : daemon.desk.HasDelivered seat environment files delivered waiting
  /-- These and those that are coming are all events about the script. -/
  events_eq : events = delivered ++ waiting ++ daemon.coming.filter (·.script = environment.id)

/-- The script of a seat is closed, and its environment has got `delivered`. -/
structure IsClosed (daemon : Daemon) (seat : Nat) (environment : Environment) (files : Files)
    (delivered : List Event) : Prop where
  /-- The environment is disposed. -/
  environment_eq : daemon.desk.environment? seat =
    some { (environment.deliverAll files delivered).1 with disposed := true }
  /-- There is nothing left to close. -/
  opened_ne : ∀ script, daemon.opened script ≠ some seat

/-- When the bridge is done, the events were delivered or are left to the pump. -/
theorem Accounts.events_eq_append
    (h : daemon.Accounts seat environment files events delivered waiting)
    (hsettled : daemon.IsSettled) (hphase : daemon.phase ≠ .serving) :
    events = delivered ++ waiting := by
  have hevents := h.events_eq
  rwa [hsettled.resolve_left hphase, List.filter_nil, List.append_nil] at hevents

/-- The closer leaves an account as it is or closes it. -/
theorem Accounts.closerStep? (h : daemon.Accounts seat environment files events delivered waiting)
    (horderly : daemon.IsOrderly) (hstep : daemon.closerStep? = some daemon') :
    daemon'.Accounts seat environment files events delivered waiting ∨
      daemon'.IsClosed seat environment files delivered := by
  have hevents := h.events_eq
  rw [← (coming_closerStep? hstep).2.2] at hevents
  rcases closerStep?_cases horderly hstep with ⟨hopened, register, hdesk⟩ |
    ⟨script, other, hscript, hopened, hdesk⟩
  · refine .inl ⟨hopened ▸ h.opened_eq, ?_, hevents⟩
    rw [hdesk]
    obtain ⟨s, pump, hs, hrest⟩ := h.hasDelivered
    exact ⟨s, pump, ⟨hs.seat_eq, hs.pump_eq⟩, hrest⟩
  · by_cases hid : script = environment.id
    · subst hid
      cases hscript.symm.trans h.opened_eq
      refine .inr ⟨?_, fun other => ?_⟩
      · rw [hdesk]
        exact Desk.environment?_dispose h.hasDelivered.environment?_eq
      · rw [hopened, Function.update_apply]
        split
        · nofun
        · rename_i hne
          exact fun hother => hne (horderly.orderly.script_eq hother hscript)
    · obtain ⟨o, number, ho⟩ := horderly.orderly.serving hscript
      refine .inl ⟨?_, ?_, hevents⟩
      · rw [hopened, Function.update_apply, if_neg (Ne.symm hid)]
        exact h.opened_eq
      · rw [hdesk]
        exact h.hasDelivered.close horderly.orderly.wired ho hid

/-- A step goes on with an account, or it is the one of the closer that closes it. -/
theorem Accounts.step? (h : daemon.Accounts seat environment files events delivered waiting)
    (horderly : daemon.IsOrderly) (hstep : daemon.step? task = some daemon') :
    (∃ delivered' waiting',
        daemon'.Accounts seat environment files events delivered' waiting') ∨
      task = .closer ∧ daemon'.IsClosed seat environment files delivered := by
  by_cases htask : task = .closer
  · subst htask
    exact (h.closerStep? horderly hstep).imp (fun h => ⟨_, _, h⟩) fun h => ⟨rfl, h⟩
  · obtain ⟨-, moves, hforwards, -⟩ := forwards_step hstep htask
    obtain ⟨more, waiting', hmore, hdelivered⟩ :=
      h.hasDelivered.moveAll moves horderly.orderly.wired
    refine .inl ⟨delivered ++ more, waiting', ?_, hforwards.desk ▸ hdelivered, ?_⟩
    · rw [opened_step hstep htask]
      exact h.opened_eq
    · calc events = delivered ++ waiting ++ daemon.coming.filter (·.script = environment.id) :=
            h.events_eq
        _ = delivered ++ (waiting ++ (Desk.published moves).filter (·.script = environment.id)) ++
            daemon'.coming.filter (·.script = environment.id) := by
          rw [hforwards.coming, List.filter_append]
          simp only [List.append_assoc]
        _ = delivered ++ more ++ waiting' ++
            daemon'.coming.filter (·.script = environment.id) := by
          rw [hmore]
          simp only [List.append_assoc]

/-- What is closed stays as it is. -/
theorem IsClosed.step? (h : daemon.IsClosed seat environment files delivered)
    (horderly : daemon.IsOrderly) (hstep : daemon.step? task = some daemon') :
    daemon'.IsClosed seat environment files delivered := by
  by_cases htask : task = .closer
  · subst htask
    rcases closerStep?_cases horderly hstep with ⟨hopened, register, hdesk⟩ |
      ⟨script, other, hscript, hopened, hdesk⟩
    · refine ⟨?_, hopened ▸ h.opened_ne⟩
      rw [hdesk]
      exact h.environment_eq
    · obtain ⟨o, number, ho⟩ := horderly.orderly.serving hscript
      have hseat : seat ≠ other := by
        rintro rfl
        exact h.opened_ne script hscript
      refine ⟨?_, fun other => ?_⟩
      · rw [hdesk, ho.closed_eq, Desk.environment?_modifySeat_of_ne _ hseat]
        exact h.environment_eq
      · rw [hopened, Function.update_apply]
        split
        · nofun
        · exact h.opened_ne other
  · obtain ⟨-, moves, hforwards, -⟩ := forwards_step hstep htask
    refine ⟨?_, opened_step hstep htask ▸ h.opened_ne⟩
    rw [hforwards.desk]
    exact Desk.environment?_moveAll_of_disposed rfl h.environment_eq

theorem IsClosed.perform (h : daemon.IsClosed seat environment files delivered)
    (horderly : daemon.IsOrderly) {tasks : List Task} :
    (daemon.perform tasks).IsClosed seat environment files delivered := by
  refine (perform_of_step? (P := fun daemon =>
    daemon.IsClosed seat environment files delivered ∧ daemon.IsOrderly) ?_ ⟨h, horderly⟩).1
  rintro daemon task daemon' ⟨hclosed, horderly⟩ hstep
  exact ⟨hclosed.step? horderly hstep, horderly.step? hstep⟩

/-- **A run goes on with an account, until the closer closes it**: then what is left to the pump is
lost. -/
theorem Accounts.perform (tasks : List Task) :
    ∀ {daemon : Daemon} {delivered waiting : List Event},
      daemon.Accounts seat environment files events delivered waiting → daemon.IsOrderly →
      (∃ delivered' waiting',
        (daemon.perform tasks).Accounts seat environment files events delivered' waiting') ∨
      ∃ earlier later delivered' waiting', tasks = earlier ++ .closer :: later ∧
        (daemon.perform earlier).Accounts seat environment files events delivered' waiting' ∧
        (∃ daemon', (daemon.perform earlier).closerStep? = some daemon' ∧
          daemon'.IsClosed seat environment files delivered') ∧
        (daemon.perform tasks).IsClosed seat environment files delivered' := by
  induction tasks with
  | nil => exact fun h _ => .inl ⟨_, _, h⟩
  | cons task tasks ih =>
    intro daemon delivered waiting h horderly
    cases hstep : daemon.step? task with
    | none =>
      rw [perform_cons_none hstep]
      refine (ih h horderly).imp id ?_
      rintro ⟨earlier, later, delivered', waiting', rfl, hrest⟩
      exact ⟨task :: earlier, later, delivered', waiting', rfl, by rwa [perform_cons_none hstep]⟩
    | some daemon' =>
      rw [perform_cons_some hstep]
      rcases h.step? horderly hstep with ⟨delivered', waiting', h'⟩ | ⟨rfl, hclosed⟩
      · refine (ih h' (horderly.step? hstep)).imp id ?_
        rintro ⟨earlier, later, delivered', waiting', rfl, hrest⟩
        exact ⟨task :: earlier, later, delivered', waiting', rfl, by rwa [perform_cons_some hstep]⟩
      · exact .inr ⟨[], tasks, delivered, waiting, rfl, h, ⟨daemon', hstep, hclosed⟩,
          hclosed.perform (horderly.step? hstep)⟩

/-- The closer alone can finish, and then a script has got what was delivered before. -/
theorem exists_closed_of_closing {left : List (ScriptId × Nat)} :
    ∀ {daemon : Daemon} {scripts : Nat}, daemon.phase = .closing left scripts → daemon.IsOrderly →
      daemon.Accounts seat environment files events delivered waiting ∨
        daemon.IsClosed seat environment files delivered →
      ∃ rest, (∀ task ∈ rest, task = .closer) ∧ (daemon.perform rest).phase = .stopped ∧
        (daemon.perform rest).IsClosed seat environment files delivered := by
  have hnext : ∀ {daemon daemon' : Daemon}, daemon.closerStep? = some daemon' → daemon.IsOrderly →
      daemon.Accounts seat environment files events delivered waiting ∨
        daemon.IsClosed seat environment files delivered →
      daemon'.Accounts seat environment files events delivered waiting ∨
        daemon'.IsClosed seat environment files delivered := by
    intro daemon daemon' hstep horderly h
    exact h.elim (·.closerStep? horderly hstep)
      fun h => .inr (h.step? horderly (show daemon.step? .closer = _ from hstep))
  induction left with
  | nil =>
    intro daemon scripts hphase horderly h
    have hstep : daemon.closerStep? =
        some ({ daemon with phase := .stopped }.record [.stopped scripts]) := by
      rw [closerStep?, hphase]
    refine ⟨[.closer], by simp, ?_⟩
    rw [perform, step?, hstep]
    rcases hnext hstep horderly h with h' | h'
    · cases h'.opened_eq
    · exact ⟨rfl, h'⟩
  | cons entry left ih =>
    intro daemon scripts hphase horderly h
    obtain ⟨script, other⟩ := entry
    have hstep : daemon.step? .closer = some { daemon with
        desk := ((daemon.desk.dispose other).forget script).1
        phase := .closing left scripts } := by
      rw [step?, closerStep?, hphase]
    obtain ⟨rest, hrest, hstopped⟩ := ih rfl (horderly.step? hstep) (hnext hstep horderly h)
    refine ⟨.closer :: rest, List.forall_mem_cons.mpr ⟨rfl, hrest⟩, ?_⟩
    rwa [perform_cons_some hstep]

theorem Accounts.exists_closed
    (h : daemon.Accounts seat environment files events delivered waiting)
    (horderly : daemon.IsOrderly) (hended : daemon.phase = .ended) :
    ∃ rest, (∀ task ∈ rest, task = .closer) ∧ (daemon.perform rest).phase = .stopped ∧
      (daemon.perform rest).IsClosed seat environment files delivered := by
  have hstep : daemon.step? .closer = some { daemon with
      desk := daemon.desk.emptyRegister.1
      phase := .closing daemon.desk.emptyRegister.2 daemon.desk.emptyRegister.2.length } := by
    rw [Daemon.step?, Daemon.closerStep?, hended]
  obtain ⟨rest, hrest, hstopped⟩ :=
    exists_closed_of_closing rfl (horderly.step? hstep) (h.closerStep? horderly hstep)
  refine ⟨.closer :: rest, List.forall_mem_cons.mpr ⟨rfl, hrest⟩, ?_⟩
  rwa [perform_cons_some hstep]

end Account

/-! ### From the beginning to the end -/

/-- The daemon has opened scripts and read nothing. -/
structure IsReady (daemon : Daemon) : Prop where
  /-- Nothing was read. -/
  begins : daemon.Begins []
  /-- The desk is orderly. -/
  orderly : daemon.desk.Orderly daemon.desk.register.get?
  /-- There is nothing to do on it. -/
  idle : daemon.desk.IsIdle

theorem desk_openScript (daemon : Daemon) (path : Path) :
    (daemon.openScript path).desk = daemon.desk.perform (.openFile path) := by
  rw [openScript, Desk.perform]
  cases daemon.desk.openFile path with
  | error error => rfl
  | ok opened =>
    dsimp only
    split <;> rfl

theorem begins_openScript (h : daemon.Begins []) (path : Path) :
    (daemon.openScript path).Begins [] := by
  rw [openScript]
  split
  · exact ⟨h.lines_eq, h.stream_eq, h.readerDone_eq, h.phase_eq⟩
  · split <;> exact ⟨h.lines_eq, h.stream_eq, h.readerDone_eq, h.phase_eq⟩

theorem IsReady.openScript (h : daemon.IsReady) (path : Path) :
    (daemon.openScript path).IsReady := by
  have horderly := (h.orderly.perform (.openFile path)).1
  refine ⟨begins_openScript h.begins path, ?_, ?_⟩ <;> rw [desk_openScript]
  · exact horderly
  · rcases Desk.perform_openFile daemon.desk path with hsame | ⟨document, hopened⟩
    · rw [hsame]
      exact h.idle
    · rw [hopened]
      exact h.idle.getOrCreate document

theorem isReady_start (settings : Settings) (disk : Disk) (paths : List Path) :
    (start settings disk paths).IsReady := by
  have hopen : ∀ {daemon : Daemon}, daemon.IsReady → (paths.foldl openScript daemon).IsReady := by
    induction paths with
    | nil => exact id
    | cons path paths ih => exact fun h => ih (h.openScript path)
  have hfresh : IsReady { desk := { settings, disk } } :=
    ⟨⟨rfl, rfl, rfl, rfl⟩, Desk.orderly_fresh settings none disk, fun _ _ hs => by cases hs⟩
  obtain ⟨⟨hlines, hstream, hreader, hphase⟩, horderly, hidle⟩ := hopen hfresh
  exact ⟨⟨hlines, hstream, hreader, hphase⟩, horderly, hidle⟩

/-- The daemon with the scripts at the given paths, and an input of which it has read nothing. -/
def serving (settings : Settings) (disk : Disk) (paths : List Path) (bytes : Bytes) : Daemon :=
  { start settings disk paths with lines := bytes.pieces }

theorem begins_serving (settings : Settings) (disk : Disk) (paths : List Path) (bytes : Bytes) :
    (serving settings disk paths bytes).Begins bytes :=
  have h := (isReady_start settings disk paths).begins
  ⟨rfl, h.stream_eq, h.readerDone_eq, h.phase_eq⟩

theorem isOrderly_serving (settings : Settings) (disk : Disk) (paths : List Path) (bytes : Bytes) :
    (serving settings disk paths bytes).IsOrderly := by
  have h := isReady_start settings disk paths
  have hphase : (serving settings disk paths bytes).phase = .serving := h.begins.phase_eq
  refine ⟨?_, fun hclosing => by cases hphase.symm.trans hclosing⟩
  rw [opened, hphase]
  exact h.orderly

/-- At first no event about an open script was delivered, and all are coming. -/
theorem accounts_serving {settings : Settings} {disk : Disk} {paths : List Path} {bytes : Bytes}
    {script : ScriptId} {seat : Nat}
    (hopen : (serving settings disk paths bytes).desk.register.get? script = some seat) :
    ∃ environment, (serving settings disk paths bytes).desk.environment? seat = some environment ∧
      environment.id = script ∧
        (serving settings disk paths bytes).Accounts seat environment
          (serving settings disk paths bytes).desk.files
          ((Stream.eventsOf (bytes.splitOn Bytes.lineFeed)).filter (·.script = script)) [] [] := by
  have hbegins := begins_serving settings disk paths bytes
  obtain ⟨s, number, hs⟩ := (isReady_start settings disk paths).orderly.serving hopen
  obtain ⟨pump, hpump, -⟩ := Option.map_eq_some_iff.mp hs.channel_eq
  refine ⟨s.environment, congrArg (Option.map _) hs.seat_eq, hs.id_eq, ?_, ?_, ?_⟩
  · rw [opened, hbegins.phase_eq, hs.id_eq]
    exact hopen
  · exact ⟨s, pump, ⟨hs.seat_eq, hpump⟩,
      ((isReady_start settings disk paths).idle seat s hs.seat_eq).2 pump hpump, rfl⟩
  · rw [hbegins.coming_eq, hs.id_eq]
    rfl

theorem perform_append (tasks others : List Task) (daemon : Daemon) :
    daemon.perform (tasks ++ others) = (daemon.perform tasks).perform others := by
  induction tasks generalizing daemon with
  | nil => rfl
  | cons task tasks ih => exact ih _

/-- Pumps make their steps at any time. -/
theorem perform_pumps (seat steps : Nat) :
    ∀ daemon : Daemon,
      (daemon.perform (List.replicate steps (.pump seat))).phase = daemon.phase ∧
        (daemon.perform (List.replicate steps (.pump seat))).desk =
          daemon.desk.moveAll (List.replicate steps (.pump seat)) := by
  induction steps with
  | zero => exact fun _ => ⟨rfl, rfl⟩
  | succ steps ih =>
    intro daemon
    rw [List.replicate_succ, List.replicate_succ, perform, Desk.moveAll]
    obtain ⟨hphase, hdesk⟩ := ih ((daemon.step? (.pump seat)).getD daemon)
    rw [hphase, hdesk]
    cases hstep : daemon.step? (.pump seat) with
    | none =>
      have hnone : daemon.desk.pumpStep? seat = none := Option.map_eq_none_iff.mp hstep
      rw [Desk.move, hnone]
      exact ⟨rfl, rfl⟩
    | some daemon' =>
      obtain ⟨hdesk', hphase', -⟩ := coming_pumpStep? hstep
      rw [← hdesk']
      exact ⟨hphase', rfl⟩

section Extremes

variable {bytes : Bytes} {seat : Nat} {environment : Environment} {files : Files}
  {events delivered waiting : List Event}

/-- After reader and bridge have come to the end alone, all that was coming is left to the pump. -/
theorem Accounts.forwarded (h : daemon.Accounts seat environment files events delivered waiting)
    (horderly : daemon.IsOrderly) (hbegins : daemon.Begins bytes) {tasks : List Task}
    (htasks : ∀ task ∈ tasks, IsForwarding task) (hended : (daemon.perform tasks).phase = .ended) :
    (daemon.perform tasks).Accounts seat environment files events delivered
      (waiting ++ (Stream.eventsOf (bytes.splitOn Bytes.lineFeed)).filter
        (·.script = environment.id)) := by
  refine ⟨?_, ?_, ?_⟩
  · rw [opened_perform fun task htask => (htasks task htask).ne_closer]
    exact h.opened_eq
  · rw [hbegins.desk_ended htasks hended]
    exact h.hasDelivered.publishAll _ horderly.orderly.wired
  · have hsettled : (daemon.perform tasks).IsSettled := IsSettled.perform (.inl hbegins.phase_eq)
    have hcoming : (daemon.perform tasks).coming = [] := hsettled.resolve_left (by simp [hended])
    rw [h.events_eq, hbegins.coming_eq, hcoming, List.filter_nil, List.append_nil,
      List.append_assoc]

/-- The pump may be done before the closer begins. -/
theorem Accounts.exists_delivered
    (h : daemon.Accounts seat environment files events delivered waiting)
    (horderly : daemon.IsOrderly) (hbegins : daemon.Begins bytes) (hidle : daemon.desk.IsIdle) :
    ∃ tasks, (daemon.perform tasks).phase = .ended ∧
      (daemon.perform tasks).desk.HasDelivered seat environment files events [] := by
  obtain ⟨tasks, htasks, hended⟩ := canEnd_of_lines rfl hbegins.phase_eq hbegins.stream_eq
  have hforwarded := h.forwarded horderly hbegins htasks hended
  have hfree : ∀ s, (daemon.perform tasks).desk.seat? seat = some s → s.documentHeld = false := by
    intro s hs
    rw [hbegins.desk_ended htasks hended, Desk.seat?, Desk.seats_publishAll] at hs
    exact (hidle seat s hs).1
  obtain ⟨steps, hdelivered⟩ :=
    hforwarded.hasDelivered.of_pumps horderly.perform.orderly.wired hfree
  obtain ⟨hphase, hdesk⟩ := perform_pumps seat steps (daemon.perform tasks)
  refine ⟨tasks ++ List.replicate steps (.pump seat), ?_, ?_⟩
  · rw [perform_append, hphase, hended]
  · have hsettled : (daemon.perform tasks).IsSettled := IsSettled.perform (.inl hbegins.phase_eq)
    rw [perform_append, hdesk, hforwarded.events_eq_append hsettled (by simp [hended])]
    exact hdelivered

end Extremes

/-- **What a script gets of the input.** When the bridge has noticed the end of the input, a first
part of the events was delivered, and the closer alone can go on to the stop, so that the others
never are. In every run that has come to the stop such a part was delivered before some step of the
closer, and nothing after it. The part may be all events, and it may be none. -/
theorem delivered_until_closed (settings : Settings) (disk : Disk) (paths : List Path)
    (bytes : Bytes) {script : ScriptId} {seat : Nat}
    (hopen : (serving settings disk paths bytes).desk.register.get? script = some seat)
    (tasks : List Task) :
    ∃ environment, (serving settings disk paths bytes).desk.environment? seat = some environment ∧
      let daemon := serving settings disk paths bytes
      let files := daemon.desk.files
      let events := (Stream.eventsOf (bytes.splitOn Bytes.lineFeed)).filter (·.script = script)
      ((daemon.perform tasks).phase = .ended → ∃ delivered waiting, events = delivered ++ waiting ∧
        (daemon.perform tasks).desk.HasDelivered seat environment files delivered waiting ∧
        ∃ rest, (∀ task ∈ rest, task = .closer) ∧
          (daemon.perform (tasks ++ rest)).phase = .stopped ∧
            (daemon.perform (tasks ++ rest)).IsClosed seat environment files delivered) ∧
      ((daemon.perform tasks).phase = .stopped → ∃ earlier later delivered lost,
        tasks = earlier ++ .closer :: later ∧ events = delivered ++ lost ∧
          (daemon.perform earlier).desk.HasDelivered seat environment files delivered lost ∧
          (daemon.perform (earlier ++ [.closer])).IsClosed seat environment files delivered ∧
          (daemon.perform tasks).IsClosed seat environment files delivered) ∧
      (∃ others, (daemon.perform others).phase = .ended ∧
        (daemon.perform others).desk.HasDelivered seat environment files events []) ∧
      ∃ others, (daemon.perform others).phase = .ended ∧
        (daemon.perform others).desk.HasDelivered seat environment files [] events := by
  obtain ⟨environment, henvironment, rfl, haccounts⟩ := accounts_serving hopen
  have horderly := isOrderly_serving settings disk paths bytes
  have hbegins := begins_serving settings disk paths bytes
  have hsettled : (serving settings disk paths bytes).IsSettled := .inl hbegins.phase_eq
  have hidle : (serving settings disk paths bytes).desk.IsIdle :=
    (isReady_start settings disk paths).idle
  refine ⟨environment, henvironment, fun hended => ?_, fun hstopped => ?_,
    haccounts.exists_delivered horderly hbegins hidle, ?_⟩
  · rcases haccounts.perform tasks horderly with ⟨delivered, waiting, h⟩ |
      ⟨earlier, later, -, -, rfl, -, ⟨daemon', hstep, -⟩, -⟩
    · obtain ⟨rest, hrest, hstopped, hclosed⟩ := h.exists_closed horderly.perform hended
      refine ⟨delivered, waiting, h.events_eq_append hsettled.perform (by simp [hended]),
        h.hasDelivered, rest, hrest, ?_⟩
      rw [perform_append]
      exact ⟨hstopped, hclosed⟩
    · -- the closer has not begun
      rw [perform_append, perform, step?, hstep] at hended
      exact absurd (isServing_of_perform (.inr hended)) (coming_closerStep? hstep).2.1
  · rcases haccounts.perform tasks horderly with ⟨delivered, waiting, h⟩ |
      ⟨earlier, later, delivered, lost, rfl, h, ⟨daemon', hstep, hclosing⟩, hclosed⟩
    · have hopened := h.opened_eq
      rw [opened, hstopped] at hopened
      cases hopened
    · refine ⟨earlier, later, delivered, lost, rfl,
        h.events_eq_append hsettled.perform (coming_closerStep? hstep).1, h.hasDelivered, ?_, hclosed⟩
      rw [perform_append, perform, step?, hstep]
      exact hclosing
  · obtain ⟨others, hothers, hended⟩ := canEnd_of_lines rfl hbegins.phase_eq hbegins.stream_eq
    exact ⟨others, hended, (haccounts.forwarded horderly hbegins hothers hended).hasDelivered⟩

/-- A disk with one script. -/
def sampleDisk : Disk :=
  Disk.put {} ["a.spad".toList] (.file ({ id := ⟨1⟩, name := "a".toList } : Document).text.toBytes)

/-- One line, with output of that script. -/
def sampleInput : Bytes :=
  Stream.written [(.event Stream.sampleEvent, .lf)] (.other [])

/-- The daemon with that script and that input. -/
def sampleDaemon : Daemon :=
  serving { scriptsDirectory := [] } sampleDisk ["/a.spad".toList] sampleInput

theorem sampleDaemon_open : sampleDaemon.desk.register.get? ⟨1⟩ = some 0 := by
  decide +kernel

theorem eventsOf_sampleInput :
    (Stream.eventsOf (sampleInput.splitOn Bytes.lineFeed)).filter (·.script = ⟨1⟩) =
      [Stream.sampleEvent] := by
  have hrows : ∀ row ∈ [(Stream.Row.event Stream.sampleEvent, LineEnding.lf)].map Prod.fst ++
      [.other []], row.IsLine := by
    intro row hrow
    rcases hrow with _ | ⟨_, _ | ⟨_, hnil⟩⟩
    · exact Stream.isLine_sampleEvent
    · exact Stream.isLine_blank
    · cases hnil
  rw [sampleInput, (Stream.eventsOf_written hrows).1]
  rfl

theorem delivered_until_closed_sample :
    ∃ tasks environment, (sampleDaemon.perform tasks).phase = .stopped ∧
      ∃ earlier later delivered lost, tasks = earlier ++ .closer :: later ∧
        [Stream.sampleEvent] = delivered ++ lost ∧
          (sampleDaemon.perform tasks).IsClosed 0 environment sampleDaemon.desk.files delivered := by
  -- a schedule on which the bridge has come to the end, and on from there to the stop
  obtain ⟨_, _, _, _, _, tasks, hended, _⟩ := delivered_until_closed _ _ _ _ sampleDaemon_open []
  obtain ⟨_, _, hwaiting, _⟩ := delivered_until_closed _ _ _ _ sampleDaemon_open tasks
  obtain ⟨_, _, _, _, rest, _, hstopped, _⟩ := hwaiting hended
  obtain ⟨environment, _, _, hclosed, _⟩ :=
    delivered_until_closed _ _ _ _ sampleDaemon_open (tasks ++ rest)
  obtain ⟨earlier, later, delivered, lost, htasks, hevents, -, -, hclosed⟩ := hclosed hstopped
  exact ⟨tasks ++ rest, environment, hstopped, earlier, later, delivered, lost, htasks,
    eventsOf_sampleInput ▸ hevents, hclosed⟩

/-- The bridge has come to the end and the only event is left to the pump; then the closer works
alone, and the environment is disposed without the output. -/
theorem output_lost_at_end :
    ∃ tasks rest environment, sampleDaemon.desk.environment? 0 = some environment ∧
      (sampleDaemon.perform tasks).phase = .ended ∧
        (sampleDaemon.perform tasks).desk.HasDelivered 0 environment sampleDaemon.desk.files []
          [Stream.sampleEvent] ∧
        (∀ task ∈ rest, task = .closer) ∧ (sampleDaemon.perform (tasks ++ rest)).phase = .stopped ∧
          ((sampleDaemon.perform (tasks ++ rest)).desk.environment? 0).map (·.output) = some [] := by
  have hbegins := begins_serving { scriptsDirectory := [] } sampleDisk ["/a.spad".toList] sampleInput
  have horderly :=
    isOrderly_serving { scriptsDirectory := [] } sampleDisk ["/a.spad".toList] sampleInput
  have hempty : (sampleDaemon.desk.environment? 0).map (·.output) = some [] := by decide +kernel
  obtain ⟨environment, henvironment, hid, haccounts⟩ := accounts_serving sampleDaemon_open
  obtain ⟨tasks, htasks, hended⟩ := canEnd_of_lines rfl hbegins.phase_eq hbegins.stream_eq
  have h := haccounts.forwarded horderly hbegins htasks hended
  obtain ⟨rest, hrest, hstopped, hclosed⟩ := h.exists_closed horderly.perform hended
  have hundelivered := h.hasDelivered
  rw [hid, eventsOf_sampleInput] at hundelivered
  refine ⟨tasks, rest, environment, henvironment, hended, hundelivered, hrest, ?_, ?_⟩
  · rw [perform_append]
    exact hstopped
  · rw [perform_append]
    refine (congrArg (Option.map (·.output)) hclosed.environment_eq).trans ?_
    rw [← hempty]
    exact congrArg (Option.map (·.output)) henvironment.symm

end Daemon

end ScriptDesk
