import Mathlib.Data.List.Nodup
import ScriptDesk.Proofs.Desk.Errands

/-!
# Which environments are live

A list `live` of scripts with seats accounts for a desk (`Desk.Accounted`) if those are the live
environments, each with a subscription of its own, and nobody else subscribes. Moves keep such an
account, a document that is opened is put on it, and an environment that is disposed is struck off.

While calls of the register are served, the account consists of the scripts in the register and of
those that were taken out of it to be closed, and have still to be disposed (`Reception.live`). So
long as there are any of the latter, a script may be opened once more, and then it has two live
environments (`two_live_while_closing`). `live_environments_accounted` says which scripts have such
environments.
-/

namespace ScriptDesk

namespace Desk

/-! ### Accounts -/

/-- The environment of a seat is a live one of the script and hangs on the bus. -/
structure Hangs (desk : Desk) (script : ScriptId) (seat : Nat) (s : Seat) (number : Nat) :
    Prop where
  /-- This is the seat with the number. -/
  seat_eq : desk.seat? seat = some s
  /-- The environment is that of the script. -/
  id_eq : s.environment.id = script
  /-- It is not disposed. -/
  live : s.environment.disposed = false
  /-- It has a subscription to the script. -/
  subscription_eq : s.subscription = some ⟨script, number⟩
  /-- Its pump works on the channel of the subscription. -/
  channel_eq : s.pump.map (·.channel) = some number
  /-- The subscription is to this script only, and it is received on. -/
  feeds : desk.bus.Feeds script number

/-- The channel that the pump of a seat works on. -/
def channel? (desk : Desk) (seat : Nat) : Option Nat :=
  (desk.seat? seat).bind fun s => s.pump.map (·.channel)

/-- The channels of those of some environments that are of the script. -/
def channels (desk : Desk) (live : List (ScriptId × Nat)) (script : ScriptId) : List Nat :=
  (live.filter (·.1 = script)).filterMap fun entry => desk.channel? entry.2

/-- These are the live environments, and those are all that is subscribed. -/
structure Accounted (desk : Desk) (live : List (ScriptId × Nat)) : Prop where
  /-- They are live and hang on the bus. -/
  hangs : ∀ {script seat}, (script, seat) ∈ live → ∃ s number, desk.Hangs script seat s number
  /-- None is there twice. -/
  nodup : (live.map Prod.snd).Nodup
  /-- Other environments are disposed, and their pumps are stopped. -/
  retired : ∀ {seat s}, desk.seat? seat = some s → seat ∉ live.map Prod.snd →
    s.environment.disposed = true ∧ s.pump = none
  /-- Nobody else subscribes. -/
  subscribers : ∀ script, (desk.bus.subscribers script).Perm (desk.channels live script)
  /-- New subscriptions get new numbers. -/
  numbered : desk.bus.IsNumbered

section Accounts

variable {desk desk' : Desk} {live : List (ScriptId × Nat)} {script : ScriptId} {seat : Nat}
  {s : Seat} {number : Nat}

theorem Hangs.channel?_eq (h : desk.Hangs script seat s number) :
    desk.channel? seat = some number := by
  unfold channel?
  rw [h.seat_eq]
  exact h.channel_eq

theorem Hangs.channels_cons (h : desk.Hangs script seat s number) (live : List (ScriptId × Nat))
    (other : ScriptId) : desk.channels ((script, seat) :: live) other =
      if other = script then number :: desk.channels live other else desk.channels live other := by
  unfold channels
  by_cases hother : other = script
  · rw [if_pos hother, List.filter_cons_of_pos (by simp [hother])]
    exact List.filterMap_cons_some h.channel?_eq
  · rw [if_neg hother, List.filter_cons_of_neg (by simp [Ne.symm hother])]

theorem channels_congr (h : ∀ entry ∈ live, desk'.channel? entry.2 = desk.channel? entry.2)
    (script : ScriptId) : desk'.channels live script = desk.channels live script :=
  List.filterMap_congr fun entry hentry => h entry (List.mem_filter.mp hentry).1

/-- The order of an account does not matter. -/
theorem Accounted.perm (h : desk.Accounted live) {other : List (ScriptId × Nat)}
    (hperm : live.Perm other) : desk.Accounted other where
  hangs hmem := h.hangs (hperm.mem_iff.mpr hmem)
  nodup := (hperm.map Prod.snd).nodup_iff.mp h.nodup
  retired hs hnot := h.retired hs fun hmem => hnot ((hperm.map Prod.snd).mem_iff.mp hmem)
  subscribers script := (h.subscribers script).trans ((hperm.filter _).filterMap _)
  numbered := h.numbered

/-- Only the seats and the bus matter. -/
theorem Accounted.congr (h : desk.Accounted live) (hseats : desk'.seats = desk.seats)
    (hbus : desk'.bus = desk.bus) : desk'.Accounted live := by
  have hseat : desk'.seat? = desk.seat? := by
    funext seat
    unfold seat?
    rw [hseats]
  have hchannels : desk'.channels live = desk.channels live := by
    unfold channels channel?
    rw [hseat]
  refine ⟨fun hmem => ?_, h.nodup, fun hs => h.retired (hseat ▸ hs), ?_, hbus ▸ h.numbered⟩
  · obtain ⟨s, number, hs⟩ := h.hangs hmem
    exact ⟨s, number, hseat ▸ hs.seat_eq, hs.id_eq, hs.live, hs.subscription_eq, hs.channel_eq,
      hbus ▸ hs.feeds⟩
  · rw [hbus, hchannels]
    exact h.subscribers

/-- Who subscribes to a script is a live environment of it. -/
theorem Accounted.feeds_of_mem (h : desk.Accounted live)
    (hmem : number ∈ desk.bus.subscribers script) : desk.bus.Feeds script number := by
  have hchannels := (h.subscribers script).mem_iff.mp hmem
  obtain ⟨⟨other, seat⟩, hentry, hchannel⟩ := List.mem_filterMap.mp hchannels
  obtain ⟨hlive, hscript⟩ := List.mem_filter.mp hentry
  obtain ⟨s, number', hs⟩ := h.hangs hlive
  cases of_decide_eq_true hscript
  cases hs.channel?_eq.symm.trans hchannel
  exact hs.feeds

theorem Accounted.nodup_subscribers (h : desk.Accounted live) (script : ScriptId) :
    (desk.bus.subscribers script).Nodup := by
  refine List.nodup_iff_count_le_one.mpr fun number => ?_
  by_cases hmem : number ∈ desk.bus.subscribers script
  · exact Nat.le_of_eq (((h.feeds_of_mem hmem).count script).trans (if_pos rfl))
  · rw [List.count_eq_zero_of_not_mem hmem]
    exact Nat.zero_le 1

/-- An environment that is not disposed, or has a pump, is on the account. -/
theorem Accounted.mem_live (h : desk.Accounted live) (hs : desk.seat? seat = some s)
    (hactive : s.environment.disposed = false ∨ s.pump ≠ none) :
    (s.environment.id, seat) ∈ live := by
  have hmem : seat ∈ live.map Prod.snd := by
    by_contra hnot
    obtain ⟨hdisposed, hpump⟩ := h.retired hs hnot
    rcases hactive with hlive | hpumping
    · rw [hdisposed] at hlive
      cases hlive
    · exact hpumping hpump
  obtain ⟨⟨script, _⟩, hentry, rfl⟩ := List.mem_map.mp hmem
  obtain ⟨o, number, ho⟩ := h.hangs hentry
  cases hs.symm.trans ho.seat_eq
  rw [ho.id_eq]
  exact hentry

/-! ### Moves -/

theorem Proceeds.channel?_eq (h : desk.Proceeds desk') (seat : Nat) :
    desk'.channel? seat = desk.channel? seat := by
  unfold channel?
  cases hseat : desk.seat? seat with
  | some s =>
    obtain ⟨s', hs', hsame⟩ := h.stays hseat
    rw [hs']
    exact hsame.channel_eq
  | none =>
    cases hseat' : desk'.seat? seat with
    | none => rfl
    | some s' =>
      obtain ⟨s, hs, -⟩ := h.stayed hseat'
      rw [hseat] at hs
      cases hs

/-- Of subscriptions to live environments none is given up. -/
theorem Accounted.subscribers_eq (h : desk.Accounted live) (hproceeds : desk.Proceeds desk')
    (script : ScriptId) : desk'.bus.subscribers script = desk.bus.subscribers script := by
  refine (hproceeds.subscribers script).eq_of_length_le (List.Subperm.length_le ?_)
  refine List.subperm_of_subset (h.nodup_subscribers script) fun number hmem => ?_
  apply List.count_pos_iff.mp
  rw [(hproceeds.feeds (h.feeds_of_mem hmem)).count, if_pos rfl]
  exact Nat.one_pos

/-- As long as nothing is opened or closed an account remains right. -/
theorem Accounted.proceeds (h : desk.Accounted live) (hproceeds : desk.Proceeds desk') :
    desk'.Accounted live where
  hangs hmem := by
    obtain ⟨s, number, hs⟩ := h.hangs hmem
    obtain ⟨s', hs', henvironment, hsubscription, hchannel⟩ := hproceeds.stays hs.seat_eq
    exact ⟨s', number, hs', henvironment.id_eq.trans hs.id_eq,
      henvironment.disposed_eq.trans hs.live, hsubscription.trans hs.subscription_eq,
      hchannel.trans hs.channel_eq, hproceeds.feeds hs.feeds⟩
  nodup := h.nodup
  retired hs' hnot := by
    obtain ⟨s, hs, hsame⟩ := hproceeds.stayed hs'
    obtain ⟨hdisposed, hpump⟩ := h.retired hs hnot
    have hchannel := hsame.channel_eq
    rw [hpump] at hchannel
    exact ⟨hsame.environment.disposed_eq.trans hdisposed, Option.map_eq_none_iff.mp hchannel⟩
  subscribers script := by
    rw [h.subscribers_eq hproceeds, channels_congr fun entry _ => hproceeds.channel?_eq entry.2]
    exact h.subscribers script
  numbered script number hmem := by
    rw [hproceeds.next_eq]
    exact h.numbered script number ((hproceeds.subscribers script).subset hmem)

/-! ### Opening and disposing -/

/-- A seat on the account is there. -/
theorem Accounted.lt_length (h : desk.Accounted live) (hmem : seat ∈ live.map Prod.snd) :
    seat < desk.seats.length := by
  obtain ⟨⟨script, _⟩, hentry, rfl⟩ := List.mem_map.mp hmem
  obtain ⟨s, number, hs⟩ := h.hangs hentry
  exact (List.getElem?_eq_some_iff.mp hs.seat_eq).1

/-- Of the entries for one seat there is only one. -/
theorem Accounted.eq_of_seat (h : desk.Accounted live) {entry other : ScriptId × Nat}
    (hentry : entry ∈ live) (hother : other ∈ live) (hseat : entry.2 = other.2) : entry = other :=
  List.inj_on_of_nodup_map h.nodup hentry hother hseat

/-- The environment of a document that is opened is put on the account. -/
theorem Accounted.getOrCreate (h : desk.Accounted live) {document : Document}
    (hnew : desk.register.get? document.id = none) :
    (desk.getOrCreate document).1.Accounted ((document.id, desk.seats.length) :: live) := by
  obtain ⟨hbus, -, -, hseats⟩ := getOrCreate_new hnew
  have hhangs : (desk.getOrCreate document).1.Hangs document.id desk.seats.length
      (desk.newSeat document) desk.bus.next := by
    refine ⟨(hseats _).trans (if_pos rfl), rfl, rfl, rfl, rfl, ?_⟩
    rw [hbus]
    exact h.numbered.feeds_subscribe document.id
  have hold : ∀ {seat}, seat ∈ live.map Prod.snd →
      (desk.getOrCreate document).1.seat? seat = desk.seat? seat :=
    fun hmem => (hseats _).trans (if_neg (Nat.ne_of_lt (h.lt_length hmem)))
  refine ⟨fun hmem => ?_, ?_, fun {seat s} hs hnot => ?_, fun script => ?_, ?_⟩
  · rcases List.mem_cons.mp hmem with heq | hmem
    · cases heq
      exact ⟨_, _, hhangs⟩
    · obtain ⟨s, number, hs⟩ := h.hangs hmem
      refine ⟨s, number, ?_, hs.id_eq, hs.live, hs.subscription_eq, hs.channel_eq, ?_⟩
      · rw [hold (List.mem_map_of_mem hmem)]
        exact hs.seat_eq
      · rw [hbus]
        exact hs.feeds.subscribe h.numbered document.id
  · refine List.nodup_cons.mpr ⟨fun hmem => ?_, h.nodup⟩
    exact Nat.lt_irrefl _ (h.lt_length hmem)
  · rw [List.map_cons, List.mem_cons, not_or] at hnot
    rw [hseats, if_neg hnot.1] at hs
    exact h.retired hs hnot.2
  · have hchannels : (desk.getOrCreate document).1.channels live script =
        desk.channels live script := by
      refine channels_congr (fun entry hentry => ?_) script
      unfold channel?
      rw [hold (List.mem_map_of_mem hentry)]
    rw [hhangs.channels_cons, hchannels, hbus, Bus.subscribers_subscribe]
    split
    · rename_i hscript
      rw [hscript]
      exact (List.perm_append_singleton _ _).trans ((h.subscribers document.id).cons _)
    · exact h.subscribers script
  · rw [hbus]
    exact h.numbered.subscribe document.id

/-- What disposing a live environment does to the desk. -/
theorem Hangs.dispose_eq (h : desk.Hangs script seat s number) :
    desk.dispose seat =
      { desk with bus := (desk.bus.unsubscribe ⟨script, number⟩).stopReceiving number }.modifySeat
        seat retire := by
  obtain ⟨pump, hpump, hchannel⟩ := Option.map_eq_some_iff.mp h.channel_eq
  rw [Desk.dispose_eq h.seat_eq h.live, h.subscription_eq, hpump, ← hchannel]
  rfl

/-- An environment that is disposed is struck off the account. -/
theorem Accounted.dispose (h : desk.Accounted ((script, seat) :: live)) :
    (desk.dispose seat).Accounted live := by
  obtain ⟨s, number, hs⟩ := h.hangs (.head _)
  rw [hs.dispose_eq]
  obtain ⟨hseat, hnodup⟩ := List.nodup_cons.mp h.nodup
  have hne : ∀ {place}, place ∈ live.map Prod.snd → place ≠ seat := by
    rintro place hplace rfl
    exact hseat hplace
  have hchannels := hs.channels_cons live
  -- the channel that is closed is that of no other environment
  have hfresh : number ∉ desk.channels live script := by
    have hall := (h.subscribers script).nodup_iff.mp (h.nodup_subscribers script)
    rw [hchannels, if_pos rfl] at hall
    exact (List.nodup_cons.mp hall).1
  have hsubscribers : ∀ other, ((desk.bus.unsubscribe ⟨script, number⟩).stopReceiving
      number).subscribers other =
        if other = script then (desk.bus.subscribers script).filter (· ≠ number)
        else desk.bus.subscribers other :=
    fun other => Bus.subscribers_unsubscribe desk.bus ⟨script, number⟩ other
  refine ⟨fun {other place} hmem => ?_, hnodup, fun {place o} ho hnot => ?_, fun other => ?_, ?_⟩
  · obtain ⟨o, number', ho⟩ := h.hangs (.tail _ hmem)
    have hnumber : number' ≠ number := by
      rintro rfl
      cases ho.feeds.script_eq hs.feeds
      refine hfresh (List.mem_filterMap.mpr ⟨(script, place), ?_, ho.channel?_eq⟩)
      exact List.mem_filter.mpr ⟨hmem, decide_eq_true rfl⟩
    refine ⟨o, number', ?_, ho.id_eq, ho.live, ho.subscription_eq, ho.channel_eq,
      (ho.feeds.unsubscribe hnumber).stopReceiving hnumber⟩
    rw [seat?_modifySeat, if_neg (hne (List.mem_map_of_mem hmem))]
    exact ho.seat_eq
  · rw [seat?_modifySeat] at ho
    split at ho
    · obtain ⟨o', -, rfl⟩ := Option.map_eq_some_iff.mp ho
      exact ⟨rfl, rfl⟩
    · rename_i hplace
      refine h.retired ho ?_
      rw [List.map_cons, List.mem_cons, not_or]
      exact ⟨hplace, hnot⟩
  · have hkept : ({ desk with
        bus := (desk.bus.unsubscribe ⟨script, number⟩).stopReceiving number }.modifySeat seat
          retire).channels live other = desk.channels live other := by
      refine channels_congr (fun entry hentry => ?_) other
      unfold channel?
      rw [seat?_modifySeat, if_neg (hne (List.mem_map_of_mem hentry))]
      rfl
    have hbefore := h.subscribers other
    rw [hchannels] at hbefore
    rw [hkept]
    refine (List.Perm.of_eq (hsubscribers other)).trans ?_
    split
    · rename_i hother
      subst hother
      rw [if_pos rfl] at hbefore
      refine (hbefore.filter _).trans (.of_eq ?_)
      rw [List.filter_cons_of_neg (by simp)]
      refine List.filter_eq_self.mpr fun number' hmem => decide_eq_true ?_
      rintro rfl
      exact hfresh hmem
    · rename_i hother
      rw [if_neg hother] at hbefore
      exact hbefore
  · intro other number' hmem
    refine h.numbered other number' ?_
    rw [modifySeat, hsubscribers] at hmem
    split at hmem
    · rename_i hother
      rw [hother]
      exact (List.mem_filter.mp hmem).1
    · exact hmem

/-! ### Calls at the same time -/

/-- What a call has taken out of the register and has still to dispose. -/
def Station.taken : Station → List (ScriptId × Nat)
  | .close taken _ => taken
  | _ => []

/-- One step of a call, besides which other calls have taken `rest`. -/
theorem Accounted.serve {station : Station} {rest : List (ScriptId × Nat)}
    (h : desk.Accounted (desk.register.entries ++ (station.taken ++ rest))) (pick : Nat) :
    (desk.serve pick station).1.Accounted ((desk.serve pick station).1.register.entries ++
      ((desk.serve pick station).2.taken ++ rest)) := by
  cases station with
  | lookUp document =>
    simp only [Desk.serve]
    cases desk.register.get? document.id with
    | some seat => exact h
    | none => exact h
  | create document =>
    simp only [Desk.serve]
    cases hopen : desk.register.get? document.id with
    | some seat =>
      unfold Desk.getOrCreate
      rw [hopen]
      exact h
    | none =>
      obtain ⟨-, hregister, -, -⟩ := getOrCreate_new hopen
      rw [hregister, desk.register.entries_set_of_get?_eq_none hopen, List.append_assoc]
      exact (h.getOrCreate hopen).perm List.perm_middle.symm
  | get script => exact h
  | unregister script =>
    simp only [Desk.serve, unregister?]
    cases hopen : desk.register.get? script with
    | none => exact h
    | some seat =>
      have hperm := (desk.register.perm_entries_erase hopen).append_right rest
      simp only [(desk.frame_dispose seat).1]
      exact (h.perm hperm).dispose.congr rfl rfl
  | forget script => exact h.congr rfl rfl
  | empty => exact h.congr rfl rfl
  | close taken count =>
    cases taken with
    | nil => exact h
    | cons first others =>
      simp only [Desk.serve]
      cases hpick : (first :: others)[pick]? with
      | none => exact h
      | some entry =>
        obtain ⟨script, seat⟩ := entry
        have hperm : (desk.register.entries ++ ((first :: others) ++ rest)).Perm
            ((script, seat) :: (desk.register.entries ++
              ((first :: others).eraseIdx pick ++ rest))) :=
          (((perm_of_getElem? hpick).append_right rest).append_left _).trans List.perm_middle
        simp only [forget, (desk.frame_dispose seat).1]
        exact (h.perm hperm).dispose.congr rfl rfl
  | answered reply => exact h

end Accounts

namespace Reception

/-- What calls have taken out of the register and have still to dispose. -/
def taken (reception : Reception) : List (ScriptId × Nat) :=
  reception.stations.flatMap Station.taken

/-- The live environments: those in the register, and those that were taken out of it and have still
to be disposed. -/
def live (reception : Reception) : List (ScriptId × Nat) :=
  reception.desk.register.entries ++ reception.taken

/-- The account with what one of the calls has taken apart from what others have. -/
theorem accounted_apart {reception : Reception} (h : reception.desk.Accounted reception.live)
    {number : Nat} {station : Station} (hstation : reception.stations[number]? = some station) :
    reception.desk.Accounted (reception.desk.register.entries ++
      (station.taken ++ (reception.stations.eraseIdx number).flatMap Station.taken)) :=
  h.perm (((perm_of_getElem? hstation).flatMap_right Station.taken).append_left _)

/-- One step keeps the account. -/
theorem accounted_step {reception after : Reception}
    (h : reception.desk.Accounted reception.live) (hstep : reception.Stepped after) :
    after.desk.Accounted after.live := by
  cases hstep with
  | idle => exact h
  | asked errand =>
    have htaken : errand.station.taken = [] := by cases errand <;> rfl
    refine h.perm (.of_eq ?_)
    unfold live taken
    rw [List.flatMap_append, List.flatMap_singleton, htaken, List.append_nil]
  | served hstation pick =>
    refine ((accounted_apart h hstation).serve pick).perm (List.Perm.append_left _ ?_)
    exact ((perm_set hstation _).flatMap_right Station.taken).symm
  | moved first =>
    have hproceeds := reception.desk.proceeds_move first
    unfold live
    rw [hproceeds.register_eq]
    exact h.proceeds hproceeds

/-- So do many steps. -/
theorem accounted_run (steps : List Step) :
    ∀ {reception : Reception}, reception.desk.Accounted reception.live →
      (reception.run steps).desk.Accounted (reception.run steps).live := by
  induction steps with
  | nil => intro reception h; exact h
  | cons next steps ih => intro reception h; exact ih (accounted_step h (reception.stepped next))

theorem accounted_fresh (settings : Settings) (backend : Option Backend) (disk : Disk) :
    (fresh settings backend disk).desk.Accounted (fresh settings backend disk).live where
  hangs h := by cases h
  nodup := .nil
  retired h := by cases h
  subscribers _ := .nil
  numbered script number hmem := by cases hmem

end Reception

/-! ### How many live environments there are -/

section Counting

variable {desk : Desk} {live : List (ScriptId × Nat)}

/-- Each live environment subscribes once. -/
theorem Accounted.length_subscribers (h : desk.Accounted live) (script : ScriptId) :
    (desk.bus.subscribers script).length = live.countP (·.1 = script) := by
  have hall : ∀ entry ∈ live.filter (·.1 = script), (desk.channel? entry.2).isSome := by
    rintro ⟨other, seat⟩ hentry
    obtain ⟨s, number, hs⟩ := h.hangs (List.mem_filter.mp hentry).1
    rw [hs.channel?_eq]
    rfl
  rw [(h.subscribers script).length_eq, channels, List.length_filterMap_eq_countP,
    List.countP_eq_length.mpr hall, List.countP_eq_length_filter]

/-- And each receives what is published about its script. -/
theorem Accounted.reached (h : desk.Accounted live) (event : Event) :
    (desk.publish event).2 = (desk.bus.subscribers event.script).length := by
  change (desk.bus.receivers event.script).length = _
  unfold Bus.receivers
  rw [List.filter_eq_self.mpr fun number hmem => (h.feeds_of_mem hmem).receiving]

theorem countP_entries (register : Table ScriptId Nat) (script : ScriptId) :
    register.entries.countP (·.1 = script) = if register.contains script then 1 else 0 := by
  have hcount : (register.keys.count script) = register.entries.countP (·.1 = script) := by
    unfold Table.keys List.count
    rw [List.countP_map]
    rfl
  have hnodup : register.keys.Nodup := register.nodup
  rw [← hcount, hnodup.count]
  exact if_congr (register.mem_keys_iff script) rfl rfl

end Counting

/-- Which environments are live while calls of the register are being served. -/
structure AccountsForLive (reception : Reception) : Prop where
  /-- Each script in the register has a live environment that hangs on the bus, and it is on the
  seat that the register says. -/
  registered : ∀ script seat, reception.desk.register.get? script = some seat →
    ∃ s number, reception.desk.Hangs script seat s number
  /-- All live environments of a script are in the register, so that there is at most one, if and
  only if no call that closes all scripts has taken one out and has still to dispose it. -/
  in_register_iff : ∀ script,
    (∀ seat s, reception.desk.seat? seat = some s → s.environment.id = script →
      s.environment.disposed = false → reception.desk.register.get? script = some seat) ↔
        ∀ seat, (script, seat) ∉ reception.taken
  /-- Besides the environment in the register just those environments subscribe to the script. -/
  length_subscribers : ∀ script, (reception.desk.bus.subscribers script).length =
    (if reception.desk.isOpen script then 1 else 0) + reception.taken.countP (·.1 = script)
  /-- Events about the script reach all that subscribe to it. -/
  reached : ∀ event, (reception.desk.publish event).2 =
    (reception.desk.bus.subscribers event.script).length

theorem Accounted.accountsForLive {reception : Reception}
    (h : reception.desk.Accounted (reception.desk.register.entries ++ reception.taken)) :
    AccountsForLive reception := by
  refine ⟨fun script seat hopen => ?_, fun script => ⟨fun hall seat htaken => ?_,
    fun hnone seat s hs hid hlive => ?_⟩, fun script => ?_, h.reached⟩
  · exact h.hangs (List.mem_append_left _ ((Table.mem_entries_iff _ _ _).mpr hopen))
  · obtain ⟨s, number, hs⟩ := h.hangs (List.mem_append_right _ htaken)
    have hregistered := (Table.mem_entries_iff _ _ _).mpr (hall seat s hs.seat_eq hs.id_eq hs.live)
    have hnodup := h.nodup
    rw [List.map_append, List.nodup_append] at hnodup
    exact hnodup.2.2 seat (List.mem_map_of_mem hregistered) seat (List.mem_map_of_mem htaken) rfl
  · rcases List.mem_append.mp (h.mem_live hs (.inl hlive)) with hregistered | htaken
    · rw [← hid]
      exact (Table.mem_entries_iff _ _ _).mp hregistered
    · rw [hid] at htaken
      exact absurd htaken (hnone seat)
  · rw [h.length_subscribers, List.countP_append, countP_entries]
    rfl

/-- **Which environments are live**, when calls of the register are served one beside the other,
events are published and pumps go on, in any order. -/
theorem live_environments_accounted (settings : Settings) (backend : Option Backend) (disk : Disk)
    (steps : List Reception.Step) :
    AccountsForLive ((Reception.fresh settings backend disk).run steps) :=
  (Reception.accounted_run steps (Reception.accounted_fresh settings backend disk)).accountsForLive

/-- A document is opened, all scripts are being closed, and before the environment is disposed the
document is opened again. -/
def reopenedWhileClosing : List Reception.Step :=
  let document : Document := { id := ⟨1⟩, name := ['a'] }
  [.ask (.getOrCreate document), .go 0 0, .go 0 0, .ask .closeAll, .go 1 0,
    .ask (.getOrCreate document), .go 2 0, .go 2 0]

/-- Then the script has two live environments, of which one is in the register. A piece of output
reaches both, and both apply it. -/
theorem two_live_while_closing :
    let reception := (Reception.fresh { scriptsDirectory := [] } none {}).run reopenedWhileClosing
    let output : Event := ⟨⟨1⟩, .output (some ['o'])⟩
    let told := reception.run [.move (.publish output), .move (.pump 0), .move (.pump 1)]
    reception.desk.register.get? ⟨1⟩ = some 1 ∧ (reception.desk.publish output).2 = 2 ∧
      ∀ seat < 2, ∃ s, told.desk.seat? seat = some s ∧ s.environment.id = ⟨1⟩ ∧
        s.environment.disposed = false ∧ s.environment.output = [['o']] := by
  refine ⟨rfl, rfl, fun seat hseat => ?_⟩
  match seat with
  | 0 => exact ⟨_, rfl, rfl, rfl, rfl⟩
  | 1 => exact ⟨_, rfl, rfl, rfl, rfl⟩

end Desk

end ScriptDesk
