import Mathlib.Logic.Function.Basic
import ScriptDesk.Proofs.Bus.Lifetimes
import ScriptDesk.Proofs.Desk.Seats

/-!
# Open scripts, seats, subscriptions and files

A desk is orderly (`Desk.Orderly`) if each open script has a seat that serves it, which is all that
is subscribed to the script, and if of the scripts that are not open there is nothing left: their
environments are disposed, nobody subscribes to them and they have no files.

Most steps change neither what is open nor how the seats hang on the bus (`Desk.Proceeds`); they
keep a desk orderly (`Orderly.proceeds`). So does opening a document (`Orderly.getOrCreate`), and
closing a script or all of them (`Orderly.close`, `Orderly.closeTaken`). While all scripts are being
closed the register is empty already, and the scripts that are open are those whose turn has still
to come. For that reason which ones are open is not read off the register, but given as `opened`.
-/

namespace ScriptDesk

/-- The environment is that of the same script, and it hangs on the bus as before. -/
structure Seat.SameIdentity (before after : Seat) : Prop where
  /-- The environment is disposed if it was, and its script is the same. -/
  environment : before.environment.SameIdentity after.environment
  /-- The subscription is the same. -/
  subscription_eq : after.subscription = before.subscription
  /-- There is a pump if there was one, with the same channel. -/
  channel_eq : after.pump.map (·.channel) = before.pump.map (·.channel)

theorem Seat.SameIdentity.refl (seat : Seat) : seat.SameIdentity seat :=
  ⟨.refl _, rfl, rfl⟩

theorem Seat.SameIdentity.trans {first second third : Seat} (h : first.SameIdentity second)
    (hlater : second.SameIdentity third) : first.SameIdentity third :=
  ⟨h.environment.trans hlater.environment, hlater.subscription_eq.trans h.subscription_eq,
    hlater.channel_eq.trans h.channel_eq⟩

namespace Desk

/-! ### Steps that open and close nothing -/

/-- Every seat stays, and who was disposed stays disposed. -/
def Retains (desk desk' : Desk) : Prop :=
  ∀ seat s, desk.seat? seat = some s → ∃ s', desk'.seat? seat = some s' ∧
    (s.environment.disposed = true → s'.environment.disposed = true)

theorem Retains.refl (desk : Desk) : desk.Retains desk :=
  fun _ s hs => ⟨s, hs, id⟩

theorem Retains.trans {first second third : Desk} (h : first.Retains second)
    (hlater : second.Retains third) : first.Retains third := by
  intro seat s hs
  obtain ⟨s', hs', hdisposed⟩ := h seat s hs
  obtain ⟨s'', hs'', hdisposed'⟩ := hlater seat s' hs'
  exact ⟨s'', hs'', hdisposed' ∘ hdisposed⟩

/-- The desk goes on without opening or closing anything. -/
structure Proceeds (desk desk' : Desk) : Prop where
  /-- The same scripts are open. -/
  register_eq : desk'.register = desk.register
  /-- Nobody subscribes. -/
  next_eq : desk'.bus.next = desk.bus.next
  /-- Of subscriptions at most some are given up. -/
  subscribers : ∀ script, (desk'.bus.subscribers script).Sublist (desk.bus.subscribers script)
  /-- None of those are given up whose channel is received on. -/
  feeds : ∀ {script number}, desk.bus.Feeds script number → desk'.bus.Feeds script number
  /-- A seat stays and keeps its identity. -/
  stays : ∀ {seat s}, desk.seat? seat = some s → ∃ s', desk'.seat? seat = some s' ∧
    s.SameIdentity s'
  /-- There are no new seats. -/
  stayed : ∀ {seat s'}, desk'.seat? seat = some s' → ∃ s, desk.seat? seat = some s ∧
    s.SameIdentity s'
  /-- Without a seat that is attached, the files of a script stay as they are. -/
  files : ∀ {script}, (∀ {seat s pump}, desk.Attached seat s pump → s.environment.id ≠ script) →
    desk'.files.ofScript script = desk.files.ofScript script

theorem Proceeds.retains {desk desk' : Desk} (h : desk.Proceeds desk') : desk.Retains desk' := by
  intro seat s hs
  obtain ⟨s', hs', hsame⟩ := h.stays hs
  exact ⟨s', hs', fun hdisposed => hsame.environment.disposed_eq.trans hdisposed⟩

theorem Proceeds.trans {first second third : Desk} (h : first.Proceeds second)
    (hlater : second.Proceeds third) : first.Proceeds third where
  register_eq := hlater.register_eq.trans h.register_eq
  next_eq := hlater.next_eq.trans h.next_eq
  subscribers script := (hlater.subscribers script).trans (h.subscribers script)
  feeds := hlater.feeds ∘ h.feeds
  stays hs := by
    obtain ⟨s', hs', hsame⟩ := h.stays hs
    obtain ⟨s'', hs'', hsame'⟩ := hlater.stays hs'
    exact ⟨s'', hs'', hsame.trans hsame'⟩
  stayed hs'' := by
    obtain ⟨s', hs', hsame'⟩ := hlater.stayed hs''
    obtain ⟨s, hs, hsame⟩ := h.stayed hs'
    exact ⟨s, hs, hsame.trans hsame'⟩
  files {script} hnone := by
    refine (hlater.files fun {seat s' pump'} hs' => ?_).trans (h.files hnone)
    obtain ⟨s, hs, hsame⟩ := h.stayed hs'.seat_eq
    obtain ⟨pump, hpump, -⟩ := Option.map_eq_some_iff.mp
      (hsame.channel_eq.symm.trans (congrArg _ hs'.pump_eq))
    rw [hsame.environment.id_eq]
    exact hnone ⟨hs, hpump⟩

/-- A change of what open scripts, bus, seats and files do not depend on. -/
theorem proceeds_of_eq {desk desk' : Desk} (hregister : desk'.register = desk.register)
    (hbus : desk'.bus = desk.bus) (hfiles : desk'.files = desk.files)
    (hseats : desk'.seats = desk.seats) : desk.Proceeds desk' where
  register_eq := hregister
  next_eq := congrArg _ hbus
  subscribers script := by rw [hbus]
  feeds hfeeds := by rwa [hbus]
  stays {seat s} hs := by
    refine ⟨s, ?_, .refl s⟩
    unfold seat?
    rw [hseats]
    exact hs
  stayed {seat s} hs := by
    unfold seat? at hs
    rw [hseats] at hs
    exact ⟨s, hs, .refl s⟩
  files _ := by rw [hfiles]

theorem Proceeds.refl (desk : Desk) : desk.Proceeds desk :=
  proceeds_of_eq rfl rfl rfl rfl

/-- A change of one seat that leaves its identity. -/
theorem proceeds_modifySeat {desk : Desk} {seat : Nat} {change : Seat → Seat}
    (h : ∀ s : Seat, desk.seat? seat = some s → s.SameIdentity (change s)) :
    desk.Proceeds (desk.modifySeat seat change) where
  register_eq := rfl
  next_eq := rfl
  subscribers script := .refl _
  feeds := id
  stays {other s} hs := by
    rw [seat?_modifySeat]
    split
    · rename_i hother
      subst hother
      rw [hs]
      exact ⟨change s, rfl, h s hs⟩
    · exact ⟨s, hs, .refl s⟩
  stayed {other s'} hs' := by
    rw [seat?_modifySeat] at hs'
    split at hs'
    · rename_i hother
      subst hother
      obtain ⟨s, hs, rfl⟩ := Option.map_eq_some_iff.mp hs'
      exact ⟨s, hs, h s hs⟩
    · exact ⟨s', hs', .refl s'⟩
  files _ := rfl

theorem proceeds_setStatus (desk : Desk) (seat : Nat) (target : Status) :
    desk.Proceeds (desk.setStatus seat target).2 := by
  unfold setStatus
  split
  · exact .refl desk
  · rename_i s hseat
    split
    · exact .refl desk
    · rename_i changed transition hstatus
      refine proceeds_modifySeat fun o ho => ?_
      cases hseat.symm.trans ho
      exact ⟨Environment.sameIdentity_of_setStatus hstatus, rfl, rfl⟩

theorem proceeds_publish (desk : Desk) (event : Event) :
    desk.Proceeds (desk.publish event).1 where
  register_eq := rfl
  next_eq := rfl
  subscribers script := by
    simp only [publish, Bus.subscribers_publish]
    split
    · rename_i hscript
      rw [hscript]
      exact List.filter_sublist
    · exact .refl _
  feeds hfeeds := hfeeds.publish event
  stays {_ s} hs := ⟨s, hs, .refl s⟩
  stayed {_ s} hs := ⟨s, hs, .refl s⟩
  files _ := rfl

/-- Delivering changes only seats and files. -/
theorem frame_deliver (desk : Desk) (seat : Nat) (event : Event) :
    (desk.deliver seat event).2 =
      { desk with
        seats := (desk.deliver seat event).2.seats
        files := (desk.deliver seat event).2.files } := by
  unfold deliver
  split
  · rfl
  · split
    · rfl
    · rfl

/-- A step of a pump takes the next event, and besides it changes only seats and files. -/
theorem frame_of_pumpStep? {desk desk' : Desk} {seat : Nat} {refusal : Option Refusal}
    (h : desk.pumpStep? seat = some (desk', refusal)) :
    ∃ s pump event, desk.Attached seat s pump ∧
      desk.nextEvent? pump = some (event, desk'.bus) ∧
        desk' = { desk with seats := desk'.seats, files := desk'.files, bus := desk'.bus } := by
  unfold pumpStep? at h
  obtain ⟨s, hseat, h⟩ := Option.bind_eq_some_iff.mp h
  obtain ⟨pump, hpump, h⟩ := Option.bind_eq_some_iff.mp h
  obtain ⟨⟨event, bus⟩, hnext, h⟩ := Option.bind_eq_some_iff.mp h
  refine ⟨s, pump, event, ⟨hseat, hpump⟩, ?_⟩
  simp only at h
  split at h
  · split at h
    · cases h
    · cases h
      exact ⟨hnext, rfl⟩
  · have hframe := frame_deliver ({ desk with bus }.modifySeat seat fun s =>
      { s with pump := some { pump with waiting := none } }) seat event
    have hdesk : desk' = (({ desk with bus }.modifySeat seat fun s =>
        { s with pump := some { pump with waiting := none } }).deliver seat event).2 := by
      split at h
      · rename_i hdeliver
        cases h
        rw [hdeliver]
      · rename_i hdeliver
        cases h
        rw [hdeliver]
    rw [← hdesk] at hframe
    have hbus : desk'.bus = bus := congrArg (·.bus) hframe
    rw [hbus]
    exact ⟨hnext, hframe⟩

/-- To take the next event is no subscription, and gives none up. -/
theorem frame_of_nextEvent? {desk : Desk} {pump : Pump} {event : Event} {bus : Bus}
    (h : desk.nextEvent? pump = some (event, bus)) :
    bus.topics = desk.bus.topics ∧ bus.next = desk.bus.next := by
  unfold nextEvent? at h
  split at h
  · cases h
    exact ⟨rfl, rfl⟩
  · exact Bus.frame_of_take h

/-- A pump that goes on without touching the register and the subscriptions opens and closes
nothing. -/
theorem Advance.proceeds {desk desk' : Desk} {seat : Nat} {s : Seat} {pump pump' : Pump}
    {delivered : Option Event} (h : desk.Advance desk' seat s pump pump' delivered)
    (hregister : desk'.register = desk.register) (htopics : desk'.bus.topics = desk.bus.topics)
    (hnext : desk'.bus.next = desk.bus.next) : desk.Proceeds desk' := by
  have hsame : s.SameIdentity { s with
      environment := (s.environment.deliverAll desk.files delivered.toList).1
      pump := some pump' } := by
    refine ⟨Environment.sameIdentity_deliverAll _ _ _, rfl, ?_⟩
    rw [h.attached.pump_eq]
    exact congrArg some h.channel_eq
  refine ⟨hregister, hnext, fun script => ?_, h.feeds, ?_, ?_, ?_⟩
  · unfold Bus.subscribers
    rw [htopics]
  · intro other o ho
    rw [h.seat?_eq]
    split
    · rename_i hother
      subst hother
      cases h.attached.seat_eq.symm.trans ho
      exact ⟨_, rfl, hsame⟩
    · exact ⟨o, ho, .refl o⟩
  · intro other o' ho'
    rw [h.seat?_eq] at ho'
    split at ho'
    · rename_i hother
      subst hother
      cases ho'
      exact ⟨s, h.attached.seat_eq, hsame⟩
    · exact ⟨o', ho', .refl o'⟩
  · intro script hnone
    rw [h.files_eq]
    exact Environment.ofScript_deliverAll_of_ne _ _ _ (Ne.symm (hnone h.attached))

theorem proceeds_of_pumpStep? {desk desk' : Desk} {seat : Nat} {refusal : Option Refusal}
    (h : desk.pumpStep? seat = some (desk', refusal)) : desk.Proceeds desk' := by
  obtain ⟨_, _, _, -, hnext, hframe⟩ := frame_of_pumpStep? h
  obtain ⟨htopics, hnumber⟩ := frame_of_nextEvent? hnext
  obtain ⟨s, pump, pump', delivered, hadvance⟩ := advance_of_pumpStep? h
  exact hadvance.proceeds (congrArg (·.register) hframe) htopics hnumber

theorem proceeds_of_takeNext? {desk desk' : Desk} {seat : Nat}
    (h : desk.takeNext? seat = some desk') : desk.Proceeds desk' := by
  obtain ⟨s, pump, pump', hadvance⟩ := advance_of_takeNext? h
  unfold takeNext? at h
  obtain ⟨s, hseat, h⟩ := Option.bind_eq_some_iff.mp h
  obtain ⟨pump, hpump, h⟩ := Option.bind_eq_some_iff.mp h
  split at h
  · cases h
  · obtain ⟨⟨event, bus⟩, htake, h⟩ := Option.bind_eq_some_iff.mp h
    cases h
    obtain ⟨htopics, hnext⟩ := Bus.frame_of_take htake
    exact hadvance.proceeds rfl htopics hnext

/-! ### What is open -/

/-- The seat is that of an open script: its environment is live, and is all that is subscribed to
the script. -/
structure Serving (desk : Desk) (script : ScriptId) (seat : Nat) (s : Seat) (number : Nat) :
    Prop where
  /-- This is the seat with the number. -/
  seat_eq : desk.seat? seat = some s
  /-- The environment is that of the script. -/
  id_eq : s.environment.id = script
  /-- Its document is that of the script. -/
  document_eq : s.environment.document.id = script
  /-- It is not disposed. -/
  live : s.environment.disposed = false
  /-- It has a subscription to the script. -/
  subscription_eq : s.subscription = some ⟨script, number⟩
  /-- Its pump works on the channel of the subscription. -/
  channel_eq : s.pump.map (·.channel) = some number
  /-- Nobody else subscribes to the script. -/
  subscribers_eq : desk.bus.subscribers script = [number]
  /-- The subscription is to this script only, and it is received on. -/
  feeds : desk.bus.Feeds script number

/-- The scripts that are open have a seat that serves them, and of others there is nothing left. -/
structure Orderly (desk : Desk) (opened : ScriptId → Option Nat) : Prop where
  /-- An open script is served. -/
  serving : ∀ {script seat}, opened script = some seat → ∃ s number,
    desk.Serving script seat s number
  /-- Other environments are disposed, and their pumps are stopped. -/
  retired : ∀ {seat s}, desk.seat? seat = some s → (∀ script, opened script ≠ some seat) →
    s.environment.disposed = true ∧ s.pump = none
  /-- Nobody subscribes to a script that is not open. -/
  silent : ∀ {script}, opened script = none → desk.bus.subscribers script = []
  /-- No files are known of a script that is not open. -/
  fileless : ∀ {script}, opened script = none → desk.files.ofScript script = .empty
  /-- New subscriptions get new numbers. -/
  numbered : desk.bus.IsNumbered

variable {desk : Desk} {opened : ScriptId → Option Nat}

/-- A seat serves one script. -/
theorem Orderly.script_eq (h : desk.Orderly opened) {script other : ScriptId} {seat : Nat}
    (hscript : opened script = some seat) (hother : opened other = some seat) : script = other := by
  obtain ⟨s, number, hs⟩ := h.serving hscript
  obtain ⟨o, number', ho⟩ := h.serving hother
  cases hs.seat_eq.symm.trans ho.seat_eq
  exact hs.id_eq.symm.trans ho.id_eq

/-- Who is attached is open. -/
theorem Orderly.opened_of_attached (h : desk.Orderly opened) {seat : Nat} {s : Seat} {pump : Pump}
    (hs : desk.Attached seat s pump) : opened s.environment.id = some seat := by
  by_contra hclosed
  have hnone : ∀ script, opened script ≠ some seat := by
    intro script hscript
    obtain ⟨o, number, ho⟩ := h.serving hscript
    cases hs.seat_eq.symm.trans ho.seat_eq
    rw [ho.id_eq] at hclosed
    exact hclosed hscript
  have hpump := (h.retired hs.seat_eq hnone).2
  rw [hs.pump_eq] at hpump
  cases hpump

/-- So the attached seats of an orderly desk hang on the bus as they should. -/
theorem Orderly.wired (h : desk.Orderly opened) : desk.Wired where
  feeds {seat s pump} hs := by
    obtain ⟨o, number, ho⟩ := h.serving (h.opened_of_attached hs)
    cases hs.seat_eq.symm.trans ho.seat_eq
    have hchannel := ho.channel_eq
    rw [hs.pump_eq] at hchannel
    cases hchannel
    exact ho.feeds
  distinct hs ho heq := by
    have hseat := h.opened_of_attached hs
    rw [heq, h.opened_of_attached ho] at hseat
    exact (Option.some.inj hseat).symm

theorem Serving.proceeds {desk' : Desk} {script : ScriptId} {seat : Nat} {s : Seat} {number : Nat}
    (h : desk.Serving script seat s number) (hproceeds : desk.Proceeds desk') :
    ∃ s', desk'.Serving script seat s' number := by
  obtain ⟨s', hs', henvironment, hsubscription, hchannel⟩ := hproceeds.stays h.seat_eq
  have hfeeds := hproceeds.feeds h.feeds
  refine ⟨s', hs', ?_, ?_, ?_, ?_, ?_, ?_, hfeeds⟩
  · exact henvironment.id_eq.trans h.id_eq
  · exact henvironment.document_eq.trans h.document_eq
  · exact henvironment.disposed_eq.trans h.live
  · exact hsubscription.trans h.subscription_eq
  · exact hchannel.trans h.channel_eq
  · have hsublist := hproceeds.subscribers script
    rw [h.subscribers_eq] at hsublist
    refine hsublist.antisymm (List.singleton_sublist.mpr (List.count_pos_iff.mp ?_))
    rw [hfeeds.count, if_pos rfl]
    exact Nat.one_pos

/-- A desk stays orderly as long as nothing is opened or closed. -/
theorem Orderly.proceeds {desk' : Desk} (h : desk.Orderly opened)
    (hproceeds : desk.Proceeds desk') : desk'.Orderly opened where
  serving hscript := by
    obtain ⟨s, number, hs⟩ := h.serving hscript
    obtain ⟨s', hs'⟩ := hs.proceeds hproceeds
    exact ⟨s', number, hs'⟩
  retired hs' hnone := by
    obtain ⟨s, hs, hsame⟩ := hproceeds.stayed hs'
    obtain ⟨hdisposed, hpump⟩ := h.retired hs hnone
    refine ⟨hsame.environment.disposed_eq.trans hdisposed, ?_⟩
    have hchannel := hsame.channel_eq
    rw [hpump] at hchannel
    exact Option.map_eq_none_iff.mp hchannel
  silent {script} hscript := by
    have hsublist := hproceeds.subscribers script
    rw [h.silent hscript] at hsublist
    exact List.sublist_nil.mp hsublist
  fileless {script} hscript := by
    refine (hproceeds.files fun hs heq => ?_).trans (h.fileless hscript)
    have hopened := h.opened_of_attached hs
    rw [heq, hscript] at hopened
    cases hopened
  numbered script number hmem := by
    rw [hproceeds.next_eq]
    exact h.numbered script number ((hproceeds.subscribers script).subset hmem)

/-! ### Opening -/

/-- A seat serves its script while other scripts are opened. -/
theorem Serving.getOrCreate {script : ScriptId} {seat : Nat} {s : Seat} {number : Nat}
    (h : desk.Serving script seat s number) {document : Document}
    (hnew : desk.register.get? document.id = none) (hne : script ≠ document.id)
    (hnumbered : desk.bus.IsNumbered) :
    (desk.getOrCreate document).1.Serving script seat s number := by
  obtain ⟨hbus, -, -, hseats⟩ := getOrCreate_new hnew
  have hseat : seat ≠ desk.seats.length :=
    Nat.ne_of_lt (List.getElem?_eq_some_iff.mp h.seat_eq).1
  refine ⟨?_, h.id_eq, h.document_eq, h.live, h.subscription_eq, h.channel_eq, ?_, ?_⟩
  · rw [hseats, if_neg hseat]
    exact h.seat_eq
  · rw [hbus, Bus.subscribers_subscribe, if_neg hne]
    exact h.subscribers_eq
  · rw [hbus]
    exact h.feeds.subscribe hnumbered document.id

/-- The seat of a document that was not open serves it, and has nothing to deliver. -/
theorem serving_newSeat {document : Document} (hnew : desk.register.get? document.id = none)
    (hsilent : desk.bus.subscribers document.id = []) (hnumbered : desk.bus.IsNumbered) :
    (desk.getOrCreate document).1.Serving document.id desk.seats.length (desk.newSeat document)
      desk.bus.next := by
  obtain ⟨hbus, -, -, hseats⟩ := getOrCreate_new hnew
  refine ⟨?_, rfl, rfl, rfl, rfl, rfl, ?_, ?_⟩
  · rw [hseats, if_pos rfl]
  · rw [hbus, Bus.subscribers_subscribe, if_pos rfl, hsilent]
    rfl
  · rw [hbus]
    exact hnumbered.feeds_subscribe document.id

theorem retains_getOrCreate (desk : Desk) (document : Document) :
    desk.Retains (desk.getOrCreate document).1 := by
  cases hopen : desk.register.get? document.id with
  | some seat =>
    rw [getOrCreate_of_open hopen]
    exact .refl desk
  | none =>
    obtain ⟨-, -, -, hseats⟩ := getOrCreate_new hopen
    intro seat s hs
    have hseat : seat ≠ desk.seats.length :=
      Nat.ne_of_lt (List.getElem?_eq_some_iff.mp hs).1
    refine ⟨s, ?_, id⟩
    rw [hseats, if_neg hseat]
    exact hs

/-- A desk stays orderly when a document is opened. -/
theorem Orderly.getOrCreate (h : desk.Orderly desk.register.get?) (document : Document) :
    (desk.getOrCreate document).1.Orderly (desk.getOrCreate document).1.register.get? := by
  cases hopen : desk.register.get? document.id with
  | some seat =>
    rw [getOrCreate_of_open hopen]
    exact h
  | none =>
    obtain ⟨hbus, hregister, hfiles, hseats⟩ := getOrCreate_new hopen
    have hopened : ∀ script, (desk.getOrCreate document).1.register.get? script =
        if script = document.id then some desk.seats.length else desk.register.get? script := by
      intro script
      rw [hregister, Table.get?_set]
    refine ⟨?_, ?_, ?_, ?_, ?_⟩
    · intro script seat hscript
      rw [hopened] at hscript
      split at hscript
      · rename_i heq
        cases hscript
        rw [heq]
        exact ⟨_, _, serving_newSeat hopen (h.silent hopen) h.numbered⟩
      · rename_i hne
        obtain ⟨s, number, hs⟩ := h.serving hscript
        exact ⟨s, number, hs.getOrCreate hopen hne h.numbered⟩
    · intro seat s hs hnone
      rw [hseats] at hs
      split at hs
      · rename_i hseat
        have hdocument := hnone document.id
        rw [hopened, if_pos rfl, hseat] at hdocument
        exact absurd rfl hdocument
      · refine h.retired hs fun script hscript => hnone script ?_
        rw [hopened, if_neg ?_]
        · exact hscript
        · rintro rfl
          rw [hopen] at hscript
          cases hscript
    · intro script hscript
      rw [hopened] at hscript
      split at hscript
      · cases hscript
      · rename_i hne
        rw [hbus, Bus.subscribers_subscribe, if_neg hne]
        exact h.silent hscript
    · intro script hscript
      rw [hopened] at hscript
      split at hscript
      · cases hscript
      · rw [hfiles]
        exact h.fileless hscript
    · rw [hbus]
      exact h.numbered.subscribe document.id

/-! ### Closing -/

/-- What is left when a script is closed. -/
theorem Serving.closed_eq {script : ScriptId} {seat : Nat} {s : Seat} {number : Nat}
    (h : desk.Serving script seat s number) :
    ((desk.dispose seat).forget script).1 =
      { desk with
        bus := (desk.bus.unsubscribe ⟨script, number⟩).stopReceiving number
        files := (desk.files.forget script).1 }.modifySeat seat retire := by
  obtain ⟨pump, hpump, hchannel⟩ := Option.map_eq_some_iff.mp h.channel_eq
  rw [dispose_eq h.seat_eq h.live, h.subscription_eq, hpump, ← hchannel]
  rfl

/-- Closing a script leaves the others as they were. -/
theorem Orderly.close (h : desk.Orderly opened) {script : ScriptId} {seat : Nat}
    (hscript : opened script = some seat) :
    ((desk.dispose seat).forget script).1.Orderly (Function.update opened script none) := by
  obtain ⟨s, number, hs⟩ := h.serving hscript
  rw [hs.closed_eq]
  have hsubscribers : ∀ other, ((desk.bus.unsubscribe ⟨script, number⟩).stopReceiving
      number).subscribers other = if other = script then [] else desk.bus.subscribers other := by
    intro other
    refine (Bus.subscribers_unsubscribe desk.bus ⟨script, number⟩ other).trans ?_
    simp only [hs.subscribers_eq]
    simp
  have hopened : ∀ other, Function.update opened script none other =
      if other = script then none else opened other :=
    fun other => Function.update_apply opened script none other
  refine ⟨?_, ?_, ?_, ?_, ?_⟩
  · intro other place hother
    rw [hopened] at hother
    split at hother
    · cases hother
    · rename_i hne
      obtain ⟨o, number', ho⟩ := h.serving hother
      have hplace : place ≠ seat := by
        rintro rfl
        exact hne (h.script_eq hother hscript)
      have hnumber : number' ≠ number := by
        rintro rfl
        exact hne (ho.feeds.script_eq hs.feeds)
      refine ⟨o, number', ?_, ho.id_eq, ho.document_eq, ho.live, ho.subscription_eq,
        ho.channel_eq, ?_, (ho.feeds.unsubscribe hnumber).stopReceiving hnumber⟩
      · rw [seat?_modifySeat, if_neg hplace]
        exact ho.seat_eq
      · refine (hsubscribers other).trans ?_
        rw [if_neg hne]
        exact ho.subscribers_eq
  · intro place o ho hnone
    rw [seat?_modifySeat] at ho
    split at ho
    · obtain ⟨o', -, rfl⟩ := Option.map_eq_some_iff.mp ho
      exact ⟨rfl, rfl⟩
    · rename_i hplace
      refine h.retired ho fun other hother => hnone other ?_
      rw [hopened, if_neg ?_]
      · exact hother
      · rintro rfl
        rw [hscript] at hother
        exact hplace (Option.some.inj hother).symm
  · intro other hother
    refine (hsubscribers other).trans ?_
    rw [hopened] at hother
    split
    · rfl
    · rename_i hne
      rw [if_neg hne] at hother
      exact h.silent hother
  · intro other hother
    refine (Files.ofScript_forget desk.files script other).trans ?_
    rw [hopened] at hother
    split
    · rfl
    · rename_i hne
      rw [if_neg hne] at hother
      exact h.fileless hother
  · intro other number' hmem
    refine h.numbered other number' ?_
    rw [modifySeat, hsubscribers] at hmem
    split at hmem
    · cases hmem
    · exact hmem

theorem Serving.retains_close {script : ScriptId} {seat : Nat} {s : Seat} {number : Nat}
    (h : desk.Serving script seat s number) :
    desk.Retains ((desk.dispose seat).forget script).1 := by
  rw [h.closed_eq]
  intro other o ho
  rw [seat?_modifySeat]
  split
  · rename_i hother
    subst hother
    exact ⟨retire o, congrArg (Option.map retire) ho, fun _ => rfl⟩
  · exact ⟨o, ho, id⟩

/-- Closing scripts that were taken out of the register does not concern it. -/
theorem register_closeTaken (taken : List (ScriptId × Nat)) :
    ∀ desk : Desk, (closeTaken taken desk).register = desk.register := by
  induction taken with
  | nil => intro desk; rfl
  | cons entry others ih =>
    obtain ⟨script, seat⟩ := entry
    intro desk
    exact (ih _).trans (desk.frame_dispose seat).1

/-- When the first of some scripts is closed, the others are those that are still open. -/
theorem update_find?_cons {script : ScriptId} {seat : Nat} {entries : List (ScriptId × Nat)}
    (hnodup : (((script, seat) :: entries).map Prod.fst).Nodup) :
    Function.update (Table.find? · ((script, seat) :: entries)) script none =
      (Table.find? · entries) := by
  rw [List.map_cons, List.nodup_cons] at hnodup
  obtain ⟨hfresh, hnodup⟩ := hnodup
  funext other
  rw [Function.update_apply]
  split
  · rename_i hother
    subst hother
    have habsent := mt (Table.mem_keys_iff ⟨entries, hnodup⟩ other).mpr hfresh
    exact (Option.not_isSome_iff_eq_none.mp habsent).symm
  · rename_i hother
    exact if_neg hother

/-- Scripts are closed one after the other, those whose turn has still to come being open. -/
theorem Orderly.closeTaken {entries : List (ScriptId × Nat)}
    (hnodup : (entries.map Prod.fst).Nodup) :
    ∀ {desk : Desk}, desk.Orderly (Table.find? · entries) →
      (Desk.closeTaken entries desk).Orderly (fun _ => none) ∧
        desk.Retains (Desk.closeTaken entries desk) := by
  induction entries with
  | nil => intro desk h; exact ⟨h, .refl desk⟩
  | cons entry entries ih =>
    obtain ⟨script, seat⟩ := entry
    intro desk h
    have hscript : Table.find? script ((script, seat) :: entries) = some seat := if_pos rfl
    obtain ⟨s, number, hs⟩ := h.serving hscript
    have hclose := h.close hscript
    rw [update_find?_cons hnodup] at hclose
    obtain ⟨horderly, hretains⟩ := ih (List.nodup_cons.mp hnodup).2 hclose
    exact ⟨horderly, hs.retains_close.trans hretains⟩

/-- The register does not matter when it is given which scripts are open. -/
theorem Orderly.setRegister (h : desk.Orderly opened) (register : Table ScriptId Nat) :
    { desk with register }.Orderly opened where
  serving hscript := by
    obtain ⟨s, number, hs⟩ := h.serving hscript
    exact ⟨s, number, hs.seat_eq, hs.id_eq, hs.document_eq, hs.live, hs.subscription_eq,
      hs.channel_eq, hs.subscribers_eq, hs.feeds⟩
  retired := h.retired
  silent := h.silent
  fileless := h.fileless
  numbered := h.numbered

theorem remove_of_none {script : ScriptId} (h : desk.register.get? script = none) :
    desk.remove script = (desk, false) := by
  unfold remove unregister?
  rw [h]

theorem remove_of_some {script : ScriptId} {seat : Nat}
    (h : desk.register.get? script = some seat) :
    desk.remove script =
      ({ ((desk.dispose seat).forget script).1 with register := desk.register.erase script },
        true) := by
  have hregister := (desk.frame_dispose seat).1
  unfold remove unregister?
  rw [h]
  simp only [forget, hregister]

/-- Closing a script takes it out of the register and nothing else. -/
theorem get?_remove (desk : Desk) (script : ScriptId) :
    (desk.remove script).1.register.get? = Function.update desk.register.get? script none := by
  cases hopen : desk.register.get? script with
  | none =>
    rw [remove_of_none hopen]
    exact Function.eq_update_self_iff.mpr hopen
  | some seat =>
    funext other
    rw [remove_of_some hopen, Table.get?_erase, Function.update_apply]

/-- A desk stays orderly when a script is closed. -/
theorem Orderly.remove (h : desk.Orderly desk.register.get?) (script : ScriptId) :
    (desk.remove script).1.Orderly (desk.remove script).1.register.get? ∧
      desk.Retains (desk.remove script).1 := by
  cases hopen : desk.register.get? script with
  | none =>
    rw [remove_of_none hopen]
    exact ⟨h, .refl desk⟩
  | some seat =>
    obtain ⟨s, number, hs⟩ := h.serving hopen
    rw [get?_remove, remove_of_some hopen]
    exact ⟨(h.close hopen).setRegister _, hs.retains_close⟩

/-- After all scripts were closed none is open. -/
theorem Orderly.closeAll (h : desk.Orderly desk.register.get?) :
    desk.closeAll.1.Orderly (fun _ => none) ∧ desk.Retains desk.closeAll.1 ∧
      desk.closeAll.1.register.get? = fun _ => none := by
  have hopened : desk.Orderly (Table.find? · desk.register.entries) := h
  obtain ⟨horderly, hretains⟩ :=
    Orderly.closeTaken desk.register.nodup (hopened.setRegister .empty)
  have hregister := register_closeTaken desk.register.entries { desk with register := .empty }
  exact ⟨horderly, hretains, funext fun script => congrArg (·.get? script) hregister⟩

end Desk

end ScriptDesk
