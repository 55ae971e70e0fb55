import ScriptDesk.Desk.Register
import ScriptDesk.Proofs.Bus.Channels
import ScriptDesk.Proofs.Environment.Delivery

/-!
# How the seats hang on the bus

A seat is attached when it has a pump. On a desk that is wired (`Desk.Wired`), the channel of each
attached seat is that of one subscription, which is to the script of the seat, and no two attached
seats are of the same script. Opening scripts makes such a desk (`wired_openAll`).

A pump goes on by taking the next event out of its channel, by delivering one, or by both at once.
`Desk.Advance` says what that does: the events that the pump has still to deliver are those from
before without the delivered one, and only one seat, one channel and the files of one script change.
-/

namespace ScriptDesk

/-- The events that a pump has still to deliver. -/
def Pump.pending (pump : Pump) (bus : Bus) : List Event :=
  pump.waiting.toList ++ bus.queue pump.channel

namespace Desk

theorem seat?_modifySeat (desk : Desk) (seat other : Nat) (change : Seat → Seat) :
    (desk.modifySeat seat change).seat? other =
      if other = seat then (desk.seat? seat).map change else desk.seat? other := by
  unfold seat? modifySeat
  rw [List.getElem?_modify]
  by_cases h : other = seat
  · rw [h, if_pos rfl]
    cases desk.seats[seat]? with
    | none => rfl
    | some s => simp
  · rw [if_neg h]
    cases desk.seats[other]? with
    | none => rfl
    | some s => simp [Ne.symm h]

/-- A seat has a pump. -/
structure Attached (desk : Desk) (seat : Nat) (s : Seat) (pump : Pump) : Prop where
  /-- This is the seat with the number. -/
  seat_eq : desk.seat? seat = some s
  /-- This is its pump. -/
  pump_eq : s.pump = some pump

theorem Attached.unique {desk : Desk} {seat : Nat} {s o : Seat} {pump p : Pump}
    (h : desk.Attached seat s pump) (hother : desk.Attached seat o p) : o = s ∧ p = pump := by
  have hseat : o = s := Option.some.inj (hother.seat_eq.symm.trans h.seat_eq)
  subst hseat
  exact ⟨rfl, Option.some.inj (hother.pump_eq.symm.trans h.pump_eq)⟩

/-- Each attached seat has a channel of its own, and no other attached seat is of its script. -/
structure Wired (desk : Desk) : Prop where
  /-- The channel is that of a subscription to the script. -/
  feeds : ∀ {seat s pump}, desk.Attached seat s pump →
    desk.bus.Feeds s.environment.id pump.channel
  /-- Attached seats of the same script are the same. -/
  distinct : ∀ {seat other s o pump p}, desk.Attached seat s pump → desk.Attached other o p →
    s.environment.id = o.environment.id → seat = other

theorem Wired.channel_ne {desk : Desk} (h : desk.Wired) {seat other : Nat} {s o : Seat}
    {pump p : Pump} (hs : desk.Attached seat s pump) (ho : desk.Attached other o p)
    (hne : seat ≠ other) : pump.channel ≠ p.channel := by
  intro heq
  have hfeeds := h.feeds hs
  rw [heq] at hfeeds
  exact hne (h.distinct hs ho (hfeeds.script_eq (h.feeds ho)))

/-- A desk is wired if another is and its attached seats have the same scripts and channels. -/
theorem Wired.of_same {desk desk' : Desk} (h : desk.Wired)
    (hseats : ∀ {seat s' pump'}, desk'.Attached seat s' pump' → ∃ s pump,
      desk.Attached seat s pump ∧ s.environment.id = s'.environment.id ∧
        pump.channel = pump'.channel)
    (hbus : ∀ {script number}, desk.bus.Feeds script number → desk'.bus.Feeds script number) :
    desk'.Wired := by
  refine ⟨?_, ?_⟩
  · intro seat s' pump' hs'
    obtain ⟨s, pump, hs, hid, hchannel⟩ := hseats hs'
    rw [← hid, ← hchannel]
    exact hbus (h.feeds hs)
  · intro seat other s' o' pump' p' hs' ho' heq
    obtain ⟨s, pump, hs, hid, -⟩ := hseats hs'
    obtain ⟨o, p, ho, hother, -⟩ := hseats ho'
    exact h.distinct hs ho (by rw [hid, hother, heq])

/-! ### Steps of a pump -/

/-- The pump of a seat takes the next event out of its channel and is interrupted before it delivers
it. There is no such step if it has an event already or there is none. -/
def takeNext? (desk : Desk) (seat : Nat) : Option Desk := do
  let s ← desk.seat? seat
  let pump ← s.pump
  match pump.waiting with
  | some _ => none
  | none =>
    let (event, bus) ← desk.bus.take pump.channel
    return { desk with bus }.modifySeat seat fun s =>
      { s with pump := some { pump with waiting := some event } }

/-- What a step of a pump does: it delivers an event or none. -/
structure Advance (desk desk' : Desk) (seat : Nat) (s : Seat) (pump pump' : Pump)
    (delivered : Option Event) : Prop where
  /-- The pump before. -/
  attached : desk.Attached seat s pump
  /-- The pump keeps its channel. -/
  channel_eq : pump'.channel = pump.channel
  /-- What was delivered is no longer pending, and nothing else is lost. -/
  pending_eq : pump.pending desk.bus = delivered.toList ++ pump'.pending desk'.bus
  /-- Nothing is put into other channels or taken out of them. -/
  others : ∀ number, number ≠ pump.channel → desk'.bus.queue number = desk.bus.queue number
  /-- The subscriptions stay. -/
  feeds : ∀ {script number}, desk.bus.Feeds script number → desk'.bus.Feeds script number
  /-- Only this seat changes. -/
  seat?_eq : ∀ other, desk'.seat? other =
    if other = seat then
      some { s with
        environment := (s.environment.deliverAll desk.files delivered.toList).1
        pump := some pump' }
    else desk.seat? other
  /-- Only the delivered event changes tracked files. -/
  files_eq : desk'.files = (s.environment.deliverAll desk.files delivered.toList).2

/-- Delivering to a seat changes its environment and the files, and an event that cannot be applied
changes nothing. -/
theorem deliver_eq {desk : Desk} {seat : Nat} {s : Seat} (hseat : desk.seat? seat = some s)
    (event : Event) :
    (desk.deliver seat event).2.bus = desk.bus ∧
      (desk.deliver seat event).2.files = (s.environment.afterEvent desk.files event).2 ∧
      ∀ other, (desk.deliver seat event).2.seat? other =
        if other = seat then
          some { s with environment := (s.environment.afterEvent desk.files event).1 }
        else desk.seat? other := by
  unfold deliver Environment.afterEvent
  rw [hseat]
  cases hdeliver : s.environment.deliver desk.files event with
  | error e =>
    simp only [hdeliver]
    refine ⟨trivial, trivial, fun other => ?_⟩
    split
    · rename_i h
      rw [h]
      exact hseat
    · rfl
  | ok result =>
    simp only [hdeliver]
    refine ⟨rfl, rfl, fun other => ?_⟩
    have hsame : seat? { desk with files := result.2.2 } seat = some s := hseat
    unfold setEnvironment
    rw [seat?_modifySeat, hsame]
    rfl

/-- The next event of a pump is the first one pending. -/
theorem pending_of_nextEvent? {desk : Desk} {pump : Pump} {event : Event} {bus : Bus}
    (h : desk.nextEvent? pump = some (event, bus)) :
    pump.pending desk.bus = event :: bus.queue pump.channel ∧
      (∀ number, number ≠ pump.channel → bus.queue number = desk.bus.queue number) ∧
      ∀ {script number}, desk.bus.Feeds script number → bus.Feeds script number := by
  unfold nextEvent? at h
  unfold Pump.pending
  cases hwaiting : pump.waiting with
  | some waiting =>
    rw [hwaiting] at h
    cases h
    exact ⟨rfl, fun _ _ => rfl, fun hfeeds => hfeeds⟩
  | none =>
    rw [hwaiting] at h
    have htook := Bus.took_of_take h
    exact ⟨htook.queue_eq, htook.others, fun hfeeds => hfeeds.took htook⟩

/-- Taking an event only makes it wait. -/
theorem advance_of_take {desk : Desk} {seat : Nat} {s : Seat} {pump : Pump} {event : Event}
    {bus : Bus} (hs : desk.Attached seat s pump) (hwaiting : pump.waiting = none)
    (htake : desk.bus.take pump.channel = some (event, bus)) :
    desk.Advance
      ({ desk with bus }.modifySeat seat fun s =>
        { s with pump := some { pump with waiting := some event } })
      seat s pump { pump with waiting := some event } none := by
  have htook := Bus.took_of_take htake
  refine ⟨hs, rfl, ?_, htook.others, fun hfeeds => hfeeds.took htook, fun other => ?_, rfl⟩
  · unfold Pump.pending
    rw [hwaiting]
    exact htook.queue_eq
  · rw [seat?_modifySeat]
    have hseat : seat? { desk with bus } seat = some s := hs.seat_eq
    rw [hseat]
    rfl

/-- Delivering the next event. -/
theorem advance_of_deliver {desk : Desk} {seat : Nat} {s : Seat} {pump : Pump} {event : Event}
    {bus : Bus} (hs : desk.Attached seat s pump) (hnext : desk.nextEvent? pump = some (event, bus)) :
    desk.Advance
      (({ desk with bus }.modifySeat seat fun s =>
        { s with pump := some { pump with waiting := none } }).deliver seat event).2
      seat s pump { pump with waiting := none } (some event) := by
  obtain ⟨hpending, hothers, hfeeds⟩ := pending_of_nextEvent? hnext
  have hseat : ∀ other, ({ desk with bus }.modifySeat seat fun s =>
      { s with pump := some { pump with waiting := none } }).seat? other =
        if other = seat then some { s with pump := some { pump with waiting := none } }
        else desk.seat? other := by
    intro other
    have hold : seat? { desk with bus } seat = some s := hs.seat_eq
    rw [seat?_modifySeat, hold]
    rfl
  obtain ⟨hbus, hfiles, hseats⟩ := deliver_eq ((hseat seat).trans (if_pos rfl)) event
  refine ⟨hs, rfl, ?_, ?_, ?_, fun other => ?_, hfiles⟩
  · rw [hbus]
    exact hpending
  · rw [hbus]
    exact hothers
  · rw [hbus]
    exact hfeeds
  · rw [hseats]
    split
    · rfl
    · rename_i hne
      exact (hseat other).trans (if_neg hne)

theorem advance_of_takeNext? {desk desk' : Desk} {seat : Nat}
    (h : desk.takeNext? seat = some desk') :
    ∃ s pump pump', desk.Advance desk' seat s pump pump' none := by
  unfold takeNext? at h
  obtain ⟨s, hseat, h⟩ := Option.bind_eq_some_iff.mp h
  obtain ⟨pump, hpump, h⟩ := Option.bind_eq_some_iff.mp h
  cases hwaiting : pump.waiting with
  | some waiting => rw [hwaiting] at h; cases h
  | none =>
    rw [hwaiting] at h
    obtain ⟨⟨event, bus⟩, htake, h⟩ := Option.bind_eq_some_iff.mp h
    cases h
    exact ⟨s, pump, _, advance_of_take ⟨hseat, hpump⟩ hwaiting htake⟩

/-- A step of a pump takes an event that has to wait or delivers the next one. -/
theorem advance_of_pumpStep? {desk desk' : Desk} {seat : Nat} {refusal : Option Refusal}
    (h : desk.pumpStep? seat = some (desk', refusal)) :
    ∃ s pump pump' delivered, desk.Advance desk' seat s pump pump' delivered := by
  unfold pumpStep? at h
  obtain ⟨s, hseat, h⟩ := Option.bind_eq_some_iff.mp h
  obtain ⟨pump, hpump, h⟩ := Option.bind_eq_some_iff.mp h
  obtain ⟨⟨event, bus⟩, hnext, h⟩ := Option.bind_eq_some_iff.mp h
  have hs : desk.Attached seat s pump := ⟨hseat, hpump⟩
  simp only at h
  split at h
  · cases hwaiting : pump.waiting with
    | some waiting => rw [hwaiting] at h; cases h
    | none =>
      rw [hwaiting] at h
      cases h
      have htake : desk.bus.take pump.channel = some (event, bus) := by
        unfold nextEvent? at hnext
        rw [hwaiting] at hnext
        exact hnext
      exact ⟨s, pump, _, none, advance_of_take hs hwaiting htake⟩
  · have hadvance := advance_of_deliver hs hnext
    split at h
    · rename_i hdeliver
      cases h
      rw [hdeliver] at hadvance
      exact ⟨s, pump, _, some event, hadvance⟩
    · rename_i hdeliver
      cases h
      rw [hdeliver] at hadvance
      exact ⟨s, pump, _, some event, hadvance⟩

/-- While nobody else uses the document, a pump that has something to deliver delivers it. -/
theorem exists_pumpStep? {desk : Desk} {seat : Nat} {s : Seat} {pump : Pump}
    (hs : desk.Attached seat s pump) (hfree : s.documentHeld = false)
    (hpending : pump.pending desk.bus ≠ []) :
    ∃ desk' refusal pump' event, desk.pumpStep? seat = some (desk', refusal) ∧
      desk.Advance desk' seat s pump pump' (some event) := by
  have hnext : ∃ event bus, desk.nextEvent? pump = some (event, bus) := by
    unfold nextEvent?
    cases hwaiting : pump.waiting with
    | some event => exact ⟨event, desk.bus, rfl⟩
    | none =>
      unfold Pump.pending at hpending
      rw [hwaiting] at hpending
      unfold Bus.take
      cases hqueue : desk.bus.queue pump.channel with
      | nil => exact absurd hqueue hpending
      | cons event rest => exact ⟨event, _, rfl⟩
  obtain ⟨event, bus, hnext⟩ := hnext
  have hadvance := advance_of_deliver hs hnext
  unfold pumpStep?
  simp only [hs.seat_eq, hs.pump_eq, hnext, hfree, Option.bind_eq_bind, Option.bind_some,
    Bool.false_and, Bool.false_eq_true, if_false]
  split
  · rename_i hdeliver
    rw [hdeliver] at hadvance
    exact ⟨_, none, _, event, rfl, hadvance⟩
  · rename_i error desk' hdeliver
    rw [hdeliver] at hadvance
    exact ⟨_, _, _, event, rfl, hadvance⟩

/-! ### What keeps the wiring -/

theorem Advance.attached_after {desk desk' : Desk} {seat : Nat} {s : Seat} {pump pump' : Pump}
    {delivered : Option Event} (h : desk.Advance desk' seat s pump pump' delivered) :
    desk'.Attached seat
      { s with
        environment := (s.environment.deliverAll desk.files delivered.toList).1
        pump := some pump' } pump' :=
  ⟨(h.seat?_eq seat).trans (if_pos rfl), rfl⟩

theorem Advance.wired {desk desk' : Desk} {seat : Nat} {s : Seat} {pump pump' : Pump}
    {delivered : Option Event} (h : desk.Advance desk' seat s pump pump' delivered)
    (hwired : desk.Wired) : desk'.Wired := by
  refine hwired.of_same ?_ h.feeds
  intro other o p ho
  by_cases hother : other = seat
  · subst hother
    obtain ⟨rfl, rfl⟩ := h.attached_after.unique ho
    exact ⟨s, pump, h.attached, (Environment.id_deliverAll _ _ _).symm, h.channel_eq.symm⟩
  · have hseat := ho.seat_eq
    rw [h.seat?_eq, if_neg hother] at hseat
    exact ⟨o, p, ⟨hseat, ho.pump_eq⟩, rfl, rfl⟩

theorem Wired.publish {desk : Desk} (h : desk.Wired) (event : Event) :
    (desk.publish event).1.Wired := by
  refine h.of_same ?_ fun hfeeds => hfeeds.publish event
  intro seat s pump hs
  exact ⟨s, pump, ⟨hs.seat_eq, hs.pump_eq⟩, rfl, rfl⟩

/-- Someone begins to use the document of a seat or ceases to. -/
def hold (desk : Desk) (seat : Nat) (held : Bool) : Desk :=
  desk.modifySeat seat fun s => { s with documentHeld := held }

theorem seat?_hold (desk : Desk) (seat other : Nat) (held : Bool) :
    (desk.hold seat held).seat? other =
      if other = seat then (desk.seat? seat).map fun s => { s with documentHeld := held }
      else desk.seat? other :=
  seat?_modifySeat desk seat other _

theorem Wired.hold {desk : Desk} (h : desk.Wired) (seat : Nat) (held : Bool) :
    (desk.hold seat held).Wired := by
  refine h.of_same ?_ fun hfeeds => hfeeds
  intro other o p ho
  have hseat := ho.seat_eq
  rw [seat?_hold] at hseat
  split at hseat
  · rename_i hother
    obtain ⟨s, hs, rfl⟩ := Option.map_eq_some_iff.mp hseat
    rw [hother]
    exact ⟨s, p, ⟨hs, ho.pump_eq⟩, rfl, rfl⟩
  · exact ⟨o, p, ⟨hseat, ho.pump_eq⟩, rfl, rfl⟩

/-! ### Opening scripts -/

/-- The desk is wired, and the script of every attached seat is in the register. -/
structure Tidy (desk : Desk) : Prop where
  /-- The desk is wired. -/
  wired : desk.Wired
  /-- New subscriptions get new numbers. -/
  numbered : desk.bus.IsNumbered
  /-- Who is attached is open. -/
  registered : ∀ {seat s pump}, desk.Attached seat s pump →
    desk.register.get? s.environment.id ≠ none

/-- A desk on which no script was opened. -/
def empty (settings : Settings) : Desk := { settings }

theorem tidy_empty (settings : Settings) : (empty settings).Tidy := by
  have hnone : ∀ {seat s pump}, ¬(empty settings).Attached seat s pump := by
    intro seat s pump hs
    have hseat := hs.seat_eq
    unfold seat? empty at hseat
    cases hseat
  refine ⟨⟨fun hs => absurd hs hnone, fun hs => absurd hs hnone⟩, ?_, fun hs => absurd hs hnone⟩
  intro script number hmem
  cases hmem

/-- Attaching a seat that was not attached before. -/
theorem attach_of_new {desk : Desk} {seat : Nat} {s : Seat} (hseat : desk.seat? seat = some s)
    (hsubscription : s.subscription = none) (hpump : s.pump = none) :
    desk.attach seat =
      { desk with bus := (desk.bus.subscribe s.environment.id).1 }.modifySeat seat fun old =>
        { old with
          subscription := some (desk.bus.subscribe s.environment.id).2
          pump := some { channel := desk.bus.next } } := by
  have hsame : seat? { desk with bus := (desk.bus.subscribe s.environment.id).1 } seat = some s :=
    hseat
  unfold attach dropSubscription stopPump
  simp only [hseat, hsame, hsubscription, hpump, Option.bind_some]
  rfl

theorem seat?_addSeat (desk : Desk) (document : Document) (capacity seat : Nat) :
    (desk.addSeat document capacity).seat? seat =
      if seat = desk.seats.length then
        some { environment := Environment.ofDocument document, capacity }
      else desk.seat? seat := by
  unfold addSeat seat?
  split
  · rename_i h
    rw [h]
    exact List.getElem?_concat_length
  · rename_i h
    rcases Nat.lt_or_ge seat desk.seats.length with hlt | hge
    · exact List.getElem?_append_left hlt
    · rw [List.getElem?_eq_none hge, List.getElem?_eq_none]
      rw [List.length_append, List.length_singleton]
      omega

/-- The seat that a document gets which is not open. -/
def newSeat (desk : Desk) (document : Document) : Seat :=
  { environment := Environment.ofDocument document
    capacity := desk.settings.observerCapacity
    subscription := some ⟨document.id, desk.bus.next⟩
    pump := some { channel := desk.bus.next } }

/-- A document that is open already is left as it is. -/
theorem getOrCreate_of_open {desk : Desk} {document : Document} {seat : Nat}
    (h : desk.register.get? document.id = some seat) :
    desk.getOrCreate document = (desk, seat) := by
  unfold getOrCreate
  rw [h]

/-- Opening a document that is not open makes one more attached seat. -/
theorem getOrCreate_new {desk : Desk} {document : Document}
    (hopen : desk.register.get? document.id = none) :
    (desk.getOrCreate document).1.bus = (desk.bus.subscribe document.id).1 ∧
      (desk.getOrCreate document).1.register = desk.register.set document.id desk.seats.length ∧
      (desk.getOrCreate document).1.files = desk.files ∧
      ∀ seat, (desk.getOrCreate document).1.seat? seat =
        if seat = desk.seats.length then some (desk.newSeat document) else desk.seat? seat := by
  have hseats := seat?_addSeat desk document desk.settings.observerCapacity
  have hnew := (hseats desk.seats.length).trans (if_pos rfl)
  have hattach := attach_of_new hnew rfl rfl
  unfold getOrCreate
  rw [hopen]
  simp only [hattach]
  refine ⟨rfl, rfl, rfl, fun seat => ?_⟩
  refine (seat?_modifySeat _ desk.seats.length seat _).trans ?_
  split
  · exact congrArg (Option.map _) hnew
  · rename_i hne
    exact (hseats seat).trans (if_neg hne)

/-- Its seat is the last one. -/
theorem seat_getOrCreate_new {desk : Desk} {document : Document}
    (hopen : desk.register.get? document.id = none) :
    (desk.getOrCreate document).2 = desk.seats.length := by
  unfold getOrCreate
  rw [hopen]

/-- A desk stays tidy when a document is opened. -/
theorem Tidy.getOrCreate {desk : Desk} (h : desk.Tidy) (document : Document) :
    (desk.getOrCreate document).1.Tidy := by
  cases hopen : desk.register.get? document.id with
  | some seat =>
    rw [getOrCreate_of_open hopen]
    exact h
  | none =>
    obtain ⟨hbus, hregister, -, hseats⟩ := getOrCreate_new hopen
    -- an attached seat is the new one, or it was attached before
    have hcases : ∀ {seat s pump}, (desk.getOrCreate document).1.Attached seat s pump →
        (seat = desk.seats.length ∧ s.environment.id = document.id ∧
          pump.channel = desk.bus.next) ∨ desk.Attached seat s pump := by
      rintro seat s pump ⟨hseat, hspump⟩
      rw [hseats] at hseat
      split at hseat
      · rename_i hlast
        cases hseat
        cases hspump
        exact .inl ⟨hlast, rfl, rfl⟩
      · exact .inr ⟨hseat, hspump⟩
    refine ⟨⟨?_, ?_⟩, ?_, ?_⟩
    · intro seat s pump hs
      rw [hbus]
      rcases hcases hs with ⟨-, hid, hchannel⟩ | hold
      · rw [hid, hchannel]
        exact h.numbered.feeds_subscribe document.id
      · exact (h.wired.feeds hold).subscribe h.numbered document.id
    · intro seat other s o pump p hs ho heq
      rcases hcases hs with ⟨hseat, hid, -⟩ | hold <;> rcases hcases ho with ⟨hother, hod, -⟩ | hoold
      · rw [hseat, hother]
      · exact absurd hopen (by rw [← hid, heq]; exact h.registered hoold)
      · exact absurd hopen (by rw [← hod, ← heq]; exact h.registered hold)
      · exact h.wired.distinct hold hoold heq
    · rw [hbus]
      exact h.numbered.subscribe document.id
    · intro seat s pump hs
      rw [hregister, Table.get?_set]
      split
      · exact Option.some_ne_none _
      · rename_i hne
        rcases hcases hs with ⟨-, hid, -⟩ | hold
        · exact absurd hid hne
        · exact h.registered hold

/-- Open documents one after the other. -/
def openAll (desk : Desk) (documents : List Document) : Desk :=
  documents.foldl (fun desk document => (desk.getOrCreate document).1) desk

/-- Opening scripts makes a desk that is wired. -/
theorem Tidy.openAll (documents : List Document) :
    ∀ {desk : Desk}, desk.Tidy → (desk.openAll documents).Tidy := by
  induction documents with
  | nil => intro desk h; exact h
  | cons document documents ih => intro desk h; exact ih (h.getOrCreate document)

end Desk

end ScriptDesk
