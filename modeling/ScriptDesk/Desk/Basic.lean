import ScriptDesk.Bus
import ScriptDesk.Environment
import ScriptDesk.Observer
import ScriptDesk.Settings

/-!
# The desk

The desk holds the environments that were ever made, each on a seat of its own, the register of
those that are open, the event bus, the tracked files and the disk. An environment on a seat may be
attached to the bus: then it has a subscription, and a pump that takes the events out of its channel
one by one and delivers them.

Everything that happens on the desk is made of small steps, each of which happens as a whole. This
module has those of a single seat: publishing, attaching, delivering, changing the status,
disposing, and the step of a pump.
-/

namespace ScriptDesk

/-- What takes the events of an environment out of its channel. -/
structure Pump where
  /-- The number of the channel. -/
  channel : Nat
  /-- The event that was taken last, while it waits for the document. -/
  waiting : Option Event := none
  deriving Inhabited

/-- An environment on the desk. -/
structure Seat where
  /-- The environment. -/
  environment : Environment
  /-- How far its observers may fall behind. -/
  capacity : Nat
  /-- Its subscription to the bus. -/
  subscription : Option Subscription := none
  /-- Its pump. -/
  pump : Option Pump := none
  /-- Someone else uses the document. -/
  documentHeld : Bool := false
  /-- How many outside the desk know the environment. -/
  holders : Nat := 0
  deriving Inhabited

/-- A program that was handed to the backend. -/
structure Submission where
  /-- The script whose program it is. -/
  script : ScriptId
  /-- The program. -/
  program : Text
  /-- The backend took it. -/
  accepted : Bool
  deriving DecidableEq, Repr, Inhabited

/-- The service that executes programs, as far as the desk knows it. -/
structure Backend where
  /-- Why it rejects programs, if it does: the outermost reason first. -/
  rejection : Option (List Text) := none
  /-- The programs that were handed to it, in order. -/
  submissions : List Submission := []
  deriving Inhabited

/-- Open scripts and all they share. -/
structure Desk where
  /-- The settings. -/
  settings : Settings
  /-- The service that executes programs, if there is one. -/
  backend : Option Backend := none
  /-- The environments that were ever made. -/
  seats : List Seat := []
  /-- The seats of the open scripts. -/
  register : Table ScriptId Nat := .empty
  /-- The event bus. -/
  bus : Bus := {}
  /-- The tracked files. -/
  files : Files := {}
  /-- The disk. -/
  disk : Disk := {}
  deriving Inhabited

/-- An event that a pump could not apply. -/
structure Refusal where
  /-- The event. -/
  event : Event
  /-- Why it was not applied. -/
  error : EnvironmentError

namespace Desk

/-- The seat with a number. -/
def seat? (desk : Desk) (seat : Nat) : Option Seat :=
  desk.seats[seat]?

/-- The desk with one seat changed. -/
def modifySeat (desk : Desk) (seat : Nat) (change : Seat → Seat) : Desk :=
  { desk with seats := desk.seats.modify seat change }

/-- The desk with the environment of one seat replaced. -/
def setEnvironment (desk : Desk) (seat : Nat) (environment : Environment) : Desk :=
  desk.modifySeat seat fun s => { s with environment }

/-- Put an environment on a seat of its own, the last one. -/
def addSeat (desk : Desk) (document : Document) (capacity : Nat) : Desk :=
  { desk with
    seats := desk.seats ++ [{ environment := Environment.ofDocument document, capacity }] }

/-- Publish an event, and say how many subscribers it reached. -/
def publish (desk : Desk) (event : Event) : Desk × Nat :=
  let (bus, reached) := desk.bus.publish event
  ({ desk with bus }, reached)

/-- Publish events in order. -/
def publishAll (desk : Desk) (events : List Event) : Desk :=
  events.foldl (fun desk event => (desk.publish event).1) desk

/-- Give up the subscription of a seat. -/
def dropSubscription (desk : Desk) (seat : Nat) : Desk :=
  match (desk.seat? seat).bind (·.subscription) with
  | none => desk
  | some subscription =>
    { desk with bus := desk.bus.unsubscribe subscription }.modifySeat seat
      fun s => { s with subscription := none }

/-- Stop the pump of a seat; what it has taken or could take is lost. -/
def stopPump (desk : Desk) (seat : Nat) : Desk :=
  match (desk.seat? seat).bind (·.pump) with
  | none => desk
  | some pump =>
    { desk with bus := desk.bus.stopReceiving pump.channel }.modifySeat seat
      fun s => { s with pump := none }

/-- Attach a seat to the bus. A subscription and a pump that it had before are given up. -/
def attach (desk : Desk) (seat : Nat) : Desk :=
  match desk.seat? seat with
  | none => desk
  | some s =>
    let (bus, subscription) := desk.bus.subscribe s.environment.id
    let desk := ({ desk with bus }.dropSubscription seat).stopPump seat
    desk.modifySeat seat fun s =>
      { s with subscription := some subscription, pump := some { channel := subscription.number } }

/-- Dispose the environment of a seat: it gets no more events and never changes again. -/
def dispose (desk : Desk) (seat : Nat) : Desk :=
  match desk.seat? seat with
  | none => desk
  | some s =>
    let desk := desk.dropSubscription seat
    if s.environment.disposed then desk
    else (desk.setEnvironment seat { s.environment with disposed := true }).stopPump seat

/-- Deliver an event to the environment of a seat. -/
def deliver (desk : Desk) (seat : Nat) (event : Event) : Except EnvironmentError Delivery × Desk :=
  match desk.seat? seat with
  | none => (.ok .dropped, desk)
  | some s =>
    match s.environment.deliver desk.files event with
    | .error e => (.error e, desk)
    | .ok (delivery, environment, files) =>
      (.ok delivery, { desk with files }.setEnvironment seat environment)

/-- Change the status of the environment of a seat. -/
def setStatus (desk : Desk) (seat : Nat) (target : Status) :
    Except EnvironmentError (Option Transition) × Desk :=
  match desk.seat? seat with
  | none => (.ok none, desk)
  | some s =>
    match s.environment.setStatus target with
    | .error e => (.error e, desk)
    | .ok (environment, transition) => (.ok (some transition), desk.setEnvironment seat environment)

/-- Change the document of a seat. -/
def setDocument (desk : Desk) (seat : Nat) (document : Document) : Desk :=
  desk.modifySeat seat fun s => { s with environment := { s.environment with document } }

/-- Forget the files of a script, and say how many there were. -/
def forget (desk : Desk) (script : ScriptId) : Desk × Nat :=
  let (files, count) := desk.files.forget script
  ({ desk with files }, count)

/-! ## Pumps -/

/-- The event that the pump of a seat delivers next, and the bus after it was taken. -/
def nextEvent? (desk : Desk) (pump : Pump) : Option (Event × Bus) :=
  match pump.waiting with
  | some event => some (event, desk.bus)
  | none => desk.bus.take pump.channel

/-- One step of the pump of a seat: take the next event and deliver it. An event that needs the
document waits while someone else uses it, and those behind it wait, too. There is no step if there
is nothing to do. -/
def pumpStep? (desk : Desk) (seat : Nat) : Option (Desk × Option Refusal) := do
  let s ← desk.seat? seat
  let pump ← s.pump
  let (event, bus) ← desk.nextEvent? pump
  if s.documentHeld && s.environment.needsDocument event then
    match pump.waiting with
    | some _ => none
    | none =>
      let desk := { desk with bus }.modifySeat seat fun s =>
        { s with pump := some { pump with waiting := some event } }
      return (desk, none)
  else
    let desk := { desk with bus }.modifySeat seat fun s =>
      { s with pump := some { pump with waiting := none } }
    match desk.deliver seat event with
    | (.ok _, desk) => return (desk, none)
    | (.error error, desk) => return (desk, some ⟨event, error⟩)

/-- Let the pump of a seat make at most so many steps. -/
def pumpSteps (seat : Nat) : (steps : Nat) → Desk → Desk × List Refusal
  | 0, desk => (desk, [])
  | steps + 1, desk =>
    match desk.pumpStep? seat with
    | none => (desk, [])
    | some (desk, refusal) =>
      let (desk, refusals) := pumpSteps seat steps desk
      (desk, refusal.toList ++ refusals)

/-- Let the pump of a seat work until it has nothing to do: it makes at most one step for each event
that waits in the channel and one for an event that it took before. -/
def drain (desk : Desk) (seat : Nat) : Desk × List Refusal :=
  match (desk.seat? seat).bind (·.pump) with
  | none => (desk, [])
  | some pump => pumpSteps seat ((desk.bus.queue pump.channel).length + 1) desk

/-- The seat whose pump works on a channel. -/
def seatOfChannel? (desk : Desk) (channel : Nat) : Option Nat :=
  desk.seats.findIdx? fun seat =>
    match seat.pump with
    | some pump => pump.channel == channel
    | none => false

/-- Let the pumps of the given channels work, one after the other. -/
def drainChannels : List Nat → Desk → Desk × List Refusal
  | [], desk => (desk, [])
  | channel :: channels, desk =>
    let (desk, refusals) := match desk.seatOfChannel? channel with
      | some seat => desk.drain seat
      | none => (desk, [])
    let (desk, others) := drainChannels channels desk
    (desk, refusals ++ others)

/-- Let all pumps work until none has anything to do. -/
def drainAll (desk : Desk) : Desk × List Refusal :=
  drainChannels (List.range desk.bus.next) desk

end Desk

end ScriptDesk
