import ScriptDesk.Service.Event
import ScriptDesk.Table

/-!
# The event bus

Whoever wants the events of a script subscribes to it and gets a numbered channel, in which the
events wait in the order of publication. A channel is fed as long as its subscription is kept and
its receiver is there: publishing reaches exactly these channels. A script that nobody subscribes to
has no topic.
-/

namespace ScriptDesk

/-- A subscription: a script, and the number of the channel. -/
structure Subscription where
  /-- The script whose events are wanted. -/
  script : ScriptId
  /-- The number of the subscription and of its channel. -/
  number : Nat
  deriving DecidableEq, Repr, Inhabited

namespace Subscription

/-- How a new subscription is shown. -/
def shown (subscription : Subscription) : Text :=
  "Subscription \x7b script_id: ".toList ++ subscription.script.text ++ ", id: ".toList ++
    Text.ofNat subscription.number ++ ", disposed: false \x7d".toList

end Subscription

/-- The receiving side of a subscription. -/
structure Channel where
  /-- The events that were published and not yet taken. -/
  queue : List Event := []
  /-- There is someone who takes them. -/
  receiving : Bool := true
  deriving Inhabited

/-- The subscriptions and channels of all scripts. -/
structure Bus where
  /-- The numbers of the subscriptions to each script, in the order in which they were made. -/
  topics : Table ScriptId (List Nat) := .empty
  /-- The channel of each subscription that was ever made. -/
  channels : Table Nat Channel := .empty
  /-- The number of the next subscription. -/
  next : Nat := 0
  deriving Inhabited

namespace Bus

/-- The numbers of the subscriptions to a script. -/
def subscribers (bus : Bus) (script : ScriptId) : List Nat :=
  (bus.topics.get? script).getD []

/-- The channel with a number; without such a subscription nobody receives. -/
def channel (bus : Bus) (number : Nat) : Channel :=
  (bus.channels.get? number).getD { receiving := false }

/-- The events that wait in a channel. -/
def queue (bus : Bus) (number : Nat) : List Event :=
  (bus.channel number).queue

/-- The table of topics with the subscribers of one script; without any the script has no topic. -/
def setSubscribers (topics : Table ScriptId (List Nat)) (script : ScriptId) :
    List Nat → Table ScriptId (List Nat)
  | [] => topics.erase script
  | numbers => topics.set script numbers

/-- Subscribe to a script. -/
def subscribe (bus : Bus) (script : ScriptId) : Bus × Subscription :=
  ({ topics := setSubscribers bus.topics script (bus.subscribers script ++ [bus.next])
     channels := bus.channels.set bus.next {}
     next := bus.next + 1 },
   ⟨script, bus.next⟩)

/-- Give up a subscription; a second time this does nothing. -/
def unsubscribe (bus : Bus) (subscription : Subscription) : Bus :=
  { bus with
    topics := setSubscribers bus.topics subscription.script
      ((bus.subscribers subscription.script).filter (· ≠ subscription.number)) }

/-- Put an event at the end of a channel. -/
def push (channels : Table Nat Channel) (event : Event) (number : Nat) : Table Nat Channel :=
  channels.modify number fun channel => { channel with queue := channel.queue ++ [event] }

/-- Publish an event, and say how many subscribers it reached. Subscribers that receive no more are
given up. -/
def publish (bus : Bus) (event : Event) : Bus × Nat :=
  let reached := (bus.subscribers event.script).filter fun number => (bus.channel number).receiving
  ({ bus with
     topics := setSubscribers bus.topics event.script reached
     channels := reached.foldl (fun channels number => push channels event number) bus.channels },
   reached.length)

/-- Stop receiving on a channel; what waits in it is lost. -/
def stopReceiving (bus : Bus) (number : Nat) : Bus :=
  { bus with
    channels := bus.channels.modify number fun _ => { queue := [], receiving := false } }

/-- Take the first event out of a channel. -/
def take (bus : Bus) (number : Nat) : Option (Event × Bus) :=
  match bus.queue number with
  | [] => none
  | event :: rest =>
    some (event,
      { bus with channels := bus.channels.modify number fun channel =>
          { channel with queue := rest } })

/-- Take all events out of a channel. -/
def takeAll (bus : Bus) (number : Nat) : List Event × Bus :=
  (bus.queue number,
    { bus with channels := bus.channels.modify number fun channel => { channel with queue := [] } })

/-- A subscription is kept, so that more events may come. -/
def isFed (bus : Bus) (subscription : Subscription) : Bool :=
  (bus.subscribers subscription.script).contains subscription.number

/-- How the bus is shown. -/
def shown (bus : Bus) : Text :=
  "EventBus \x7b topics: ".toList ++ Text.ofNat bus.topics.size ++ " \x7d".toList

end Bus

end ScriptDesk
