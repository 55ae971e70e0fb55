import ScriptDesk.Daemon.Record

/-!
# The tasks of the daemon

The daemon opens scripts and applies the events of a stream to them until the stream ends; then it
closes the scripts. Several tasks share the work. The reader reads lines and puts the events into
the stream, which holds only so many. The bridge takes them out and publishes them, and it is the
one that notices the end. Each script has a pump that delivers its events and a logger that records
its notices. When the bridge is done the closer takes the scripts out of the register and closes
them one by one; it waits for nobody.

Each task works in steps, and `step?` is one step of one task: there is none if the task has nothing
to do now. A schedule is a list of tasks, and `perform` lets them make their steps in this order.
-/

namespace ScriptDesk

/-- How far the daemon is. -/
inductive Phase where
  /-- Events are published. -/
  | serving
  /-- The stream has ended. -/
  | ended
  /-- Of so many scripts, those that are left are still to be closed. -/
  | closing (left : List (ScriptId × Nat)) (scripts : Nat)
  /-- All is done. -/
  | stopped

/-- What records the notices of an environment. -/
structure Logger where
  /-- The script. -/
  script : ScriptId
  /-- The seat of the environment. -/
  seat : Nat
  /-- How many notices it has read. -/
  read : Nat

/-- The daemon. -/
structure Daemon where
  /-- The scripts and all they share. -/
  desk : Desk
  /-- The lines that were not yet read. -/
  lines : List Bytes := []
  /-- The events that were read and not yet published. -/
  stream : List Event := []
  /-- The reader has come to the end. -/
  readerDone : Bool := false
  /-- What records the notices. -/
  loggers : List Logger := []
  /-- How far it is. -/
  phase : Phase := .serving
  /-- What the log has so far. -/
  records : List Record := []

/-- A task of the daemon. -/
inductive Task where
  /-- Reads lines. -/
  | reader
  /-- Publishes events. -/
  | bridge
  /-- Delivers the events of the script on a seat. -/
  | pump (seat : Nat)
  /-- Records notices. -/
  | logger (number : Nat)
  /-- Closes the scripts at the end. -/
  | closer
  deriving DecidableEq, Repr

namespace Daemon

/-- How many events the stream can hold. -/
def streamCapacity : Nat := 1024

/-- Add to the log. -/
def record (daemon : Daemon) (records : List Record) : Daemon :=
  { daemon with records := daemon.records ++ records }

/-! ## Steps -/

/-- The reader reads a line. It waits while the stream is full. -/
def readerStep? (daemon : Daemon) : Option Daemon :=
  if daemon.readerDone then none
  else
    match daemon.lines with
    | [] => some { daemon with readerDone := true }
    | bytes :: lines =>
      match Stream.line bytes with
      | .blank => some { daemon with lines }
      | .malformed => some ({ daemon with lines }.record [.malformed])
      | .unreadable fault =>
        some ({ daemon with lines, readerDone := true }.record [.unreadable fault])
      | .event event =>
        if daemon.stream.length < streamCapacity then
          some { daemon with lines, stream := daemon.stream ++ [event] }
        else none

/-- The bridge publishes an event, or notices the end of the stream. -/
def bridgeStep? (daemon : Daemon) : Option Daemon :=
  match daemon.phase with
  | .serving =>
    match daemon.stream with
    | event :: stream => some { daemon with stream, desk := (daemon.desk.publish event).1 }
    | [] => if daemon.readerDone then some { daemon with phase := .ended } else none
  | _ => none

/-- A pump takes an event and delivers it. -/
def pumpStep? (daemon : Daemon) (seat : Nat) : Option Daemon :=
  (daemon.desk.pumpStep? seat).map fun (desk, refusal) =>
    { daemon with desk }.record (refusal.toList.map .refused)

/-- The record of what a logger sees. -/
def sightingRecord (script : ScriptId) : Sighting → Option Record
  | .notice notice => some (.noticed script notice)
  | .lagged missed => some (.lagged script missed)
  | .closed => none

/-- A logger records the notices that it has not read yet. -/
def loggerStep? (daemon : Daemon) (number : Nat) : Option Daemon := do
  let logger ← daemon.loggers[number]?
  let (seen, read) := daemon.desk.observe logger.seat logger.read
  if read = logger.read then none
  let loggers := daemon.loggers.set number { logger with read }
  return { daemon with loggers }.record (seen.filterMap (sightingRecord logger.script))

/-- The closer empties the register, or closes a script, or stops the daemon. -/
def closerStep? (daemon : Daemon) : Option Daemon :=
  match daemon.phase with
  | .serving | .stopped => none
  | .ended =>
    let (desk, taken) := daemon.desk.emptyRegister
    some { daemon with desk, phase := .closing taken taken.length }
  | .closing ((script, seat) :: left) scripts =>
    let desk := (daemon.desk.dispose seat).forget script |>.1
    some { daemon with desk, phase := .closing left scripts }
  | .closing [] scripts => some ({ daemon with phase := .stopped }.record [.stopped scripts])

/-- One step of a task. -/
def step? (daemon : Daemon) : Task → Option Daemon
  | .reader => daemon.readerStep?
  | .bridge => daemon.bridgeStep?
  | .pump seat => daemon.pumpStep? seat
  | .logger number => daemon.loggerStep? number
  | .closer => daemon.closerStep?

/-- Let tasks make steps, one after the other; one that has nothing to do is passed over. -/
def perform : List Task → Daemon → Daemon
  | [], daemon => daemon
  | task :: tasks, daemon => perform tasks ((daemon.step? task).getD daemon)

end Daemon

end ScriptDesk
