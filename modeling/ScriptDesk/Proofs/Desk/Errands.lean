import Mathlib.Data.List.Perm.Basic
import ScriptDesk.Proofs.Desk.Demultiplexing
import ScriptDesk.Proofs.Desk.Operations

/-!
# Calls of the register, step by step

Several callers use the register at the same time. What each of them asks for is an `Errand`, and
the register serves it step by step; a `Station` is where a call has come to. Each step happens as a
whole, but between two of them other calls may be served, events are published, and pumps go on
(`Reception.Step`). In particular a script that is being closed is out of the register before its
files are forgotten, and one that is closed with all others is out of the register even before its
environment is disposed.

A call that is served without interruption does what the desk's operation of that name does
(`exists_serveTimes_eq_fulfil`).
-/

namespace ScriptDesk

namespace Desk

/-- What a caller asks the register for. -/
inductive Errand where
  /-- Give the environment of a document's identity, and open the document if there is none. -/
  | getOrCreate (document : Document)
  /-- Give the environment of a script if that is open. -/
  | get (script : ScriptId)
  /-- Close a script. -/
  | remove (script : ScriptId)
  /-- Close all scripts. -/
  | closeAll

/-- What the register answers. -/
inductive Reply where
  /-- The environment is on this seat. -/
  | seat (seat : Nat)
  /-- If the script is open, its environment is on this seat. -/
  | found (seat : Option Nat)
  /-- The script was closed, or was not open. -/
  | removed (wasOpen : Bool)
  /-- So many scripts were closed. -/
  | closed (count : Nat)

/-- Where a call has come to. -/
inductive Station where
  /-- It looks whether a document is open. -/
  | lookUp (document : Document)
  /-- It opens a document, unless someone else has done so meanwhile. -/
  | create (document : Document)
  /-- It looks whether a script is open. -/
  | get (script : ScriptId)
  /-- It disposes the environment of a script and takes the script out of the register. -/
  | unregister (script : ScriptId)
  /-- It forgets the files of a script that it took out of the register. -/
  | forget (script : ScriptId)
  /-- It takes all scripts out of the register. -/
  | empty
  /-- Of those that it took out it has still to close some. -/
  | close (taken : List (ScriptId × Nat)) (count : Nat)
  /-- It is answered. -/
  | answered (reply : Reply)

/-- Where a call begins. -/
def Errand.station : Errand → Station
  | .getOrCreate document => .lookUp document
  | .get script => .get script
  | .remove script => .unregister script
  | .closeAll => .empty

/-- One step of a call. Scripts that were taken out all at once are closed one by one in any order;
`pick` says which of them is the next. -/
def serve (desk : Desk) (pick : Nat) : Station → Desk × Station
  | .lookUp document =>
    match desk.register.get? document.id with
    | some seat => (desk, .answered (.seat seat))
    | none => (desk, .create document)
  | .create document =>
    let (desk, seat) := desk.getOrCreate document
    (desk, .answered (.seat seat))
  | .get script => (desk, .answered (.found (desk.register.get? script)))
  | .unregister script =>
    match desk.unregister? script with
    | some desk => (desk, .forget script)
    | none => (desk, .answered (.removed false))
  | .forget script => ((desk.forget script).1, .answered (.removed true))
  | .empty =>
    let (desk, taken) := desk.emptyRegister
    (desk, .close taken taken.length)
  | .close [] count => (desk, .answered (.closed count))
  | .close taken count =>
    match taken[pick]? with
    | some (script, seat) =>
      (((desk.dispose seat).forget script).1, .close (taken.eraseIdx pick) count)
    | none => (desk, .close taken count)
  | .answered reply => (desk, .answered reply)

/-! ### Calls without interruption -/

/-- What the desk does when nobody else is there. -/
def fulfil (desk : Desk) : Errand → Desk × Reply
  | .getOrCreate document =>
    let (desk, seat) := desk.getOrCreate document
    (desk, .seat seat)
  | .get script => (desk, .found (desk.register.get? script))
  | .remove script =>
    let (desk, wasOpen) := desk.remove script
    (desk, .removed wasOpen)
  | .closeAll =>
    let (desk, count) := desk.closeAll
    (desk, .closed count)

/-- So many steps of a call, which closes scripts in the order of the register. -/
def serveTimes : (times : Nat) → Desk → Station → Desk × Station
  | 0, desk, station => (desk, station)
  | times + 1, desk, station =>
    let (desk, station) := desk.serve 0 station
    serveTimes times desk station

theorem serveTimes_close (taken : List (ScriptId × Nat)) (count : Nat) :
    ∀ desk : Desk, serveTimes (taken.length + 1) desk (.close taken count) =
      (closeTaken taken desk, .answered (.closed count)) := by
  induction taken with
  | nil => intro desk; rfl
  | cons entry others ih =>
    obtain ⟨script, seat⟩ := entry
    intro desk
    exact ih ((desk.dispose seat).forget script).1

/-- A call that is not interrupted does what the desk does when nobody else is there. -/
theorem exists_serveTimes_eq_fulfil (desk : Desk) (errand : Errand) :
    ∃ times, serveTimes times desk errand.station =
      ((desk.fulfil errand).1, .answered (desk.fulfil errand).2) := by
  cases errand with
  | getOrCreate document =>
    refine ⟨2, ?_⟩
    simp only [serveTimes, Errand.station, serve, fulfil]
    cases hopen : desk.register.get? document.id with
    | some seat => simp only [getOrCreate, hopen]
    | none => rfl
  | get script => exact ⟨1, rfl⟩
  | remove script =>
    refine ⟨2, ?_⟩
    simp only [serveTimes, Errand.station, serve, fulfil, remove]
    cases desk.unregister? script with
    | some closed => rfl
    | none => rfl
  | closeAll =>
    refine ⟨desk.register.entries.length + 2, ?_⟩
    exact serveTimes_close desk.register.entries _ { desk with register := .empty }

/-! ### Calls at the same time -/

/-- A list with the entry of one number first. -/
theorem perm_of_getElem? {α : Type} {entries : List α} {number : Nat} {entry : α}
    (h : entries[number]? = some entry) : entries.Perm (entry :: entries.eraseIdx number) := by
  obtain ⟨hlt, rfl⟩ := List.getElem?_eq_some_iff.mp h
  exact (List.getElem_cons_eraseIdx_perm hlt).symm

/-- The same when that entry was replaced. -/
theorem perm_set {α : Type} {entries : List α} {number : Nat} {entry : α}
    (h : entries[number]? = some entry) (next : α) :
    (entries.set number next).Perm (next :: entries.eraseIdx number) := by
  obtain ⟨hlt, -⟩ := List.getElem?_eq_some_iff.mp h
  have hset : number < (entries.set number next).length := by rwa [List.length_set]
  have hperm := List.getElem_cons_eraseIdx_perm hset
  rw [List.getElem_set_self, List.eraseIdx_set_eq] at hperm
  exact hperm.symm

/-- The desk and the calls that were made, in order. -/
structure Reception where
  /-- The desk. -/
  desk : Desk
  /-- Where the calls have come to. -/
  stations : List Station := []

namespace Reception

/-- What happens next. -/
inductive Step where
  /-- Someone calls. -/
  | ask (errand : Errand)
  /-- The call with a number makes a step. -/
  | go (number pick : Nat)
  /-- An event is published, or a pump goes on. -/
  | move (first : Move)

/-- The reception after a step. -/
def step (reception : Reception) : Step → Reception
  | .ask errand => { reception with stations := reception.stations ++ [errand.station] }
  | .go number pick =>
    match reception.stations[number]? with
    | none => reception
    | some station =>
      let (desk, next) := reception.desk.serve pick station
      { desk, stations := reception.stations.set number next }
  | .move first => { reception with desk := reception.desk.move first }

/-- A step of one reception leads to another. -/
inductive Stepped (reception : Reception) : Reception → Prop where
  /-- There is no call with that number. -/
  | idle : Stepped reception reception
  /-- Someone has called. -/
  | asked (errand : Errand) :
    Stepped reception { reception with stations := reception.stations ++ [errand.station] }
  /-- A call has made a step. -/
  | served {number : Nat} {station : Station} (h : reception.stations[number]? = some station)
    (pick : Nat) : Stepped reception
      { desk := (reception.desk.serve pick station).1
        stations := reception.stations.set number (reception.desk.serve pick station).2 }
  /-- An event was published, or a pump has gone on. -/
  | moved (first : Move) : Stepped reception { reception with desk := reception.desk.move first }

/-- Each step does one of these things. -/
theorem stepped (reception : Reception) (next : Step) : reception.Stepped (reception.step next) := by
  cases next with
  | ask errand => exact .asked errand
  | go number pick =>
    simp only [step]
    cases hstation : reception.stations[number]? with
    | none => exact .idle
    | some station => exact .served hstation pick
  | move first => exact .moved first

/-- The reception after steps in order. -/
def run (reception : Reception) (steps : List Step) : Reception :=
  steps.foldl step reception

/-- A reception where nothing was done. -/
def fresh (settings : Settings) (backend : Option Backend) (disk : Disk) : Reception :=
  { desk := Desk.fresh settings backend disk }

end Reception

/-- A move opens and closes nothing. -/
theorem proceeds_move (desk : Desk) (first : Move) : desk.Proceeds (desk.move first) := by
  cases first with
  | publish event => exact desk.proceeds_publish event
  | take seat =>
    simp only [move]
    cases htake : desk.takeNext? seat with
    | none => exact .refl desk
    | some taken => exact proceeds_of_takeNext? htake
  | pump seat =>
    simp only [move]
    cases hstep : desk.pumpStep? seat with
    | none => exact .refl desk
    | some result => exact proceeds_of_pumpStep? hstep
  | hold seat held => exact proceeds_modifySeat fun s _ => ⟨.refl _, rfl, rfl⟩

theorem proceeds_moveAll (moves : List Move) :
    ∀ desk : Desk, desk.Proceeds (desk.moveAll moves) := by
  induction moves with
  | nil => exact .refl
  | cons first rest ih => exact fun desk => (desk.proceeds_move first).trans (ih _)

end Desk

end ScriptDesk
