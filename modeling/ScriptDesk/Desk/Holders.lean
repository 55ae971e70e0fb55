import ScriptDesk.Desk.Register

/-!
# Who knows an environment

An environment lives as long as someone knows it: the register, someone outside the desk, someone
who uses its document, or a pump that waits for the document. With the last of them it is gone: its
subscription ends and its observers learn that nothing more will come.
-/

namespace ScriptDesk.Desk

/-- Somebody knows the environment of a seat. -/
def isKnown (desk : Desk) (seat : Nat) : Bool :=
  match desk.seat? seat with
  | none => false
  | some s =>
    0 < s.holders || s.documentHeld ||
      (match s.pump with
        | some pump => pump.waiting.isSome
        | none => false) ||
      desk.register.entries.any (·.2 == seat)

/-- Someone outside the desk gets to know an environment. -/
def retain (desk : Desk) (seat : Nat) : Desk :=
  desk.modifySeat seat fun s => { s with holders := s.holders + 1 }

/-- Detach a seat from the bus if nobody knows its environment. -/
def detachUnknown (desk : Desk) (seat : Nat) : Desk :=
  if desk.isKnown seat then desk else (desk.dropSubscription seat).stopPump seat

/-- Detach every environment that nobody knows. -/
def sweep (desk : Desk) : Desk :=
  (List.range desk.seats.length).foldl detachUnknown desk

/-- Someone outside the desk no longer knows an environment. -/
def release (desk : Desk) (seat : Nat) : Desk :=
  (desk.modifySeat seat fun s => { s with holders := s.holders - 1 }).sweep

/-- Someone starts or stops to use the document of a seat. -/
def setHeld (desk : Desk) (seat : Nat) (held : Bool) : Desk :=
  (desk.modifySeat seat fun s => { s with documentHeld := held }).sweep

/-- Let all pumps work until none has anything to do. -/
def settle (desk : Desk) : Desk × List Refusal :=
  let (desk, refusals) := desk.drainAll
  (desk.sweep, refusals)

/-- What an observer of a seat sees that has read the first `read` notices, and how many it has read
then. -/
def observe (desk : Desk) (seat read : Nat) : List Sighting × Nat :=
  match desk.seat? seat with
  | none => ([], read)
  | some s =>
    let log := s.environment.log
    let seen := Observer.unread s.capacity log read
    (if desk.isKnown seat then seen else seen ++ [.closed], log.length)

end ScriptDesk.Desk
