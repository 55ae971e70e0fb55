import ScriptDesk.Desk.Basic

/-!
# The register of open scripts

At most one environment is open for an identity. Opening a script that is open already gives the
environment that is there. Closing disposes the environment, takes it out of the register and
forgets its tracked files.

Closing one script and closing all are made of steps between which other things may happen:
`unregister` and then `forget`; `emptyRegister` and then, for each script, `dispose` and `forget`.
-/

namespace ScriptDesk.Desk

/-- A script is open. -/
def isOpen (desk : Desk) (script : ScriptId) : Bool :=
  desk.register.contains script

/-- The seat of the environment for a document's identity: the one that is open, or else a new one
with this document, attached to the bus. -/
def getOrCreate (desk : Desk) (document : Document) : Desk × Nat :=
  match desk.register.get? document.id with
  | some seat => (desk, seat)
  | none =>
    let seat := desk.seats.length
    let desk := (desk.addSeat document desk.settings.observerCapacity).attach seat
    ({ desk with register := desk.register.set document.id seat }, seat)

/-- Dispose the environment of an open script and take it out of the register. -/
def unregister? (desk : Desk) (script : ScriptId) : Option Desk :=
  match desk.register.get? script with
  | none => none
  | some seat =>
    let desk := desk.dispose seat
    some { desk with register := desk.register.erase script }

/-- Close a script, and say whether it was open. -/
def remove (desk : Desk) (script : ScriptId) : Desk × Bool :=
  match desk.unregister? script with
  | none => (desk, false)
  | some desk => ((desk.forget script).1, true)

/-- Take all scripts out of the register. -/
def emptyRegister (desk : Desk) : Desk × List (ScriptId × Nat) :=
  ({ desk with register := .empty }, desk.register.entries)

/-- Dispose environments that were taken out of the register and forget their files. -/
def closeTaken : List (ScriptId × Nat) → Desk → Desk
  | [], desk => desk
  | (script, seat) :: others, desk => closeTaken others ((desk.dispose seat).forget script).1

/-- Close all scripts, and say how many were open. -/
def closeAll (desk : Desk) : Desk × Nat :=
  let (desk, taken) := desk.emptyRegister
  (closeTaken taken desk, taken.length)

end ScriptDesk.Desk
