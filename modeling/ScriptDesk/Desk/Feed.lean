import ScriptDesk.Desk.Basic
import ScriptDesk.Service.Stream

/-!
# Feeding the desk

The bridge takes the events of a stream in order and publishes them until the stream ends. When it
is told to stop it takes nothing more.
-/

namespace ScriptDesk.Desk

/-- Read a stream and publish its events; if the bridge is told to stop before, they are lost. -/
def feed (desk : Desk) (stopping : Bool) (bytes : Bytes) : Stream.Outcome × Desk :=
  let outcome := Stream.read true bytes
  (outcome, if stopping then desk else desk.publishAll outcome.events)

end ScriptDesk.Desk
