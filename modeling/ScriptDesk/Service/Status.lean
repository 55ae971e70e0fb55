import ScriptDesk.Json.Decode

/-!
# The status of a script

A script starts idle. It may begin to run from every status, and what runs may complete or fail.
Nothing else is allowed. When a script begins to run that did not run before, its earlier results
are cleared.
-/

namespace ScriptDesk

/-- How far the execution of a script is. -/
inductive Status where
  /-- It was never run. -/
  | idle
  /-- It runs. -/
  | running
  /-- It ran to its end. -/
  | completed
  /-- It failed. -/
  | error
  deriving DecidableEq, Repr, Inhabited

namespace Status

/-- The name of a status. -/
def name : Status → Text
  | .idle => "Idle".toList
  | .running => "Running".toList
  | .completed => "Completed".toList
  | .error => "Error".toList

/-- The names of all statuses. -/
def names : List (Text × Status) :=
  [idle, running, completed, error].map fun status => (status.name, status)

/-- Decode a status from JSON. -/
def decode : Json.Decoder Status :=
  Json.decodeNamed names

/-- The status as JSON. -/
def toJson (status : Status) : Json.Value :=
  .str status.name

/-- What a change between two statuses does to the results: `some true` if it clears them, `none`
if it is not allowed. -/
def clears? : (source target : Status) → Option Bool
  | source, .running => some (source != .running)
  | .running, .completed | .running, .error => some false
  | _, _ => none

/-- The wording of a change that is not allowed. -/
def refusal (source target : Status) : Text :=
  "invalid status transition ".toList ++ source.name ++ " -> ".toList ++ target.name

end Status

end ScriptDesk
