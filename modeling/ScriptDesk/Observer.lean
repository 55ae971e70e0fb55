import ScriptDesk.Environment

/-!
# Observers

An observer reads the notices of an environment from the point at which it was added. The
environment keeps only so many of the latest notices for it: the capacity, at least one, rounded up
to a power of two. An observer that fell further behind learns how many it missed and goes on with
the oldest one that is kept.
-/

namespace ScriptDesk

/-- What an observer sees. -/
inductive Sighting where
  /-- A notice. -/
  | notice (notice : Notice)
  /-- Some notices are lost. -/
  | lagged (missed : Nat)
  /-- The environment is gone. -/
  | closed

namespace Observer

/-- The least power of two that is `n` or more, among those from `power` on. -/
def powerFrom (n : Nat) : (steps power : Nat) → Nat
  | 0, power => power
  | steps + 1, power => if n ≤ power then power else powerFrom n steps (2 * power)

/-- How many of the latest notices are kept. -/
def kept (capacity : Nat) : Nat :=
  powerFrom capacity capacity 1

/-- What an observer sees that has read the first `read` notices. -/
def unread (capacity : Nat) (log : List Notice) (read : Nat) : List Sighting :=
  let missed := log.length - kept capacity - read
  let notices := (log.drop (read + missed)).map Sighting.notice
  if missed = 0 then notices else .lagged missed :: notices

end Observer

end ScriptDesk
