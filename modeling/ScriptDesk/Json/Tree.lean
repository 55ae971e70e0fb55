import ScriptDesk.Json.Number

/-!
# JSON text as a tree

A text is read from left to right into a tree that also records how far reading went: where the
text stops being JSON, the tree has a `broken` part, or an array or object that is not `closed`.
Whoever walks the tree in reading order meets what is wrong with the text at the same point as
someone who reads the text itself, so the first fault found is the first fault in the text.

Two things are well-formed but have no value: a number too large for a double, and a string with
an unpaired surrogate (both `none`). They matter only where the value is used.
-/

namespace ScriptDesk.Json

/-- What a text holds, as far as it can be read. -/
inductive Tree where
  /-- `null`. -/
  | null
  /-- `true` or `false`. -/
  | bool (value : Bool)
  /-- A number, without value when it is too large for a double. -/
  | num (value : Option Number)
  /-- A string, without value when a surrogate in it is unpaired. -/
  | str (value : Option Text)
  /-- An array; `closed` when its closing bracket was reached. -/
  | arr (items : List Tree) (closed : Bool)
  /-- An object; `closed` when its closing brace was reached. -/
  | obj (members : List (Option Text × Tree)) (closed : Bool)
  /-- An object whose first member starts with something else than a string. -/
  | misnamed (name : Tree)
  /-- No JSON value. -/
  | broken

namespace Tree

mutual

/-- The text under the tree is one JSON value. -/
def isWhole : Tree → Bool
  | .null | .bool _ | .num _ | .str _ => true
  | .arr items closed => allWhole items && closed
  | .obj members closed => allMembersWhole members && closed
  | .misnamed _ | .broken => false

/-- Each tree is a JSON value. -/
def allWhole : List Tree → Bool
  | [] => true
  | item :: items => isWhole item && allWhole items

/-- The value of each member is a JSON value. -/
def allMembersWhole : List (Option Text × Tree) → Bool
  | [] => true
  | (_, value) :: members => isWhole value && allMembersWhole members

end

end Tree

end ScriptDesk.Json
