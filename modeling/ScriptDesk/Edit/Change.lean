import ScriptDesk.Edit.Position

/-!
# Changes of a buffer

A change puts a new text in place of the text between two positions. The changes of a batch are
applied one after the other, each to what the ones before it left, and a batch with a change that
cannot be applied changes nothing.

A line reaches up to the next line feed; a carriage return at its end is not part of it, so a
position never falls between the two.
-/

namespace ScriptDesk

/-- Put `newText` in place of the text from `start` to `stop`. -/
structure Change where
  /-- Where the replaced text starts. -/
  start : Position
  /-- Where the replaced text stops. -/
  stop : Position
  /-- The text that takes its place. -/
  newText : Text
  deriving DecidableEq, Repr, Inhabited

namespace Change

/-- A change as far as it is decoded. -/
structure Draft where
  /-- The start. -/
  start : Option Position := none
  /-- The end. -/
  stop : Option Position := none
  /-- The new text. -/
  newText : Option Text := none

/-- The fields of a change. -/
def record : Json.Record Draft Change where
  title := "struct LinePositionSpanTextChange".toList
  fields :=
    [{ name := "start".toList
       isFilled := fun draft => draft.start.isSome
       fill := fun r t draft => do return { draft with start := some (← Position.decode r t) } },
     { name := "end".toList
       isFilled := fun draft => draft.stop.isSome
       fill := fun r t draft => do return { draft with stop := some (← Position.decode r t) } },
     { name := "newText".toList
       isFilled := fun draft => draft.newText.isSome
       fill := fun r t draft => do return { draft with newText := some (← Json.decodeText r t) } }]
  blank := {}
  build := fun draft => do
    let start ← Json.required "start".toList draft.start
    let stop ← Json.required "end".toList draft.stop
    let newText ← Json.required "newText".toList draft.newText
    return { start, stop, newText }

/-- Decode a change from JSON. -/
def decode : Json.Decoder Change :=
  record.decode

/-- The change as JSON. -/
def toJson (change : Change) : Json.Value :=
  .obj [("start".toList, change.start.toJson), ("end".toList, change.stop.toJson),
    ("newText".toList, .str change.newText)]

end Change

/-- Why a position is not in a buffer. -/
inductive Misplaced where
  /-- There is no such line. -/
  | line
  /-- The line has no such character. -/
  | character
  deriving DecidableEq, Repr

/-- Why a change of a batch cannot be applied; `index` counts the changes from zero. -/
inductive EditError where
  /-- A position is on a line that the buffer does not have. -/
  | lineOutOfRange (index : Nat) (line : UInt32)
  /-- A position is at a character that its line does not have. -/
  | characterOutOfRange (index : Nat) (line character : UInt32)
  /-- The end lies before the start. -/
  | invertedSpan (index : Nat)
  deriving DecidableEq, Repr

namespace EditError

/-- The wording of an error. -/
def message : EditError → Text
  | .lineOutOfRange index line =>
    "change ".toList ++ Text.ofNat index ++ ": line ".toList ++ Text.ofNat line.toNat ++
      " is past the end of the buffer".toList
  | .characterOutOfRange index line character =>
    "change ".toList ++ Text.ofNat index ++ ": character ".toList ++
      Text.ofNat character.toNat ++ " is past the end of line ".toList ++ Text.ofNat line.toNat
  | .invertedSpan index =>
    "change ".toList ++ Text.ofNat index ++ ": span ends before it starts".toList

/-- A position that is not in the buffer, as an error of the change with the given index. -/
def ofMisplaced (index : Nat) (position : Position) : Misplaced → EditError
  | .line => .lineOutOfRange index position.line
  | .character => .characterOutOfRange index position.line position.character

end EditError

namespace Buffer

/-- Where the line with the given number starts, if the buffer has it: behind so many line feeds. -/
def lineStart? : (line : Nat) → Text → Option Nat
  | 0, _ => some 0
  | _ + 1, [] => none
  | line + 1, c :: rest =>
    (if c = '\n' then lineStart? line rest else lineStart? (line + 1) rest).map (· + 1)

/-- How many characters the first line has, its end aside. -/
def lineLength (buffer : Text) : Nat :=
  let line := buffer.takeWhile (· ≠ '\n')
  if line.getLast? = some '\r' then line.length - 1 else line.length

/-- How many characters stand before a position. -/
def offset? (buffer : Text) (position : Position) : Except Misplaced Nat :=
  match lineStart? position.line.toNat buffer with
  | none => .error .line
  | some start =>
    if position.character.toNat ≤ lineLength (buffer.drop start) then
      .ok (start + position.character.toNat)
    else .error .character

/-- The buffer with `newText` in place of the characters from `start` up to `stop`. -/
def replace (buffer : Text) (start stop : Nat) (newText : Text) : Text :=
  buffer.take start ++ newText ++ buffer.drop stop

/-- Apply the change with the given index. -/
def applyChange (index : Nat) (buffer : Text) (change : Change) : Except EditError Text := do
  let start ← (offset? buffer change.start).mapError (.ofMisplaced index change.start)
  let stop ← (offset? buffer change.stop).mapError (.ofMisplaced index change.stop)
  if stop < start then throw (.invertedSpan index)
  return replace buffer start stop change.newText

/-- Apply changes one after the other, the first of which has the given index. -/
def applyFrom (index : Nat) (buffer : Text) : List Change → Except EditError Text
  | [] => .ok buffer
  | change :: changes => do applyFrom (index + 1) (← applyChange index buffer change) changes

/-- Apply a batch of changes. -/
def apply (buffer : Text) (changes : List Change) : Except EditError Text :=
  applyFrom 0 buffer changes

end Buffer

end ScriptDesk
