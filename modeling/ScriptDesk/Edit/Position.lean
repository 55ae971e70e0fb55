import ScriptDesk.Json.Decode

/-!
# Positions in a buffer

A position is a line and a character in it, both counted from zero; characters are Unicode scalar
values. Positions are ordered by line and then by character.
-/

namespace ScriptDesk

/-- A place in a buffer. -/
structure Position where
  /-- The line, counted from zero. -/
  line : UInt32
  /-- The character in the line, counted from zero. -/
  character : UInt32
  deriving DecidableEq, Repr, Inhabited

namespace Position

/-- Positions are compared by line, then by character. -/
def compare (a b : Position) : Ordering :=
  (Ord.compare a.line.toNat b.line.toNat).then (Ord.compare a.character.toNat b.character.toNat)

instance : Ord Position := ⟨compare⟩

/-- A position as far as it is decoded. -/
structure Draft where
  /-- The line. -/
  line : Option UInt32 := none
  /-- The character. -/
  character : Option UInt32 := none

/-- The fields of a position. -/
def record : Json.Record Draft Position where
  title := "struct LinePosition".toList
  fields :=
    [{ name := "line".toList
       isFilled := fun draft => draft.line.isSome
       fill := fun r t draft => do return { draft with line := some (← Json.decodeWord r t) } },
     { name := "character".toList
       isFilled := fun draft => draft.character.isSome
       fill := fun r t draft => do
         return { draft with character := some (← Json.decodeWord r t) } }]
  blank := {}
  build := fun draft => do
    let line ← Json.required "line".toList draft.line
    let character ← Json.required "character".toList draft.character
    return { line, character }

/-- Decode a position from JSON. -/
def decode : Json.Decoder Position :=
  record.decode

/-- The position as JSON. -/
def toJson (position : Position) : Json.Value :=
  .obj [("line".toList, .num (.int position.line.toNat)),
    ("character".toList, .num (.int position.character.toNat))]

end Position

end ScriptDesk
