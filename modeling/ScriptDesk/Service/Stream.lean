import ScriptDesk.Service.Event
import ScriptDesk.Text.Blank
import ScriptDesk.Text.Bytes

/-!
# The stream of events

Events arrive as lines of JSON text. A line that is blank, or that holds no event, is passed over. A
line that is not UTF-8 ends the stream with an error, and what was read before it counts.
-/

namespace ScriptDesk.Stream

/-- What a line of the stream is. -/
inductive Line where
  /-- An event. -/
  | event (event : Event)
  /-- Nothing but blanks. -/
  | blank
  /-- A text that holds no event. -/
  | malformed
  /-- Not UTF-8. -/
  | unreadable (fault : EncodingFault)

/-- What a line of bytes is; the line feed at its end may be there or not. -/
def line (bytes : Bytes) : Line :=
  match Text.ofBytes? bytes with
  | none => .unreadable ((EncodingFault.find? bytes).getD (.incomplete 0))
  | some text =>
    if text.trim.isEmpty then .blank
    else
      match Json.decodeWhole Event.decode text.trim with
      | .ok event => .event event
      | .error _ => .malformed

/-- How reading a stream ended. -/
inductive Ending where
  /-- At the end of the input, or because nobody listened any more. -/
  | finished
  /-- At a line that is not UTF-8. -/
  | unreadable (fault : EncodingFault)
  deriving DecidableEq, Repr

/-- What was read from a stream. -/
structure Outcome where
  /-- The events in order. -/
  events : List Event
  /-- How many lines held no event. -/
  malformed : Nat
  /-- How it ended. -/
  ending : Ending

/-- Read lines as long as `listening`. -/
def readLines (listening : Bool) : List Bytes → Outcome
  | [] => ⟨[], 0, .finished⟩
  | bytes :: lines =>
    match line bytes with
    | .unreadable fault => ⟨[], 0, .unreadable fault⟩
    | .blank => readLines listening lines
    | .malformed =>
      let rest := readLines listening lines
      { rest with malformed := rest.malformed + 1 }
    | .event event =>
      if listening then
        let rest := readLines listening lines
        { rest with events := event :: rest.events }
      else ⟨[], 0, .finished⟩

/-- Read the bytes of a stream. -/
def read (listening : Bool) (bytes : Bytes) : Outcome :=
  readLines listening bytes.pieces

/-- The wording of a stream that ended at a line which is not UTF-8. -/
def unreadableMessage (fault : EncodingFault) : Text :=
  "failed to read service event stream: ".toList ++ fault.message

end ScriptDesk.Stream
