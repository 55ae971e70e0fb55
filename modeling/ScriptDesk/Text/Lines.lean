import ScriptDesk.Text.Basic

/-!
# Lines

A line ends with a line feed. A carriage return directly before it belongs to the line's end, too;
anywhere else, also at the end of the text, it is an ordinary character.

`pieces` cuts a text behind each line feed; `lines` are the pieces without their ends. `LineEnding`
is the convention of a whole text.
-/

namespace ScriptDesk

/-- The convention by which a text ends its lines. -/
inductive LineEnding where
  /-- A line feed. -/
  | lf
  /-- A carriage return and a line feed. -/
  | crlf
  deriving DecidableEq, Repr, Inhabited

namespace Text

/-- The text has a carriage return directly before a line feed somewhere. -/
def hasCrlf : Text → Bool
  | '\r' :: '\n' :: _ => true
  | _ :: rest => hasCrlf rest
  | [] => false

/-- The text cut behind each line feed. -/
def pieces (text : Text) : List Text :=
  text.cutAfter '\n'

/-- The text without `mark` as its last character, if it ends so. -/
def dropLast? (mark : Char) (text : Text) : Option Text :=
  if text.getLast? = some mark then some text.dropLast else none

/-- A piece without its line end: a line feed and then a carriage return before it. -/
def lineOf (piece : Text) : Text :=
  match piece.dropLast? '\n' with
  | some line => (line.dropLast? '\r').getD line
  | none => piece

/-- A piece without a line feed and without a carriage return at its end, each if it is there. -/
def bareLine (piece : Text) : Text :=
  let line := (piece.dropLast? '\n').getD piece
  (line.dropLast? '\r').getD line

/-- The lines of the text without their ends. There is no last empty line. -/
def lines (text : Text) : List Text :=
  (pieces text).map lineOf

end Text

namespace LineEnding

/-- The characters that end a line. -/
def separator : LineEnding → Text
  | .lf => ['\n']
  | .crlf => ['\r', '\n']

/-- A text with a single carriage return before a line feed counts as following that convention
throughout. -/
def detect (text : Text) : LineEnding :=
  if text.hasCrlf then .crlf else .lf

end LineEnding

end ScriptDesk
