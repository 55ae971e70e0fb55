import ScriptDesk.Script.Config
import ScriptDesk.Script.Identity

/-!
# Script files

A script file starts with a header: the identity on the first line and the settings as JSON on the
others. A line `#Query` ends the header, and everything after it is code. There is exactly one such
line. `ScriptFile.read` takes a text apart and `ScriptFile.write` puts one together.
-/

namespace ScriptDesk

/-- What a script file holds. -/
structure ScriptFile where
  /-- The identity of the script. -/
  id : ScriptId
  /-- The settings of the script. -/
  config : ScriptConfig
  /-- The code. -/
  code : Text
  /-- How the lines of the file end. -/
  lineEnding : LineEnding
  deriving DecidableEq, Repr, Inhabited

namespace ScriptFile

/-- Why a text is no script file. -/
inductive FormatError where
  /-- There is not one line that ends the header, but `found`. -/
  | delimiters (found : Nat)
  /-- The first line spells no identity. -/
  | identity (spelling : Text)
  /-- The rest of the header holds no settings. -/
  | config (fault : Json.Fault)
  deriving DecidableEq, Repr

/-- The line that ends the header. -/
def delimiter : Text := "#Query".toList

namespace FormatError

/-- The wording of an error. -/
def message : FormatError → Text
  | .delimiters found =>
    "script must contain exactly one `".toList ++ delimiter ++ "` line, found ".toList ++
      Text.ofNat found
  | .identity spelling =>
    "script identity `".toList ++ spelling ++ "` is not a valid UUID".toList
  | .config fault => "script config could not be decoded: ".toList ++ fault.message

/-- The error is in the frame of the file and not in its settings. -/
def isFraming : FormatError → Bool
  | .delimiters _ | .identity _ => true
  | .config _ => false

end FormatError

/-- The mark that may stand at the very start of a file and is not part of its text. -/
def byteOrderMark : Char := Char.ofNat 0xFEFF

/-- The text without a byte order mark in front. -/
def withoutMark : Text → Text
  | [] => []
  | c :: rest => if c = byteOrderMark then rest else c :: rest

/-- The piece of a text is the line that ends the header. -/
def isDelimiter (piece : Text) : Bool :=
  piece.bareLine == delimiter

/-- The pieces before the line that ends the header, and the pieces after it. -/
def cut (pieces : List Text) : List Text × List Text :=
  (pieces.takeWhile (!isDelimiter ·), (pieces.dropWhile (!isDelimiter ·)).drop 1)

/-- Read the text of a script file. Blanks before the code are dropped. -/
def read (text : Text) : Except FormatError ScriptFile := do
  let text := withoutMark text
  let lineEnding := LineEnding.detect text
  let found := text.pieces.countP isDelimiter
  if found ≠ 1 then throw (.delimiters found)
  let (header, code) := cut text.pieces
  let header := Text.lines header.flatten
  let spelling := (header.headD []).trim
  let some id := ScriptId.ofText? spelling | throw (.identity spelling)
  let settings := Text.join lineEnding.separator header.tail
  match Json.decodeWhole ScriptConfig.decode settings with
  | .ok config => return { id, config, code := Text.trimStart code.flatten, lineEnding }
  | .error fault => throw (.config fault)

/-- The text of a script file. The code follows as it is. -/
def write (file : ScriptFile) : Text :=
  let separator := file.lineEnding.separator
  file.id.text ++ separator ++ file.config.toJson.written ++ separator ++ delimiter ++ separator ++
    file.code

end ScriptFile

end ScriptDesk
