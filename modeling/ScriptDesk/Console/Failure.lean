import ScriptDesk.Document

/-!
# How commands fail

A command fails because of the name for a new script, or because a document could not be created,
opened or saved; then the reasons behind it follow, the outermost first. A failure is printed as one
message that has all reasons, together with a code, and as a report that has each reason on lines of
its own.

The code is found by searching the message, whatever the case of its letters, for the words of each
kind of failure in turn. The message has the names and paths that the user gave, so those words may
come from them, too.
-/

namespace ScriptDesk.Console

/-- The kind of a failure as scripts that call the program see it. -/
inductive ErrorCode where
  /-- There is no such file. -/
  | notFound
  /-- There is a file already. -/
  | exists
  /-- The file is no script file. -/
  | invalid
  /-- The file may not be used. -/
  | denied
  /-- Any other failure. -/
  | other
  deriving DecidableEq, Repr

namespace ErrorCode

/-- How a code is written. -/
def name : ErrorCode → Text
  | .notFound => "SCRIPT_NOT_FOUND".toList
  | .exists => "SCRIPT_EXISTS".toList
  | .invalid => "INVALID_SCRIPT".toList
  | .denied => "PERMISSION_DENIED".toList
  | .other => "ERROR".toList

/-- The words that tell the code of a message; the first that it mentions count. -/
def signs : List (Text × ErrorCode) :=
  [("no such file".toList, .notFound),
    ("cannot find the file".toList, .notFound),
    ("already exists".toList, .exists),
    ("invalid script file".toList, .invalid),
    ("permission denied".toList, .denied)]

/-- The code of a message. -/
def ofMessage (message : Text) : ErrorCode :=
  match signs.find? fun sign => Text.mentions sign.1 message.lowerAscii with
  | some (_, code) => code
  | none => .other

/-- What the user may do about it. -/
def advice : ErrorCode → Text
  | .notFound => ". Create one with: scriptpad new <NAME>".toList
  | _ => []

end ErrorCode

/-- Why a command fails. -/
inductive Failure (unit : Type := Char) where
  /-- The name for a new script is blank. -/
  | emptyName
  /-- The name for a new script is a path. -/
  | nameWithSeparator (name : Text)
  /-- The new script could not be written. -/
  | creating (name : Text) (cause : DocumentError unit)
  /-- The script could not be read. -/
  | opening (path : Path unit) (cause : DocumentError unit)
  /-- The script could not be written. -/
  | saving (path : Path unit) (cause : DocumentError unit)
  deriving DecidableEq, Repr

open PathUnit (shown)

namespace Failure

variable {α : Type} [PathUnit α]

/-- A text between the marks that set names off. -/
def marked (text : Text) : Text :=
  '\x60' :: text ++ ['\x60']

/-- The wording of a failure and of the reasons behind it, the outermost first. -/
def chain : Failure α → List Text
  | .emptyName => ["script name must not be empty".toList]
  | .nameWithSeparator name =>
    ["script name ".toList ++ marked name ++ " must not contain path separators".toList]
  | .creating name cause => ("failed to create script ".toList ++ marked name) :: cause.chain
  | .opening path cause => ("failed to open script ".toList ++ marked (shown path)) :: cause.chain
  | .saving path cause => ("failed to save script ".toList ++ marked (shown path)) :: cause.chain

/-- The wording of a failure with all reasons. -/
def message (failure : Failure α) : Text :=
  Text.join ": ".toList failure.chain

/-- The code of a failure. -/
def code (failure : Failure α) : ErrorCode :=
  .ofMessage failure.message

/-- The message that is printed with the code. -/
def advisedMessage (failure : Failure α) : Text :=
  failure.message ++ failure.code.advice

/-! ## The report -/

/-- The lines of a text, with `first` before the first one and `others` before each further one. -/
def indented (first others text : Text) : Text :=
  first ++ Text.join ('\n' :: others) (text.cutAt '\n')

/-- The reasons, each on a line of its own and with a number. -/
def numbered : (number : Nat) → List Text → Text
  | _, [] => []
  | number, cause :: causes =>
    '\n' :: indented ("    ".toList ++ Text.ofNat number ++ ": ".toList) "       ".toList cause
      ++ numbered (number + 1) causes

/-- The report of a failure. Reasons have numbers if there are several. -/
def report (failure : Failure α) : Text :=
  let reasons : Text :=
    match failure.chain.tail with
    | [] => []
    | [cause] => "\n\nCaused by:\n".toList ++ indented "    ".toList "    ".toList cause
    | causes => "\n\nCaused by:".toList ++ numbered 0 causes
  "Error: ".toList ++ failure.chain.head?.getD [] ++ reasons ++ ['\n']

end Failure

end ScriptDesk.Console
