import ScriptDesk.Console.Action

/-!
# Carrying out a command

Results and failures are printed for people on a terminal, and as JSON otherwise or if the command
says so. A program is printed as it is, and what goes wrong with it is always printed for people. A
failure is printed twice: as one line, and then as a report.
-/

namespace ScriptDesk.Console

/-- Which streams are terminals. -/
structure Terminals where
  /-- The stream for results. -/
  output : Bool
  /-- The stream for failures. -/
  errors : Bool
  deriving DecidableEq, Repr

/-- For whom something is printed. -/
inductive Format where
  /-- For people. -/
  | human
  /-- For programs. -/
  | json
  deriving DecidableEq, Repr

/-- What a command prints, and whether it succeeded. -/
structure Outcome where
  /-- It did what it was asked for. -/
  succeeded : Bool
  /-- What it prints as its result. -/
  output : Text := []
  /-- What it prints about its failure. -/
  errors : Text := []
  deriving DecidableEq, Repr

namespace Outcome

/-- The exit code. -/
def exitCode (outcome : Outcome) : Nat :=
  if outcome.succeeded then 0 else 1

/-- The exit code for words that are no command. -/
def misuseCode : Nat := 2

end Outcome

/-- How a result is printed. -/
def Result.printed {α : Type} [PathUnit α] (format : Format) : Result α → Text
  | .program text => text
  | result =>
    match format with
    | .human => result.display ++ ['\n']
    | .json => result.toJson.written ++ ['\n']

/-- The label of a failure; red on a terminal. -/
def errorLabel (terminal : Bool) : Text :=
  if terminal then "\x1b[31merror:\x1b[0m ".toList else "error: ".toList

/-- The line that is printed about a failure. -/
def Failure.line {α : Type} [PathUnit α] (format : Format) (terminal : Bool)
    (failure : Failure α) : Text :=
  match format with
  | .human => errorLabel terminal ++ failure.advisedMessage ++ ['\n']
  | .json =>
    (Json.Value.obj [("error".toList, .obj
      [("code".toList, .str failure.code.name),
        ("message".toList, .str failure.advisedMessage)])]).written ++ ['\n']

namespace Command

variable {α : Type}

/-- The format in which a command prints. -/
def format (command : Command α) (terminals : Terminals) : Format :=
  match command.action with
  | .synthesize _ => .human
  | _ => if command.json || !terminals.output then .json else .human

/-- Carry out a command. A new script gets the given identity. -/
def run [DecidableEq α] [PathUnit α] (command : Command α) (home : Path α) (id : ScriptId)
    (terminals : Terminals) (disk : Disk α) : Outcome × Disk α :=
  let format := command.format terminals
  match command.action.perform home id disk with
  | (.ok result, disk) => ({ succeeded := true, output := result.printed format }, disk)
  | (.error failure, disk) =>
    ({ succeeded := false
       errors := failure.line format terminals.errors ++ failure.report }, disk)

end Command

end ScriptDesk.Console
