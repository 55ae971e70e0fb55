import ScriptDesk.Console.Command
import ScriptDesk.Daemon.Run

/-!
# The programs

Under the name `scriptpadd` the program is the daemon: it is told the paths of scripts, reads the
stream of events from its standard input and writes its log to the standard error. Under any other
name it carries out one command.

Everything is decided elsewhere, on a `Disk`. This module finds out what is at the places that the
paths lead through, and afterwards makes the changes that are to be made there. The system hands
over its words as text, so here paths are text.
-/

namespace ScriptDesk.Main

/-! ## The real disk -/

/-- The path of a place. -/
def pathOf (place : Place) : String :=
  String.ofList (place.flatMap ('/' :: ·))

/-- The number of the error that says that a file is a directory. -/
def directoryCode : UInt32 := 21

/-- Find out what is at a place. -/
def readNode (place : Place) : IO (Option Node) := do
  try
    return some (.file (← IO.FS.readBinFile (pathOf place)).toList)
  catch
    | .noFileOrDirectory .. | .invalidArgument .. => return none
    | .inappropriateType _ code _ =>
      return if code = directoryCode then some .directory else none
    | error => throw error

/-- Find out what is at the places that a path leads through. -/
def discover (disk : Disk) (path : Path) : IO Disk :=
  (disk.placesOn path).foldlM (fun disk place => do
    match ← readNode place with
    | some node => return disk.put place node
    | none => return disk) disk

/-- Make the changes from one disk to another. -/
def commit (before after : Disk) : IO Unit :=
  for (place, node) in after.changesFrom before do
    match node with
    | .directory => IO.FS.createDir (pathOf place)
    | .file content => IO.FS.writeBinFile (pathOf place) ⟨content.toArray⟩

/-- The disk as far as it is known at the start, and the home directory. -/
def survey : IO (Path × Disk) := do
  let home := ((← IO.getEnv "HOME").getD ".").toList
  let here := (Text.cutAt '/' (toString (← IO.currentDir)).toList).filter (!·.isEmpty)
  return (home, ← discover { here } (Settings.defaultPath home))

/-! ## Commands -/

/-- How the commands are used. -/
def usage : String :=
  "\n".intercalate
    ["Create, inspect and configure scriptpad scripts",
      "",
      "Usage: scriptpad new <NAME> [--dir <DIR>] [--json]",
      "       scriptpad show <PATH> [--json]",
      "       scriptpad synth <PATH>",
      "       scriptpad ns <PATH> [--set <NS>]... [--clear] [--json]"]

/-- An identity for a new script. -/
def randomId : IO ScriptId := do
  let bytes ← IO.getRandomBytes 16
  return .ofRandomBits (BitVec.ofNat 128 (bytes.toList.foldl (fun n b => n * 256 + b.toNat) 0))

/-- Carry out a command, and give its exit code. -/
def runCommand (command : Console.Command) : IO Nat := do
  let (home, disk) ← survey
  let before ← discover disk (command.action.path home disk)
  let terminals := ⟨← (← IO.getStdout).isTty, ← (← IO.getStderr).isTty⟩
  let (outcome, after) := command.run home (← randomId) terminals before
  commit before after
  IO.print (String.ofList outcome.output)
  IO.eprint (String.ofList outcome.errors)
  return outcome.exitCode

/-- Do what the words of a command line ask for, and give the exit code. -/
def runWords (words : List String) : IO Nat := do
  match Console.parse (words.map (·.toList)) with
  | some (.command command) => runCommand command
  | some .help =>
    IO.println usage
    return 0
  | none =>
    IO.eprintln usage
    return Console.Outcome.misuseCode

/-! ## The daemon -/

/-- Write what was added to the log. -/
def printRecords (before after : Daemon) : IO Unit :=
  for record in after.records.drop before.records.length do
    IO.eprintln (String.ofList record.line)

/-- Serve the lines of the standard input; `line` is what was read of the next one, reversed. -/
partial def serveInput (input : IO.FS.Stream) (line : Bytes) (daemon : Daemon) : IO Daemon := do
  match (← input.read 1).toList with
  | [] => if line.isEmpty then return daemon else serveLine line daemon
  | byte :: _ =>
    if byte = 10 then serveInput input [] (← serveLine (byte :: line) daemon)
    else serveInput input (byte :: line) daemon
where
  /-- Serve one line, which is given in reverse. -/
  serveLine (line : Bytes) (daemon : Daemon) : IO Daemon := do
    let after := daemon.serve line.reverse
    printRecords daemon after
    return after

/-- Run the daemon with the scripts at the given paths. -/
def runDaemon (words : List String) : IO Unit := do
  let paths := words.map (·.toList)
  let (home, disk) ← survey
  let disk ← paths.foldlM discover disk
  let daemon := Daemon.start (Settings.load home disk) disk paths
  printRecords { daemon with records := [] } daemon
  let served ← serveInput (← IO.getStdin) [] daemon
  printRecords served served.finish

/-- The name of the program that is the daemon. -/
def daemonName : Text := "scriptpadd".toList

end ScriptDesk.Main

open ScriptDesk ScriptDesk.Main in
/-- The program. -/
def main (words : List String) : IO UInt32 := do
  if Path.fileName? (toString (← IO.appPath)).toList = some daemonName then
    runDaemon words
    return 0
  else
    return (← runWords words).toUInt32
