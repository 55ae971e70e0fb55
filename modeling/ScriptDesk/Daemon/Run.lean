import ScriptDesk.Daemon.Task

/-!
# Running the daemon

The daemon opens the scripts it is told to, and those that it cannot open it records. Then lines
come in. After each line the tasks work in turn until the line is dealt with, so that all that it
leads to is in the log before the next one. At the end of the lines the scripts are closed.
-/

namespace ScriptDesk.Daemon

/-- Open a script and begin to record its notices. -/
def openScript (daemon : Daemon) (path : Path) : Daemon :=
  match daemon.desk.openFile path with
  | .error error => daemon.record [.failed path error]
  | .ok (desk, seat) =>
    match desk.seat? seat with
    | none => { daemon with desk }
    | some s =>
      let logger := ⟨s.environment.id, seat, s.environment.log.length⟩
      { daemon with desk, loggers := daemon.loggers ++ [logger] }

/-- Start with the scripts at the given paths. -/
def start (settings : Settings) (disk : Disk) (paths : List Path) : Daemon :=
  let daemon := paths.foldl openScript { desk := { settings, disk } }
  daemon.record [.started daemon.desk.register.size]

/-- The tasks that deal with a line, in order. -/
def round (daemon : Daemon) : List Task :=
  [.reader, .bridge] ++ (List.range daemon.desk.seats.length).map .pump ++
    (List.range daemon.loggers.length).map .logger

/-- Deal with a line. -/
def serve (daemon : Daemon) (line : Bytes) : Daemon :=
  { daemon with lines := daemon.lines ++ [line] }.perform daemon.round

/-- Deal with the end of the lines. -/
def finish (daemon : Daemon) : Daemon :=
  (daemon.perform daemon.round).perform
    (List.replicate (daemon.desk.seats.length + 2) .closer)

/-- Run the daemon on all lines of an input. -/
def run (daemon : Daemon) (input : Bytes) : Daemon :=
  (input.pieces.foldl serve daemon).finish

end ScriptDesk.Daemon
