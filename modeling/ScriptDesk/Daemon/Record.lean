import ScriptDesk.Desk.Session
import ScriptDesk.Service.Stream

/-!
# The log of the daemon

What happens while the daemon runs is written to its log, a record for each thing. The wording of a
record says what happened and gives the particulars as fields, each a name, an equals sign and a
value. Names of files and kinds of events are quoted, everything else stands as it is.
-/

namespace ScriptDesk

/-- What the log of the daemon has a record of. -/
inductive Record where
  /-- A script could not be opened. -/
  | failed (path : Path) (error : SessionError)
  /-- The daemon began to serve so many scripts. -/
  | started (scripts : Nat)
  /-- A line of the stream was passed over. -/
  | malformed
  /-- The stream ended at a line that is not UTF-8. -/
  | unreadable (fault : EncodingFault)
  /-- An event could not be applied. -/
  | refused (refusal : Refusal)
  /-- An environment sent a notice. -/
  | noticed (script : ScriptId) (notice : Notice)
  /-- Notices of an environment were missed. -/
  | lagged (script : ScriptId) (missed : Nat)
  /-- The daemon closed so many scripts and stopped. -/
  | stopped (scripts : Nat)

/-- A field of a record. -/
def Record.field (name : String) (value : Text) : Text :=
  ' ' :: name.toList ++ '=' :: value

/-- The wording of a notice. -/
def Notice.message : Notice → Text
  | .statusChanged source target =>
    "script status changed".toList ++ Record.field "from" source.name ++
      Record.field "to" target.name
  | .resultsCleared => "results cleared".toList
  | .outputAppended output => "script output".toList ++ Record.field "output" output
  | .diagnosticsUpdated diagnostics =>
    "diagnostics updated".toList ++ Record.field "diagnostics" diagnostics.written
  | .fileApplied response =>
    "file operation applied".toList ++ Record.field "file_name" response.fileName.quoted ++
      Record.field "modification" response.kind.name
  | .documentRenamed name => "script renamed".toList ++ Record.field "name" name

namespace Record

/-- The wording of a record. -/
def message : Record → Text
  | .failed path error =>
    "failed to open script".toList ++ field "path" path ++ field "error" error.message
  | .started scripts => "standalone daemon started".toList ++ field "open" (Text.ofNat scripts)
  | .malformed => "skipping malformed service event".toList
  | .unreadable fault =>
    "service event reader failed".toList ++ field "error" (Stream.unreadableMessage fault)
  | .refused ⟨event, error⟩ =>
    "failed to apply service event".toList ++ field "script_id" event.script.text ++
      field "kind" event.news.kind.quoted ++ field "error" error.message
  | .noticed _ notice => notice.message
  | .lagged _ missed =>
    "environment observer lagged".toList ++ field "skipped" (Text.ofNat missed)
  | .stopped scripts => "standalone daemon stopped".toList ++ field "closed" (Text.ofNat scripts)

/-- The script whose notices the record is about. -/
def script? : Record → Option ScriptId
  | .noticed script _ | .lagged script _ => some script
  | _ => none

/-- The record as a line of the log: the script it is about comes first. -/
def line (record : Record) : Text :=
  match record.script? with
  | some script => script.text ++ ": ".toList ++ record.message
  | none => record.message

end Record

end ScriptDesk
