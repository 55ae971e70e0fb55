import ScriptDesk.Script.Identity
import ScriptDesk.Service.Response
import ScriptDesk.Service.Status

/-!
# Events of the service

Each event is about one script: a piece of output, the latest diagnostics, a change of status, or a
response about a file. Diagnostics are kept as they are. On the wire an event is a JSON object with
a tag `type`.
-/

namespace ScriptDesk

/-- What an event says about its script. -/
inductive News where
  /-- A piece of output, or none. -/
  | output (text : Option Text)
  /-- The latest diagnostics. -/
  | diagnostics (value : Json.Value)
  /-- A new status. -/
  | status (status : Status)
  /-- A response about a file. -/
  | file (response : Response)
  deriving Inhabited

/-- An event: a script, and what is new about it. -/
structure Event where
  /-- The script that the event is about. -/
  script : ScriptId
  /-- What is new. -/
  news : News
  deriving Inhabited

namespace News

/-- The tag of an event on the wire. -/
def tag : News → Text
  | .output _ => "ScriptOutputEmitted".toList
  | .diagnostics _ => "Diagnostics".toList
  | .status _ => "ScriptStatusChanged".toList
  | .file _ => "FileOperation".toList

/-- The kind of an event in reports. -/
def kind : News → Text
  | .output _ => "script_output_emitted".toList
  | .diagnostics _ => "diagnostics".toList
  | .status _ => "script_status_changed".toList
  | .file _ => "file_operation".toList

end News

namespace Event

/-- An event as far as it is decoded; `news` is the field besides the script. -/
structure Draft (α : Type) where
  /-- The script. -/
  script : Option ScriptId := none
  /-- The other field. -/
  news : Option α := none

/-- The events with one more field besides the script. -/
def recordOf (tag name : Text) (optional : Bool) (decode : Json.Decoder α)
    (build : Option α → Except Json.Fault News) : Json.Record (Draft α) Event where
  title := "struct variant ServiceEvent::".toList ++ tag
  fields :=
    [{ name := "scriptId".toList
       isFilled := fun draft => draft.script.isSome
       fill := fun r t draft => do return { draft with script := some (← ScriptId.decode r t) } },
     { name
       optional
       isFilled := fun draft => draft.news.isSome
       fill := fun r t draft => do return { draft with news := some (← decode r t) } }]
  blank := {}
  build := fun draft => do
    let script ← Json.required "scriptId".toList draft.script
    let news ← build draft.news
    return { script, news }

/-- A record whose other field has to be there. -/
def requiredRecord (tag name : Text) (decode : Json.Decoder α) (build : α → News) :
    Json.Record (Draft α) Event :=
  recordOf tag name false decode fun value => (Json.required name value).map build

/-- The choice between the four events. -/
def choice : Json.Choice Event where
  title := "ServiceEvent".toList
  tag := "type".toList
  cases :=
    [("ScriptOutputEmitted".toList,
      (recordOf "ScriptOutputEmitted".toList "output".toList true Json.decodeText?
        fun text => .ok (.output text.join)).decode),
     ("Diagnostics".toList,
      (requiredRecord "Diagnostics".toList "diagnostics".toList Json.decodeValue
        .diagnostics).decode),
     ("ScriptStatusChanged".toList,
      (requiredRecord "ScriptStatusChanged".toList "status".toList Status.decode
        .status).decode),
     ("FileOperation".toList,
      (requiredRecord "FileOperation".toList "response".toList Response.decode .file).decode)]

/-- Decode an event from JSON. -/
def decode : Json.Decoder Event :=
  choice.decode

/-- The event as JSON. -/
def toJson (event : Event) : Json.Value :=
  let detail := match event.news with
    | .output none => ("output".toList, Json.Value.null)
    | .output (some text) => ("output".toList, .str text)
    | .diagnostics value => ("diagnostics".toList, value)
    | .status status => ("status".toList, status.toJson)
    | .file response => ("response".toList, response.toJson)
  .obj [("type".toList, .str event.news.tag), ("scriptId".toList, .str event.script.text), detail]

end Event

end ScriptDesk
