import ScriptDesk.Json.Decode
import ScriptDesk.Text.Blank
import ScriptDesk.Text.Lines

/-!
# The settings of a script

A script has a kind and the namespaces it imports besides the standard ones, in the order in which
the user gave them. Namespaces that are set are trimmed and blank ones are dropped (`tidy`);
duplicates stay.
-/

namespace ScriptDesk

/-- How the code of a script is understood. -/
inductive ScriptKind where
  /-- A sequence of statements, put into the body of an entry method. -/
  | statements
  deriving DecidableEq, Repr, Inhabited

namespace ScriptKind

/-- The name of a kind. -/
def name : ScriptKind → Text
  | .statements => "Statements".toList

/-- The names of all kinds. -/
def names : List (Text × ScriptKind) :=
  [(statements.name, .statements)]

/-- Decode a kind from JSON. -/
def decode : Json.Decoder ScriptKind :=
  Json.decodeNamed names

/-- The kind as JSON. -/
def toJson (kind : ScriptKind) : Json.Value :=
  .str kind.name

end ScriptKind

/-- The settings of a script. -/
structure ScriptConfig where
  /-- How the code is understood. -/
  kind : ScriptKind := .statements
  /-- The namespaces to import besides the standard ones. -/
  namespaces : List Text := []
  deriving DecidableEq, Repr, Inhabited

namespace ScriptConfig

/-- The namespaces trimmed, without those that are blank. -/
def tidy (namespaces : List Text) : List Text :=
  (namespaces.map Text.trim).filter fun name => !name.isEmpty

/-- The same settings with other namespaces. -/
def setNamespaces (config : ScriptConfig) (namespaces : List Text) : ScriptConfig :=
  { config with namespaces := tidy namespaces }

/-- The namespaces of a text that has one on each line. -/
def namespaceLines (text : Text) : List Text :=
  tidy text.lines

/-- The settings as far as they are decoded. -/
structure Draft where
  /-- The kind. -/
  kind : Option ScriptKind := none
  /-- The namespaces. -/
  namespaces : Option (List Text) := none

/-- The fields of the settings; each name may also be capitalised. -/
def record : Json.Record Draft ScriptConfig where
  title := "struct ScriptConfig".toList
  fields :=
    [{ name := "kind".toList
       other := some "Kind".toList
       isFilled := fun draft => draft.kind.isSome
       fill := fun r t draft => do return { draft with kind := some (← ScriptKind.decode r t) } },
     { name := "namespaces".toList
       other := some "Namespaces".toList
       optional := true
       isFilled := fun draft => draft.namespaces.isSome
       fill := fun r t draft => do
         return { draft with namespaces := some (← Json.decodeList Json.decodeText r t) } }]
  blank := {}
  build := fun draft => do
    let kind ← Json.required "kind".toList draft.kind
    return { kind, namespaces := draft.namespaces.getD [] }

/-- Decode settings from JSON. -/
def decode : Json.Decoder ScriptConfig :=
  record.decode

/-- The settings as JSON. -/
def toJson (config : ScriptConfig) : Json.Value :=
  .obj [("kind".toList, config.kind.toJson),
    ("namespaces".toList, .arr (config.namespaces.map .str))]

end ScriptConfig

end ScriptDesk
