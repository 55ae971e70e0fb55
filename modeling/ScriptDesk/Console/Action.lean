import ScriptDesk.Console.Arguments
import ScriptDesk.Console.Failure
import ScriptDesk.Settings

/-!
# What commands do

An action works on the disk. It fails (`Failure`), or it has a result that is printed (`Result`), as
text for people or as JSON on one line. Only creating a script and replacing its namespaces change
the disk.
-/

namespace ScriptDesk.Console

/-- What an action answers. -/
inductive Result (unit : Type := Char) where
  /-- The script that was created. -/
  | created (document : Document unit) (path : Path unit)
  /-- The script that was read. -/
  | script (document : Document unit) (path : Path unit)
  /-- The program. -/
  | program (text : Text)
  /-- The namespaces; `saved` if they were replaced. -/
  | namespaces (config : ScriptConfig) (path : Path unit) (saved : Bool)
  deriving DecidableEq, Repr

open PathUnit (shown)

section Units

variable {α : Type} [DecidableEq α] [PathUnit α]

/-! ## Actions -/

/-- The character separates the parts of a path on some system. -/
def isSeparator (c : Char) : Bool :=
  c == '/' || c == '\\'

/-- Create an empty script with the given identity in a directory. -/
def createScript (id : ScriptId) (name : Text) (directory : Path α) (disk : Disk α) :
    Except (Failure α) (Result α) × Disk α :=
  let name := name.trim
  if name.isEmpty then (.error .emptyName, disk)
  else if name.any isSeparator then (.error (.nameWithSeparator name), disk)
  else
    let document : Document α := { id, name }
    let path := document.defaultPath directory
    match document.saveNew disk path with
    | (.ok document, disk) => (.ok (.created document path), disk)
    | (.error e, disk) => (.error (.creating name e), disk)

/-- Read a script. -/
def loadScript (path : Path α) (disk : Disk α) : Except (Failure α) (Document α) :=
  (Document.load disk path).mapError (.opening path)

/-- List the namespaces of a script. -/
def listNamespaces (path : Path α) (disk : Disk α) : Except (Failure α) (Result α) := do
  return .namespaces (← loadScript path disk).config path false

/-- Replace the namespaces of a script. -/
def setNamespaces (path : Path α) (names : List Text) (disk : Disk α) :
    Except (Failure α) (Result α × Disk α) := do
  let document := (← loadScript path disk).setNamespaces names
  let (document, disk) ← (document.save disk).mapError (.saving path)
  return (.namespaces document.config path true, disk)

/-- The path of the file that an action works on. -/
def Action.path (home : Path α) (disk : Disk α) : Action α → Path α
  | .create name directory =>
    Path.forScript (directory.getD (Settings.load home disk).scriptsDirectory) name.trim
  | .inspect path | .synthesize path | .namespaces path _ => path

/-- Do an action. A new script gets the given identity. -/
def Action.perform (home : Path α) (id : ScriptId) (disk : Disk α) :
    Action α → Except (Failure α) (Result α) × Disk α
  | .create name directory =>
    createScript id name (directory.getD (Settings.load home disk).scriptsDirectory) disk
  | .inspect path => ((loadScript path disk).map fun document => .script document path, disk)
  | .synthesize path => ((loadScript path disk).map fun document => .program document.program, disk)
  | .namespaces path none => (listNamespaces path disk, disk)
  | .namespaces path (some names) =>
    match setNamespaces path names disk with
    | .ok (result, disk) => (.ok result, disk)
    | .error e => (.error e, disk)

/-! ## How results are printed -/

/-- How line ends are named. -/
def endingName : LineEnding → Text
  | .lf => "lf".toList
  | .crlf => "crlf".toList

namespace Result

/-- Texts as a JSON array. -/
def array (texts : List Text) : Json.Value :=
  .arr (texts.map .str)

/-- The result as JSON. -/
def toJson : Result α → Json.Value
  | .created document path =>
    .obj [("id".toList, .str document.id.text), ("name".toList, .str document.name),
      ("path".toList, .str (shown path))]
  | .script document path =>
    .obj [("id".toList, .str document.id.text), ("name".toList, .str document.name),
      ("path".toList, .str (shown path)), ("kind".toList, document.config.kind.toJson),
      ("namespaces".toList, array document.config.namespaces),
      ("line_ending".toList, .str (endingName document.lineEnding)),
      ("code".toList, .str document.code)]
  | .program text => .str text
  | .namespaces config path saved =>
    .obj [("path".toList, .str (shown path)), ("namespaces".toList, array config.namespaces),
      ("imports".toList, array config.imports), ("saved".toList, .bool saved)]

/-- The result for people. -/
def display : Result α → Text
  | .created document path =>
    "Created ".toList ++ document.name ++ " (".toList ++ document.id.text ++ ")\n  path: ".toList
      ++ shown path
  | .script document path =>
    let names := document.config.namespaces
    Text.join ['\n']
      ["# ".toList ++ document.name ++ " (".toList ++ document.id.text ++ [')'],
        "path: ".toList ++ shown path,
        "kind: ".toList ++ document.config.kind.name,
        "namespaces: ".toList ++
          (if names.isEmpty then "(none)".toList else Text.join ", ".toList names),
        [],
        document.code]
  | .program text => text
  | .namespaces config path saved =>
    Text.join ['\n']
      ((if saved then ["Updated ".toList ++ shown path] else []) ++
        (if config.namespaces.isEmpty then ["(no custom namespaces)".toList]
          else config.namespaces))

end Result

end Units

end ScriptDesk.Console
