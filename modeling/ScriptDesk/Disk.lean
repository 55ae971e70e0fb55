import ScriptDesk.Path
import ScriptDesk.Table
import ScriptDesk.Text.Bytes

/-!
# The disk

A disk is a table of the files and directories under the root; a place is given by the names on the
way to it. Paths are looked up part by part, so each part but the last has to be a directory that
exists. A path that ends with a slash or a dot means a directory.

The actions on a disk are reading and writing a file, creating one that must not exist, and making a
directory with all those above it. Each fails for a reason of its own (`DiskError`); what it did
before it failed stays done.
-/

namespace ScriptDesk

/-- Why an action on the disk fails. -/
inductive DiskError where
  /-- There is no such file or directory. -/
  | notFound
  /-- There is a file or directory already. -/
  | exists
  /-- A file is where a directory should be. -/
  | notDirectory
  /-- A directory is where a file should be. -/
  | isDirectory
  /-- A name is longer than the disk allows. -/
  | nameTooLong
  /-- The file is not UTF-8. -/
  | notText
  /-- The path has a NUL. -/
  | nulInName
  /-- No directory on the path could be made. -/
  | noWholeTree
  deriving DecidableEq, Repr

namespace DiskError

/-- The wording of an error. -/
def message : DiskError → Text
  | .notFound => "No such file or directory (os error 2)".toList
  | .exists => "File exists (os error 17)".toList
  | .notDirectory => "Not a directory (os error 20)".toList
  | .isDirectory => "Is a directory (os error 21)".toList
  | .nameTooLong => "File name too long (os error 36)".toList
  | .notText => "stream did not contain valid UTF-8".toList
  | .nulInName => "file name contained an unexpected NUL byte".toList
  | .noWholeTree => "failed to create whole tree".toList

end DiskError

/-- The names on the way from the root. -/
abbrev Place (unit : Type := Char) := List (Text unit)

/-- What is at a place. -/
inductive Node where
  /-- A directory. -/
  | directory
  /-- A file with its content. -/
  | file (content : Bytes)
  deriving DecidableEq, Repr

/-- The files and directories of a disk. -/
structure Disk (unit : Type := Char) where
  /-- What is at each place below the root. -/
  nodes : Table (Place unit) Node := .empty
  /-- The place from which relative paths are looked up. -/
  here : Place unit := []

open PathUnit (slash dot nul bytes)

namespace Disk

variable {α : Type} [DecidableEq α] [PathUnit α]

/-- What is at a place; the root is a directory. -/
def node? (disk : Disk α) : Place α → Option Node
  | [] => some .directory
  | place => disk.nodes.get? place

/-- The content of the file at a place. -/
def content? (disk : Disk α) (place : Place α) : Option Bytes :=
  match disk.node? place with
  | some (.file content) => some content
  | _ => none

/-- The disk with something put at a place. -/
def put (disk : Disk α) (place : Place α) (node : Node) : Disk α :=
  { disk with nodes := disk.nodes.set place node }

/-! ## Looking up paths -/

/-- The most bytes that a name may have. -/
def maxName : Nat := 255

/-- The most bytes that a path may have. -/
def maxPath : Nat := 4095

/-- The name is too long for the disk. -/
def isTooLong (name : Text α) : Bool :=
  maxName < (bytes name).length

/-- Follow the names from a directory; every one has to be a directory. -/
def walk (disk : Disk α) : (directory : Place α) → List (Text α) → Except DiskError (Place α)
  | directory, [] => .ok directory
  | directory, name :: names =>
    if name = Path.up then walk disk directory.dropLast names
    else if isTooLong name then .error .nameTooLong
    else
      match disk.node? (directory ++ [name]) with
      | none => .error .notFound
      | some (.file _) => .error .notDirectory
      | some .directory => walk disk (directory ++ [name]) names

/-- What a path leads to. -/
inductive Target (unit : Type := Char) where
  /-- A directory that exists, not by its name. -/
  | directory (place : Place unit)
  /-- A name in a directory that exists; `closed` when a slash follows the name. -/
  | entry (place : Place unit) (name : Text unit) (closed : Bool)
  deriving DecidableEq, Repr

/-- Look up a path up to its last name. -/
def locate (disk : Disk α) (path : Path α) : Except DiskError (Target α) := do
  if path.contains nul then throw .nulInName
  if path.isEmpty then throw .notFound
  if maxPath < (bytes path).length then throw .nameTooLong
  let parts := path.cutAt slash
  let names := parts.filter (!Path.isIdle ·)
  let start := if Path.isAbsolute path then [] else disk.here
  match names.getLast? with
  | none => return .directory start
  | some last =>
    if last = Path.up || parts.getLast? == some [dot] then
      return .directory (← disk.walk start names)
    else
      return .entry (← disk.walk start names.dropLast) last (parts.getLast? == some [])

/-- A path leads to a directory. -/
def isDirectory (disk : Disk α) (path : Path α) : Bool :=
  match disk.locate path with
  | .ok (.directory _) => true
  | .ok (.entry place name _) => disk.node? (place ++ [name]) == some .directory
  | .error _ => false

/-! ## Actions -/

/-- The bytes of the file that a path leads to. -/
def readBytes (disk : Disk α) (path : Path α) : Except DiskError Bytes := do
  match ← disk.locate path with
  | .directory _ => throw .isDirectory
  | .entry place name closed =>
    if isTooLong name then throw .nameTooLong
    match disk.node? (place ++ [name]) with
    | none => throw .notFound
    | some .directory => throw .isDirectory
    | some (.file content) => if closed then throw .notDirectory else return content

/-- The text of the file that a path leads to. -/
def readText (disk : Disk α) (path : Path α) : Except DiskError Text := do
  match Text.ofBytes? (← disk.readBytes path) with
  | some text => return text
  | none => throw .notText

/-- Where a file is written that may be there already. -/
def placeToWrite (disk : Disk α) (path : Path α) : Except DiskError (Place α) := do
  match ← disk.locate path with
  | .directory _ => throw .isDirectory
  | .entry place name closed =>
    if closed then throw .isDirectory
    if isTooLong name then throw .nameTooLong
    match disk.node? (place ++ [name]) with
    | some .directory => throw .isDirectory
    | _ => return place ++ [name]

/-- Where a file is written that must not be there yet. -/
def placeToCreate (disk : Disk α) (path : Path α) : Except DiskError (Place α) := do
  match ← disk.locate path with
  | .directory _ => throw .exists
  | .entry place name closed =>
    if closed then throw .isDirectory
    if isTooLong name then throw .nameTooLong
    match disk.node? (place ++ [name]) with
    | some _ => throw .exists
    | none => return place ++ [name]

/-- Write a file, in place of one that is there. -/
def write (disk : Disk α) (path : Path α) (content : Bytes) : Except DiskError (Disk α) := do
  return disk.put (← disk.placeToWrite path) (.file content)

/-- Write a file where nothing is. -/
def create (disk : Disk α) (path : Path α) (content : Bytes) : Except DiskError (Disk α) := do
  return disk.put (← disk.placeToCreate path) (.file content)

/-- Make one directory. -/
def makeDirectory (disk : Disk α) (path : Path α) : Except DiskError (Disk α) := do
  match ← disk.locate path with
  | .directory _ => throw .exists
  | .entry place name _ =>
    if isTooLong name then throw .nameTooLong
    match disk.node? (place ++ [name]) with
    | some _ => throw .exists
    | none => return disk.put (place ++ [name]) .directory

/-- The path and the paths of the directories above it, as far as they are named. -/
def ancestors : (steps : Nat) → Path α → List (Path α)
  | 0, _ => []
  | steps + 1, path =>
    if path.isEmpty then []
    else path :: ((Path.parent? path).map (ancestors steps)).getD []

/-- Make the directory that heads a list of ancestors, after those above it that are missing. -/
def makeAncestors (disk : Disk α) : List (Path α) → Except DiskError Unit × Disk α
  | [] => (.ok (), disk)
  | path :: above =>
    match disk.makeDirectory path with
    | .ok disk => (.ok (), disk)
    | .error .notFound =>
      if above.isEmpty then (.error .noWholeTree, disk)
      else
        match makeAncestors disk above with
        | (.error e, disk) => (.error e, disk)
        | (.ok (), disk) =>
          match disk.makeDirectory path with
          | .ok disk => (.ok (), disk)
          | .error e => (if disk.isDirectory path then .ok () else .error e, disk)
    | .error e => (if disk.isDirectory path then .ok () else .error e, disk)

/-- Make a directory with all those above it; one that is there already is as good. -/
def makeDirectories (disk : Disk α) (path : Path α) : Except DiskError Unit × Disk α :=
  disk.makeAncestors (ancestors (path.length + 1) path)

/-- Make the directory that holds a path, with all those above it. -/
def makeParents (disk : Disk α) (path : Path α) : Except DiskError Unit × Disk α :=
  match Path.parent? path with
  | some parent => disk.makeDirectories parent
  | none => (.ok (), disk)

/-- The places that names lead through from a directory. -/
def through : Place α → List (Text α) → List (Place α)
  | _, [] => []
  | directory, name :: names =>
    let place := if name = Path.up then directory.dropLast else directory ++ [name]
    place :: through place names

/-- The places that a path leads through. -/
def placesOn (disk : Disk α) (path : Path α) : List (Place α) :=
  through (if Path.isAbsolute path then [] else disk.here)
    ((path.cutAt slash).filter (!Path.isIdle ·))

/-- What is other than on the disk `old`, with its place. -/
def changesFrom (disk old : Disk α) : List (Place α × Node) :=
  disk.nodes.entries.filter fun (place, node) => old.node? place != some node

/-- The files with their contents. -/
def files (disk : Disk α) : List (Place α × Bytes) :=
  disk.nodes.entries.filterMap fun
    | (place, .file content) => some (place, content)
    | (_, .directory) => none

end Disk

end ScriptDesk
