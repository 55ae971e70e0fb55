import ScriptDesk.Path.Unit
import ScriptDesk.Text.Quoted

/-!
# Paths

A path is spelled in units of some kind (`PathUnit`), which are characters unless others are named;
then it is a text. Its parts are separated by slashes. Repeated and trailing slashes, and parts that
are a single dot behind the first place, do not count, though the path keeps them. The last part is
the file name unless it is `..`; the stem of a file name ends at its last dot, unless that is its
first character.
-/

namespace ScriptDesk

open PathUnit (slash dot spell shown)

/-- The name of a place in the file system. -/
abbrev Path (unit : Type := Char) := Text unit

namespace Path

section Units

variable {α : Type} [DecidableEq α] [PathUnit α]

/-- The path starts at the root. -/
def isAbsolute (path : Path α) : Bool :=
  path.head? == some slash

/-- A path cut into its fixed front, which is the root or a leading dot or nothing, and the rest. -/
def front : Path α → Text α × Text α
  | [] => ([], [])
  | c :: rest =>
    if c = slash then ([slash], rest)
    else if c = dot ∧ rest.head?.all (· = slash) then ([dot], rest)
    else ([], c :: rest)

/-- The part counts for nothing. -/
def isIdle (part : Text α) : Bool :=
  part == [] || part == [dot]

/-- The paths have the same parts that count. -/
def sameParts (a b : Path α) : Bool :=
  (front a).1 == (front b).1 &&
    ((front a).2.cutAt slash).filter (!isIdle ·) == ((front b).2.cutAt slash).filter (!isIdle ·)

/-- The parts behind the front, without those at the end that count for nothing; in reverse. -/
def partsReversed (path : Path α) : List (Text α) :=
  ((front path).2.cutAt slash).reverse.dropWhile isIdle

/-- The part of two dots. -/
def up : Text α := [dot, dot]

/-- The file name: the last part, if it is a name. -/
def fileName? (path : Path α) : Option (Text α) :=
  match partsReversed path with
  | [] => none
  | part :: _ => if part = up then none else some part

/-- The path of the directory that holds the last part. -/
def parent? (path : Path α) : Option (Path α) :=
  match partsReversed path with
  | _ :: others =>
    some ((front path).1 ++ Text.join [slash] (others.dropWhile isIdle).reverse)
  | [] => if (front path).1 = [dot] then some [] else none

/-- The file name up to its last dot, unless that is its first character. -/
def stemOf (name : Text α) : Text α :=
  let behind := name.reverse.takeWhile (· ≠ dot)
  let before := name.take (name.length - behind.length - 1)
  if behind.length = name.length ∨ before.isEmpty then name else before

/-- The stem of the file name as it is shown; empty if there is none. -/
def stem (path : Path α) : Text :=
  ((fileName? path).map fun name => shown (stemOf name)).getD []

/-- The path `name` seen from the directory `path`. -/
def join (path name : Path α) : Path α :=
  if isAbsolute name then name
  else if path.isEmpty || path.getLast? == some slash then path ++ name
  else path ++ slash :: name

/-- The path with another file name. -/
def withFileName (path : Path α) (name : Text α) : Path α :=
  match fileName? path with
  | some _ => join ((parent? path).getD []) name
  | none => join path name

/-- The ending of the names of script files. -/
def scriptEnding : Text := ".spad".toList

/-- The path of the file for a script of the given name in a directory. -/
def forScript (directory : Path α) (name : Text) : Path α :=
  join directory (spell (name ++ scriptEnding))

end Units

/-- The path in double quotes; apostrophes are escaped, too. -/
def quoted (path : Path) : Text :=
  '"' :: path.flatMap (fun c => if c = '\x27' then ['\\', c] else Text.quotedChar c) ++ ['"']

end Path

end ScriptDesk
