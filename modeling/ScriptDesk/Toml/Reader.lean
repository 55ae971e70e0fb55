import ScriptDesk.Toml.Scalar

/-!
# Reading a TOML document

A document is a sequence of lines: empty ones and comments, headers that open a table, and keys with
values. A value may be an array, which may go over several lines, or an inline table, which may not.
Arrays, inline tables and dotted keys may be nested only so deep. The recursion is bounded by a
number of steps that the length of the text supplies.
-/

namespace ScriptDesk.Toml

/-! ## Between the tokens -/

/-- The text after spaces, line ends and comments, inside an array. A comment has to end with its
line; `inComment` says that one was begun. -/
def skipFiller : (inComment : Bool) → Text → Option Text
  | false, [] => some []
  | true, [] => none
  | _, '\r' :: '\n' :: rest => skipFiller false rest
  | true, c :: rest =>
    if c = '\n' then skipFiller false rest
    else if isPlain c then skipFiller true rest
    else none
  | false, c :: rest =>
    if c = '\n' || isBlankChar c then skipFiller false rest
    else if c = '#' then skipFiller true rest
    else if c = '\r' then none
    else some (c :: rest)

/-- The text after a comment, if there is one. -/
def skipComment : Text → Text
  | '#' :: rest => rest.dropWhile isPlain
  | text => text

/-- The text behind the end of the line: there may be blanks and a comment before it. -/
def endLine (text : Text) : Option Text :=
  match skipComment (skipBlanks text) with
  | [] => some []
  | '\n' :: rest | '\r' :: '\n' :: rest => some rest
  | _ => none

/-! ## Keys -/

/-- How deep arrays, inline tables and keys may be nested. -/
def maxDepth : Nat := 79

/-- The character may stand in a key without quotes. -/
def isKeyChar (c : Char) : Bool :=
  c.isAlphanum || c == '_' || c == '-'

/-- Read one part of a key. -/
def readPart (text : Text) : Option (Text × Text) :=
  match text with
  | '"' :: rest => readBasic rest
  | '\x27' :: rest => readLiteral rest
  | text =>
    match text.takeWhile isKeyChar with
    | [] => none
    | part => some (part, text.dropWhile isKeyChar)

/-- Read the parts of a key and the blanks around them. -/
def readParts : (steps : Nat) → Text → Option (List Text × Text)
  | 0, _ => none
  | steps + 1, text => do
    let (part, rest) ← readPart (skipBlanks text)
    match skipBlanks rest with
    | '.' :: rest =>
      let (parts, rest) ← readParts steps rest
      return (part :: parts, rest)
    | rest => return ([part], rest)

/-- Read a key: the parts before the last one, and the last one. -/
def readKey (text : Text) : Option ((List Text × Text) × Text) := do
  let (parts, rest) ← readParts text.length text
  if maxDepth < parts.length then none
  let last ← parts.getLast?
  return ((parts.dropLast, last), rest)

/-! ## Values -/

/-- The word stands at the front. -/
def readWord (word : Text) (text : Text) : Option (Item × Text) :=
  (word.isPrefixOf? text).map fun rest => (.other, rest)

mutual

/-- Read a value; `depth` more levels of nesting are allowed. -/
def readValue : (steps depth : Nat) → Text → Option (Item × Text)
  | 0, _, _ => none
  | steps + 1, depth, text =>
    match text with
    | [] => none
    | '[' :: rest =>
      match depth with
      | 0 => none
      | depth + 1 => do
        match ← skipFiller false rest with
        | ']' :: rest => return (.other, rest)
        | rest => return (.other, ← readElements steps depth rest)
    | '\x7b' :: rest =>
      match depth with
      | 0 => none
      | depth + 1 =>
        match skipBlanks rest with
        | '\x7d' :: rest => some (.other, rest)
        | rest => do return (.other, ← readPairs steps depth [] rest)
    | c :: rest =>
      if c = '"' ∨ c = '\x27' then
        (readString (c :: rest)).map fun (value, rest) => (.text value, rest)
      else if c = 't' then readWord "true".toList (c :: rest)
      else if c = 'f' then readWord "false".toList (c :: rest)
      else readNumeric (c :: rest)

/-- Read the elements of an array from the front of one to the closing bracket; a comma may stand
behind the last one. -/
def readElements : (steps depth : Nat) → Text → Option Text
  | 0, _, _ => none
  | steps + 1, depth, text => do
    let (_, rest) ← readValue steps depth text
    match ← skipFiller false rest with
    | ']' :: rest => some rest
    | ',' :: rest =>
      match ← skipFiller false rest with
      | ']' :: rest => some rest
      | rest => readElements steps depth rest
    | _ => none

/-- Read the pairs of an inline table from the front of one to the closing brace. -/
def readPairs : (steps depth : Nat) → Entries → Text → Option Text
  | 0, _, _, _ => none
  | steps + 1, depth, entries, text => do
    let ((path, key), rest) ← readKey text
    match rest with
    | '=' :: rest =>
      let (item, rest) ← readValue steps depth (skipBlanks rest)
      let entries ← entries.assign path key item
      match skipBlanks rest with
      | '\x7d' :: rest => some rest
      | ',' :: rest => readPairs steps depth entries rest
      | _ => none
    | _ => none

end

/-! ## Lines -/

/-- What was read of a document. -/
structure Progress where
  /-- The tables. -/
  root : Entries := []
  /-- The path of the table that was opened last. -/
  current : List Text := []

/-- Read a header from behind its opening bracket or brackets. -/
def readHeader (progress : Progress) (text : Text) : Option (Progress × Text) :=
  match text with
  | '[' :: rest => do
    let ((path, key), rest) ← readKey rest
    match rest with
    | ']' :: ']' :: rest =>
      let root ← progress.root.openElement path key
      return ({ root, current := path ++ [key] }, ← endLine rest)
    | _ => none
  | text => do
    let ((path, key), rest) ← readKey text
    match rest with
    | ']' :: rest =>
      let root ← progress.root.openTable path key
      return ({ root, current := path ++ [key] }, ← endLine rest)
    | _ => none

/-- Read a key and its value. -/
def readAssignment (progress : Progress) (text : Text) : Option (Progress × Text) := do
  let ((path, key), rest) ← readKey text
  match rest with
  | '=' :: rest =>
    let (item, rest) ← readValue (2 * rest.length + 1) maxDepth (skipBlanks rest)
    let rest ← endLine rest
    let root ← progress.root.assignIn progress.current path key item
    return ({ progress with root }, rest)
  | _ => none

/-- Read the lines of a document. -/
def readLines : (steps : Nat) → Progress → Text → Option Entries
  | 0, _, _ => none
  | steps + 1, progress, text =>
    match skipBlanks text with
    | [] => some progress.root
    | '#' :: rest => (endLine ('#' :: rest)).bind (readLines steps progress)
    | '\n' :: rest | '\r' :: '\n' :: rest => readLines steps progress rest
    | '[' :: rest =>
      (readHeader progress rest).bind fun (progress, rest) => readLines steps progress rest
    | rest =>
      (readAssignment progress rest).bind fun (progress, rest) => readLines steps progress rest

/-- The mark that may stand at the very start of a document. -/
def byteOrderMark : Char := Char.ofNat 0xFEFF

/-- Read a document: the items of its keys. -/
def read (text : Text) : Option Entries :=
  let text := match text with
    | c :: rest => if c = byteOrderMark then rest else c :: rest
    | [] => []
  readLines (text.length + 1) {} text

end ScriptDesk.Toml
