import ScriptDesk.Json.Number
import ScriptDesk.Text.Hex

/-!
# JSON values and how they are written

A value keeps the members of an object in order. It is written without blanks; in a string only the
quote, the backslash and the characters below U+0020 are escaped, and everything else stands for
itself.

`Value.insert` keeps an object sorted by name with one member for each name.
-/

namespace ScriptDesk.Json

/-- A JSON value. -/
inductive Value where
  /-- `null`. -/
  | null
  /-- `true` or `false`. -/
  | bool (value : Bool)
  /-- A number. -/
  | num (value : Number)
  /-- A string. -/
  | str (value : Text)
  /-- An array. -/
  | arr (items : List Value)
  /-- An object, its members in order. -/
  | obj (members : List (Text × Value))
  deriving Inhabited

/-- How one character is written inside a string. -/
def escapedChar (c : Char) : Text :=
  if c = '"' then ['\\', '"']
  else if c = '\\' then ['\\', '\\']
  else if c = '\x08' then ['\\', 'b']
  else if c = '\x0c' then ['\\', 'f']
  else if c = '\n' then ['\\', 'n']
  else if c = '\r' then ['\\', 'r']
  else if c = '\t' then ['\\', 't']
  else if c.toNat < 0x20 then
    ['\\', 'u', '0', '0', hexDigit (c.toNat / 16), hexDigit (c.toNat % 16)]
  else [c]

/-- A string as it is written, between quotes. -/
def writtenString (text : Text) : Text :=
  '"' :: text.flatMap escapedChar ++ ['"']

namespace Value

mutual

/-- The value as text, without blanks. -/
def written : Value → Text
  | .null => ['n', 'u', 'l', 'l']
  | .bool true => ['t', 'r', 'u', 'e']
  | .bool false => ['f', 'a', 'l', 's', 'e']
  | .num n => n.written
  | .str text => writtenString text
  | .arr [] => ['[', ']']
  | .arr (item :: items) => '[' :: written item ++ writtenItems items
  | .obj [] => ['\x7b', '\x7d']
  | .obj ((name, value) :: members) =>
    '\x7b' :: writtenString name ++ ':' :: written value ++ writtenMembers members

/-- The items after the first one, each behind a comma, and the closing bracket. -/
def writtenItems : List Value → Text
  | [] => [']']
  | item :: items => ',' :: written item ++ writtenItems items

/-- The members after the first one, each behind a comma, and the closing brace. -/
def writtenMembers : List (Text × Value) → Text
  | [] => ['\x7d']
  | (name, value) :: members =>
    ',' :: writtenString name ++ ':' :: written value ++ writtenMembers members

end

/-- Put a member into members sorted by name; a member of the same name gives way to it. -/
def insert (name : Text) (value : Value) : List (Text × Value) → List (Text × Value)
  | [] => [(name, value)]
  | (other, old) :: members =>
    if name = other then (name, value) :: members
    else if name < other then (name, value) :: (other, old) :: members
    else (other, old) :: insert name value members

end Value

end ScriptDesk.Json
