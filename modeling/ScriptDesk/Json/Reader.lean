import ScriptDesk.Json.Tree
import ScriptDesk.Text.Hex

/-!
# Reading JSON text

`Tree.read` reads one value from the front of a text and gives the tree and what is left of the
text, or no rest when reading cannot go on. Blanks between tokens are space, tab, line feed and
carriage return. The recursion is bounded by a number of steps that the length of the text supplies
(`Tree.ofText`): each two steps consume a character.
-/

namespace ScriptDesk.Json

/-- Blank between the tokens of JSON text. -/
def isGap (c : Char) : Bool :=
  c == ' ' || c == '\t' || c == '\n' || c == '\r'

/-- The text from its first character that is not blank. -/
def skipGap (text : Text) : Text :=
  text.dropWhile isGap

/-- The number that four hexadecimal digits denote. -/
def hexQuad? (a b c d : Char) : Option Nat :=
  Text.ofHex? [a, b, c, d]

/-- The unit starts a surrogate pair. -/
def isHighSurrogate (unit : Nat) : Bool :=
  0xD800 ≤ unit && unit ≤ 0xDBFF

/-- The unit ends a surrogate pair. -/
def isLowSurrogate (unit : Nat) : Bool :=
  0xDC00 ≤ unit && unit ≤ 0xDFFF

/-- The character that a surrogate pair stands for. -/
def ofSurrogates (high low : Nat) : Char :=
  Char.ofNat ((high - 0xD800) * 0x400 + (low - 0xDC00) + 0x10000)

/-- The character that a backslash and a letter stand for. -/
def escaped? : Char → Option Char
  | '"' => some '"'
  | '\\' => some '\\'
  | '/' => some '/'
  | 'b' => some '\x08'
  | 'f' => some '\x0c'
  | 'n' => some '\n'
  | 'r' => some '\r'
  | 't' => some '\t'
  | _ => none

/-- A part of a string as it is spelled: a character, or a unit given by four hexadecimal digits. -/
inductive Spelled where
  /-- A character, bare or behind a backslash. -/
  | char (c : Char)
  /-- A sixteen-bit unit. -/
  | unit (n : Nat)
  deriving DecidableEq, Repr

/-- The text that the parts of a string denote, behind a unit that may have started a surrogate
pair. There is none if a surrogate is not paired. -/
def spelledText : (high : Option Nat) → List Spelled → Option Text
  | none, [] => some []
  | none, .char c :: parts => (spelledText none parts).map (c :: ·)
  | none, .unit n :: parts =>
    if isHighSurrogate n then spelledText (some n) parts
    else if isLowSurrogate n then none
    else (spelledText none parts).map (Char.ofNat n :: ·)
  | some high, .unit n :: parts =>
    if isLowSurrogate n then (spelledText none parts).map (ofSurrogates high n :: ·) else none
  | some _, _ => none

/-- Read the parts of a string from behind its opening quote, and what follows the closing quote. -/
def readSpelled : Text → Option (List Spelled × Text)
  | [] => none
  | '"' :: rest => some ([], rest)
  | '\\' :: 'u' :: a :: b :: c :: d :: rest =>
    match hexQuad? a b c d with
    | some n => (readSpelled rest).map fun (parts, rest) => (.unit n :: parts, rest)
    | none => none
  | '\\' :: c :: rest =>
    match escaped? c with
    | some e => (readSpelled rest).map fun (parts, rest) => (.char e :: parts, rest)
    | none => none
  | c :: rest =>
    if c = '\\' ∨ c.toNat < 0x20 then none
    else (readSpelled rest).map fun (parts, rest) => (.char c :: parts, rest)

/-- Read a string from behind its opening quote: its value and what follows the closing quote. -/
def readString (text : Text) : Option (Option Text × Text) :=
  (readSpelled text).map fun (parts, rest) => (spelledText none parts, rest)

/-- The digits at the front of the text, and the rest. -/
def takeDigits (text : Text) : Text × Text :=
  (text.takeWhile Char.isDigit, text.dropWhile Char.isDigit)

/-- Read the digits before the point: a single zero, or digits that start with another one. -/
def readWhole (text : Text) : Option (Text × Text) :=
  match takeDigits text with
  | ([], _) => none
  | (['0'], rest) => some (['0'], rest)
  | ('0' :: _, _) => none
  | (digits, rest) => some (digits, rest)

/-- Read the point and the digits behind it, if there is a point. -/
def readFraction : Text → Option (Option Text × Text)
  | '.' :: rest =>
    match takeDigits rest with
    | ([], _) => none
    | (digits, rest) => some (some digits, rest)
  | text => some (none, text)

/-- Read the exponent, if there is one: its mark, an optional sign, digits. -/
def readExponent : Text → Option (Option (Bool × Text) × Text)
  | [] => some (none, [])
  | c :: rest =>
    if c = 'e' ∨ c = 'E' then
      let (minus, rest) := match rest with
        | '+' :: rest => (false, rest)
        | '-' :: rest => (true, rest)
        | rest => (false, rest)
      match takeDigits rest with
      | ([], _) => none
      | (digits, rest) => some (some (minus, digits), rest)
    else some (none, c :: rest)

/-- Read a number literal. -/
def readLiteral (text : Text) : Option (Literal × Text) := do
  let (negative, rest) := match text with
    | '-' :: rest => (true, rest)
    | rest => (false, rest)
  let (whole, rest) ← readWhole rest
  let (fraction, rest) ← readFraction rest
  let (exponent, rest) ← readExponent rest
  return (⟨negative, whole, fraction, exponent⟩, rest)

namespace Tree

/-- The outcome of reading: a tree, and the rest of the text if reading can go on. -/
abbrev Outcome (α : Type) := α × Option Text

/-- A word with a value of its own. -/
def readWord (word : Text) (value : Tree) (text : Text) : Outcome Tree :=
  match word.isPrefixOf? text with
  | some rest => (value, some rest)
  | none => (.broken, none)

/-- Put an item in front of the items that follow it. -/
def pushItem (item : Tree) (rest : Outcome (List Tree × Bool)) : Outcome (List Tree × Bool) :=
  ((item :: rest.1.1, rest.1.2), rest.2)

/-- Put a member in front of the members that follow it. -/
def pushMember (name : Option Text) (value : Tree)
    (rest : Outcome (List (Option Text × Tree) × Bool)) :
    Outcome (List (Option Text × Tree) × Bool) :=
  (((name, value) :: rest.1.1, rest.1.2), rest.2)

mutual

/-- Read a value that stands at the front of the text, blanks aside. -/
def read : (steps : Nat) → Text → Outcome Tree
  | 0, _ => (.broken, none)
  | steps + 1, text =>
    match skipGap text with
    | [] => (.broken, none)
    | 'n' :: rest => readWord ['u', 'l', 'l'] .null rest
    | 't' :: rest => readWord ['r', 'u', 'e'] (.bool true) rest
    | 'f' :: rest => readWord ['a', 'l', 's', 'e'] (.bool false) rest
    | '"' :: rest =>
      match readString rest with
      | some (value, rest) => (.str value, some rest)
      | none => (.broken, none)
    | '[' :: rest =>
      match skipGap rest with
      | ']' :: rest => (.arr [] true, some rest)
      | rest =>
        let ((items, closed), rest) := readItems steps rest
        (.arr items closed, rest)
    | '\x7b' :: rest =>
      match skipGap rest with
      | '\x7d' :: rest => (.obj [] true, some rest)
      | '"' :: rest =>
        let ((members, closed), rest) := readMembers steps rest
        (.obj members closed, rest)
      | rest => (.misnamed (read steps rest).1, none)
    | c :: rest =>
      match readLiteral (c :: rest) with
      | some (literal, rest) => (.num literal.value?, some rest)
      | none => (.broken, none)

/-- Read the items of an array from the front of an item to the closing bracket. -/
def readItems : (steps : Nat) → Text → Outcome (List Tree × Bool)
  | 0, _ => (([], false), none)
  | steps + 1, text =>
    match read steps text with
    | (item, none) => (([item], false), none)
    | (item, some rest) =>
      match skipGap rest with
      | ']' :: rest => (([item], true), some rest)
      | ',' :: rest => pushItem item (readItems steps rest)
      | _ => (([item], false), none)

/-- Read the members of an object from behind the opening quote of a name to the closing brace. -/
def readMembers : (steps : Nat) → Text → Outcome (List (Option Text × Tree) × Bool)
  | 0, _ => (([], false), none)
  | steps + 1, text =>
    match readString text with
    | none => (([], false), none)
    | some (name, rest) =>
      match skipGap rest with
      | ':' :: rest =>
        match read steps rest with
        | (value, none) => (([(name, value)], false), none)
        | (value, some rest) =>
          match skipGap rest with
          | '\x7d' :: rest => (([(name, value)], true), some rest)
          | ',' :: rest =>
            match skipGap rest with
            | '"' :: rest => pushMember name value (readMembers steps rest)
            | _ => (([(name, value)], false), none)
          | _ => (([(name, value)], false), none)
      | _ => (([(name, .broken)], false), none)

end

/-- Read a value from the front of the text. -/
def ofText (text : Text) : Outcome Tree :=
  read (2 * text.length + 1) text

end Tree

end ScriptDesk.Json
