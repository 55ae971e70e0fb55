import ScriptDesk.Decimal.Double
import ScriptDesk.Text.Hex
import ScriptDesk.Toml.Table

/-!
# Strings, numbers and dates of a TOML document

A reader takes what it reads from the front of a text and gives the rest, or nothing if the text
does not start so. Strings are basic or literal, on one line or on several. Numbers may have
underscores between digits. Of floats, dates and times only their form and range matter here.
-/

namespace ScriptDesk.Toml

/-- A space or tab. -/
def isBlankChar (c : Char) : Bool :=
  c == ' ' || c == '\t'

/-- The text from its first character that is neither space nor tab. -/
def skipBlanks (text : Text) : Text :=
  text.dropWhile isBlankChar

/-- The character may stand in comments and strings: a tab, or no control character. -/
def isPlain (c : Char) : Bool :=
  c == '\t' || (0x20 ≤ c.toNat && c.toNat != 0x7F)

/-! ## Strings -/

/-- The character with a scalar value. -/
def scalar? (n : Nat) : Option Char :=
  if n.isValidChar then some (Char.ofNat n) else none

/-- The character that a backslash and a letter stand for. -/
def escaped? : Char → Option Char
  | '"' => some '"'
  | '\\' => some '\\'
  | 'b' => some '\x08'
  | 'f' => some '\x0c'
  | 'n' => some '\n'
  | 'r' => some '\r'
  | 't' => some '\t'
  | _ => none

/-- Put a character in front of a text that was read. -/
def push (c : Char) (rest : Option (Text × Text)) : Option (Text × Text) :=
  rest.map fun (text, rest) => (c :: text, rest)

/-- A character by its hexadecimal digits, in front of a text that was read. -/
def pushScalar (digits : Text) (rest : Option (Text × Text)) : Option (Text × Text) :=
  ((Text.ofHex? digits).bind scalar?).bind fun c => push c rest

/-- Read a basic string on one line from behind its opening quote. -/
def readBasic : Text → Option (Text × Text)
  | [] => none
  | '"' :: rest => some ([], rest)
  | '\\' :: 'u' :: a :: b :: c :: d :: rest => pushScalar [a, b, c, d] (readBasic rest)
  | '\\' :: 'U' :: a :: b :: c :: d :: e :: f :: g :: h :: rest =>
    pushScalar [a, b, c, d, e, f, g, h] (readBasic rest)
  | '\\' :: c :: rest => (escaped? c).bind fun e => push e (readBasic rest)
  | c :: rest => if c != '\\' && isPlain c then push c (readBasic rest) else none

/-- The rest of the line is blank, and there is a next line. -/
def endsLine (text : Text) : Bool :=
  match skipBlanks text with
  | '\n' :: _ | '\r' :: '\n' :: _ => true
  | _ => false

/-- Read a basic string on several lines from behind its opening quotes. Up to two quotes may stand
before the closing three. A backslash at the end of a line joins it with the next text; `joining`
says that this goes on. -/
def readBasicLines : (joining : Bool) → Text → Option (Text × Text)
  | _, [] => none
  | true, '\r' :: '\n' :: rest => readBasicLines true rest
  | false, '\r' :: '\n' :: rest => push '\n' (readBasicLines false rest)
  | _, '"' :: '"' :: '"' :: '"' :: '"' :: rest => some (['"', '"'], rest)
  | _, '"' :: '"' :: '"' :: '"' :: rest => some (['"'], rest)
  | _, '"' :: '"' :: '"' :: rest => some ([], rest)
  | _, '\\' :: 'u' :: a :: b :: c :: d :: rest =>
    pushScalar [a, b, c, d] (readBasicLines false rest)
  | _, '\\' :: 'U' :: a :: b :: c :: d :: e :: f :: g :: h :: rest =>
    pushScalar [a, b, c, d, e, f, g, h] (readBasicLines false rest)
  | joining, c :: rest =>
    if c = '\n' then
      if joining then readBasicLines true rest else push '\n' (readBasicLines false rest)
    else if joining && isBlankChar c then readBasicLines true rest
    else if c = '\\' then
      if endsLine rest then readBasicLines true rest
      else
        match rest with
        | [] => none
        | e :: rest => (escaped? e).bind fun c => push c (readBasicLines false rest)
    else if isPlain c then push c (readBasicLines false rest)
    else none

/-- Read a literal string on one line from behind its opening quote. -/
def readLiteral : Text → Option (Text × Text)
  | [] => none
  | c :: rest =>
    if c = '\x27' then some ([], rest)
    else if isPlain c then push c (readLiteral rest)
    else none

/-- Read a literal string on several lines from behind its opening quotes. -/
def readLiteralLines : Text → Option (Text × Text)
  | [] => none
  | '\r' :: '\n' :: rest => push '\n' (readLiteralLines rest)
  | '\x27' :: '\x27' :: '\x27' :: '\x27' :: '\x27' :: rest => some (['\x27', '\x27'], rest)
  | '\x27' :: '\x27' :: '\x27' :: '\x27' :: rest => some (['\x27'], rest)
  | '\x27' :: '\x27' :: '\x27' :: rest => some ([], rest)
  | c :: rest => if c = '\n' || isPlain c then push c (readLiteralLines rest) else none

/-- The text without a line end in front. -/
def withoutNewline : Text → Text
  | '\n' :: rest | '\r' :: '\n' :: rest => rest
  | text => text

/-- Read a string of any kind. -/
def readString : Text → Option (Text × Text)
  | '"' :: '"' :: '"' :: rest => readBasicLines false (withoutNewline rest)
  | '"' :: rest => readBasic rest
  | '\x27' :: '\x27' :: '\x27' :: rest => readLiteralLines (withoutNewline rest)
  | '\x27' :: rest => readLiteral rest
  | _ => none

/-! ## Numbers -/

/-- Read further digits, each of which may stand behind an underscore. -/
def readMoreDigits (isDigit : Char → Bool) : Text → Text × Text
  | [] => ([], [])
  | '_' :: c :: rest =>
    if isDigit c then
      let (digits, rest) := readMoreDigits isDigit rest
      (c :: digits, rest)
    else ([], '_' :: c :: rest)
  | c :: rest =>
    if isDigit c then
      let (digits, rest) := readMoreDigits isDigit rest
      (c :: digits, rest)
    else ([], c :: rest)

/-- Read digits, with underscores between them. -/
def readDigits (isDigit : Char → Bool) : Text → Option (Text × Text)
  | [] => none
  | c :: rest =>
    if isDigit c then
      let (digits, rest) := readMoreDigits isDigit rest
      some (c :: digits, rest)
    else none

/-- Read the digits of a whole number: a zero, or digits that start with another one. -/
def readWhole : Text → Option (Text × Text)
  | '0' :: rest => some (['0'], rest)
  | text => readDigits Char.isDigit text

/-- The first positive number that 64 bits with a sign do not hold. -/
def integerLimit : Int := 9223372036854775808

/-- An integer, if 64 bits hold it. -/
def integer? (n : Int) : Option Item :=
  if -integerLimit ≤ n ∧ n < integerLimit then some (.integer n) else none

/-- The number that digits denote in a base. -/
def digitsValue (base : Nat) (digits : Text) : Nat :=
  digits.foldl (fun n c => n * base + (hexValue? c).getD 0) 0

/-- Read an integer in another base from behind its mark. -/
def readBased (base : Nat) (text : Text) : Option (Item × Text) := do
  let isDigit := fun c => match hexValue? c with
    | some d => d < base
    | none => false
  let (digits, rest) ← readDigits isDigit text
  return (← integer? (digitsValue base digits), rest)

/-- Read a fraction behind its point, if there is a point. -/
def readFraction : Text → Option (Option Text × Text)
  | '.' :: rest => (readDigits Char.isDigit rest).map fun (digits, rest) => (some digits, rest)
  | text => some (none, text)

/-- Read an exponent: its mark, an optional sign, digits. -/
def readExponent : Text → Option (Option Int × Text)
  | [] => some (none, [])
  | c :: rest =>
    if c = 'e' ∨ c = 'E' then
      let (minus, rest) := match rest with
        | '+' :: rest => (false, rest)
        | '-' :: rest => (true, rest)
        | rest => (false, rest)
      (readDigits Char.isDigit rest).map fun (digits, rest) =>
        let value : Int := digitsValue 10 digits
        (some (if minus then -value else value), rest)
    else some (none, c :: rest)

/-- The decimal `digits · 10 ^ power` is not too large for a double. -/
def isFinite (digits : Text) (power : Int) : Bool :=
  let n := digitsValue 10 digits
  if n = 0 then true
  else if 400 < power then false
  else if power < -400 - (digits.length : Int) then true
  else (Double.ofRatio? (n * Nat.pow 10 power.toNat) (Nat.pow 10 (-power).toNat)).isSome

/-- Read a number behind its sign. Too large a float is refused unless it is negative. -/
def readUnsigned (negative : Bool) (text : Text) : Option (Item × Text) := do
  let (whole, rest) ← readWhole text
  let (fraction, rest) ← readFraction rest
  let (exponent, rest) ← readExponent rest
  match fraction, exponent with
  | none, none =>
    let value : Int := digitsValue 10 whole
    return (← integer? (if negative then -value else value), rest)
  | _, _ =>
    let fraction := fraction.getD []
    if negative || isFinite (whole ++ fraction) (exponent.getD 0 - fraction.length) then
      return (.other, rest)
    else none

/-- Read infinity or not-a-number, or else a number behind its sign. -/
def readMagnitude (negative : Bool) : Text → Option (Item × Text)
  | 'i' :: 'n' :: 'f' :: rest => some (.other, rest)
  | 'n' :: 'a' :: 'n' :: rest => some (.other, rest)
  | text => readUnsigned negative text

/-! ## Dates and times -/

/-- The number that two digits denote. -/
def pair? (a b : Char) : Option Nat :=
  if a.isDigit && b.isDigit then some (digitsValue 10 [a, b]) else none

/-- How many days a month has. -/
def daysIn (year month : Nat) : Nat :=
  if month = 2 then
    if year % 4 = 0 ∧ (year % 100 ≠ 0 ∨ year % 400 = 0) then 29 else 28
  else if month = 4 ∨ month = 6 ∨ month = 9 ∨ month = 11 then 30
  else 31

/-- The year, month and day are a date. -/
def isDate (year month day : Nat) : Bool :=
  1 ≤ month && month ≤ 12 && 1 ≤ day && day ≤ daysIn year month

/-- The text after a fraction of a second. -/
def skipFraction : Text → Option Text
  | '.' :: c :: rest => if c.isDigit then some (rest.dropWhile Char.isDigit) else none
  | '.' :: [] => none
  | text => some text

/-- The text after a time. -/
def skipTime : Text → Option Text
  | a :: b :: ':' :: c :: d :: ':' :: e :: f :: rest => do
    let hour ← pair? a b
    let minute ← pair? c d
    let second ← pair? e f
    if hour ≤ 23 ∧ minute ≤ 59 ∧ second ≤ 60 then skipFraction rest else none
  | _ => none

/-- The text after the offset of a time, if there is one. -/
def skipOffset : Text → Option Text
  | 'Z' :: rest | 'z' :: rest => some rest
  | c :: rest =>
    if c = '+' ∨ c = '-' then
      match rest with
      | a :: b :: ':' :: c :: d :: rest => do
        let hour ← pair? a b
        let minute ← pair? c d
        if hour ≤ 23 ∧ minute ≤ 59 then some rest else none
      | _ => none
    else some (c :: rest)
  | [] => some []

/-- The text starts with two digits and a colon, as a time does. -/
def startsTime : Text → Bool
  | a :: b :: ':' :: _ => a.isDigit && b.isDigit
  | _ => false

/-- The text starts with four digits and a hyphen, as a date does. -/
def startsDate : Text → Bool
  | a :: b :: c :: d :: '-' :: _ => a.isDigit && b.isDigit && c.isDigit && d.isDigit
  | _ => false

/-- The text after a date, which a time and an offset may follow. -/
def skipDate : Text → Option Text
  | a :: b :: c :: d :: '-' :: e :: f :: '-' :: g :: h :: rest => do
    let century ← pair? a b
    let year ← pair? c d
    let month ← pair? e f
    let day ← pair? g h
    if !isDate (century * 100 + year) month day then none
    match rest with
    | mark :: time =>
      if mark = 'T' ∨ mark = 't' ∨ (mark = ' ' ∧ startsTime time) then (skipTime time).bind skipOffset
      else some rest
    | [] => some []
  | _ => none

/-- Read a number, a date or a time. -/
def readNumeric (text : Text) : Option (Item × Text) :=
  if startsDate text then (skipDate text).map fun rest => (.other, rest)
  else if startsTime text then (skipTime text).map fun rest => (.other, rest)
  else
    match text with
    | '0' :: 'x' :: rest => readBased 16 rest
    | '0' :: 'o' :: rest => readBased 8 rest
    | '0' :: 'b' :: rest => readBased 2 rest
    | '+' :: rest => readMagnitude false rest
    | '-' :: rest => readMagnitude true rest
    | text => readMagnitude false text

end ScriptDesk.Toml
