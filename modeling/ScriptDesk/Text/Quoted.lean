import ScriptDesk.Text.Basic
import ScriptDesk.Text.Printable

/-!
# Quoted text

Quoted text stands between double quotes. A tab, carriage return, line feed, NUL, backslash and
double quote are written with a backslash, a character that is not printable by its scalar value in
hexadecimal, every other character as itself.
-/

namespace ScriptDesk.Text

/-- The hexadecimal numeral of a number, in lower case and without leading zeros. -/
def hexOfNat (n : Nat) : Text :=
  Nat.toDigits 16 n

/-- How one character is written inside quotes. -/
def quotedChar (c : Char) : Text :=
  if c = '\x00' then ['\\', '0']
  else if c = '\t' then ['\\', 't']
  else if c = '\r' then ['\\', 'r']
  else if c = '\n' then ['\\', 'n']
  else if c = '"' then ['\\', '"']
  else if c = '\\' then ['\\', '\\']
  else if isPrintable c then [c]
  else ['\\', 'u', '\x7b'] ++ hexOfNat c.toNat ++ ['\x7d']

/-- The text in double quotes. -/
def quoted (text : Text) : Text :=
  '"' :: text.flatMap quotedChar ++ ['"']

end ScriptDesk.Text
