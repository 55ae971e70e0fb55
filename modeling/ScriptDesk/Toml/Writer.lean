import ScriptDesk.Text.Hex

/-!
# How TOML strings are written

A string is written between double quotes. The quote, the backslash and the characters that a
document may not hold are escaped; everything else stands for itself.
-/

namespace ScriptDesk.Toml

/-- How one character is written inside a string. -/
def writtenChar (c : Char) : Text :=
  if c = '"' ∨ c = '\\' then ['\\', c]
  else if c.toNat < 0x20 ∨ c.toNat = 0x7f then '\\' :: 'u' :: Text.hexNumeral 4 c.toNat
  else [c]

/-- A string as it is written. -/
def writtenString (text : Text) : Text :=
  '"' :: text.flatMap writtenChar ++ ['"']

end ScriptDesk.Toml
