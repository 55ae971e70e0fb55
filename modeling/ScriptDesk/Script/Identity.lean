import ScriptDesk.Json.Decode
import ScriptDesk.Text.Hex

/-!
# Identities of scripts

A script is known by a number of 128 bits. It is spelled with 32 hexadecimal digits, bare or in five
groups with hyphens between them; the grouped form may stand in braces or behind `urn:uuid:`. It is
written in lower-case groups, and `ofText?` reads that back (`ofText?_text`).
-/

namespace ScriptDesk

/-- The identity of a script. -/
structure ScriptId where
  /-- The bits of the identity. -/
  bits : BitVec 128
  deriving DecidableEq, Repr, Inhabited

namespace ScriptId

/-- The identity made of random bits; those that mark it as random are fixed. -/
def ofRandomBits (bits : BitVec 128) : ScriptId :=
  let marks : BitVec 128 := 0xf <<< 76 ||| 0x3 <<< 62
  ⟨(bits &&& ~~~marks) ||| 0x4 <<< 76 ||| 0x2 <<< 62⟩

/-- How many digits the groups have. -/
def groupLengths : List Nat := [8, 4, 4, 4, 12]

/-- The identity with the given 32 digits. -/
def ofDigits? (digits : Text) : Option ScriptId :=
  if digits.length = 32 then (Text.ofHex? digits).map fun n => ⟨BitVec.ofNat 128 n⟩ else none

/-- The identity spelled in five groups. -/
def ofGroups? (text : Text) : Option ScriptId :=
  let groups := text.cutAt '-'
  if groups.map List.length = groupLengths then ofDigits? groups.flatten else none

/-- The text between braces that are its first and last characters. -/
def inBraces? : Text → Option Text
  | '\x7b' :: rest => if rest.getLast? = some '\x7d' then some rest.dropLast else none
  | _ => none

/-- What may stand before the groups. -/
def urnMark : Text := "urn:uuid:".toList

/-- The text behind the mark, whose letters may be of either case. -/
def behindUrn? (text : Text) : Option Text :=
  if Text.lowerAscii (text.take urnMark.length) = urnMark then some (text.drop urnMark.length)
  else none

/-- The identity that a text spells in one of the four ways. -/
def ofText? (text : Text) : Option ScriptId :=
  ofDigits? text <|> ofGroups? text <|> (inBraces? text).bind ofGroups? <|>
    (behindUrn? text).bind ofGroups?

/-- The identity in lower-case groups. -/
def text (id : ScriptId) : Text :=
  let digits := Text.hexNumeral 32 id.bits.toNat
  digits.take 8 ++ '-' :: (digits.drop 8).take 4 ++ '-' :: (digits.drop 12).take 4 ++
    '-' :: (digits.drop 16).take 4 ++ '-' :: digits.drop 20

/-- Decode an identity from JSON. -/
def decode : Json.Decoder ScriptId
  | _, .str (some spelling) =>
    match ofText? spelling with
    | some id => .ok id
    | none => .error .invalidIdentity
  | _, t => .error (t.mismatch "a formatted UUID string".toList)

end ScriptId

end ScriptDesk
