import ScriptDesk.Text.Basic

/-!
# What is wrong with JSON text

A `Fault` is the reason why a text does not hold the value that was asked for, and `message` is its
wording. Every breach of the syntax has the same wording.
-/

namespace ScriptDesk.Json

/-- Why a text does not hold the value that was asked for. -/
inductive Fault where
  /-- The text is not JSON, or not of the expected shape where the two are not told apart. -/
  | syntaxError
  /-- A field that has to be there is not. -/
  | missingField (name : Text)
  /-- A field is there twice. -/
  | duplicateField (name : Text)
  /-- A name that is none of the known ones. -/
  | unknownVariant (given : Text) (known : List Text)
  /-- A value of another type. -/
  | invalidType (found expected : Text)
  /-- A value of the right type out of range. -/
  | invalidValue (found expected : Text)
  /-- An array of another length. -/
  | invalidLength (length : Nat) (expected : Text)
  /-- A string that spells no identity. -/
  | invalidIdentity
  deriving DecidableEq, Repr

namespace Fault

/-- A word between grave accents. -/
def ticked (word : Text) : Text :=
  "`".toList ++ word ++ "`".toList

/-- The names that were possible. -/
def choices (known : List Text) : Text :=
  match known with
  | [] => "there are no variants".toList
  | [only] => "expected ".toList ++ ticked only
  | [first, second] => "expected ".toList ++ ticked first ++ " or ".toList ++ ticked second
  | names => "expected one of ".toList ++ Text.join ", ".toList (names.map ticked)

/-- The wording of a fault. -/
def message : Fault → Text
  | .syntaxError => "syntax error".toList
  | .missingField name => "missing field ".toList ++ ticked name
  | .duplicateField name => "duplicate field ".toList ++ ticked name
  | .unknownVariant given known =>
    "unknown variant ".toList ++ ticked given ++ ", ".toList ++ choices known
  | .invalidType found expected =>
    "invalid type: ".toList ++ found ++ ", expected ".toList ++ expected
  | .invalidValue found expected =>
    "invalid value: ".toList ++ found ++ ", expected ".toList ++ expected
  | .invalidLength length expected =>
    "invalid length ".toList ++ Text.ofNat length ++ ", expected ".toList ++ expected
  | .invalidIdentity => "UUID parsing failed".toList

end Fault

end ScriptDesk.Json
