import ScriptDesk.Decimal.Shortest

/-!
# Numbers in JSON text

An integer from `-2^63` to `2^64 - 1` is exact. Every other number is a double. A literal is scanned
into its digits (`Literal`), and `Literal.value?` gives its value: the digits that fit in 64 bits
are rounded to a double, and that is multiplied or divided by a power of ten, with one rounding at
each step. A literal too large for a double has no value.
-/

namespace ScriptDesk.Json

/-- A number: an exact integer or a double. -/
inductive Number where
  /-- An integer from `-2^63` to `2^64 - 1`. -/
  | int (value : Int)
  /-- Any other number. -/
  | float (value : Double)
  deriving DecidableEq, Repr, Inhabited

/-- A number literal, cut into its parts; the digits are not empty. -/
structure Literal where
  /-- A minus sign stands in front. -/
  negative : Bool
  /-- The digits before the point. -/
  whole : Text
  /-- The digits after the point, if there is one. -/
  fraction : Option Text
  /-- The sign (`true` is minus) and digits of the exponent, if there is one. -/
  exponent : Option (Bool × Text)
  deriving DecidableEq, Repr

/-- The value of a decimal digit. -/
def digitValue (c : Char) : Nat :=
  c.toNat - '0'.toNat

/-- The natural number that a row of digits denotes. -/
def digitsValue (digits : Text) : Nat :=
  Nat.ofDigitChars 10 digits 0

/-- The first number that 64 bits do not hold. -/
def wordLimit : Nat := 18446744073709551616

namespace Literal

/-- The digits before the point, kept while 64 bits hold them; the rest only count. -/
def takeWhole : Text → Nat → Nat × Nat
  | [], kept => (kept, 0)
  | d :: ds, kept =>
    if kept * 10 + digitValue d < wordLimit then takeWhole ds (kept * 10 + digitValue d)
    else (kept, ds.length + 1)

/-- The digits after the point, kept while 64 bits hold them, and how many were kept. -/
def takeFraction : Text → Nat → Nat × Nat
  | [], kept => (kept, 0)
  | d :: ds, kept =>
    if kept * 10 + digitValue d < wordLimit then
      let (kept, count) := takeFraction ds (kept * 10 + digitValue d)
      (kept, count + 1)
    else (kept, 0)

end Literal

/-- The greatest power of ten that is a double. -/
def maxPowerOfTen : Nat := 308

/-- A power of ten, rounded to a double. -/
def powerOfTen (n : Nat) : Double :=
  (Double.ofNat? (Nat.pow 10 n)).getD default

/-- The double divided by the greatest power of ten so many times; zero stays zero. -/
def shrinkTimes (x : Double) : Nat → Option Double
  | 0 => some x
  | passes + 1 =>
    if x.isZero then some x
    else (x.div? (powerOfTen maxPowerOfTen)).bind fun y => shrinkTimes y passes

/-- The double divided by `10 ^ power`, in steps of at most `10 ^ 308`. -/
def shrink (x : Double) (power : Nat) : Option Double :=
  let passes := (power - 1) / maxPowerOfTen
  (shrinkTimes x passes).bind fun y => y.div? (powerOfTen (power - passes * maxPowerOfTen))

/-- The double multiplied by `10 ^ power`, if the product is one. -/
def grow (x : Double) (power : Nat) : Option Double :=
  if power ≤ maxPowerOfTen then x.mul? (powerOfTen power)
  else if x.isZero then some x
  else none

namespace Literal

/-- The literal's value as a double, if it is not too large. -/
def float? (l : Literal) : Option Double :=
  let (kept, dropped) := takeWhole l.whole 0
  let (kept, taken) := takeFraction (l.fraction.getD []) kept
  let shift : Int := match l.exponent with
    | none => 0
    | some (minus, digits) => if minus then -(digitsValue digits : Int) else digitsValue digits
  let power := (dropped : Int) - taken + shift
  let magnitude := do
    let x ← Double.ofNat? kept
    if 0 ≤ power then grow x power.toNat else shrink x (-power).toNat
  magnitude.map fun x => if l.negative then x.neg else x

/-- The literal's value. A literal without point and exponent is an integer if it is in range;
minus zero is a double. -/
def value? (l : Literal) : Option Number :=
  match l.fraction, l.exponent with
  | none, none =>
    let n := digitsValue l.whole
    if l.negative then
      if 0 < n ∧ 2 * n ≤ wordLimit then some (.int (-(n : Int))) else l.float?.map .float
    else
      if n < wordLimit then some (.int n) else l.float?.map .float
  | _, _ => l.float?.map .float

end Literal

namespace Number

/-- The first digit of a number in positional notation stands at a power of ten from `-5` to
`15`. -/
def isPlain (place : Int) : Bool :=
  -5 ≤ place && place ≤ 15

/-- How a number is written: the shortest digits that read back, positional while the number is
neither very small nor very large. -/
def written : Number → Text
  | .int n => Text.ofInt n
  | .float x =>
    let digits := x.shortest
    let body := if isPlain digits.place then digits.positional else digits.scientific
    if x.negative then '-' :: body else body

/-- How a double is shown in a message: always in positional notation. -/
def shownFloat (x : Double) : Text :=
  if x.negative then '-' :: x.shortest.positional else x.shortest.positional

end Number

end ScriptDesk.Json
