/-!
# Double-precision numbers

A finite double is a sign and a magnitude `significand · 2 ^ exponent` with a significand below
`2 ^ 53`. Everything here is exact integer arithmetic: an operation takes the true result as a
fraction and rounds it once, to the nearest double and at a tie to the even significand.
-/

namespace ScriptDesk

/-- A finite double: `±significand · 2 ^ exponent`. -/
structure Double where
  /-- The sign, also of zero. -/
  negative : Bool
  /-- The significand, below `2 ^ 53`. -/
  significand : Nat
  /-- The power of two, from `-1074` to `971`. -/
  exponent : Int
  deriving DecidableEq, Repr, Inhabited

namespace Double

/-- The least power of two that occurs. -/
def minExponent : Int := -1074

/-- The greatest power of two that occurs. -/
def maxExponent : Int := 971

/-- The quotient of two natural numbers, rounded to the nearest one; a tie goes to the even one. -/
def roundDiv (num den : Nat) : Nat :=
  let quotient := num / den
  let rest := num % den
  if 2 * rest < den then quotient
  else if den < 2 * rest then quotient + 1
  else if quotient % 2 = 0 then quotient
  else quotient + 1

/-- The fraction `num / den · 2 ^ shift` as a new fraction. -/
def scaled (num den : Nat) (shift : Int) : Nat × Nat :=
  if 0 ≤ shift then (num * Nat.pow 2 shift.toNat, den)
  else (num, den * Nat.pow 2 (-shift).toNat)

/-- The nonnegative double nearest to `num / den`; there is none when that lies beyond the greatest
double. -/
def ofRatio? (num den : Nat) : Option Double :=
  if num = 0 then some ⟨false, 0, minExponent⟩
  else
    let guess : Int := (Nat.log2 num : Int) - Nat.log2 den - 53
    let (n, d) := scaled num den (-guess)
    let power := max (if d * Nat.pow 2 53 ≤ n then guess + 1 else guess) minExponent
    let (n, d) := scaled num den (-power)
    let rounded := roundDiv n d
    let (significand, power) :=
      if rounded = Nat.pow 2 53 then (Nat.pow 2 52, power + 1) else (rounded, power)
    if maxExponent < power then none else some ⟨false, significand, power⟩

/-- The magnitude is zero. -/
def isZero (x : Double) : Bool :=
  x.significand == 0

/-- The number with its sign turned round. -/
def neg (x : Double) : Double :=
  { x with negative := !x.negative }

/-- The magnitude as a fraction. -/
def ratio (x : Double) : Nat × Nat :=
  scaled x.significand 1 x.exponent

/-- The double nearest to a natural number. -/
def ofNat? (n : Nat) : Option Double :=
  ofRatio? n 1

/-- The product of two magnitudes. -/
def mul? (x y : Double) : Option Double :=
  let (a, b) := x.ratio
  let (c, d) := y.ratio
  ofRatio? (a * c) (b * d)

/-- The quotient of two magnitudes. -/
def div? (x y : Double) : Option Double :=
  let (a, b) := x.ratio
  let (c, d) := y.ratio
  if c = 0 then none else ofRatio? (a * d) (b * c)

end Double

end ScriptDesk
