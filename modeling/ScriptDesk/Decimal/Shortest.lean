import ScriptDesk.Decimal.Double
import ScriptDesk.Text.Basic

/-!
# The shortest decimal numeral of a double

Of all decimals that round to a double, the shortest ones have the fewest significant digits, and
of these the one nearest to the double is its numeral. The real numbers that round to a double form
an interval around it, which holds its ends exactly when the significand is even. A grid of
decimals with a given number of digits meets the interval only if one of the two grid points next
to the double lies in it, so these two are tried for each number of digits in turn.
-/

namespace ScriptDesk

/-- A decimal `0.d₁d₂… · 10 ^ (place + 1)`: the first digit stands at the power `place` of ten. -/
structure Digits where
  /-- The significant digits, from the first one that is not zero. -/
  digits : Text
  /-- The power of ten of the first digit. -/
  place : Int
  deriving DecidableEq, Repr

namespace Double

/-- Compare `a · 10 ^ e` with `b · 2 ^ f`: the two as natural numbers with a common factor. -/
def balanced (a : Nat) (e : Int) (b : Nat) (f : Int) : Nat × Nat :=
  (a * Nat.pow 10 e.toNat * Nat.pow 2 (-f).toNat, b * Nat.pow 10 (-e).toNat * Nat.pow 2 f.toNat)

/-- The decimal `point · 10 ^ power` rounds to the double. -/
def accepts (x : Double) (point : Nat) (power : Int) : Bool :=
  let lowGap := if x.significand = Nat.pow 2 52 ∧ minExponent < x.exponent then 1 else 2
  let (p, low) := balanced point power (4 * x.significand - lowGap) (x.exponent - 2)
  let (p', high) := balanced point power (4 * x.significand + 2) (x.exponent - 2)
  if x.significand % 2 = 0 then low ≤ p && p' ≤ high else low < p && p' < high

/-- The power of ten of the first digit of a double that is not zero. -/
def leadingPlace (x : Double) : Int :=
  let (num, den) := x.ratio
  (Text.ofNat (num * Nat.pow 10 340 / den)).length - 341

/-- The neighbours of the double on the grid of multiples of `10 ^ power`, the nearer one first; of
two equally near the even one. -/
def neighbours (x : Double) (power : Int) : List Nat :=
  let (num, den) := x.ratio
  let n := num * Nat.pow 10 (-power).toNat
  let d := den * Nat.pow 10 power.toNat
  let below := n / d
  let rest := n % d
  if rest = 0 then [below]
  else if 2 * rest < d ∨ (2 * rest = d ∧ below % 2 = 0) then [below, below + 1]
  else [below + 1, below]

/-- The first decimal that rounds to the double on the grids with `count`, `count + 1`, … digits. -/
def shortestFrom (x : Double) (place : Int) : (count left : Nat) → Nat × Int
  | count, 0 => ((x.neighbours (place - count + 1)).headD 0, place - count + 1)
  | count, left + 1 =>
    let power := place - count + 1
    match (x.neighbours power).find? (x.accepts · power) with
    | some point => (point, power)
    | none => shortestFrom x place (count + 1) left

/-- The significant digits of the shortest numeral; zero has the digit `0` at the units. -/
def shortest (x : Double) : Digits :=
  if x.isZero then ⟨['0'], 0⟩
  else
    let (point, power) := shortestFrom x x.leadingPlace 1 16
    let all := Text.ofNat point
    let kept := (all.reverse.dropWhile (· = '0')).reverse
    ⟨kept, power + all.length - 1⟩

end Double

namespace Digits

/-- The decimal in positional notation, with at least one digit on each side of the point. -/
def positional (x : Digits) : Text :=
  if 0 ≤ x.place then
    let whole := x.place.toNat + 1
    let fraction := x.digits.drop whole
    x.digits.take whole ++ List.replicate (whole - x.digits.length) '0' ++
      '.' :: (if fraction.isEmpty then ['0'] else fraction)
  else
    ['0', '.'] ++ List.replicate ((-x.place).toNat - 1) '0' ++ x.digits

/-- The decimal in scientific notation: a sign and at least two digits in the exponent. -/
def scientific (x : Digits) : Text :=
  let power := Text.ofNat x.place.natAbs
  x.digits.take 1 ++
    (if x.digits.length ≤ 1 then [] else '.' :: x.digits.drop 1) ++
    ['e', if x.place < 0 then '-' else '+'] ++
    (if power.length < 2 then '0' :: power else power)

end Digits

end ScriptDesk
