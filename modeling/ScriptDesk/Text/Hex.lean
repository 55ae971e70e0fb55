import ScriptDesk.Text.Basic

/-!
# Hexadecimal numerals

Digits are read in either case and written in lower case. `hexNumeral` writes a number with a fixed
count of digits, and `ofHex?` reads it back (`ofHex?_hexNumeral`).
-/

namespace ScriptDesk

/-- The value of a hexadecimal digit, in either case. -/
def hexValue? (c : Char) : Option Nat :=
  if '0' ≤ c ∧ c ≤ '9' then some (c.toNat - '0'.toNat)
  else if 'a' ≤ c ∧ c ≤ 'f' then some (c.toNat - 'a'.toNat + 10)
  else if 'A' ≤ c ∧ c ≤ 'F' then some (c.toNat - 'A'.toNat + 10)
  else none

/-- The lower-case digit of a number below sixteen. -/
def hexDigit (n : Nat) : Char :=
  Nat.digitChar n

theorem hexValue?_hexDigit {n : Nat} (h : n < 16) : hexValue? (hexDigit n) = some n := by
  have all : ∀ n, n < 16 → hexValue? (hexDigit n) = some n := by decide
  exact all n h

namespace Text

/-- The number that the digits denote behind a number that was read before. -/
def ofHexFrom? : Nat → Text → Option Nat
  | n, [] => some n
  | n, c :: rest => (hexValue? c).bind fun d => ofHexFrom? (n * 16 + d) rest

/-- The number that a row of hexadecimal digits denotes. -/
def ofHex? (digits : Text) : Option Nat :=
  ofHexFrom? 0 digits

/-- The last `count` hexadecimal digits of a number. -/
def hexNumeral : (count : Nat) → Nat → Text
  | 0, _ => []
  | count + 1, n => hexNumeral count (n / 16) ++ [hexDigit (n % 16)]

@[simp] theorem length_hexNumeral (count n : Nat) : (hexNumeral count n).length = count := by
  induction count generalizing n with
  | zero => rfl
  | succ count ih => simp [hexNumeral, ih]

theorem ofHexFrom?_append (n : Nat) (a b : Text) :
    ofHexFrom? n (a ++ b) = (ofHexFrom? n a).bind fun m => ofHexFrom? m b := by
  induction a generalizing n with
  | nil => rfl
  | cons c rest ih =>
    simp only [List.cons_append, ofHexFrom?]
    cases hexValue? c with
    | none => rfl
    | some d => simp [ih]

/-- A number with few enough digits is read back. -/
theorem ofHex?_hexNumeral {count n : Nat} (h : n < Nat.pow 16 count) :
    ofHex? (hexNumeral count n) = some n := by
  induction count generalizing n with
  | zero =>
    have : n = 0 := by simpa using h
    simp [ofHex?, hexNumeral, ofHexFrom?, this]
  | succ count ih =>
    have hlt : n / 16 < Nat.pow 16 count := by
      exact Nat.div_lt_of_lt_mul (Nat.mul_comm 16 _ ▸ h)
    have hread := ih hlt
    simp only [ofHex?] at hread ⊢
    rw [hexNumeral, ofHexFrom?_append, hread]
    simp only [Option.bind_some, ofHexFrom?, hexValue?_hexDigit (Nat.mod_lt n (by decide))]
    congr 1
    omega

end Text

end ScriptDesk
