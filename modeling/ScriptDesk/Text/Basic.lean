/-!
# Text

All text that the desk handles (code, names, buffers, wire lines) is a list of Unicode scalar
values. Editing positions count scalar values, so this is also the unit in which text is measured.
What is cut at marks and joined again may also consist of other units, such as bytes.

This module holds the type and the few operations every other part needs: decimal numerals,
joining, cutting at a mark or behind it, and the case map on ASCII letters.
-/

namespace ScriptDesk

/-- A piece of text: its units in order, which are Unicode scalar values unless others are named. -/
abbrev Text (unit : Type := Char) := List unit

namespace Text

/-- The decimal numeral of a natural number, without leading zeros. -/
def ofNat (n : Nat) : Text :=
  Nat.toDigits 10 n

/-- The decimal numeral of an integer; a negative one has a minus sign in front. -/
def ofInt : Int → Text
  | .ofNat n => ofNat n
  | .negSucc n => '-' :: ofNat (n + 1)

section Marks

variable {α : Type}

/-- The pieces with `separator` between each two neighbours. -/
def join (separator : Text α) : List (Text α) → Text α
  | [] => []
  | [piece] => piece
  | piece :: pieces => piece ++ separator ++ join separator pieces

@[simp] theorem join_nil (separator : Text α) : join separator [] = [] := rfl

@[simp] theorem join_singleton (separator piece : Text α) : join separator [piece] = piece := rfl

theorem join_cons_cons (separator piece next : Text α) (pieces : List (Text α)) :
    join separator (piece :: next :: pieces) =
      piece ++ separator ++ join separator (next :: pieces) := rfl

variable [DecidableEq α]

/-- The pieces between the occurrences of `mark`: one more than there are occurrences. -/
def cutAt (mark : α) : Text α → List (Text α)
  | [] => [[]]
  | c :: rest =>
    if c = mark then [] :: cutAt mark rest
    else
      match cutAt mark rest with
      | [] => [[c]]
      | piece :: pieces => (c :: piece) :: pieces

theorem cutAt_ne_nil (mark : α) (text : Text α) : cutAt mark text ≠ [] := by
  cases text with
  | nil => simp [cutAt]
  | cons c rest =>
    simp only [cutAt]
    split
    · simp
    · split <;> simp

/-- Joining the pieces again gives the text back. -/
theorem join_cutAt (mark : α) (text : Text α) : join [mark] (cutAt mark text) = text := by
  induction text with
  | nil => rfl
  | cons c rest ih =>
    simp only [cutAt]
    split
    · rename_i h
      subst h
      cases hr : cutAt c rest with
      | nil => exact absurd hr (cutAt_ne_nil c rest)
      | cons piece pieces =>
        rw [hr] at ih
        simp [join_cons_cons, ih]
    · cases hr : cutAt mark rest with
      | nil => exact absurd hr (cutAt_ne_nil mark rest)
      | cons piece pieces =>
        rw [hr] at ih
        cases pieces with
        | nil => simpa using ih
        | cons next pieces =>
          rw [join_cons_cons] at ih
          simp [join_cons_cons, ← ih]

/-- The text cut behind each occurrence of `mark`; no piece is empty. -/
def cutAfter (mark : α) : Text α → List (Text α)
  | [] => []
  | c :: rest =>
    if c = mark then [c] :: cutAfter mark rest
    else
      match cutAfter mark rest with
      | [] => [[c]]
      | piece :: others => (c :: piece) :: others

/-- Cutting behind marks loses nothing. -/
@[simp] theorem flatten_cutAfter (mark : α) (text : Text α) :
    (cutAfter mark text).flatten = text := by
  induction text with
  | nil => rfl
  | cons c rest ih =>
    simp only [cutAfter]
    split
    · simp [ih]
    · cases h : cutAfter mark rest with
      | nil => simp_all
      | cons piece others =>
        rw [h] at ih
        simp [← ih]

end Marks

/-- Letters `A` to `Z` in lower case, everything else as it is. -/
def lowerAscii (text : Text) : Text :=
  text.map Char.toLower

/-- `part` occurs somewhere in the text. -/
def mentions (part : Text) : Text → Bool
  | [] => part.isEmpty
  | c :: rest => part.isPrefixOf (c :: rest) || mentions part rest

/-- Order by scalar values, which is also the order of the encoded bytes. -/
def before (a b : Text) : Bool :=
  !decide (b < a)

end Text

end ScriptDesk
