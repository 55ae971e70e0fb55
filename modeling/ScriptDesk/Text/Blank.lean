import ScriptDesk.Text.Basic

/-!
# Blank characters and trimming

A character is blank when it has the Unicode property `White_Space`. Trimming removes blanks at the
ends only. The set holds the line and paragraph separators and the no-break spaces, but neither the
zero-width space nor the byte order mark.
-/

namespace ScriptDesk

/-- The blocks of blank characters, as inclusive ranges of scalar values. -/
def blankRanges : List (Nat × Nat) :=
  [(0x09, 0x0D), (0x20, 0x20), (0x85, 0x85), (0xA0, 0xA0), (0x1680, 0x1680), (0x2000, 0x200A),
    (0x2028, 0x2029), (0x202F, 0x202F), (0x205F, 0x205F), (0x3000, 0x3000)]

/-- The character has the property `White_Space`. -/
def isBlank (c : Char) : Bool :=
  blankRanges.any fun (low, high) => low ≤ c.toNat && c.toNat ≤ high

namespace Text

/-- The text without its leading blanks. -/
def trimStart (text : Text) : Text :=
  text.dropWhile isBlank

/-- The text without its trailing blanks. -/
def trimEnd (text : Text) : Text :=
  (text.reverse.dropWhile isBlank).reverse

/-- The text without blanks at either end. -/
def trim (text : Text) : Text :=
  trimEnd (trimStart text)

@[simp] theorem trimStart_nil : trimStart [] = [] := rfl

@[simp] theorem trim_nil : trim [] = [] := rfl

/-- What is left starts with no blank. -/
theorem isBlank_head?_trimStart (text : Text) :
    ∀ c ∈ (trimStart text).head?, isBlank c = false := by
  intro c hc
  induction text with
  | nil => simp at hc
  | cons d rest ih =>
    simp only [trimStart, List.dropWhile_cons] at hc ih
    split at hc
    · exact ih hc
    · simp_all

/-- Trimming the start twice is trimming it once. -/
@[simp] theorem trimStart_trimStart (text : Text) : trimStart (trimStart text) = trimStart text := by
  induction text with
  | nil => rfl
  | cons c rest ih =>
    simp only [trimStart, List.dropWhile_cons] at ih ⊢
    split
    · exact ih
    · rename_i h
      simp [h]

end Text

end ScriptDesk
