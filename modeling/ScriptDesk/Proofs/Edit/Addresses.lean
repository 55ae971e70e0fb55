import Mathlib.Data.List.Induction
import Mathlib.Data.Prod.Lex
import ScriptDesk.Edit.Change
import ScriptDesk.Proofs.Text.Boundaries

/-!
# Places of a buffer and their addresses

A place is where a buffer is cut in two. Its address tells how many line feeds stand in front of it
and how many characters behind the last of them. Addresses grow along the buffer
(`address_lt_append`), so the order of places is the one of their addresses, and no two places have
the same.

A position is looked up line by line, but what is found is the place with this address
(`offset?_eq_ok_iff`). Only the places directly behind a carriage return that belongs to the end of
a line are never found (`IsInLineEnd`). Positions have numbers of 32 bits, so the others are all
found unless there are as many lines, or as many characters on one line, as these can count
(`exists_byteOffset?_iff`).
-/

namespace ScriptDesk

open Text

/-- The line and the character of a position, in the order of positions. -/
def Position.address (position : Position) : Nat ×ₗ Nat :=
  toLex (position.line.toNat, position.character.toNat)

theorem Position.compare_eq_lt_iff {a b : Position} :
    a.compare b = .lt ↔ a.address < b.address := by
  simp [Position.compare, Position.address, Prod.Lex.toLex_lt_toLex, Ordering.then_eq_lt,
    Nat.compare_eq_lt]

namespace Buffer

/-- What stands behind the last line feed. -/
def lastLine (front : Text) : Text :=
  (front.reverse.takeWhile (· ≠ '\n')).reverse

/-- The address of the place behind `front`. -/
def address (front : Text) : Nat ×ₗ Nat :=
  toLex (front.count '\n', (lastLine front).length)

/-- The place is directly behind a carriage return that belongs to the end of its line. -/
def IsInLineEnd (front rest : Text) : Prop :=
  front.getLast? = some '\r' ∧ (rest = [] ∨ rest.head? = some '\n')

/-- The place between two parts of a buffer is the one with an address, and it does not fall into
the end of a line. -/
structure IsAt (target : Nat ×ₗ Nat) (front rest : Text) : Prop where
  /-- It is the one with the address. -/
  address_eq : address front = target
  /-- It does not fall into the end of a line. -/
  whole : ¬ IsInLineEnd front rest

/-! ### Addresses -/

theorem address_eq_iff {front : Text} {number character : Nat} :
    address front = toLex (number, character) ↔
      front.count '\n' = number ∧ (lastLine front).length = character := by
  simp [address]

theorem lastLine_concat (front : Text) (c : Char) :
    lastLine (front ++ [c]) = if c = '\n' then [] else lastLine front ++ [c] := by
  by_cases hc : c = '\n' <;> simp [lastLine, hc]

theorem lastLine_of_not_mem {line : Text} (h : '\n' ∉ line) : lastLine line = line := by
  induction line using List.reverseRecOn with
  | nil => rfl
  | append_singleton front c ih =>
    simp only [List.mem_append, List.mem_singleton, not_or] at h
    rw [lastLine_concat, if_neg (Ne.symm h.2), ih h.1]

/-- The lines in front of a line feed do not matter for what stands behind it. -/
@[simp] theorem lastLine_append_feed (line front : Text) :
    lastLine (line ++ '\n' :: front) = lastLine front := by
  induction front using List.reverseRecOn with
  | nil => simp [lastLine]
  | append_singleton front c ih =>
    rw [← List.cons_append, ← List.append_assoc, lastLine_concat, lastLine_concat, ih]

/-- A line in front counts one line more. -/
theorem address_line_eq_iff {line : Text} (h : '\n' ∉ line) {front : Text}
    {number character : Nat} :
    address (line ++ '\n' :: front) = toLex (number + 1, character) ↔
      address front = toLex (number, character) := by
  simp [address, List.count_eq_zero.mpr h]

theorem mem_of_address {front : Text} {number character : Nat}
    (h : address front = toLex (number + 1, character)) : '\n' ∈ front := by
  rw [← List.count_pos_iff, (address_eq_iff.mp h).1]
  exact Nat.succ_pos number

/-- The address of the place behind one more character is greater. -/
theorem address_lt_concat (front : Text) (c : Char) : address front < address (front ++ [c]) := by
  by_cases hc : c = '\n'
  · subst hc
    refine Prod.Lex.toLex_lt_toLex.mpr (.inl ?_)
    simp
  · refine Prod.Lex.toLex_lt_toLex.mpr (.inr ⟨?_, ?_⟩)
    · simp [hc]
    · simp [lastLine_concat, hc]

/-- Addresses grow along a buffer. -/
theorem address_lt_append {front more : Text} (h : more ≠ []) :
    address front < address (front ++ more) := by
  induction more using List.reverseRecOn with
  | nil => exact absurd rfl h
  | append_singleton more c ih =>
    rw [← List.append_assoc]
    by_cases hmore : more = []
    · subst hmore
      rw [List.append_nil]
      exact address_lt_concat front c
    · exact (ih hmore).trans (address_lt_concat _ c)

/-- Of two places of a buffer the one with the lower address is in front. -/
theorem address_lt_iff {front front' rest rest' : Text} (h : front ++ rest = front' ++ rest') :
    address front < address front' ↔ front.length < front'.length := by
  rcases front_cases h.symm with ⟨middle, rfl, -⟩ | ⟨hlt, middle, rfl, -⟩
  · by_cases hmiddle : middle = []
    · simp [hmiddle]
    · have hlt : address front' < address (front' ++ middle) := address_lt_append hmiddle
      simp [hlt.not_gt]
  · have hne : middle ≠ [] := by
      rintro rfl
      simp at hlt
    simp [address_lt_append hne, List.length_pos_iff.mpr hne]

/-! ### Looking up a position -/

/-- How many characters stand before a line and a character in it, given by numbers. -/
def offsetAt? (buffer : Text) (line character : Nat) : Except Misplaced Nat :=
  match lineStart? line buffer with
  | none => .error .line
  | some start =>
    if character ≤ lineLength (buffer.drop start) then .ok (start + character)
    else .error .character

theorem offset?_eq (buffer : Text) (position : Position) :
    offset? buffer position = offsetAt? buffer position.line.toNat position.character.toNat := rfl

theorem lineStart?_of_not_mem {line : Text} (h : '\n' ∉ line) (number : Nat) :
    lineStart? (number + 1) line = none := by
  induction line with
  | nil => rfl
  | cons c line ih =>
    simp only [List.mem_cons, not_or] at h
    simp [lineStart?, Ne.symm h.1, ih h.2]

theorem lineStart?_line {line : Text} (h : '\n' ∉ line) (rest : Text) (number : Nat) :
    lineStart? (number + 1) (line ++ '\n' :: rest) =
      (lineStart? number rest).map (line.length + 1 + ·) := by
  induction line with
  | nil => simp [lineStart?, Nat.add_comm]
  | cons c line ih =>
    simp only [List.mem_cons, not_or] at h
    simp only [List.cons_append, lineStart?, Ne.symm h.1, if_false, ih h.2, Option.map_map,
      List.length_cons]
    congr 1
    funext n
    simp only [Function.comp]
    omega

/-- The end of the first line does not count. -/
theorem lineLength_eq {line tail : Text} (h : '\n' ∉ line)
    (htail : tail = [] ∨ tail.head? = some '\n') :
    lineLength (line ++ tail) = (withoutReturn line).length := by
  have hline : (line ++ tail).takeWhile (· ≠ '\n') = line := by
    have hno : ∀ c ∈ line, decide (c ≠ '\n') = true := by
      intro c hc
      refine decide_eq_true ?_
      rintro rfl
      exact h hc
    rw [List.takeWhile_append_of_pos hno]
    cases tail with
    | nil => simp
    | cons c tail =>
      have hc : c = '\n' := by simpa using htail
      simp [hc]
  simp only [lineLength, hline, withoutReturn, dropLast?]
  split <;> simp

theorem offsetAt?_zero {line tail : Text} (h : '\n' ∉ line)
    (htail : tail = [] ∨ tail.head? = some '\n') (character : Nat) :
    offsetAt? (line ++ tail) 0 character =
      if character ≤ (withoutReturn line).length then .ok character else .error .character := by
  simp [offsetAt?, lineStart?, lineLength_eq h htail]

theorem offsetAt?_of_not_mem {line : Text} (h : '\n' ∉ line) (number character : Nat) :
    offsetAt? line (number + 1) character = .error .line := by
  simp [offsetAt?, lineStart?_of_not_mem h]

/-- Behind a line feed everything is counted anew. -/
theorem offsetAt?_line {line : Text} (h : '\n' ∉ line) (rest : Text) (number character : Nat) :
    offsetAt? (line ++ '\n' :: rest) (number + 1) character =
      (offsetAt? rest number character).map (line.length + 1 + ·) := by
  simp only [offsetAt?, lineStart?_line h]
  cases lineStart? number rest with
  | none => rfl
  | some start =>
    have hdrop : (line ++ '\n' :: rest).drop (line.length + 1 + start) = rest.drop start := by
      rw [Nat.add_assoc, List.drop_append, List.drop_eq_nil_of_le (by omega)]
      simp [Nat.add_comm 1 start]
    simp only [Option.map_some, hdrop]
    by_cases hc : character ≤ lineLength (rest.drop start)
    · simp [hc, Except.map, Nat.add_assoc]
    · simp [hc, Except.map]

/-! ### The place that is found -/

theorem length_withoutReturn (line : Text) :
    (withoutReturn line).length =
      if line.getLast? = some '\r' then line.length - 1 else line.length := by
  simp only [withoutReturn, dropLast?]
  split <;> simp

theorem isInLineEnd_line (line front rest : Text) :
    IsInLineEnd (line ++ '\n' :: front) rest ↔ IsInLineEnd front rest := by
  have hlast : (line ++ '\n' :: front).getLast? = some '\r' ↔ front.getLast? = some '\r' := by
    cases h : front.getLast? with
    | none => simp [List.getLast?_append, List.getLast?_cons, h]
    | some c => simp [List.getLast?_append, List.getLast?_cons, h]
  rw [IsInLineEnd, IsInLineEnd, hlast]

/-- The places on the first line that do not fall into its end. -/
theorem place_zero_iff {line tail : Text} (h : '\n' ∉ line)
    (htail : tail = [] ∨ tail.head? = some '\n') {character n : Nat} :
    (∃ front rest, line ++ tail = front ++ rest ∧ front.length = n ∧
        IsAt (toLex (0, character)) front rest) ↔
      character ≤ (withoutReturn line).length ∧ character = n := by
  rw [length_withoutReturn]
  constructor
  · rintro ⟨front, rest, heq, rfl, haddress, hwhole⟩
    obtain ⟨hcount, hlength⟩ := address_eq_iff.mp haddress
    have hfeed : '\n' ∉ front := List.count_eq_zero.mp hcount
    rw [lastLine_of_not_mem hfeed] at hlength
    refine ⟨?_, hlength.symm⟩
    -- the front does not reach beyond the line
    obtain ⟨more, rfl, rfl⟩ : ∃ more, line = front ++ more ∧ rest = more ++ tail := by
      rcases List.append_eq_append_iff.mp heq with ⟨others, rfl, rfl⟩ | hmore
      · cases others with
        | nil => exact ⟨[], by simp, by simp⟩
        | cons c others =>
          have hc : c = '\n' := by simpa using htail
          exact absurd (by simp [hc]) hfeed
      · exact hmore
    by_cases hmore : more = []
    · subst hmore
      rw [List.append_nil, List.nil_append] at *
      rw [if_neg fun hreturn => hwhole ⟨hreturn, htail⟩, hlength]
    · have := List.length_pos_iff.mpr hmore
      rw [List.length_append]
      split <;> omega
  · rintro ⟨hle, rfl⟩
    have hlength : character ≤ line.length := by
      split at hle <;> omega
    have hfeed : '\n' ∉ line.take character := fun hmem => h (List.mem_of_mem_take hmem)
    refine ⟨line.take character, line.drop character ++ tail, by simp [← List.append_assoc],
      by simp [hlength], ?_, ?_⟩
    · rw [address_eq_iff, lastLine_of_not_mem hfeed]
      exact ⟨List.count_eq_zero.mpr hfeed, List.length_take_of_le hlength⟩
    · rintro ⟨hreturn, hrest⟩
      cases hdrop : line.drop character with
      | nil =>
        have hall : line.length ≤ character := List.drop_eq_nil_iff.mp hdrop
        rw [List.take_of_length_le hall] at hreturn
        rw [if_pos hreturn] at hle
        have := List.length_pos_of_mem (List.mem_of_getLast? hreturn)
        omega
      | cons c more =>
        obtain rfl : c = '\n' := by simpa [hdrop] using hrest
        exact h (List.mem_of_mem_drop (hdrop.symm ▸ List.mem_cons_self))

theorem offsetAt?_zero_eq_ok_iff {line tail : Text} (h : '\n' ∉ line)
    (htail : tail = [] ∨ tail.head? = some '\n') {character n : Nat} :
    offsetAt? (line ++ tail) 0 character = .ok n ↔
      character ≤ (withoutReturn line).length ∧ character = n := by
  rw [offsetAt?_zero h htail]
  split <;> simp_all

/-- What the numbers of a line and a character lead to is the place whose address they are. -/
theorem offsetAt?_eq_ok_iff {buffer : Text} {number character n : Nat} :
    offsetAt? buffer number character = .ok n ↔
      ∃ front rest, buffer = front ++ rest ∧ front.length = n ∧
        IsAt (toLex (number, character)) front rest := by
  induction buffer using line_induction generalizing number n with
  | last line h =>
    cases number with
    | zero =>
      rw [← List.append_nil line, place_zero_iff h (.inl rfl),
        offsetAt?_zero_eq_ok_iff h (.inl rfl)]
    | succ number =>
      rw [offsetAt?_of_not_mem h]
      constructor
      · intro herror
        cases herror
      · rintro ⟨front, rest, rfl, -, haddress, -⟩
        exact absurd (List.mem_append_left rest (mem_of_address haddress)) h
  | more line rest h ih =>
    cases number with
    | zero => rw [place_zero_iff h (.inr rfl), offsetAt?_zero_eq_ok_iff h (.inr rfl)]
    | succ number =>
      rw [offsetAt?_line h]
      constructor
      · intro hfound
        cases hrest : offsetAt? rest number character with
        | error e => rw [hrest] at hfound; cases hfound
        | ok m =>
          rw [hrest] at hfound
          cases hfound
          obtain ⟨front, more, rfl, rfl, haddress, hwhole⟩ := ih.mp hrest
          refine ⟨line ++ '\n' :: front, more, by simp, ?_,
            (address_line_eq_iff h).mpr haddress, by rwa [isInLineEnd_line]⟩
          simp only [List.length_append, List.length_cons]
          omega
      · rintro ⟨front, more, heq, rfl, haddress, hwhole⟩
        -- there is a line feed in the front, so it reaches beyond the first line
        obtain ⟨front, rfl, rfl⟩ :
            ∃ later, front = line ++ '\n' :: later ∧ rest = later ++ more := by
          have hfeed := mem_of_address haddress
          rcases List.append_eq_append_iff.mp heq with ⟨others, rfl, hothers⟩ | ⟨others, rfl, -⟩
          · cases others with
            | nil => exact absurd (by simpa using hfeed) h
            | cons c later =>
              obtain ⟨rfl, hrest⟩ := List.cons.inj hothers
              exact ⟨later, rfl, hrest⟩
          · exact absurd (List.mem_append_left others hfeed) h
        rw [isInLineEnd_line] at hwhole
        have hfound : offsetAt? (front ++ more) number character = .ok front.length :=
          ih.mpr ⟨front, more, rfl, rfl, (address_line_eq_iff h).mp haddress, hwhole⟩
        rw [hfound]
        simp [Except.map, Nat.add_comm, Nat.add_left_comm]

/-- A position is found at the place whose address it is, if this does not fall into the end of a
line. -/
theorem offset?_eq_ok_iff {buffer : Text} {position : Position} {n : Nat} :
    offset? buffer position = .ok n ↔
      ∃ front rest, buffer = front ++ rest ∧ front.length = n ∧ IsAt position.address front rest :=
  offsetAt?_eq_ok_iff

/-! ### Positions that are not found -/

/-- How many characters a line has, its end aside. -/
def lineWidth (buffer : Text) (number : Nat) : Nat :=
  (withoutReturn ((cutAt '\n' buffer).getD number [])).length

theorem offsetAt?_answers (buffer : Text) (number character : Nat) :
    match offsetAt? buffer number character with
    | .ok _ => number ≤ buffer.count '\n' ∧ character ≤ lineWidth buffer number
    | .error .line => buffer.count '\n' < number
    | .error .character => number ≤ buffer.count '\n' ∧ lineWidth buffer number < character := by
  induction buffer using line_induction generalizing number with
  | last line h =>
    have hcount : line.count '\n' = 0 := List.count_eq_zero.mpr h
    cases number with
    | zero =>
      have hlook := offsetAt?_zero h (.inl rfl) character
      rw [List.append_nil] at hlook
      rw [hlook, hcount, lineWidth, cutAt_of_not_mem h]
      by_cases hc : character ≤ (withoutReturn line).length
      · simp [hc]
      · simp [hc, Nat.lt_of_not_le hc]
    | succ number => simp [offsetAt?_of_not_mem h, hcount]
  | more line rest h ih =>
    have hcount : (line ++ '\n' :: rest).count '\n' = rest.count '\n' + 1 := by
      simp [List.count_eq_zero.mpr h]
    cases number with
    | zero =>
      rw [offsetAt?_zero h (.inr rfl), lineWidth, cutAt_append h]
      by_cases hc : character ≤ (withoutReturn line).length
      · simp [hc]
      · simp [hc, Nat.lt_of_not_le hc]
    | succ number =>
      have hwidth : lineWidth (line ++ '\n' :: rest) (number + 1) = lineWidth rest number := by
        simp [lineWidth, cutAt_append h]
      have hrest := ih number
      rw [offsetAt?_line h, hcount, hwidth]
      cases hlook : offsetAt? rest number character with
      | ok n =>
        rw [hlook] at hrest
        exact ⟨Nat.succ_le_succ hrest.1, hrest.2⟩
      | error e =>
        rw [hlook] at hrest
        cases e with
        | line => exact Nat.succ_lt_succ hrest
        | character => exact ⟨Nat.succ_le_succ hrest.1, hrest.2⟩

/-! ### Among the bytes -/

/-- Behind how many bytes of the encoded buffer a position is found. -/
def byteOffset? (buffer : Text) (position : Position) : Except Misplaced Nat :=
  (offset? buffer position).map fun n => (toBytes (buffer.take n)).length

theorem byteOffset?_eq_ok_iff {buffer : Text} {position : Position} {n : Nat} :
    byteOffset? buffer position = .ok n ↔
      ∃ front rest, buffer = front ++ rest ∧ (toBytes front).length = n ∧
        IsAt position.address front rest := by
  constructor
  · intro h
    cases hlook : offset? buffer position with
    | error e => rw [byteOffset?, hlook] at h; cases h
    | ok m =>
      obtain ⟨front, rest, rfl, rfl, haddress, hwhole⟩ := offset?_eq_ok_iff.mp hlook
      rw [byteOffset?, hlook] at h
      cases h
      exact ⟨front, rest, rfl, by simp, haddress, hwhole⟩
  · rintro ⟨front, rest, rfl, rfl, haddress, hwhole⟩
    rw [byteOffset?, offset?_eq_ok_iff.mpr ⟨front, rest, rfl, rfl, haddress, hwhole⟩]
    simp [Except.map]

theorem byteOffset?_eq_error_iff {buffer : Text} {position : Position} {e : Misplaced} :
    byteOffset? buffer position = .error e ↔ offset? buffer position = .error e := by
  rw [byteOffset?]
  cases offset? buffer position <;> simp [Except.map]

/-- The positions of a buffer are in the order of the places where they are found. -/
theorem compare_eq_lt_iff {buffer : Text} {a b : Position} {m n : Nat}
    (ha : byteOffset? buffer a = .ok m) (hb : byteOffset? buffer b = .ok n) :
    a.compare b = .lt ↔ m < n := by
  obtain ⟨front, rest, rfl, rfl, hat⟩ := byteOffset?_eq_ok_iff.mp ha
  obtain ⟨front', rest', heq, rfl, hat'⟩ := byteOffset?_eq_ok_iff.mp hb
  rw [Position.compare_eq_lt_iff, ← hat.address_eq, ← hat'.address_eq, address_lt_iff heq,
    length_toBytes_lt_iff heq]

/-- The line and the character of the place behind a front have numbers of 32 bits. -/
def IsNumbered (front : Text) : Prop :=
  front.count '\n' < UInt32.size ∧ (lastLine front).length < UInt32.size

theorem exists_address_eq_iff {front : Text} :
    (∃ position : Position, address front = position.address) ↔ IsNumbered front := by
  constructor
  · rintro ⟨position, h⟩
    obtain ⟨hline, hcharacter⟩ := address_eq_iff.mp h
    exact ⟨hline ▸ position.line.toNat_lt, hcharacter ▸ position.character.toNat_lt⟩
  · rintro ⟨hline, hcharacter⟩
    refine ⟨⟨.ofNat (front.count '\n'), .ofNat (lastLine front).length⟩, address_eq_iff.mpr ?_⟩
    exact ⟨(UInt32.toNat_ofNat_of_lt hline).symm, (UInt32.toNat_ofNat_of_lt hcharacter).symm⟩

/-- In a buffer with fewer than 2³² characters every place has numbers. -/
theorem isNumbered_of_length_lt {front rest : Text} (h : (front ++ rest).length < UInt32.size) :
    IsNumbered front := by
  have hcount := List.count_le_length (a := '\n') (l := front)
  have hlast : (lastLine front).length ≤ front.length := by
    have := (List.takeWhile_sublist (l := front.reverse) (· ≠ '\n')).length_le
    simpa [lastLine] using this
  rw [List.length_append] at h
  constructor <;> omega

end Buffer

/-- The byte that goes back to the start of a line. -/
def Bytes.carriageReturn : UInt8 := 13

/-- The place is directly behind a carriage return that belongs to the end of its line. -/
def Bytes.IsInLineEnd (bytes : Bytes) (n : Nat) : Prop :=
  (bytes.take n).getLast? = some carriageReturn ∧
    (bytes.drop n = [] ∨ (bytes.drop n).head? = some lineFeed)

namespace Buffer

theorem isInLineEnd_toBytes (front rest : Text) :
    (toBytes (front ++ rest)).IsInLineEnd (toBytes front).length ↔ IsInLineEnd front rest := by
  have hreturn : (toBytes front).getLast? = some Bytes.carriageReturn ↔
      front.getLast? = some '\r' :=
    getLast?_toBytes_eq_some_iff (d := '\r') (by decide)
  have hfeed : (toBytes rest).head? = some Bytes.lineFeed ↔ rest.head? = some '\n' :=
    head?_toBytes_eq_some_iff (d := '\n') (by decide)
  have hnil : toBytes rest = [] ↔ rest = [] := by
    cases rest with
    | nil => simp
    | cons c rest =>
      obtain ⟨first, more, hc, -⟩ := exists_utf8EncodeChar_eq c
      simp [toBytes_cons, hc]
  rw [Bytes.IsInLineEnd, toBytes_append, List.take_left', List.drop_left', hreturn, hfeed, hnil,
    IsInLineEnd] <;> rfl

/-- The places that positions address: those between characters that do not fall into the end of a
line, as far as there are numbers for them. -/
theorem exists_byteOffset?_iff {buffer : Text} {n : Nat} :
    (∃ position, byteOffset? buffer position = .ok n) ↔
      ∃ front rest, buffer = front ++ rest ∧ (toBytes front).length = n ∧
        ¬ IsInLineEnd front rest ∧ IsNumbered front := by
  constructor
  · rintro ⟨position, h⟩
    obtain ⟨front, rest, rfl, rfl, haddress, hwhole⟩ := byteOffset?_eq_ok_iff.mp h
    exact ⟨front, rest, rfl, rfl, hwhole, exists_address_eq_iff.mp ⟨position, haddress⟩⟩
  · rintro ⟨front, rest, rfl, rfl, hwhole, hnumbered⟩
    obtain ⟨position, haddress⟩ := exists_address_eq_iff.mpr hnumbered
    exact ⟨position, byteOffset?_eq_ok_iff.mpr ⟨front, rest, rfl, rfl, haddress, hwhole⟩⟩

theorem exists_byteOffset?_iff_isBoundary {buffer : Text} {n : Nat} :
    (∃ position, byteOffset? buffer position = .ok n) ↔
      (toBytes buffer).isBoundary n = true ∧ ¬ (toBytes buffer).IsInLineEnd n ∧
        ∀ front, toBytes front = (toBytes buffer).take n → IsNumbered front := by
  rw [exists_byteOffset?_iff, isBoundary_toBytes_iff]
  constructor
  · rintro ⟨front, rest, rfl, rfl, hwhole, hnumbered⟩
    refine ⟨⟨front, rest, rfl, rfl⟩, (isInLineEnd_toBytes front rest).not.mpr hwhole, ?_⟩
    intro other hother
    rw [toBytes_append, List.take_left' rfl] at hother
    rwa [toBytes_injective hother]
  · rintro ⟨⟨front, rest, rfl, rfl⟩, hwhole, hnumbered⟩
    refine ⟨front, rest, rfl, rfl, (isInLineEnd_toBytes front rest).not.mp hwhole, ?_⟩
    exact hnumbered front (by rw [toBytes_append, List.take_left' rfl])

/-! ### One change -/

theorem applyChange_of_start {buffer : Text} {change : Change} {e : Misplaced}
    (h : offset? buffer change.start = .error e) (index : Nat) :
    applyChange index buffer change = .error (.ofMisplaced index change.start e) := by
  rw [applyChange, h]
  rfl

theorem applyChange_of_stop {buffer : Text} {change : Change} {m : Nat} {e : Misplaced}
    (hstart : offset? buffer change.start = .ok m) (h : offset? buffer change.stop = .error e)
    (index : Nat) :
    applyChange index buffer change = .error (.ofMisplaced index change.stop e) := by
  rw [applyChange, hstart, h]
  rfl

theorem applyChange_of_ok {buffer : Text} {change : Change} {m n : Nat}
    (hstart : offset? buffer change.start = .ok m) (hstop : offset? buffer change.stop = .ok n)
    (index : Nat) :
    applyChange index buffer change =
      if n < m then .error (.invertedSpan index) else .ok (replace buffer m n change.newText) := by
  rw [applyChange, hstart, hstop]
  rfl

/-- A change whose positions are found is refused if and only if it ends before it starts. -/
theorem applyChange_eq_invertedSpan_iff {buffer : Text} {change : Change} {m n : Nat}
    (hstart : byteOffset? buffer change.start = .ok m)
    (hstop : byteOffset? buffer change.stop = .ok n) (index : Nat) :
    applyChange index buffer change = .error (.invertedSpan index) ↔
      change.stop.compare change.start = .lt := by
  obtain ⟨front, rest, rfl, rfl, haddress, hwhole⟩ := byteOffset?_eq_ok_iff.mp hstart
  obtain ⟨front', rest', heq, rfl, haddress', hwhole'⟩ := byteOffset?_eq_ok_iff.mp hstop
  have hchange := applyChange_of_ok
    (offset?_eq_ok_iff.mpr ⟨front, rest, rfl, rfl, haddress, hwhole⟩)
    (offset?_eq_ok_iff.mpr ⟨front', rest', heq, rfl, haddress', hwhole'⟩) index
  rw [Position.compare_eq_lt_iff, ← haddress, ← haddress', address_lt_iff heq.symm, hchange]
  by_cases hlt : front'.length < front.length
  · simp [hlt]
  · simp [hlt]

end Buffer

end ScriptDesk
