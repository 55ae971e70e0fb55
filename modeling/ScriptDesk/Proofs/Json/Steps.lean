import Mathlib.Tactic.SplitIfs
import ScriptDesk.Proofs.Json.Grammar

/-!
# Reading step by step

With no steps left the reader gives up. With one more step it does what `Readers.next` says: it
reads one token, and leaves the rest to the readers with one step less (`readers_succ`). So a
property of the three readers holds for any number of steps if it holds without steps and
`Readers.next` keeps it.

The first such property is that reading consumes text (`shortens_readers`). With it the second one
follows: from a number of steps on that the length of the text gives, more steps change nothing
(`readers_agree`), so `Tree.ofText` reads as if it were not bounded (`ofText_eq_read`).
-/

namespace ScriptDesk.Json

/-! ### Tokens consume text -/

/-- What follows a character, blanks in front of it aside. -/
def expect? (c : Char) (text : Text) : Option Text :=
  match skipGap text with
  | [] => none
  | d :: rest => if d = c then some rest else none

theorem expect?_eq_some_iff {c : Char} {text rest : Text} :
    expect? c text = some rest ↔ skipGap text = c :: rest := by
  rw [expect?]
  cases skipGap text with
  | nil => simp
  | cons d others =>
    by_cases hd : d = c
    · simp [hd]
    · simp [hd]

theorem expect?_of_skipGap {d : Char} {text rest : Text} (h : skipGap text = d :: rest) (c : Char) :
    expect? c text = if d = c then some rest else none := by
  rw [expect?, h]

theorem expect?_eq_none {c : Char} {text : Text} (h : ∀ rest, skipGap text = c :: rest → False) :
    expect? c text = none :=
  Option.eq_none_iff_forall_ne_some.mpr fun rest hrest => h rest (expect?_eq_some_iff.mp hrest)

theorem length_skipGap_le (text : Text) : (skipGap text).length ≤ text.length :=
  (List.dropWhile_suffix isGap).length_le

theorem length_of_expect? {c : Char} {text rest : Text} (h : expect? c text = some rest) :
    rest.length < text.length := by
  have hle := length_skipGap_le text
  rw [expect?_eq_some_iff.mp h, List.length_cons] at hle
  omega

/-- A string that is read is spelled by the grammar, up to its closing quote. -/
theorem spells_of_readSpelled {text rest : Text} {parts : List Spelled}
    (h : readSpelled text = some (parts, rest)) :
    ∃ inside, SpellsParts inside parts ∧ text = inside ++ '"' :: rest := by
  induction text using readSpelled.induct generalizing parts with
  | case1 => simp [readSpelled] at h
  | case2 others =>
    rw [readSpelled, Option.some.injEq, Prod.mk.injEq] at h
    obtain ⟨rfl, rfl⟩ := h
    exact ⟨[], .nil, rfl⟩
  | case3 a b c d others n hunit ih =>
    simp only [readSpelled, hunit, Option.map_eq_some_iff] at h
    obtain ⟨⟨tail, others'⟩, hothers, heq⟩ := h
    cases heq
    obtain ⟨inside, hinside, rfl⟩ := ih hothers
    exact ⟨_, .unit hunit hinside, rfl⟩
  | case4 a b c d others hunit => simp [readSpelled, hunit] at h
  | case5 mark others hnot e hmark ih =>
    rw [readSpelled_mark hmark, Option.map_eq_some_iff] at h
    obtain ⟨⟨tail, others'⟩, hothers, heq⟩ := h
    cases heq
    obtain ⟨inside, hinside, rfl⟩ := ih hothers
    exact ⟨_, .mark hmark hinside, rfl⟩
  | case6 mark others hnot hmark =>
    rw [readSpelled] at h
    · simp [hmark] at h
    · exact hnot
  | case7 c others hquote hunit hmark hc =>
    rw [readSpelled] at h
    · simp [hc] at h
    · exact hquote
    · exact hunit
    · exact hmark
  | case8 c others hquote hunit hmark hc ih =>
    rw [not_or, Nat.not_lt] at hc
    rw [readSpelled_bare hquote hc.1 (Nat.not_lt.mpr hc.2), Option.map_eq_some_iff] at h
    obtain ⟨⟨tail, others'⟩, hothers, heq⟩ := h
    cases heq
    obtain ⟨inside, hinside, rfl⟩ := ih hothers
    exact ⟨_, .bare hquote hc.1 hc.2 hinside, rfl⟩

theorem length_of_readString {text rest : Text} {value : Option Text}
    (h : readString text = some (value, rest)) : rest.length < text.length := by
  rw [readString, Option.map_eq_some_iff] at h
  obtain ⟨⟨parts, others⟩, hparts, heq⟩ := h
  cases heq
  obtain ⟨inside, -, rfl⟩ := spells_of_readSpelled hparts
  simp only [List.length_append, List.length_cons]
  omega

theorem takeDigits_append (text : Text) : (takeDigits text).1 ++ (takeDigits text).2 = text :=
  List.takeWhile_append_dropWhile

/-- Of the digits before the point the first is no zero, unless it is the only one. -/
theorem readWhole_eq (text : Text) :
    readWhole text =
      if (takeDigits text).1 ≠ [] ∧ ((takeDigits text).1.head? = some '0' → (takeDigits text).1 = ['0'])
      then some (takeDigits text) else none := by
  unfold readWhole
  split
  · rename_i heq
    simp [heq]
  · rename_i heq
    simp [heq]
  · rename_i hne heq
    rw [heq, if_neg]
    rintro ⟨-, hzero⟩
    exact hne (List.cons.inj (hzero rfl)).2
  · rename_i digits rest hnil hone hzero heq
    rw [heq, if_pos]
    refine ⟨hnil, fun hhead => ?_⟩
    cases digits with
    | nil => cases hhead
    | cons d digits =>
      cases hhead
      exact absurd rfl (hzero digits)

/-- Digits that are read stand at the front of the text, and there is at least one. -/
theorem append_of_readWhole {text rest digits : Text} (h : readWhole text = some (digits, rest)) :
    digits ++ rest = text ∧ digits ≠ [] := by
  have happend := takeDigits_append text
  rw [readWhole_eq] at h
  split at h
  · rename_i hwhole
    rw [Option.some.inj h] at happend hwhole
    exact ⟨happend, hwhole.1⟩
  · cases h

/-- One digit or more, and the rest. -/
def someDigits? (text : Text) : Option (Text × Text) :=
  if (takeDigits text).1 = [] then none else some (takeDigits text)

theorem suffix_of_someDigits? {text rest digits : Text} (h : someDigits? text = some (digits, rest)) :
    rest <:+ text := by
  have happend := takeDigits_append text
  rw [someDigits?] at h
  split at h
  · cases h
  · rw [Option.some.inj h] at happend
    exact ⟨digits, happend⟩

theorem readFraction_point (rest : Text) :
    readFraction ('.' :: rest) =
      (someDigits? rest).map fun (digits, rest) => (some digits, rest) := by
  rw [readFraction, someDigits?]
  cases htake : takeDigits rest with
  | mk digits others =>
    cases digits with
    | nil => rfl
    | cons d digits => rfl

theorem readFraction_of_ne {text : Text} (h : ∀ rest, text ≠ '.' :: rest) :
    readFraction text = some (none, text) := by
  unfold readFraction
  split
  · exact absurd rfl (h _)
  · rfl

theorem suffix_of_readFraction {text rest : Text} {fraction : Option Text}
    (h : readFraction text = some (fraction, rest)) : rest <:+ text := by
  by_cases hpoint : ∃ others, text = '.' :: others
  · obtain ⟨others, rfl⟩ := hpoint
    simp only [readFraction_point, Option.map_eq_some_iff, Prod.exists] at h
    obtain ⟨digits, behind, hdigits, heq⟩ := h
    cases heq
    exact (suffix_of_someDigits? hdigits).trans (List.suffix_cons _ _)
  · rw [readFraction_of_ne (not_exists.mp hpoint)] at h
    cases h
    exact List.suffix_rfl

/-- The sign that may stand in front of the digits of an exponent, and what follows it. -/
def takeSign : Text → Bool × Text
  | '+' :: rest => (false, rest)
  | '-' :: rest => (true, rest)
  | rest => (false, rest)

/-- There is a sign, or there is none. -/
theorem takeSign_cases (text : Text) :
    (∃ rest, text = '+' :: rest) ∨ (∃ rest, text = '-' :: rest) ∨
      ((∀ rest, text ≠ '+' :: rest) ∧ (∀ rest, text ≠ '-' :: rest) ∧
        takeSign text = (false, text)) := by
  unfold takeSign
  split
  · exact .inl ⟨_, rfl⟩
  · exact .inr (.inl ⟨_, rfl⟩)
  · rename_i hplus hminus
    exact .inr (.inr ⟨hplus, hminus, rfl⟩)

theorem suffix_takeSign (text : Text) : (takeSign text).2 <:+ text := by
  obtain ⟨rest, rfl⟩ | ⟨rest, rfl⟩ | ⟨-, -, hsign⟩ := takeSign_cases text
  · exact List.suffix_cons _ _
  · exact List.suffix_cons _ _
  · exact ⟨[], congrArg Prod.snd hsign⟩

theorem readExponent_cons (c : Char) (rest : Text) :
    readExponent (c :: rest) =
      if c = 'e' ∨ c = 'E' then
        (someDigits? (takeSign rest).2).map fun (digits, others) =>
          (some ((takeSign rest).1, digits), others)
      else some (none, c :: rest) := by
  obtain ⟨others, rfl⟩ | ⟨others, rfl⟩ | ⟨hplus, hminus, hsign⟩ := takeSign_cases rest
  · rw [readExponent, someDigits?, takeSign]
    cases takeDigits others with
    | mk digits behind => cases digits <;> rfl
  · rw [readExponent, someDigits?, takeSign]
    cases takeDigits others with
    | mk digits behind => cases digits <;> rfl
  · rw [readExponent, someDigits?, hsign]
    · cases takeDigits rest with
      | mk digits behind => cases digits <;> rfl
    · exact hplus
    · exact hminus

theorem suffix_of_readExponent {text rest : Text} {power : Option (Bool × Text)}
    (h : readExponent text = some (power, rest)) : rest <:+ text := by
  cases text with
  | nil =>
    cases h
    exact List.suffix_rfl
  | cons c others =>
    rw [readExponent_cons] at h
    split at h
    · simp only [Option.map_eq_some_iff, Prod.exists] at h
      obtain ⟨digits, behind, hdigits, heq⟩ := h
      cases heq
      exact ((suffix_of_someDigits? hdigits).trans (suffix_takeSign others)).trans
        (List.suffix_cons c others)
    · cases h
      exact List.suffix_rfl

/-- The sign that may stand in front of a number, and what follows it. -/
def takeMinus : Text → Bool × Text
  | '-' :: rest => (true, rest)
  | rest => (false, rest)

/-- There is a sign, or there is none. -/
theorem takeMinus_cases (text : Text) :
    (∃ rest, text = '-' :: rest) ∨
      ((∀ rest, text ≠ '-' :: rest) ∧ takeMinus text = (false, text)) := by
  unfold takeMinus
  split
  · exact .inl ⟨_, rfl⟩
  · rename_i hminus
    exact .inr ⟨hminus, rfl⟩

theorem readLiteral_eq (text : Text) :
    readLiteral text = (readWhole (takeMinus text).2).bind fun (whole, rest) =>
      (readFraction rest).bind fun (fraction, rest) =>
        (readExponent rest).bind fun (exponent, rest) =>
          some (⟨(takeMinus text).1, whole, fraction, exponent⟩, rest) := by
  unfold readLiteral takeMinus
  rfl

theorem length_of_readLiteral {text rest : Text} {literal : Literal}
    (h : readLiteral text = some (literal, rest)) : rest.length < text.length := by
  simp only [readLiteral_eq, Option.bind_eq_some_iff, Prod.exists] at h
  obtain ⟨whole, afterWhole, hwhole, fraction, afterFraction, hfraction, exponent, afterExponent,
    hexponent, heq⟩ := h
  cases heq
  obtain ⟨hdigits, hne⟩ := append_of_readWhole hwhole
  have hminus : (takeMinus text).2.length ≤ text.length := by
    obtain ⟨others, rfl⟩ | ⟨-, hsign⟩ := takeMinus_cases text
    · exact Nat.le_succ _
    · exact Nat.le_of_eq (congrArg (fun signed => signed.2.length) hsign)
  have hrest := ((suffix_of_readExponent hexponent).trans (suffix_of_readFraction hfraction)).length_le
  have hpos := List.length_pos_iff.mpr hne
  rw [← hdigits, List.length_append] at hminus
  omega

/-- A word that is read stands in front of the rest. -/
theorem eq_append_of_isPrefixOf? {word text rest : Text} (h : word.isPrefixOf? text = some rest) :
    text = word ++ rest := by
  induction word generalizing text with
  | nil => exact Option.some.inj h
  | cons c word ih =>
    cases text with
    | nil => cases h
    | cons d text =>
      change (if (c == d) = true then word.isPrefixOf? text else none) = some rest at h
      split at h
      · rename_i hcd
        rw [eq_of_beq hcd, ih h, List.cons_append]
      · cases h

theorem isPrefixOf?_append (word rest : Text) : word.isPrefixOf? (word ++ rest) = some rest := by
  induction word with
  | nil => rfl
  | cons c word ih =>
    change (if (c == c) = true then word.isPrefixOf? (word ++ rest) else none) = some rest
    rw [if_pos (beq_self_eq_true c), ih]

namespace Tree

/-! ### One step of the reader -/

/-- The readers of a value, of the items of an array, and of the members of an object. -/
structure Readers where
  /-- Reads a value. -/
  value : Text → Outcome Tree
  /-- Reads items up to the closing bracket. -/
  items : Text → Outcome (List Tree × Bool)
  /-- Reads members from behind the opening quote of a name up to the closing brace. -/
  members : Text → Outcome (List (Option Text × Tree) × Bool)

/-- The readers that are bounded by a number of steps. -/
def readers (steps : Nat) : Readers :=
  ⟨read steps, readItems steps, readMembers steps⟩

namespace Readers

/-- Read an array from behind its opening bracket. -/
def array (readers : Readers) (text : Text) : Outcome Tree :=
  match expect? ']' text with
  | some rest => (.arr [] true, some rest)
  | none =>
    let ((items, closed), rest) := readers.items (skipGap text)
    (.arr items closed, rest)

/-- Read an object from behind its opening brace. -/
def object (readers : Readers) (text : Text) : Outcome Tree :=
  match expect? '\x7d' text with
  | some rest => (.obj [] true, some rest)
  | none =>
    match expect? '"' text with
    | some rest =>
      let ((members, closed), rest) := readers.members rest
      (.obj members closed, rest)
    | none => (.misnamed (readers.value (skipGap text)).1, none)

/-- Read a value that starts with the character. -/
def valueAt (readers : Readers) (c : Char) (rest : Text) : Outcome Tree :=
  if c = 'n' then readWord ['u', 'l', 'l'] .null rest
  else if c = 't' then readWord ['r', 'u', 'e'] (.bool true) rest
  else if c = 'f' then readWord ['a', 'l', 's', 'e'] (.bool false) rest
  else if c = '"' then
    match readString rest with
    | some (value, rest) => (.str value, some rest)
    | none => (.broken, none)
  else if c = '[' then readers.array rest
  else if c = '\x7b' then readers.object rest
  else
    match readLiteral (c :: rest) with
    | some (literal, rest) => (.num literal.value?, some rest)
    | none => (.broken, none)

/-- Read what follows an item. -/
def afterItem (readers : Readers) (item : Tree) (text : Text) : Outcome (List Tree × Bool) :=
  match expect? ']' text with
  | some rest => (([item], true), some rest)
  | none =>
    match expect? ',' text with
    | some rest => pushItem item (readers.items rest)
    | none => (([item], false), none)

/-- Read what follows a member. -/
def afterMember (readers : Readers) (name : Option Text) (value : Tree) (text : Text) :
    Outcome (List (Option Text × Tree) × Bool) :=
  match expect? '\x7d' text with
  | some rest => (([(name, value)], true), some rest)
  | none =>
    match (expect? ',' text).bind (expect? '"') with
    | some rest => pushMember name value (readers.members rest)
    | none => (([(name, value)], false), none)

/-- The readers with one more step. -/
def next (readers : Readers) : Readers where
  value text :=
    match skipGap text with
    | [] => (.broken, none)
    | c :: rest => readers.valueAt c rest
  items text :=
    match readers.value text with
    | (item, none) => (([item], false), none)
    | (item, some rest) => readers.afterItem item rest
  members text :=
    match readString text with
    | none => (([], false), none)
    | some (name, rest) =>
      match expect? ':' rest with
      | none => (([(name, .broken)], false), none)
      | some rest =>
        match readers.value rest with
        | (value, none) => (([(name, value)], false), none)
        | (value, some rest) => readers.afterMember name value rest

end Readers

theorem read_succ (steps : Nat) (text : Text) :
    read (steps + 1) text = (readers steps).next.value text := by
  rw [read]
  simp only [Readers.next]
  -- The cases are the characters that a value can start with, in the order in which they are tried.
  split
  · rename_i heq
    rw [heq]
  · rename_i heq
    rw [heq]
    rfl
  · rename_i heq
    rw [heq]
    rfl
  · rename_i heq
    rw [heq]
    rfl
  · rename_i heq
    rw [heq]
    rfl
  · rename_i rest heq
    rw [heq]
    show _ = (readers steps).array rest
    rw [Readers.array]
    split
    · rename_i hgap
      rw [expect?_eq_some_iff.mpr hgap]
    · rename_i hgap
      rw [expect?_eq_none hgap]
      rfl
  · rename_i rest heq
    rw [heq]
    show _ = (readers steps).object rest
    rw [Readers.object]
    split
    · rename_i hgap
      rw [expect?_eq_some_iff.mpr hgap]
    · rename_i hgap
      rw [expect?_of_skipGap hgap, expect?_of_skipGap hgap]
      rfl
    · rename_i hbrace hquote
      rw [expect?_eq_none hbrace, expect?_eq_none hquote]
      rfl
  · rename_i c rest hn ht hf hq hb ho heq
    rw [heq]
    have hnumber : (readers steps).valueAt c rest =
        match readLiteral (c :: rest) with
        | some (literal, rest) => (.num literal.value?, some rest)
        | none => (.broken, none) := by
      simp only [Readers.valueAt, if_neg hn, if_neg ht, if_neg hf, if_neg hq, if_neg hb, if_neg ho]
    exact hnumber.symm

theorem readItems_succ (steps : Nat) (text : Text) :
    readItems (steps + 1) text = (readers steps).next.items text := by
  rw [readItems]
  simp only [Readers.next, readers]
  cases read steps text with
  | mk item left =>
    cases left with
    | none => rfl
    | some afterItem =>
      dsimp only
      split
      · rename_i hgap
        rw [Readers.afterItem, expect?_of_skipGap hgap]
        rfl
      · rename_i hgap
        rw [Readers.afterItem, expect?_of_skipGap hgap, expect?_of_skipGap hgap]
        rfl
      · rename_i hbracket hcomma
        rw [Readers.afterItem, expect?_eq_none hbracket, expect?_eq_none hcomma]

theorem readMembers_succ (steps : Nat) (text : Text) :
    readMembers (steps + 1) text = (readers steps).next.members text := by
  rw [readMembers]
  simp only [Readers.next, readers]
  cases readString text with
  | none => rfl
  | some named =>
    obtain ⟨name, afterName⟩ := named
    dsimp only
    split
    · rename_i afterColon hcolon
      rw [expect?_eq_some_iff.mpr hcolon]
      dsimp only
      cases read steps afterColon with
      | mk value left =>
        cases left with
        | none => rfl
        | some afterValue =>
          dsimp only
          split
          · rename_i hgap
            rw [Readers.afterMember, expect?_of_skipGap hgap]
            rfl
          · rename_i hgap
            rw [Readers.afterMember, expect?_of_skipGap hgap, expect?_of_skipGap hgap]
            simp only [Option.bind_some, if_true]
            split
            · rename_i hquote
              rw [expect?_of_skipGap hquote]
              rfl
            · rename_i hquote
              rw [expect?_eq_none hquote]
              rfl
          · rename_i hbrace hcomma
            rw [Readers.afterMember, expect?_eq_none hbrace, expect?_eq_none hcomma]
            rfl
    · rename_i hcolon
      rw [expect?_eq_none hcolon]

/-- With one more step the reader does what one step does. -/
theorem readers_succ (steps : Nat) : readers (steps + 1) = (readers steps).next := by
  have hvalue : read (steps + 1) = (readers steps).next.value := funext (read_succ steps)
  have hitems : readItems (steps + 1) = (readers steps).next.items := funext (readItems_succ steps)
  have hmembers : readMembers (steps + 1) = (readers steps).next.members :=
    funext (readMembers_succ steps)
  rw [readers, hvalue, hitems, hmembers]

/-! ### Reading consumes text -/

/-- What is left is shorter. -/
def Shortens {α : Type} (read : Text → Outcome α) : Prop :=
  ∀ text, ∀ rest ∈ (read text).2, rest.length < text.length

theorem Shortens.length_lt {α : Type} {read : Text → Outcome α} (h : Shortens read) {text rest : Text}
    {a : α} (heq : read text = (a, some rest)) : rest.length < text.length :=
  h text rest (by rw [heq]; rfl)

/-- All three readers leave less than there was. -/
structure Readers.Shorten (readers : Readers) : Prop where
  /-- What follows a value is shorter. -/
  value : Shortens readers.value
  /-- What follows items is shorter. -/
  items : Shortens readers.items
  /-- What follows members is shorter. -/
  members : Shortens readers.members

theorem length_of_readWord {word text rest : Text} {value : Tree}
    (h : rest ∈ (readWord word value text).2) : rest.length ≤ text.length := by
  rw [readWord] at h
  split at h
  · rename_i heq
    cases h
    rw [eq_append_of_isPrefixOf? heq, List.length_append]
    exact Nat.le_add_left _ _
  · cases h

namespace Readers.Shorten

variable {readers : Readers} (h : readers.Shorten)
include h

theorem array {text rest : Text} (hrest : rest ∈ (readers.array text).2) :
    rest.length < text.length := by
  rw [Readers.array] at hrest
  split at hrest
  · rename_i hclosed
    cases hrest
    exact length_of_expect? hclosed
  · exact Nat.lt_of_lt_of_le (h.items _ _ hrest) (length_skipGap_le text)

theorem object {text rest : Text} (hrest : rest ∈ (readers.object text).2) :
    rest.length < text.length := by
  rw [Readers.object] at hrest
  split at hrest
  · rename_i hclosed
    cases hrest
    exact length_of_expect? hclosed
  · split at hrest
    · rename_i hquote
      exact Nat.lt_trans (h.members _ _ hrest) (length_of_expect? hquote)
    · cases hrest

theorem valueAt {c : Char} {text rest : Text} (hrest : rest ∈ (readers.valueAt c text).2) :
    rest.length < (c :: text).length := by
  rw [Readers.valueAt] at hrest
  split_ifs at hrest
  · exact Nat.lt_succ_of_le (length_of_readWord hrest)
  · exact Nat.lt_succ_of_le (length_of_readWord hrest)
  · exact Nat.lt_succ_of_le (length_of_readWord hrest)
  · split at hrest
    · rename_i hstring
      cases hrest
      exact Nat.lt_succ_of_lt (length_of_readString hstring)
    · cases hrest
  · exact Nat.lt_succ_of_lt (h.array hrest)
  · exact Nat.lt_succ_of_lt (h.object hrest)
  · split at hrest
    · rename_i hliteral
      cases hrest
      exact length_of_readLiteral hliteral
    · cases hrest

theorem afterItem {item : Tree} {text rest : Text} (hrest : rest ∈ (readers.afterItem item text).2) :
    rest.length < text.length := by
  rw [Readers.afterItem] at hrest
  split at hrest
  · rename_i hclosed
    cases hrest
    exact length_of_expect? hclosed
  · split at hrest
    · rename_i hcomma
      exact Nat.lt_trans (h.items _ _ hrest) (length_of_expect? hcomma)
    · cases hrest

theorem afterMember {name : Option Text} {value : Tree} {text rest : Text}
    (hrest : rest ∈ (readers.afterMember name value text).2) : rest.length < text.length := by
  rw [Readers.afterMember] at hrest
  split at hrest
  · rename_i hclosed
    cases hrest
    exact length_of_expect? hclosed
  · split at hrest
    · rename_i hnext
      obtain ⟨others, hcomma, hquote⟩ := Option.bind_eq_some_iff.mp hnext
      exact Nat.lt_trans (h.members _ _ hrest)
        (Nat.lt_trans (length_of_expect? hquote) (length_of_expect? hcomma))
    · cases hrest

/-- One more step keeps that reading consumes text. -/
theorem next : readers.next.Shorten where
  value text rest hrest := by
    simp only [Readers.next] at hrest
    split at hrest
    · cases hrest
    · rename_i hgap
      exact Nat.lt_of_lt_of_le (h.valueAt hrest) (hgap ▸ length_skipGap_le text)
  items text rest hrest := by
    simp only [Readers.next] at hrest
    split at hrest
    · cases hrest
    · rename_i hitem
      exact Nat.lt_trans (h.afterItem hrest) (h.value.length_lt hitem)
  members text rest hrest := by
    simp only [Readers.next] at hrest
    split at hrest
    · cases hrest
    · rename_i hname
      split at hrest
      · cases hrest
      · rename_i hcolon
        split at hrest
        · cases hrest
        · rename_i hvalue
          exact Nat.lt_trans (Nat.lt_trans (h.afterMember hrest) (h.value.length_lt hvalue))
            (Nat.lt_trans (length_of_expect? hcolon) (length_of_readString hname))

end Readers.Shorten

theorem shortens_readers (steps : Nat) : (readers steps).Shorten := by
  induction steps with
  | zero => constructor <;> exact fun _ _ hrest => nomatch hrest
  | succ steps ih =>
    rw [readers_succ]
    exact ih.next

/-! ### More steps change nothing -/

/-- The readers do the same with all texts that so many steps are enough for. -/
structure Readers.Agree (steps : Nat) (readers others : Readers) : Prop where
  /-- A value needs two steps for each character, and one more. -/
  value : ∀ text : Text, 2 * text.length + 1 ≤ steps → readers.value text = others.value text
  /-- Items need one more than a value. -/
  items : ∀ text : Text, 2 * text.length + 2 ≤ steps → readers.items text = others.items text
  /-- Members need as many as items. -/
  members : ∀ text : Text, 2 * text.length + 2 ≤ steps → readers.members text = others.members text

namespace Readers.Agree

variable {steps : Nat} {readers others : Readers} (h : readers.Agree steps others)
include h

theorem array {text : Text} (hsteps : 2 * text.length + 2 ≤ steps) :
    readers.array text = others.array text := by
  have hle := length_skipGap_le text
  rw [Readers.array, Readers.array, h.items _ (by omega)]

theorem object {text : Text} (hsteps : 2 * text.length + 2 ≤ steps) :
    readers.object text = others.object text := by
  have hle := length_skipGap_le text
  rw [Readers.object, Readers.object, h.value _ (by omega)]
  cases hquote : expect? '"' text with
  | none => rfl
  | some rest =>
    have hlt := length_of_expect? hquote
    simp only [h.members rest (by omega)]

theorem valueAt (c : Char) {text : Text} (hsteps : 2 * text.length + 2 ≤ steps) :
    readers.valueAt c text = others.valueAt c text := by
  rw [Readers.valueAt, Readers.valueAt, h.array hsteps, h.object hsteps]

theorem afterItem (item : Tree) {text : Text} (hsteps : 2 * text.length ≤ steps) :
    readers.afterItem item text = others.afterItem item text := by
  rw [Readers.afterItem, Readers.afterItem]
  cases hcomma : expect? ',' text with
  | none => rfl
  | some rest =>
    have hlt := length_of_expect? hcomma
    simp only [h.items rest (by omega)]

theorem afterMember (name : Option Text) (value : Tree) {text : Text}
    (hsteps : 2 * text.length ≤ steps) :
    readers.afterMember name value text = others.afterMember name value text := by
  rw [Readers.afterMember, Readers.afterMember]
  cases hnext : (expect? ',' text).bind (expect? '"') with
  | none => rfl
  | some rest =>
    obtain ⟨behind, hcomma, hquote⟩ := Option.bind_eq_some_iff.mp hnext
    have hlt := length_of_expect? hcomma
    have hlt' := length_of_expect? hquote
    simp only [h.members rest (by omega)]

/-- One more step for readers that agree makes one more step enough. -/
theorem next (hshorten : readers.Shorten) : readers.next.Agree (steps + 1) others.next where
  value text hsteps := by
    have hle := length_skipGap_le text
    simp only [Readers.next]
    cases hgap : skipGap text with
    | nil => rfl
    | cons c rest =>
      rw [hgap, List.length_cons] at hle
      exact h.valueAt c (by omega)
  items text hsteps := by
    simp only [Readers.next, ← h.value text (by omega)]
    split
    · rfl
    · rename_i hitem
      have hlt := hshorten.value.length_lt hitem
      exact h.afterItem _ (by omega)
  members text hsteps := by
    simp only [Readers.next]
    split
    · rfl
    · rename_i hname
      have hname := length_of_readString hname
      split
      · rfl
      · rename_i rest hcolon
        have hcolon := length_of_expect? hcolon
        rw [← h.value rest (by omega)]
        split
        · rfl
        · rename_i hvalue
          have hlt := hshorten.value.length_lt hvalue
          exact h.afterMember _ _ (by omega)

end Readers.Agree

/-- Where a number of steps is enough, so is every larger one, and it reads the same. -/
theorem readers_agree (steps more : Nat) : (readers steps).Agree steps (readers (steps + more)) := by
  -- No text is short enough for no steps. One step more goes on behind what was read, and that is
  -- shorter, so the steps that are left are enough for it.
  induction steps with
  | zero => constructor <;> (intro text hsteps; omega)
  | succ steps ih =>
    rw [Nat.succ_add, readers_succ, readers_succ]
    exact ih.next (shortens_readers steps)

/-- **The bound on the steps does not show**: a text is read as with any larger number of them. -/
theorem ofText_eq_read {text : Text} {steps : Nat} (h : 2 * text.length + 1 ≤ steps) :
    ofText text = read steps text := by
  obtain ⟨more, rfl⟩ := Nat.exists_eq_add_of_le h
  exact (readers_agree (2 * text.length + 1) more).value text (Nat.le_refl _)

end Tree

end ScriptDesk.Json
