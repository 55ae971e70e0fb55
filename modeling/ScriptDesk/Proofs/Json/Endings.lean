import ScriptDesk.Proofs.Json.Steps
import ScriptDesk.Proofs.Text.Endings

/-!
# JSON text in either convention

JSON text means the same whether its lines end with a line feed or with a carriage return and a line
feed: both characters are blanks between tokens, and neither is part of one. So each reader of a
token reads the same token from a text with longer line ends, and leaves the rest of the text with
longer line ends (`readString_withCrlf`, `readLiteral_withCrlf`). One step of the reader keeps this
(`Readers.IsBlind.next`), so the whole reader does, also for text that is no JSON
(`ofText_withCrlf`).
-/

namespace ScriptDesk.Json

open Text

/-! ### Tokens -/

/-- What was read, and the rest of the text with longer line ends. -/
def readWithCrlf {α : Type} (token : α × Text) : α × Text :=
  (token.1, withCrlf token.2)

@[simp] theorem readWithCrlf_fst {α : Type} (token : α × Text) :
    (readWithCrlf token).1 = token.1 := rfl

@[simp] theorem readWithCrlf_snd {α : Type} (token : α × Text) :
    (readWithCrlf token).2 = withCrlf token.2 := rfl

theorem skipGap_withCrlf (text : Text) : skipGap (withCrlf text) = withCrlf (skipGap text) :=
  dropWhile_withCrlf rfl text

theorem expect?_withCrlf {c : Char} (hreturn : c ≠ '\r') (hfeed : c ≠ '\n') (text : Text) :
    expect? c (withCrlf text) = (expect? c text).map withCrlf := by
  rw [expect?, expect?, skipGap_withCrlf]
  cases skipGap text with
  | nil => rfl
  | cons d rest =>
    by_cases hd : d = '\n'
    · simp [hd, hreturn.symm, hfeed.symm]
    · rw [withCrlf_cons hd]
      by_cases hc : d = c
      · simp [hc]
      · simp [hc]

/-- A control character that no escape uses is nowhere inside a string. -/
theorem not_mem_of_spellsParts {c : Char} (hcontrol : c.toNat < 0x20) (hmark : escaped? c = none)
    (hdigit : hexValue? c = none) {text : Text} {parts : List Spelled} (h : SpellsParts text parts) :
    c ∉ text := by
  have hslash : c ≠ '\\' := by
    rintro rfl
    exact absurd hcontrol (by decide)
  have hunit : c ≠ 'u' := by
    rintro rfl
    exact absurd hcontrol (by decide)
  induction h with
  | nil => simp
  | bare _ _ hle _ ih =>
    rw [List.mem_cons, not_or]
    refine ⟨?_, ih⟩
    rintro rfl
    omega
  | mark hchar _ ih =>
    simp only [List.mem_cons, not_or]
    refine ⟨hslash, ?_, ih⟩
    rintro rfl
    rw [hmark] at hchar
    cases hchar
  | unit hquad _ ih =>
    have hne : ∀ {d : Char} {n : Nat}, hexValue? d = some n → c ≠ d := by
      rintro d n hd rfl
      rw [hdigit] at hd
      cases hd
    simp only [hexQuad?, ofHex?, ofHexFrom?, Option.bind_eq_some_iff] at hquad
    obtain ⟨_, ha, _, hb, _, hc, _, hd, -⟩ := hquad
    simp only [List.mem_cons, not_or]
    exact ⟨hslash, hunit, hne ha, hne hb, hne hc, hne hd, ih⟩

theorem readSpelled_withCrlf (text : Text) :
    readSpelled (withCrlf text) =
      (readSpelled text).map readWithCrlf := by
  refine Option.ext fun (parts, rest) => ?_
  rw [Option.map_eq_some_iff]
  constructor
  · intro h
    obtain ⟨inside, hinside, heq⟩ := spells_of_readSpelled h
    have hreturn : '\r' ∉ inside ++ ['"'] := by
      simpa using not_mem_of_spellsParts (by decide) rfl (by decide) hinside
    have hfront : withCrlf text = (inside ++ ['"']) ++ rest := by simp [heq]
    obtain ⟨others, rfl, rfl⟩ := exists_of_withCrlf_eq_append hfront hreturn
    refine ⟨(parts, others), ?_, rfl⟩
    rw [List.append_assoc]
    exact readSpelled_of_spells hinside others
  · rintro ⟨⟨parts, others⟩, h, heq⟩
    cases heq
    obtain ⟨inside, hinside, rfl⟩ := spells_of_readSpelled h
    have hfeed : '\n' ∉ inside := not_mem_of_spellsParts (by decide) rfl (by decide) hinside
    rw [withCrlf_append, withCrlf_of_not_mem hfeed, withCrlf_cons (by decide)]
    exact readSpelled_of_spells hinside _

theorem readString_withCrlf (text : Text) :
    readString (withCrlf text) = (readString text).map readWithCrlf := by
  rw [readString, readString, readSpelled_withCrlf, Option.map_map, Option.map_map]
  rfl

theorem takeDigits_withCrlf (text : Text) :
    takeDigits (withCrlf text) = readWithCrlf (takeDigits text) := by
  rw [takeDigits, takeDigits, takeWhile_withCrlf rfl rfl, dropWhile_withCrlf rfl]
  rfl

theorem readWhole_withCrlf (text : Text) :
    readWhole (withCrlf text) = (readWhole text).map readWithCrlf := by
  rw [readWhole_eq, readWhole_eq, takeDigits_withCrlf, readWithCrlf_fst]
  split
  · rfl
  · rfl

theorem someDigits?_withCrlf (text : Text) :
    someDigits? (withCrlf text) = (someDigits? text).map readWithCrlf := by
  rw [someDigits?, someDigits?, takeDigits_withCrlf, readWithCrlf_fst]
  split
  · rfl
  · rfl

theorem readFraction_withCrlf (text : Text) :
    readFraction (withCrlf text) = (readFraction text).map readWithCrlf := by
  by_cases hpoint : ∃ rest, text = '.' :: rest
  · obtain ⟨rest, rfl⟩ := hpoint
    rw [withCrlf_cons (by decide), readFraction_point, readFraction_point, someDigits?_withCrlf,
      Option.map_map, Option.map_map]
    rfl
  · have hlonger : ∀ rest, withCrlf text ≠ '.' :: rest := by
      intro rest heq
      obtain ⟨others, hothers, -⟩ := exists_of_withCrlf_eq_cons heq (by decide)
      exact hpoint ⟨others, hothers⟩
    rw [readFraction_of_ne hlonger, readFraction_of_ne (not_exists.mp hpoint)]
    rfl

theorem takeSign_withCrlf (text : Text) :
    takeSign (withCrlf text) = readWithCrlf (takeSign text) := by
  obtain ⟨rest, rfl⟩ | ⟨rest, rfl⟩ | ⟨hplus, hminus, hsign⟩ := takeSign_cases text
  · rfl
  · rfl
  · obtain ⟨rest, heq⟩ | ⟨rest, heq⟩ | ⟨-, -, hlonger⟩ := takeSign_cases (withCrlf text)
    · obtain ⟨others, hothers, -⟩ := exists_of_withCrlf_eq_cons heq (by decide)
      exact absurd hothers (hplus others)
    · obtain ⟨others, hothers, -⟩ := exists_of_withCrlf_eq_cons heq (by decide)
      exact absurd hothers (hminus others)
    · rw [hlonger, hsign]
      rfl

theorem readExponent_withCrlf (text : Text) :
    readExponent (withCrlf text) = (readExponent text).map readWithCrlf := by
  cases text with
  | nil => rfl
  | cons c rest =>
    by_cases hfeed : c = '\n'
    · subst hfeed
      rfl
    · rw [withCrlf_cons hfeed, readExponent_cons, readExponent_cons, takeSign_withCrlf,
        readWithCrlf_fst, readWithCrlf_snd, someDigits?_withCrlf]
      split
      · rw [Option.map_map, Option.map_map]
        rfl
      · rw [Option.map_some, readWithCrlf, withCrlf_cons hfeed]

theorem takeMinus_withCrlf (text : Text) :
    takeMinus (withCrlf text) = readWithCrlf (takeMinus text) := by
  obtain ⟨rest, rfl⟩ | ⟨hminus, hsign⟩ := takeMinus_cases text
  · rfl
  · obtain ⟨rest, heq⟩ | ⟨-, hlonger⟩ := takeMinus_cases (withCrlf text)
    · obtain ⟨others, hothers, -⟩ := exists_of_withCrlf_eq_cons heq (by decide)
      exact absurd hothers (hminus others)
    · rw [hlonger, hsign]
      rfl

theorem readLiteral_withCrlf (text : Text) :
    readLiteral (withCrlf text) = (readLiteral text).map readWithCrlf := by
  simp only [readLiteral_eq, takeMinus_withCrlf, readWithCrlf_fst, readWithCrlf_snd,
    readWhole_withCrlf]
  cases readWhole (takeMinus text).2 with
  | none => rfl
  | some whole =>
    simp only [Option.map_some, Option.bind_some, readWithCrlf_fst, readWithCrlf_snd,
      readFraction_withCrlf]
    cases readFraction whole.2 with
    | none => rfl
    | some fraction =>
      simp only [Option.map_some, Option.bind_some, readWithCrlf_fst, readWithCrlf_snd,
        readExponent_withCrlf]
      cases readExponent fraction.2 with
      | none => rfl
      | some exponent => rfl

theorem isPrefixOf?_withCrlf {word : Text} (hreturn : '\r' ∉ word) (hfeed : '\n' ∉ word)
    (text : Text) : word.isPrefixOf? (withCrlf text) = (word.isPrefixOf? text).map withCrlf := by
  refine Option.ext fun rest => ?_
  rw [Option.map_eq_some_iff]
  constructor
  · intro h
    obtain ⟨others, rfl, rfl⟩ := exists_of_withCrlf_eq_append (eq_append_of_isPrefixOf? h) hreturn
    exact ⟨others, isPrefixOf?_append word others, rfl⟩
  · rintro ⟨others, h, rfl⟩
    rw [eq_append_of_isPrefixOf? h, withCrlf_append, withCrlf_of_not_mem hfeed]
    exact isPrefixOf?_append word _

namespace Tree

/-! ### Trees -/

/-- What is left of the text, with longer line ends. -/
def restWithCrlf {α : Type} (outcome : Outcome α) : Outcome α :=
  (outcome.1, outcome.2.map withCrlf)

theorem readWord_withCrlf {word : Text} (hreturn : '\r' ∉ word) (hfeed : '\n' ∉ word) (value : Tree)
    (text : Text) :
    readWord word value (withCrlf text) = restWithCrlf (readWord word value text) := by
  rw [readWord, isPrefixOf?_withCrlf hreturn hfeed, readWord]
  cases word.isPrefixOf? text with
  | none => rfl
  | some rest => rfl

/-- The readers do not tell the conventions apart. -/
structure Readers.IsBlind (readers : Readers) : Prop where
  /-- The same value is read. -/
  value : ∀ text, readers.value (withCrlf text) = restWithCrlf (readers.value text)
  /-- The same items are read. -/
  items : ∀ text, readers.items (withCrlf text) = restWithCrlf (readers.items text)
  /-- The same members are read. -/
  members : ∀ text, readers.members (withCrlf text) = restWithCrlf (readers.members text)

namespace Readers.IsBlind

variable {readers : Readers} (h : readers.IsBlind)
include h

theorem array (text : Text) :
    readers.array (withCrlf text) = restWithCrlf (readers.array text) := by
  rw [Readers.array, expect?_withCrlf (by decide) (by decide), skipGap_withCrlf, h.items,
    Readers.array]
  cases expect? ']' text with
  | none => rfl
  | some rest => rfl

theorem object (text : Text) :
    readers.object (withCrlf text) = restWithCrlf (readers.object text) := by
  rw [Readers.object, expect?_withCrlf (by decide) (by decide),
    expect?_withCrlf (by decide) (by decide), skipGap_withCrlf, h.value, Readers.object]
  cases expect? '\x7d' text with
  | some rest => rfl
  | none =>
    cases expect? '"' text with
    | none => rfl
    | some rest =>
      simp only [Option.map_some, Option.map_none, h.members]
      rfl

theorem valueAt {c : Char} (hfeed : c ≠ '\n') (text : Text) :
    readers.valueAt c (withCrlf text) = restWithCrlf (readers.valueAt c text) := by
  rw [Readers.valueAt, Readers.valueAt]
  split_ifs
  · exact readWord_withCrlf (by decide) (by decide) _ _
  · exact readWord_withCrlf (by decide) (by decide) _ _
  · exact readWord_withCrlf (by decide) (by decide) _ _
  · rw [readString_withCrlf]
    cases readString text with
    | none => rfl
    | some string => rfl
  · exact h.array text
  · exact h.object text
  · rw [← withCrlf_cons hfeed, readLiteral_withCrlf]
    cases readLiteral (c :: text) with
    | none => rfl
    | some literal => rfl

theorem afterItem (item : Tree) (text : Text) :
    readers.afterItem item (withCrlf text) = restWithCrlf (readers.afterItem item text) := by
  rw [Readers.afterItem, expect?_withCrlf (by decide) (by decide),
    expect?_withCrlf (by decide) (by decide), Readers.afterItem]
  cases expect? ']' text with
  | some rest => rfl
  | none =>
    cases expect? ',' text with
    | none => rfl
    | some rest =>
      simp only [Option.map_some, Option.map_none, h.items]
      rfl

theorem afterMember (name : Option Text) (value : Tree) (text : Text) :
    readers.afterMember name value (withCrlf text) =
      restWithCrlf (readers.afterMember name value text) := by
  have hnext : (expect? ',' (withCrlf text)).bind (expect? '"') =
      ((expect? ',' text).bind (expect? '"')).map withCrlf := by
    rw [expect?_withCrlf (by decide) (by decide)]
    cases expect? ',' text with
    | none => rfl
    | some rest => exact expect?_withCrlf (by decide) (by decide) rest
  rw [Readers.afterMember, expect?_withCrlf (by decide) (by decide), hnext, Readers.afterMember]
  cases expect? '\x7d' text with
  | some rest => rfl
  | none =>
    cases (expect? ',' text).bind (expect? '"') with
    | none => rfl
    | some rest =>
      simp only [Option.map_some, Option.map_none, h.members]
      rfl

/-- One more step keeps that the conventions are not told apart. -/
theorem next : readers.next.IsBlind where
  value text := by
    simp only [Readers.next, skipGap_withCrlf]
    cases hgap : skipGap text with
    | nil => rfl
    | cons c rest =>
      have hfeed : c ≠ '\n' := by
        rintro rfl
        have hhead := List.head?_dropWhile_not isGap text
        rw [← skipGap, hgap] at hhead
        exact absurd (show isGap '\n' = false from hhead) (by decide)
      rw [withCrlf_cons hfeed]
      exact h.valueAt hfeed rest
  items text := by
    simp only [Readers.next, h.value]
    cases readers.value text with
    | mk item left =>
      cases left with
      | none => rfl
      | some rest => exact h.afterItem item rest
  members text := by
    simp only [Readers.next, readString_withCrlf]
    cases readString text with
    | none => rfl
    | some named =>
      simp only [Option.map_some, readWithCrlf_fst, readWithCrlf_snd,
        expect?_withCrlf (show ':' ≠ '\r' by decide) (by decide)]
      cases expect? ':' named.2 with
      | none => rfl
      | some rest =>
        simp only [Option.map_some, h.value]
        cases readers.value rest with
        | mk value left =>
          cases left with
          | none => rfl
          | some behind => exact h.afterMember named.1 value behind

end Readers.IsBlind

theorem isBlind_readers (steps : Nat) : (readers steps).IsBlind := by
  induction steps with
  | zero => constructor <;> exact fun _ => rfl
  | succ steps ih =>
    rw [readers_succ]
    exact ih.next

/-- **The conventions are not told apart**: text with longer line ends is read as the same tree, and
the same is left of it. -/
theorem ofText_withCrlf (text : Text) : ofText (withCrlf text) = restWithCrlf (ofText text) := by
  have hle := length_le_length_withCrlf text
  -- The longer text may take more steps, so both are read with as many as it needs.
  have hsame : ofText text = read (2 * (withCrlf text).length + 1) text := ofText_eq_read (by omega)
  rw [hsame]
  exact (isBlind_readers (2 * (withCrlf text).length + 1)).value text

end Tree

/-- Text with longer line ends decodes to the same value, or has the same fault. -/
theorem decodeWhole_withCrlf {α : Type} (decoder : Decoder α) (text : Text) :
    decodeWhole decoder (withCrlf text) = decodeWhole decoder text := by
  have hempty : ∀ rest : Text, (withCrlf rest).isEmpty = rest.isEmpty := by
    intro rest
    rw [Bool.eq_iff_iff, List.isEmpty_iff, List.isEmpty_iff, withCrlf_eq_nil_iff]
  simp only [decodeWhole, Tree.ofText_withCrlf, Tree.restWithCrlf]
  cases (Tree.ofText text).2 with
  | none => rfl
  | some rest => simp only [Option.map_some, skipGap_withCrlf, hempty]

end ScriptDesk.Json
