import ScriptDesk.Json.Reader
import ScriptDesk.Json.Value

/-!
# Strings and numbers of JSON text

`SpellsParts` and `SpellsLiteral` are the grammar of the inside of a string and of a number. A text
of the grammar is read from the front of any text, whatever follows: a string ends at its closing
quote, a number where the text stops being a numeral, so what follows must not carry it on
(`EndsNumber`). A string and an integer that were written are texts of the grammar.
-/

namespace ScriptDesk.Json

/-! ### Strings -/

/-- The text is the inside of a string, and these are its parts. -/
inductive SpellsParts : Text → List Spelled → Prop where
  /-- Nothing. -/
  | nil : SpellsParts [] []
  /-- A character that stands for itself. -/
  | bare {c : Char} {text : Text} {parts : List Spelled} : c ≠ '"' → c ≠ '\\' → 0x20 ≤ c.toNat →
      SpellsParts text parts → SpellsParts (c :: text) (.char c :: parts)
  /-- A character behind a backslash. -/
  | mark {mark c : Char} {text : Text} {parts : List Spelled} : escaped? mark = some c →
      SpellsParts text parts → SpellsParts ('\\' :: mark :: text) (.char c :: parts)
  /-- A unit given by four hexadecimal digits. -/
  | unit {a b c d : Char} {n : Nat} {text : Text} {parts : List Spelled} :
      hexQuad? a b c d = some n → SpellsParts text parts →
        SpellsParts ('\\' :: 'u' :: a :: b :: c :: d :: text) (.unit n :: parts)

theorem escaped?_u : escaped? 'u' = none := rfl

theorem readSpelled_bare {c : Char} (hquote : c ≠ '"') (hslash : c ≠ '\\') (hc : ¬ c.toNat < 0x20)
    (rest : Text) :
    readSpelled (c :: rest) =
      (readSpelled rest).map fun (parts, rest) => (.char c :: parts, rest) := by
  rw [readSpelled]
  · rw [if_neg (by simp [hslash, hc])]
  · exact hquote
  · intro _ _ _ _ _ h; exact absurd h hslash
  · intro _ _ h; exact absurd h hslash

theorem readSpelled_mark {mark c : Char} (h : escaped? mark = some c) (rest : Text) :
    readSpelled ('\\' :: mark :: rest) =
      (readSpelled rest).map fun (parts, rest) => (.char c :: parts, rest) := by
  have hu : mark ≠ 'u' := by
    rintro rfl
    rw [escaped?_u] at h
    cases h
  rw [readSpelled]
  · rw [h]
  · intro _ _ _ _ _ heq
    exact absurd heq hu

theorem readSpelled_of_spells {text : Text} {parts : List Spelled} (h : SpellsParts text parts)
    (rest : Text) : readSpelled (text ++ '"' :: rest) = some (parts, rest) := by
  induction h with
  | nil => rfl
  | bare hquote hslash hc _ ih =>
    rw [List.cons_append, readSpelled_bare hquote hslash (Nat.not_lt.mpr hc), ih]
    rfl
  | mark hmark _ ih =>
    rw [List.cons_append, List.cons_append, readSpelled_mark hmark, ih]
    rfl
  | unit hunit _ ih =>
    simp only [List.cons_append, readSpelled, hunit, ih]
    rfl

theorem hexQuad?_hexDigit {n : Nat} (h : n < 0x20) :
    hexQuad? '0' '0' (hexDigit (n / 16)) (hexDigit (n % 16)) = some n := by
  have all : ∀ n, n < 0x20 → hexQuad? '0' '0' (hexDigit (n / 16)) (hexDigit (n % 16)) = some n := by
    decide
  exact all n h

/-- A character is written with a mark behind a backslash, or by its number, or as it is. -/
theorem escapedChar_cases (c : Char) :
    (∃ mark : Char, 0x20 ≤ mark.toNat ∧ escapedChar c = ['\\', mark] ∧ escaped? mark = some c) ∨
    (c.toNat < 0x20 ∧ escapedChar c =
      ['\\', 'u', '0', '0', hexDigit (c.toNat / 16), hexDigit (c.toNat % 16)]) ∨
    (c ≠ '"' ∧ c ≠ '\\' ∧ ¬ c.toNat < 0x20 ∧ escapedChar c = [c]) := by
  unfold escapedChar
  split
  · subst_vars; exact .inl ⟨'"', by decide, rfl, rfl⟩
  split
  · subst_vars; exact .inl ⟨'\\', by decide, rfl, rfl⟩
  split
  · subst_vars; exact .inl ⟨'b', by decide, rfl, rfl⟩
  split
  · subst_vars; exact .inl ⟨'f', by decide, rfl, rfl⟩
  split
  · subst_vars; exact .inl ⟨'n', by decide, rfl, rfl⟩
  split
  · subst_vars; exact .inl ⟨'r', by decide, rfl, rfl⟩
  split
  · subst_vars; exact .inl ⟨'t', by decide, rfl, rfl⟩
  split
  · rename_i h
    exact .inr (.inl ⟨h, rfl⟩)
  · rename_i hquote hslash _ _ _ _ _ h
    exact .inr (.inr ⟨hquote, hslash, h, rfl⟩)

/-- A written string is spelled by parts that denote it. -/
theorem exists_spellsParts_written (text : Text) :
    ∃ parts, SpellsParts (text.flatMap escapedChar) parts ∧ spelledText none parts = some text := by
  induction text with
  | nil => exact ⟨[], .nil, rfl⟩
  | cons c text ih =>
    obtain ⟨parts, hparts, htext⟩ := ih
    rw [List.flatMap_cons]
    rcases escapedChar_cases c with ⟨mark, -, heq, hmark⟩ | ⟨hc, heq⟩ | ⟨hquote, hslash, hc, heq⟩
    · exact ⟨.char c :: parts, heq ▸ .mark hmark hparts, by rw [spelledText, htext, Option.map_some]⟩
    · have hhigh : isHighSurrogate c.toNat = false := by simp [isHighSurrogate]; omega
      have hlow : isLowSurrogate c.toNat = false := by simp [isLowSurrogate]; omega
      refine ⟨.unit c.toNat :: parts, heq ▸ .unit (hexQuad?_hexDigit hc) hparts, ?_⟩
      simp [spelledText, hhigh, hlow, htext, Char.ofNat_toNat]
    · exact ⟨.char c :: parts, heq ▸ .bare hquote hslash (Nat.not_lt.mp hc) hparts,
        by rw [spelledText, htext, Option.map_some]⟩

/-! ### Numbers -/

/-- What does not carry on a number that stands before it. -/
def EndsNumber (rest : Text) : Prop :=
  ∀ c ∈ rest.head?, c.isDigit = false ∧ c ≠ '.' ∧ c ≠ 'e' ∧ c ≠ 'E'

theorem endsNumber_nil : EndsNumber [] := by simp [EndsNumber]

theorem endsNumber_cons {c : Char} (hc : c.isDigit = false ∧ c ≠ '.' ∧ c ≠ 'e' ∧ c ≠ 'E')
    (rest : Text) : EndsNumber (c :: rest) := by
  simpa [EndsNumber] using hc

/-- A row of digits. -/
def IsDigits (text : Text) : Prop :=
  text ≠ [] ∧ ∀ c ∈ text, c.isDigit = true

instance (text : Text) : Decidable (IsDigits text) :=
  decidable_of_iff ((!text.isEmpty && text.all Char.isDigit) = true) (by simp [IsDigits])

/-- The text is the point of a number with the digits behind it, or nothing. -/
inductive SpellsFraction : Text → Option Text → Prop where
  /-- There is no point. -/
  | none : SpellsFraction [] none
  /-- A point and digits. -/
  | some {digits : Text} : IsDigits digits → SpellsFraction ('.' :: digits) (some digits)

/-- The text is the exponent of a number, or nothing. -/
inductive SpellsExponent : Text → Option (Bool × Text) → Prop where
  /-- There is no exponent. -/
  | none : SpellsExponent [] none
  /-- A mark and digits. -/
  | bare {mark : Char} {digits : Text} : mark = 'e' ∨ mark = 'E' → IsDigits digits →
      SpellsExponent (mark :: digits) (some (false, digits))
  /-- A mark, a plus sign and digits. -/
  | plus {mark : Char} {digits : Text} : mark = 'e' ∨ mark = 'E' → IsDigits digits →
      SpellsExponent (mark :: '+' :: digits) (some (false, digits))
  /-- A mark, a minus sign and digits. -/
  | minus {mark : Char} {digits : Text} : mark = 'e' ∨ mark = 'E' → IsDigits digits →
      SpellsExponent (mark :: '-' :: digits) (some (true, digits))

/-- The text is a number literal with these parts: of the digits before the point the first is no
zero unless it is the only one. -/
inductive SpellsLiteral : Text → Literal → Prop where
  /-- A literal without sign. -/
  | bare {whole fraction exponent : Text} {digits : Option Text} {power : Option (Bool × Text)} :
      IsDigits whole → (whole.head? = some '0' → whole = ['0']) → SpellsFraction fraction digits →
        SpellsExponent exponent power →
        SpellsLiteral (whole ++ (fraction ++ exponent)) ⟨false, whole, digits, power⟩
  /-- A literal with a minus sign. -/
  | minus {whole fraction exponent : Text} {digits : Option Text} {power : Option (Bool × Text)} :
      IsDigits whole → (whole.head? = some '0' → whole = ['0']) → SpellsFraction fraction digits →
        SpellsExponent exponent power →
        SpellsLiteral ('-' :: (whole ++ (fraction ++ exponent))) ⟨true, whole, digits, power⟩

/-- What starts with digits starts with nothing else. -/
theorem IsDigits.append_ne {digits : Text} (h : IsDigits digits) {c : Char}
    (hc : c.isDigit = false) (rest other : Text) : digits ++ rest ≠ c :: other := by
  intro heq
  obtain ⟨d, ds, rfl⟩ := List.exists_cons_of_ne_nil h.1
  have hd : d.isDigit = true := h.2 d List.mem_cons_self
  rw [(List.cons.inj heq).1, hc] at hd
  cases hd

theorem takeDigits_of_isDigits {digits rest : Text} (h : IsDigits digits)
    (hrest : ∀ c ∈ rest.head?, c.isDigit = false) :
    takeDigits (digits ++ rest) = (digits, rest) := by
  have htake : rest.takeWhile Char.isDigit = [] := by
    cases rest with
    | nil => rfl
    | cons c rest => rw [List.takeWhile_cons_of_neg (by simp [hrest c rfl])]
  have hdrop : rest.dropWhile Char.isDigit = rest := by
    cases rest with
    | nil => rfl
    | cons c rest => rw [List.dropWhile_cons_of_neg (by simp [hrest c rfl])]
  rw [takeDigits, List.takeWhile_append_of_pos h.2, List.dropWhile_append_of_pos h.2, htake, hdrop,
    List.append_nil]

theorem readWhole_of_isDigits {digits rest : Text} (h : IsDigits digits)
    (hzero : digits.head? = some '0' → digits = ['0']) (hrest : ∀ c ∈ rest.head?, c.isDigit = false) :
    readWhole (digits ++ rest) = some (digits, rest) := by
  rw [readWhole, takeDigits_of_isDigits h hrest]
  split
  · rename_i heq
    exact absurd (congrArg Prod.fst heq) h.1
  · rename_i heq
    cases heq
    rfl
  · rename_i hne heq
    cases heq
    have := hzero rfl
    cases this
    exact (hne rfl).elim
  · rename_i heq
    cases heq
    rfl

theorem readFraction_of_spells {text rest : Text} {digits : Option Text}
    (h : SpellsFraction text digits) (hrest : ∀ c ∈ rest.head?, c.isDigit = false ∧ c ≠ '.') :
    readFraction (text ++ rest) = some (digits, rest) := by
  cases h with
  | none =>
    rw [List.nil_append]
    unfold readFraction
    split
    · exact absurd rfl (hrest _ rfl).2
    · rfl
  | some hdigits =>
    rw [List.cons_append, readFraction, takeDigits_of_isDigits hdigits fun c hc => (hrest c hc).1]
    split
    · rename_i heq
      exact absurd (congrArg Prod.fst heq) hdigits.1
    · rename_i heq
      cases heq
      rfl

theorem readExponent_of_ends {rest : Text} (h : EndsNumber rest) :
    readExponent rest = some (none, rest) := by
  cases rest with
  | nil => rfl
  | cons c rest =>
    obtain ⟨-, -, he, hE⟩ := h c rfl
    unfold readExponent
    exact if_neg (by simp [he, hE])

theorem readExponent_of_spells {text rest : Text} {power : Option (Bool × Text)}
    (h : SpellsExponent text power) (hrest : EndsNumber rest) :
    readExponent (text ++ rest) = some (power, rest) := by
  -- the digits behind the mark are read, and there is at least one
  have hread : ∀ {digits : Text}, IsDigits digits → takeDigits (digits ++ rest) = (digits, rest) ∧
      ∃ d ds, digits = d :: ds := fun hdigits =>
    ⟨takeDigits_of_isDigits hdigits fun c hc => (hrest c hc).1,
      List.exists_cons_of_ne_nil hdigits.1⟩
  cases h with
  | none => exact readExponent_of_ends hrest
  | bare hmark hdigits =>
    obtain ⟨htake, d, ds, rfl⟩ := hread hdigits
    rw [List.cons_append, readExponent, if_pos hmark, htake]
    · exact fun other => hdigits.append_ne (by decide) rest other
    · exact fun other => hdigits.append_ne (by decide) rest other
  | plus hmark hdigits =>
    obtain ⟨htake, d, ds, rfl⟩ := hread hdigits
    rw [List.cons_append, List.cons_append, readExponent, if_pos hmark, htake]
  | minus hmark hdigits =>
    obtain ⟨htake, d, ds, rfl⟩ := hread hdigits
    rw [List.cons_append, List.cons_append, readExponent, if_pos hmark, htake]

/-- What follows a part of a number that is not the last one. -/
theorem head?_fraction {text : Text} {digits : Option Text} (h : SpellsFraction text digits)
    {P : Char → Prop} (hpoint : P '.') {rest : Text} (hrest : ∀ c ∈ rest.head?, P c) :
    ∀ c ∈ (text ++ rest).head?, P c := by
  cases h with
  | none => exact hrest
  | some _ =>
    rintro c hc
    cases hc
    exact hpoint

theorem head?_exponent {text : Text} {power : Option (Bool × Text)} (h : SpellsExponent text power)
    {P : Char → Prop} (hsmall : P 'e') (hlarge : P 'E') {rest : Text} (hrest : ∀ c ∈ rest.head?, P c) :
    ∀ c ∈ (text ++ rest).head?, P c := by
  cases h with
  | none => exact hrest
  | bare hmark _ | plus hmark _ | minus hmark _ =>
    rintro c hc
    cases hc
    rcases hmark with rfl | rfl
    · exact hsmall
    · exact hlarge

/-- The parts of a number are read behind its sign. -/
theorem readLiteral_of_parts {whole fraction exponent rest : Text} {digits : Option Text}
    {power : Option (Bool × Text)} (hwhole : IsDigits whole)
    (hzero : whole.head? = some '0' → whole = ['0']) (hfraction : SpellsFraction fraction digits)
    (hexponent : SpellsExponent exponent power) (hrest : EndsNumber rest) (negative : Bool) :
    (do
      let (whole, rest) ← readWhole (whole ++ (fraction ++ (exponent ++ rest)))
      let (fraction, rest) ← readFraction rest
      let (exponent, rest) ← readExponent rest
      return ((⟨negative, whole, fraction, exponent⟩ : Literal), rest)) =
      some (⟨negative, whole, digits, power⟩, rest) := by
  have hbehindFraction : ∀ c ∈ (exponent ++ rest).head?, c.isDigit = false ∧ c ≠ '.' :=
    head?_exponent hexponent (by decide) (by decide) fun c hc => ⟨(hrest c hc).1, (hrest c hc).2.1⟩
  have hbehindWhole : ∀ c ∈ (fraction ++ (exponent ++ rest)).head?, c.isDigit = false :=
    head?_fraction hfraction (by decide) fun c hc => (hbehindFraction c hc).1
  simp only [readWhole_of_isDigits hwhole hzero hbehindWhole,
    readFraction_of_spells hfraction hbehindFraction, readExponent_of_spells hexponent hrest,
    Option.bind_eq_bind, Option.bind_some]
  rfl

theorem readLiteral_of_spells {text rest : Text} {literal : Literal} (h : SpellsLiteral text literal)
    (hrest : EndsNumber rest) : readLiteral (text ++ rest) = some (literal, rest) := by
  cases h with
  | bare hwhole hzero hfraction hexponent =>
    rw [← readLiteral_of_parts hwhole hzero hfraction hexponent hrest false]
    unfold readLiteral
    simp only [List.append_assoc]
    split
    · rename_i heq
      exact absurd heq (hwhole.append_ne (by decide) _ _)
    · rfl
  | minus hwhole hzero hfraction hexponent =>
    rw [← readLiteral_of_parts hwhole hzero hfraction hexponent hrest true]
    unfold readLiteral
    simp only [List.cons_append, List.append_assoc]

/-! ### Integers -/

/-- The numeral of a positive number does not start with a zero. -/
theorem exists_toDigits_eq_cons {n : Nat} (h : 0 < n) :
    ∃ d ds, Nat.toDigits 10 n = d :: ds ∧ d ≠ '0' := by
  induction n using Nat.strongRecOn with
  | ind n ih =>
    by_cases hlt : n < 10
    · refine ⟨n.digitChar, [], Nat.toDigits_of_lt_base hlt, ?_⟩
      have all : ∀ n, n < 10 → 0 < n → n.digitChar ≠ '0' := by decide
      exact all n hlt h
    · obtain ⟨d, ds, heq, hd⟩ := ih (n / 10) (by omega) (by omega)
      refine ⟨d, ds ++ [(n % 10).digitChar], ?_, hd⟩
      rw [Nat.toDigits_of_base_le (by decide) (by omega), heq, List.cons_append]

theorem isDigits_toDigits (n : Nat) : IsDigits (Nat.toDigits 10 n) :=
  ⟨Nat.toDigits_ne_nil, fun _ hc => Nat.isDigit_of_mem_toDigits (by decide) (by decide) hc⟩

/-- Only the numeral of zero starts with a zero. -/
theorem toDigits_eq_of_head? {n : Nat} (h : (Nat.toDigits 10 n).head? = some '0') :
    Nat.toDigits 10 n = ['0'] := by
  rcases Nat.eq_zero_or_pos n with rfl | hn
  · rfl
  · obtain ⟨d, ds, heq, hd⟩ := exists_toDigits_eq_cons hn
    rw [heq] at h
    cases h
    exact absurd rfl hd

/-- The literal that an integer is written with. -/
def Literal.ofInt : Int → Literal
  | .ofNat n => ⟨false, Nat.toDigits 10 n, none, none⟩
  | .negSucc n => ⟨true, Nat.toDigits 10 (n + 1), none, none⟩

/-- A written integer is a number literal. -/
theorem spellsLiteral_ofInt (n : Int) : SpellsLiteral (Text.ofInt n) (Literal.ofInt n) := by
  have happend : ∀ k, Nat.toDigits 10 k = Nat.toDigits 10 k ++ ([] ++ []) := by simp
  cases n with
  | ofNat n =>
    show SpellsLiteral (Nat.toDigits 10 n) _
    rw [happend n]
    exact .bare (isDigits_toDigits n) toDigits_eq_of_head? .none .none
  | negSucc n =>
    show SpellsLiteral ('-' :: Nat.toDigits 10 (n + 1)) _
    rw [happend (n + 1)]
    exact .minus (isDigits_toDigits (n + 1)) toDigits_eq_of_head? .none .none

/-- An integer from `-2^63` to `2^64 - 1`, which is written and read without loss. -/
def Number.IsExact : Number → Prop
  | .int n => -9223372036854775808 ≤ n ∧ n < 18446744073709551616
  | .float _ => False

theorem value?_ofInt {n : Int} (h : Number.IsExact (.int n)) :
    (Literal.ofInt n).value? = some (.int n) := by
  obtain ⟨hlow, hhigh⟩ := h
  have hdigits : ∀ k, digitsValue (Nat.toDigits 10 k) = k := fun _ => Nat.ofDigitChars_ten_toDigits
  cases n with
  | ofNat n =>
    have hn : n < wordLimit := by
      rw [Int.ofNat_eq_natCast] at hhigh
      unfold wordLimit
      omega
    simp [Literal.ofInt, Literal.value?, hdigits, hn]
  | negSucc n =>
    have hn : 2 * (n + 1) ≤ wordLimit := by unfold wordLimit; omega
    simp [Literal.ofInt, Literal.value?, hdigits, hn, Int.negSucc_eq]

end ScriptDesk.Json
