import ScriptDesk.Proofs.Json.Grammar

/-!
# Reading JSON text back

A value without doubles is written as a text of the grammar that spells the tree of this value
(`Tree.ofValue`), so decoding what was written is decoding this tree. The text has no control
characters.
-/

namespace ScriptDesk.Json

namespace Tree

mutual

/-- The tree of a text that holds a value. -/
def ofValue : Value → Tree
  | .null => .null
  | .bool b => .bool b
  | .num n => .num (some n)
  | .str text => .str (some text)
  | .arr items => .arr (ofItems items) true
  | .obj members => .obj (ofMembers members) true

/-- The trees of the items of an array. -/
def ofItems : List Value → List Tree
  | [] => []
  | item :: items => ofValue item :: ofItems items

/-- The names and trees of the members of an object. -/
def ofMembers : List (Text × Value) → List (Option Text × Tree)
  | [] => []
  | (name, value) :: members => (some name, ofValue value) :: ofMembers members

end

end Tree

namespace Value

mutual

/-- The value holds no double: all its numbers are exact. -/
def IsExact : Value → Prop
  | .null | .bool _ | .str _ => True
  | .num n => n.IsExact
  | .arr items => AllExact items
  | .obj members => AllMembersExact members

/-- Each item is exact. -/
def AllExact : List Value → Prop
  | [] => True
  | item :: items => IsExact item ∧ AllExact items

/-- The value of each member is exact. -/
def AllMembersExact : List (Text × Value) → Prop
  | [] => True
  | (_, value) :: members => IsExact value ∧ AllMembersExact members

end

end Value

open Value

/-! ### Written values are spelled -/

theorem spells_writtenString (text : Text) : Spells (writtenString text) (.str (some text)) := by
  obtain ⟨parts, hparts, htext⟩ := exists_spellsParts_written text
  rw [← htext]
  exact .string hparts

mutual

/-- **A written value is a text of the grammar.** -/
theorem spells_written : ∀ {v : Value}, v.IsExact → Spells v.written (Tree.ofValue v)
  | .null, _ => .null
  | .bool true, _ => .true
  | .bool false, _ => .false
  | .num (.int n), hv => by
    rw [Tree.ofValue, ← value?_ofInt hv]
    exact .number (spellsLiteral_ofInt n)
  | .num (.float x), hv => hv.elim
  | .str text, _ => spells_writtenString text
  | .arr [], _ => .emptyArray isSpace_nil
  | .arr (item :: items), hv => by
    obtain ⟨text, heq, htext⟩ := exists_spellsItems_written hv.2 (spells_written hv.1)
    rw [written, List.cons_append, heq]
    exact .array htext
  | .obj [], _ => .emptyObject isSpace_nil
  | .obj ((name, value) :: members), hv => by
    obtain ⟨text, heq, htext⟩ := exists_spellsMembers_written hv.2 name (spells_written hv.1)
    rw [written, List.cons_append, List.cons_append, List.append_assoc, List.cons_append, heq]
    exact .object htext

/-- The written items behind an item, up to the closing bracket. -/
theorem exists_spellsItems_written : ∀ {items : List Value}, AllExact items →
    ∀ {first : Text} {t : Tree}, Spells first t → ∃ text,
      first ++ writtenItems items = text ++ [']'] ∧ SpellsItems text (t :: Tree.ofItems items)
  | [], _, first, t, h => by
    refine ⟨first, rfl, ?_⟩
    simpa [Tree.ofItems] using SpellsItems.last isSpace_nil h isSpace_nil
  | item :: items, hv, first, t, h => by
    obtain ⟨text, heq, htext⟩ := exists_spellsItems_written hv.2 (spells_written hv.1)
    refine ⟨first ++ ',' :: text, by simp [writtenItems, heq], ?_⟩
    simpa [Tree.ofItems] using SpellsItems.more isSpace_nil h isSpace_nil htext

/-- The written members behind the value of a member, up to the closing brace. -/
theorem exists_spellsMembers_written : ∀ {members : List (Text × Value)}, AllMembersExact members →
    ∀ (name : Text) {first : Text} {t : Tree}, Spells first t → ∃ text,
      writtenString name ++ ':' :: (first ++ writtenMembers members) = text ++ ['\x7d'] ∧
        SpellsMembers text ((some name, t) :: Tree.ofMembers members)
  | [], _, name, first, t, h => by
    obtain ⟨parts, hparts, hname⟩ := exists_spellsParts_written name
    refine ⟨writtenString name ++ ':' :: first, by simp [writtenMembers], ?_⟩
    rw [← hname]
    simpa [writtenString, Tree.ofMembers] using
      SpellsMembers.last isSpace_nil hparts isSpace_nil isSpace_nil h isSpace_nil
  | (next, value) :: members, hv, name, first, t, h => by
    obtain ⟨parts, hparts, hname⟩ := exists_spellsParts_written name
    obtain ⟨text, heq, htext⟩ := exists_spellsMembers_written hv.2 next (spells_written hv.1)
    refine ⟨writtenString name ++ ':' :: (first ++ ',' :: text),
      by simp [writtenMembers, ← heq], ?_⟩
    rw [← hname]
    simpa [writtenString, Tree.ofMembers] using
      SpellsMembers.more isSpace_nil hparts isSpace_nil isSpace_nil h isSpace_nil htext

end

/-- A member whose value is spelled in any way, in front of members as they are written. -/
theorem spells_member {members : List (Text × Value)} (hv : AllMembersExact members) (name : Text)
    {first : Text} {t : Tree} (h : Spells first t) :
    Spells ('\x7b' :: (writtenString name ++ ':' :: (first ++ writtenMembers members)))
      (.obj ((some name, t) :: Tree.ofMembers members) true) := by
  obtain ⟨text, heq, htext⟩ := exists_spellsMembers_written hv name h
  rw [heq]
  exact .object htext

/-- Decoding a written value is decoding its tree. -/
theorem decodeWhole_written (decoder : Decoder α) {v : Value} (hv : v.IsExact) :
    decodeWhole decoder v.written = decoder (.streamed Reading.maxLevels) (Tree.ofValue v) :=
  decodeWhole_of_spells decoder (spells_written hv).whole

/-- A written object stands between braces. -/
theorem exists_written_obj (members : List (Text × Value)) :
    ∃ middle, (Value.obj members).written = '\x7b' :: middle ++ ['\x7d'] := by
  have hend : ∀ members, ∃ front, writtenMembers members = front ++ ['\x7d'] := by
    intro members
    induction members with
    | nil => exact ⟨[], rfl⟩
    | cons member members ih =>
      obtain ⟨front, hfront⟩ := ih
      exact ⟨_, by rw [writtenMembers, hfront, ← List.append_assoc]⟩
  cases members with
  | nil => exact ⟨[], rfl⟩
  | cons member members =>
    obtain ⟨front, hfront⟩ := hend members
    exact ⟨_, by rw [written, hfront, ← List.append_assoc]; rfl⟩

/-! ### No control characters -/

theorem le_of_mem_escapedChar {c d : Char} (h : d ∈ escapedChar c) : 0x20 ≤ d.toNat := by
  have hhex : ∀ n, n < 16 → 0x20 ≤ (hexDigit n).toNat := by decide
  rcases escapedChar_cases c with ⟨mark, hmark, heq, -⟩ | ⟨hc, heq⟩ | ⟨-, -, hc, heq⟩
  · rw [heq, List.mem_cons, List.mem_singleton] at h
    rcases h with rfl | rfl
    · decide
    · exact hmark
  · simp only [heq, List.mem_cons, List.not_mem_nil, or_false] at h
    rcases h with rfl | rfl | rfl | rfl | rfl | rfl
    · decide
    · decide
    · decide
    · decide
    · exact hhex _ (by omega)
    · exact hhex _ (by omega)
  · rw [heq, List.mem_singleton] at h
    rw [h]
    omega

theorem le_of_mem_writtenString {text : Text} {c : Char} (h : c ∈ writtenString text) :
    0x20 ≤ c.toNat := by
  simp only [writtenString, List.cons_append, List.mem_cons, List.mem_append, List.mem_flatMap,
    List.not_mem_nil, or_false] at h
  rcases h with rfl | ⟨d, -, hd⟩ | rfl
  · decide
  · exact le_of_mem_escapedChar hd
  · decide

theorem le_of_mem_ofInt {n : Int} {c : Char} (h : c ∈ Text.ofInt n) : 0x20 ≤ c.toNat := by
  have hdigits : ∀ k, c ∈ Nat.toDigits 10 k → 0x20 ≤ c.toNat := by
    intro k hc
    have hdigit : c.isDigit = true := Nat.isDigit_of_mem_toDigits (by decide) (by decide) hc
    have : (48 : UInt32) ≤ c.val := by
      simp only [Char.isDigit, Bool.and_eq_true, decide_eq_true_eq] at hdigit
      exact hdigit.1
    exact Nat.le_trans (by decide) (UInt32.le_iff_toNat_le.mp this)
  cases n with
  | ofNat n => exact hdigits n h
  | negSucc n =>
    rw [Text.ofInt, List.mem_cons] at h
    rcases h with rfl | h
    · decide
    · exact hdigits (n + 1) h

mutual

/-- A written value has no control characters. -/
theorem le_of_mem_written : ∀ {v : Value}, v.IsExact → ∀ {c : Char}, c ∈ v.written → 0x20 ≤ c.toNat
  | .null, _, c, h => by
    simp only [written, List.mem_cons, List.not_mem_nil, or_false] at h
    rcases h with rfl | rfl | rfl | rfl <;> decide
  | .bool true, _, c, h => by
    simp only [written, List.mem_cons, List.not_mem_nil, or_false] at h
    rcases h with rfl | rfl | rfl | rfl <;> decide
  | .bool false, _, c, h => by
    simp only [written, List.mem_cons, List.not_mem_nil, or_false] at h
    rcases h with rfl | rfl | rfl | rfl | rfl <;> decide
  | .num (.int n), _, c, h => le_of_mem_ofInt h
  | .num (.float _), hv, _, _ => hv.elim
  | .str _, _, _, h => le_of_mem_writtenString h
  | .arr [], _, c, h => by
    simp only [written, List.mem_cons, List.not_mem_nil, or_false] at h
    rcases h with rfl | rfl <;> decide
  | .arr (item :: items), hv, c, h => by
    simp only [written, List.cons_append, List.mem_cons, List.mem_append] at h
    rcases h with rfl | h | h
    · decide
    · exact le_of_mem_written hv.1 h
    · exact le_of_mem_writtenItems hv.2 h
  | .obj [], _, c, h => by
    simp only [written, List.mem_cons, List.not_mem_nil, or_false] at h
    rcases h with rfl | rfl <;> decide
  | .obj ((name, value) :: members), hv, c, h => by
    simp only [written, List.cons_append, List.mem_cons, List.mem_append] at h
    rcases h with rfl | (h | rfl | h) | h
    · decide
    · exact le_of_mem_writtenString h
    · decide
    · exact le_of_mem_written hv.1 h
    · exact le_of_mem_writtenMembers hv.2 h

theorem le_of_mem_writtenItems : ∀ {items : List Value}, AllExact items →
    ∀ {c : Char}, c ∈ writtenItems items → 0x20 ≤ c.toNat
  | [], _, c, h => by
    rw [writtenItems, List.mem_singleton] at h
    subst h
    decide
  | item :: items, hv, c, h => by
    simp only [writtenItems, List.cons_append, List.mem_cons, List.mem_append] at h
    rcases h with rfl | h | h
    · decide
    · exact le_of_mem_written hv.1 h
    · exact le_of_mem_writtenItems hv.2 h

theorem le_of_mem_writtenMembers : ∀ {members : List (Text × Value)}, AllMembersExact members →
    ∀ {c : Char}, c ∈ writtenMembers members → 0x20 ≤ c.toNat
  | [], _, c, h => by
    rw [writtenMembers, List.mem_singleton] at h
    subst h
    decide
  | (name, value) :: members, hv, c, h => by
    simp only [writtenMembers, List.cons_append, List.mem_cons, List.mem_append] at h
    rcases h with rfl | (h | rfl | h) | h
    · decide
    · exact le_of_mem_writtenString h
    · decide
    · exact le_of_mem_written hv.1 h
    · exact le_of_mem_writtenMembers hv.2 h

end

end ScriptDesk.Json
