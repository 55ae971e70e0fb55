import ScriptDesk.Json.Decode
import ScriptDesk.Proofs.Json.Token

/-!
# The grammar of JSON text

`Spells` says that a text is one JSON value by the grammar of JSON, and what tree it spells: blanks
may stand between any two tokens, strings and numbers may be spelled in any way that the grammar
has. The reader reads every such text as its tree (`Tree.read_of_spells`), so whoever decodes a text
that is one JSON value with blanks around it decodes its tree (`decodeWhole_of_spells`).

The reader is bounded by a number of steps. What bounds it here is the length of the text: going
into an array or object takes two steps and consumes its bracket, and going on to the next item or
member takes one step and consumes a comma.
-/

namespace ScriptDesk.Json

/-- Nothing but blanks between tokens. -/
def IsSpace (text : Text) : Prop :=
  ∀ c ∈ text, isGap c = true

theorem isSpace_nil : IsSpace [] := by simp [IsSpace]

/-! ### Values -/

mutual

/-- The text is one JSON value, without blanks around it, and this is its tree. -/
inductive Spells : Text → Tree → Prop where
  /-- The word `null`. -/
  | null : Spells ['n', 'u', 'l', 'l'] .null
  /-- The word `true`. -/
  | true : Spells ['t', 'r', 'u', 'e'] (.bool true)
  /-- The word `false`. -/
  | false : Spells ['f', 'a', 'l', 's', 'e'] (.bool false)
  /-- A number. -/
  | number {text : Text} {literal : Literal} : SpellsLiteral text literal →
      Spells text (.num literal.value?)
  /-- A string. -/
  | string {text : Text} {parts : List Spelled} : SpellsParts text parts →
      Spells ('"' :: (text ++ ['"'])) (.str (spelledText none parts))
  /-- An array without items. -/
  | emptyArray {gap : Text} : IsSpace gap → Spells ('[' :: (gap ++ [']'])) (.arr [] true)
  /-- An array. -/
  | array {text : Text} {items : List Tree} : SpellsItems text items →
      Spells ('[' :: (text ++ [']'])) (.arr items true)
  /-- An object without members. -/
  | emptyObject {gap : Text} : IsSpace gap → Spells ('\x7b' :: (gap ++ ['\x7d'])) (.obj [] true)
  /-- An object. -/
  | object {text : Text} {members : List (Option Text × Tree)} : SpellsMembers text members →
      Spells ('\x7b' :: (text ++ ['\x7d'])) (.obj members true)

/-- The text is values between commas, each with blanks around it. -/
inductive SpellsItems : Text → List Tree → Prop where
  /-- The last value. -/
  | last {before text after : Text} {item : Tree} : IsSpace before → Spells text item →
      IsSpace after → SpellsItems (before ++ (text ++ after)) [item]
  /-- A value, a comma and other values. -/
  | more {before text after others : Text} {item : Tree} {items : List Tree} : IsSpace before →
      Spells text item → IsSpace after → SpellsItems others items →
      SpellsItems (before ++ (text ++ (after ++ ',' :: others))) (item :: items)

/-- The text is members between commas: each is a string, a colon and a value, with blanks around
them. -/
inductive SpellsMembers : Text → List (Option Text × Tree) → Prop where
  /-- The last member. -/
  | last {before name between front text after : Text} {parts : List Spelled} {value : Tree} :
      IsSpace before → SpellsParts name parts → IsSpace between → IsSpace front →
      Spells text value → IsSpace after →
      SpellsMembers (before ++ '"' :: (name ++ '"' :: (between ++ ':' :: (front ++ (text ++ after)))))
        [(spelledText none parts, value)]
  /-- A member, a comma and other members. -/
  | more {before name between front text after others : Text} {parts : List Spelled} {value : Tree}
      {members : List (Option Text × Tree)} :
      IsSpace before → SpellsParts name parts → IsSpace between → IsSpace front →
      Spells text value → IsSpace after → SpellsMembers others members →
      SpellsMembers
        (before ++ '"' :: (name ++ '"' :: (between ++ ':' :: (front ++ (text ++ (after ++ ',' :: others))))))
        ((spelledText none parts, value) :: members)

end

theorem skipGap_cons {c : Char} (h : isGap c = false) (rest : Text) :
    skipGap (c :: rest) = c :: rest := by
  rw [skipGap, List.dropWhile_cons_of_neg (by simp [h])]

theorem skipGap_append {gap : Text} (h : IsSpace gap) (text : Text) :
    skipGap (gap ++ text) = skipGap text :=
  List.dropWhile_append_of_pos h

theorem skipGap_space {gap : Text} (h : IsSpace gap) {c : Char} (hc : isGap c = false) (rest : Text) :
    skipGap (gap ++ c :: rest) = c :: rest := by
  rw [skipGap_append h, skipGap_cons hc]

theorem Tree.read_space {gap : Text} (h : IsSpace gap) (steps : Nat) (text : Text) :
    Tree.read steps (gap ++ text) = Tree.read steps text := by
  cases steps with
  | zero => rfl
  | succ steps => rw [Tree.read, Tree.read, skipGap_append h]

/-- Blanks end a number, and so does what ends one behind them. -/
theorem endsNumber_space {gap rest : Text} (h : IsSpace gap) (hrest : EndsNumber rest) :
    EndsNumber (gap ++ rest) := by
  cases gap with
  | nil => exact hrest
  | cons c gap =>
    refine endsNumber_cons ?_ _
    have hc : isGap c = true := h c List.mem_cons_self
    simp only [isGap, Bool.or_eq_true, beq_iff_eq] at hc
    rcases hc with ((rfl | rfl) | rfl) | rfl <;> decide

/-- A character with which a value may start. -/
def IsFront (c : Char) : Prop :=
  isGap c = false ∧ c ≠ ']'

/-- A value starts neither with a blank nor with a bracket that closes an array. -/
theorem exists_spells_eq_cons {text : Text} {t : Tree} (h : Spells text t) :
    ∃ c rest, text = c :: rest ∧ IsFront c := by
  cases h with
  | number hliteral =>
    have hdigit : ∀ {c : Char}, c.isDigit = true → IsFront c := by
      intro c hc
      refine ⟨?_, ?_⟩
      · rw [isGap]
        simp only [Bool.or_eq_false_iff, beq_eq_false_iff_ne]
        refine ⟨⟨⟨?_, ?_⟩, ?_⟩, ?_⟩ <;> (rintro rfl; exact absurd hc (by decide))
      · rintro rfl
        exact absurd hc (by decide)
    cases hliteral with
    | minus _ _ _ _ => exact ⟨_, _, rfl, by decide, by decide⟩
    | bare hwhole _ _ _ =>
      obtain ⟨d, ds, rfl⟩ := List.exists_cons_of_ne_nil hwhole.1
      exact ⟨d, _, rfl, hdigit (hwhole.2 d List.mem_cons_self)⟩
  | _ => exact ⟨_, _, rfl, by decide, by decide⟩

namespace Tree

theorem read_skipGap (steps : Nat) (text : Text) : read steps (skipGap text) = read steps text := by
  have hspace : IsSpace (text.takeWhile isGap) := List.all_eq_true.mp List.all_takeWhile
  rw [← read_space hspace, skipGap, List.takeWhile_append_dropWhile]

theorem readItems_skipGap (steps : Nat) (text : Text) :
    readItems steps (skipGap text) = readItems steps text := by
  cases steps with
  | zero => rfl
  | succ steps => rw [readItems, readItems, read_skipGap]

/-- Items start with something else than the bracket that closes an array. -/
theorem exists_skipGap_items {text : Text} {items : List Tree} (h : SpellsItems text items)
    (rest : Text) : ∃ c front, skipGap (text ++ rest) = c :: front ∧ c ≠ ']' := by
  cases h with
  | last hbefore h _ | more hbefore h _ _ =>
    obtain ⟨c, front, rfl, hc⟩ := exists_spells_eq_cons h
    exact ⟨c, _, by rw [List.append_assoc, List.cons_append, List.cons_append,
      skipGap_space hbefore hc.1], hc.2⟩

/-- What starts like a number is read as one. -/
theorem read_of_readLiteral {c : Char} (hc : c = '-' ∨ c.isDigit = true) {text rest : Text}
    {literal : Literal} (h : readLiteral (c :: text) = some (literal, rest)) (steps : Nat) :
    read (steps + 1) (c :: text) = (.num literal.value?, some rest) := by
  -- the character starts nothing else
  have hne : ∀ d : Char, d ≠ '-' → d.isDigit = false → c ≠ d := by
    rintro d hd hdigit rfl
    rcases hc with rfl | h
    · exact hd rfl
    · exact absurd h (by simp [hdigit])
  have hgap : isGap c = false := by
    simp only [isGap, Bool.or_eq_false_iff, beq_eq_false_iff_ne]
    exact ⟨⟨⟨hne _ (by decide) (by decide), hne _ (by decide) (by decide)⟩,
      hne _ (by decide) (by decide)⟩, hne _ (by decide) (by decide)⟩
  rw [read, skipGap_cons hgap]
  split
  · rename_i heq'; cases heq'
  · rename_i heq'; exact absurd (List.cons.inj heq').1 (hne _ (by decide) (by decide))
  · rename_i heq'; exact absurd (List.cons.inj heq').1 (hne _ (by decide) (by decide))
  · rename_i heq'; exact absurd (List.cons.inj heq').1 (hne _ (by decide) (by decide))
  · rename_i heq'; exact absurd (List.cons.inj heq').1 (hne _ (by decide) (by decide))
  · rename_i heq'; exact absurd (List.cons.inj heq').1 (hne _ (by decide) (by decide))
  · rename_i heq'; exact absurd (List.cons.inj heq').1 (hne _ (by decide) (by decide))
  · rename_i heq'
    rw [← heq', h]

/-- A number is read at the front of a text. -/
theorem read_literal {text rest : Text} {literal : Literal} (h : SpellsLiteral text literal)
    (steps : Nat) (hrest : EndsNumber rest) :
    read (steps + 1) (text ++ rest) = (.num literal.value?, some rest) := by
  have hread := readLiteral_of_spells h hrest
  cases h with
  | minus _ _ _ _ => exact read_of_readLiteral (.inl rfl) hread steps
  | bare hwhole _ _ _ =>
    obtain ⟨d, ds, rfl⟩ := List.exists_cons_of_ne_nil hwhole.1
    exact read_of_readLiteral (.inr (hwhole.2 d List.mem_cons_self)) hread steps

mutual

/-- **A text of the grammar is read as its tree** from the front of a text. -/
theorem read_of_spells : ∀ {text : Text} {t : Tree}, Spells text t → ∀ (steps : Nat) (rest : Text),
    2 * text.length ≤ steps + 1 → EndsNumber rest → read steps (text ++ rest) = (t, some rest)
  | _, _, h, 0, rest, hsteps, _ => by
    obtain ⟨c, text, rfl, -⟩ := exists_spells_eq_cons h
    rw [List.length_cons] at hsteps
    omega
  | _, _, .null, steps + 1, rest, _, _ => rfl
  | _, _, .true, steps + 1, rest, _, _ => rfl
  | _, _, .false, steps + 1, rest, _, _ => rfl
  | _, _, .number h, steps + 1, rest, _, hrest => read_literal h steps hrest
  | _, _, .string h, steps + 1, rest, _, _ => by
    rw [List.cons_append, List.append_assoc, read, skipGap_cons (by decide)]
    simp only [readString, List.singleton_append, readSpelled_of_spells h]
    rfl
  | _, _, .emptyArray h, steps + 1, rest, _, _ => by
    rw [List.cons_append, List.append_assoc, read, skipGap_cons (by decide)]
    simp only [List.singleton_append, skipGap_space h (show isGap ']' = false by decide)]
  | _, _, .array h, steps + 1, rest, hsteps, _ => by
    simp only [List.length_cons, List.length_append, List.length_nil] at hsteps
    obtain ⟨c, front, hfront, hc⟩ := exists_skipGap_items h (']' :: rest)
    have hitems := readItems_of_spells h steps rest (by omega)
    rw [← readItems_skipGap, hfront] at hitems
    rw [List.cons_append, List.append_assoc, read, skipGap_cons (by decide)]
    simp only [List.singleton_append, hfront]
    split
    · rename_i heq
      exact absurd (List.cons.inj heq).1 hc
    · rw [hitems]
  | _, _, .emptyObject h, steps + 1, rest, _, _ => by
    rw [List.cons_append, List.append_assoc, read, skipGap_cons (by decide)]
    simp only [List.singleton_append, skipGap_space h (show isGap '\x7d' = false by decide)]
  | _, _, .object h, steps + 1, rest, hsteps, _ => by
    simp only [List.length_cons, List.length_append, List.length_nil] at hsteps
    obtain ⟨front, hfront, hmembers⟩ := readMembers_of_spells h steps rest (by omega)
    rw [List.cons_append, List.append_assoc, read, skipGap_cons (by decide)]
    simp only [List.singleton_append, hfront, hmembers]

/-- Items are read up to the bracket that closes their array. -/
theorem readItems_of_spells : ∀ {text : Text} {items : List Tree}, SpellsItems text items →
    ∀ (steps : Nat) (rest : Text), 2 * text.length ≤ steps →
      readItems steps (text ++ ']' :: rest) = ((items, true), some rest)
  | _, _, .last hbefore h hafter, 0, rest, hsteps => by
    obtain ⟨c, text, rfl, -⟩ := exists_spells_eq_cons h
    simp only [List.length_append, List.length_cons] at hsteps
    omega
  | _, _, .last hbefore h hafter, steps + 1, rest, hsteps => by
    simp only [List.length_append] at hsteps
    have hends := endsNumber_space hafter (endsNumber_cons (c := ']') (by decide) rest)
    rw [List.append_assoc, List.append_assoc, readItems, read_space hbefore,
      read_of_spells h steps _ (by omega) hends]
    simp only [skipGap_space hafter (show isGap ']' = false by decide)]
  | _, _, .more hbefore h hafter hothers, 0, rest, hsteps => by
    simp only [List.length_append, List.length_cons] at hsteps
    omega
  | _, _, .more hbefore h hafter hothers, steps + 1, rest, hsteps => by
    simp only [List.length_append, List.length_cons] at hsteps
    have hends := fun text => endsNumber_space hafter (endsNumber_cons (c := ',') (by decide) text)
    rw [List.append_assoc, List.append_assoc, List.append_assoc, List.cons_append, readItems,
      read_space hbefore, read_of_spells h steps _ (by omega) (hends _)]
    simp only [skipGap_space hafter (show isGap ',' = false by decide)]
    rw [readItems_of_spells hothers steps rest (by omega)]
    rfl

/-- Members are read from behind the quote of the first name up to the brace that closes their
object. -/
theorem readMembers_of_spells : ∀ {text : Text} {members : List (Option Text × Tree)},
    SpellsMembers text members → ∀ (steps : Nat) (rest : Text), 2 * text.length ≤ steps →
      ∃ front, skipGap (text ++ '\x7d' :: rest) = '"' :: front ∧
        readMembers steps front = ((members, true), some rest)
  | _, _, .last hbefore hname hbetween hfront h hafter, 0, rest, hsteps => by
    simp only [List.length_append, List.length_cons] at hsteps
    omega
  | _, _, .last hbefore hname hbetween hfront h hafter, steps + 1, rest, hsteps => by
    simp only [List.length_append, List.length_cons] at hsteps
    have hends := endsNumber_space hafter (endsNumber_cons (c := '\x7d') (by decide) rest)
    simp only [List.append_assoc, List.cons_append]
    refine ⟨_, skipGap_space hbefore (by decide) _, ?_⟩
    rw [readMembers, readString, readSpelled_of_spells hname]
    simp only [Option.map_some, skipGap_space hbetween (show isGap ':' = false by decide)]
    rw [read_space hfront, read_of_spells h steps _ (by omega) hends]
    simp only [skipGap_space hafter (show isGap '\x7d' = false by decide)]
  | _, _, .more hbefore hname hbetween hfront h hafter hothers, 0, rest, hsteps => by
    simp only [List.length_append, List.length_cons] at hsteps
    omega
  | _, _, .more hbefore hname hbetween hfront h hafter hothers, steps + 1, rest, hsteps => by
    simp only [List.length_append, List.length_cons] at hsteps
    have hends := fun text => endsNumber_space hafter (endsNumber_cons (c := ',') (by decide) text)
    obtain ⟨behind, hbehind, hmembers⟩ := readMembers_of_spells hothers steps rest (by omega)
    simp only [List.append_assoc, List.cons_append]
    refine ⟨_, skipGap_space hbefore (by decide) _, ?_⟩
    rw [readMembers, readString, readSpelled_of_spells hname]
    simp only [Option.map_some, skipGap_space hbetween (show isGap ':' = false by decide)]
    rw [read_space hfront, read_of_spells h steps _ (by omega) (hends _)]
    simp only [skipGap_space hafter (show isGap ',' = false by decide), hbehind, hmembers]
    rfl

end

mutual

/-- A text of the grammar is one JSON value. -/
theorem isWhole_of_spells : ∀ {text : Text} {t : Tree}, Spells text t → t.isWhole = true
  | _, _, .null | _, _, .true | _, _, .false | _, _, .number _ | _, _, .string _
  | _, _, .emptyArray _ | _, _, .emptyObject _ => rfl
  | _, _, .array h => by rw [isWhole, allWhole_of_spells h, Bool.and_true]
  | _, _, .object h => by rw [isWhole, allMembersWhole_of_spells h, Bool.and_true]

theorem allWhole_of_spells : ∀ {text : Text} {items : List Tree}, SpellsItems text items →
    allWhole items = true
  | _, _, .last _ h _ => by simp only [allWhole, isWhole_of_spells h, Bool.and_true]
  | _, _, .more _ h _ hothers => by
    rw [allWhole, isWhole_of_spells h, allWhole_of_spells hothers, Bool.and_true]

theorem allMembersWhole_of_spells : ∀ {text : Text} {members : List (Option Text × Tree)},
    SpellsMembers text members → allMembersWhole members = true
  | _, _, .last _ _ _ _ h _ => by
    simp only [allMembersWhole, isWhole_of_spells h, Bool.and_true]
  | _, _, .more _ _ _ _ h _ hothers => by
    rw [allMembersWhole, isWhole_of_spells h, allMembersWhole_of_spells hothers, Bool.and_true]

end

end Tree

/-- The text is one JSON value with nothing but blanks around it, and this is its tree. -/
def SpellsWhole (text : Text) (t : Tree) : Prop :=
  ∃ before object after, IsSpace before ∧ Spells object t ∧ IsSpace after ∧
    text = before ++ (object ++ after)

theorem Spells.whole {text : Text} {t : Tree} (h : Spells text t) : SpellsWhole text t :=
  ⟨[], text, [], isSpace_nil, h, isSpace_nil, by simp⟩

theorem SpellsWhole.isWhole {text : Text} {t : Tree} (h : SpellsWhole text t) : t.isWhole = true := by
  obtain ⟨_, _, _, -, hobject, -, -⟩ := h
  exact Tree.isWhole_of_spells hobject

/-- **Decoding a text of the grammar is decoding its tree.** -/
theorem decodeWhole_of_spells (decoder : Decoder α) {text : Text} {t : Tree}
    (h : SpellsWhole text t) : decodeWhole decoder text = decoder (.streamed Reading.maxLevels) t := by
  obtain ⟨before, object, after, hbefore, hobject, hafter, rfl⟩ := h
  have hends : EndsNumber after := by
    simpa using endsNumber_space hafter endsNumber_nil
  have hread : Tree.ofText (before ++ (object ++ after)) = (t, some after) := by
    rw [Tree.ofText, Tree.read_space hbefore]
    refine Tree.read_of_spells hobject _ after ?_ hends
    simp only [List.length_append]
    omega
  have hgap : skipGap after = [] := by
    simpa [skipGap] using skipGap_append hafter []
  rw [decodeWhole, hread]
  cases hdecode : decoder (.streamed Reading.maxLevels) t with
  | error fault => simp only [hdecode, bind, Except.bind]
  | ok value =>
    simp only [hdecode, bind, Except.bind, hgap]
    rfl

end ScriptDesk.Json
