import Mathlib.Data.List.Infix
import ScriptDesk.Text.Basic

/-!
# Words in a text that is put together

A text mentions a word if the word stands somewhere in it (`mentions_iff`). In two texts, one behind
the other, a word may stand in the first one, in the second one, or across the border
(`infix_append_cases`). Some texts leave no word across their border: none begins within them and
goes on behind (`EndsApart`), or none begins before them and goes on into them (`StartsApart`). Next
to such a text every word is on one side (`infix_append_iff_of_apart`).
-/

namespace ScriptDesk.Text

theorem mentions_iff {part text : Text} : mentions part text = true ↔ part <:+: text := by
  induction text with
  | nil => rw [mentions, List.isEmpty_iff, List.infix_nil]
  | cons c rest ih =>
    rw [mentions, Bool.or_eq_true, List.isPrefixOf_iff_prefix, ih, List.infix_cons_iff]

/-- The ways to cut a word in two, neither of which is empty. -/
def halves : Text → List (Text × Text)
  | [] | [_] => []
  | c :: d :: rest => ([c], d :: rest) :: (halves (d :: rest)).map fun cut => (c :: cut.1, cut.2)

theorem append_of_mem_halves {word : Text} {cut : Text × Text} (h : cut ∈ halves word) :
    cut.1 ++ cut.2 = word := by
  fun_induction halves word generalizing cut with
  | case1 => cases h
  | case2 c => cases h
  | case3 c d rest ih =>
    rcases List.mem_cons.mp h with rfl | hmem
    · rfl
    · obtain ⟨shorter, hshorter, rfl⟩ := List.mem_map.mp hmem
      exact congrArg (c :: ·) (ih hshorter)

theorem mem_halves {head tail : Text} (hhead : head ≠ []) (htail : tail ≠ []) :
    (head, tail) ∈ halves (head ++ tail) := by
  induction head with
  | nil => exact absurd rfl hhead
  | cons c head ih =>
    obtain ⟨d, rest, hrest⟩ :=
      List.exists_cons_of_ne_nil (List.append_ne_nil_of_right_ne_nil head htail)
    rw [List.cons_append, hrest, halves, ← hrest]
    by_cases hnone : head = []
    · subst hnone
      exact List.mem_cons_self
    · exact List.mem_cons_of_mem _ (List.mem_map.mpr ⟨(head, tail), ih hnone, rfl⟩)

/-- A word in two texts is in one of them, or the border cuts it in two. -/
theorem infix_append_cases {word front back : Text} (h : word <:+: front ++ back) :
    (word <:+: front ∨ word <:+: back) ∨
      ∃ cut ∈ halves word, cut.1 <:+ front ∧ cut.2 <+: back := by
  rcases List.infix_append_iff.mp h with hfront | hback | ⟨head, tail, rfl, hhead, htail⟩
  · exact .inl (.inl hfront)
  · exact .inl (.inr hback)
  · by_cases hnone : head = []
    · exact .inl (.inr (by simpa [hnone] using htail.isInfix))
    by_cases hwhole : tail = []
    · exact .inl (.inl (by simpa [hwhole] using hhead.isInfix))
    exact .inr ⟨(head, tail), mem_halves hnone hwhole, hhead, htail⟩

/-- No word begins within the text and goes on behind it. -/
def EndsApart (words : List Text) (text : Text) : Prop :=
  ∀ word ∈ words, ∀ cut ∈ halves word, ¬cut.1 <:+ text

/-- No word begins before the text and goes on into it. -/
def StartsApart (words : List Text) (text : Text) : Prop :=
  ∀ word ∈ words, ∀ cut ∈ halves word, ¬cut.2 <+: text

-- read backwards, for then the first character mostly decides
instance (words : List Text) (text : Text) : Decidable (EndsApart words text) :=
  decidable_of_iff (∀ word ∈ words, ∀ cut ∈ halves word, ¬cut.1.reverse <+: text.reverse)
    (by simp only [EndsApart, List.reverse_prefix])

instance (words : List Text) (text : Text) : Decidable (StartsApart words text) :=
  inferInstanceAs (Decidable (∀ word ∈ words, ∀ cut ∈ halves word, ¬cut.2 <+: text))

/-- What stands before a text that is in no word does not matter for what goes on behind it. -/
theorem EndsApart.append {words : List Text} {text : Text} (h : EndsApart words text)
    (hforeign : ∀ word ∈ words, ¬text <:+: word) (front : Text) :
    EndsApart words (front ++ text) := by
  intro word hword cut hcut hsuffix
  rcases List.suffix_or_suffix_of_suffix hsuffix (List.suffix_append front text) with
    hbegins | hbegun
  · exact h word hword cut hcut hbegins
  · exact hforeign word hword (hbegun.isInfix.trans ⟨[], cut.2, append_of_mem_halves hcut⟩)

/-- Where either of two texts leaves no word across the border, a word is in one of them. -/
theorem infix_append_iff_of_apart {words : List Text} {word front back : Text}
    (h : EndsApart words front ∨ StartsApart words back) (hword : word ∈ words) :
    word <:+: front ++ back ↔ word <:+: front ∨ word <:+: back := by
  constructor
  · intro hinfix
    refine (infix_append_cases hinfix).resolve_right ?_
    rintro ⟨cut, hcut, hhead, htail⟩
    rcases h with hends | hstarts
    · exact hends word hword cut hcut hhead
    · exact hstarts word hword cut hcut htail
  · rintro (hfront | hback)
    · exact hfront.trans (List.prefix_append front back).isInfix
    · exact hback.trans (List.suffix_append front back).isInfix

end ScriptDesk.Text
