import ScriptDesk.Text.Blank
import ScriptDesk.Text.Lines

/-!
# Cutting text into lines

What `cutAt` and `cutAfter` do to what is put together around marks, and `pieces` and `hasCrlf` to a
text that is put together from lines. Everything is a part without the mark, or such a part, the
mark and something behind it, so most statements go by `cut_induction`; for texts and their line
feeds this is `line_induction`.

Main statements: `cutAt_append_cons` says that a mark parts what is in front of it from what is
behind it; `cutAfter_append` cuts behind the first mark; `tail_pieces_suffix` says that the end of a
text has the same pieces as the text, its first one aside; `hasCrlf_iff` finds a line end of the
longer kind.
-/

namespace ScriptDesk

/-- A list is one without the mark, or such a list, the mark and a list behind it. -/
theorem cut_induction {α : Type} [DecidableEq α] (mark : α) {P : List α → Prop}
    (last : ∀ line : List α, mark ∉ line → P line)
    (more : ∀ line rest : List α, mark ∉ line → P rest → P (line ++ mark :: rest)) :
    ∀ list, P list := by
  intro list
  -- the line read so far is kept in front while the rest is taken apart
  have go : ∀ rest line : List α, mark ∉ line → P (line ++ rest) := by
    intro rest
    induction rest with
    | nil => intro line hline; rw [List.append_nil]; exact last line hline
    | cons c rest ih =>
      intro line hline
      by_cases hc : c = mark
      · subst hc
        exact more line rest hline (ih [] (by simp))
      · have hlonger : mark ∉ line ++ [c] := by
          simp only [List.mem_append, List.mem_singleton, not_or]
          exact ⟨hline, fun h => hc h.symm⟩
        simpa using ih (line ++ [c]) hlonger
  exact go list [] (by simp)

namespace Text

/-! ### Cutting at marks -/

section Marks

variable {α : Type}

/-- The first pieces joined are the beginning of all of them joined. -/
theorem join_prefix_join {separator : Text α} {first all : List (Text α)} (h : first <+: all) :
    join separator first <+: join separator all := by
  induction first generalizing all with
  | nil => exact List.nil_prefix
  | cons piece first ih =>
    obtain ⟨later, rfl⟩ := h
    cases first with
    | nil =>
      cases later with
      | nil => exact List.prefix_rfl
      | cons next later =>
        rw [List.cons_append, List.nil_append, join_cons_cons, List.append_assoc]
        exact List.prefix_append _ _
    | cons next first =>
      rw [List.cons_append, List.cons_append, join_cons_cons, join_cons_cons]
      exact (List.prefix_append_right_inj _).mpr (ih (List.prefix_append _ _))

/-- A unit of joined parts is in the separator or in a part. -/
theorem mem_of_mem_join {separator : Text α} {c : α} {parts : List (Text α)}
    (h : c ∈ join separator parts) : c ∈ separator ∨ ∃ part ∈ parts, c ∈ part := by
  induction parts with
  | nil => cases h
  | cons part rest ih =>
    cases rest with
    | nil => exact .inr ⟨part, List.mem_cons_self, h⟩
    | cons next rest =>
      rw [join_cons_cons, List.mem_append, List.mem_append] at h
      rcases h with (h | h) | h
      · exact .inr ⟨part, List.mem_cons_self, h⟩
      · exact .inl h
      · rcases ih h with hseparator | ⟨other, hother, hc⟩
        · exact .inl hseparator
        · exact .inr ⟨other, List.mem_cons_of_mem _ hother, hc⟩

/-- A list is parted at its first mark or at a later one. -/
theorem eq_or_later_of_append_eq {mark : α} {piece rest front back : Text α} (hpiece : mark ∉ piece)
    (h : piece ++ mark :: rest = front ++ mark :: back) :
    piece = front ∧ rest = back ∨
      ∃ between, front = piece ++ mark :: between ∧ rest = between ++ mark :: back := by
  induction piece generalizing front with
  | nil =>
    cases front with
    | nil => exact .inl ⟨rfl, (List.cons.inj h).2⟩
    | cons c front =>
      obtain ⟨rfl, hrest⟩ := List.cons.inj h
      exact .inr ⟨front, rfl, hrest⟩
  | cons c piece ih =>
    obtain ⟨hc, hpiece⟩ := not_or.mp (mt List.mem_cons.mpr hpiece)
    cases front with
    | nil => exact absurd (List.cons.inj h).1.symm hc
    | cons d front =>
      obtain ⟨rfl, hpieces⟩ := List.cons.inj h
      rcases ih hpiece hpieces with ⟨rfl, hrest⟩ | ⟨between, rfl, hrest⟩
      · exact .inl ⟨rfl, hrest⟩
      · exact .inr ⟨between, rfl, hrest⟩

variable [DecidableEq α]

theorem cutAt_of_not_mem {mark : α} {text : Text α} (h : mark ∉ text) :
    cutAt mark text = [text] := by
  induction text with
  | nil => rfl
  | cons c rest ih =>
    simp only [List.mem_cons, not_or] at h
    rw [cutAt, if_neg (Ne.symm h.1), ih h.2]

theorem cutAt_append {mark : α} {piece : Text α} (h : mark ∉ piece) (rest : Text α) :
    cutAt mark (piece ++ mark :: rest) = piece :: cutAt mark rest := by
  induction piece with
  | nil => simp [cutAt]
  | cons c piece ih =>
    simp only [List.mem_cons, not_or] at h
    rw [List.cons_append, cutAt, if_neg (Ne.symm h.1), ih h.2]

/-- A mark parts what is in front of it from what is behind it. -/
theorem cutAt_append_cons (mark : α) (text rest : Text α) :
    cutAt mark (text ++ mark :: rest) = cutAt mark text ++ cutAt mark rest := by
  induction text using cut_induction mark with
  | last line h => rw [cutAt_append h, cutAt_of_not_mem h, List.singleton_append]
  | more line text h ih =>
    rw [List.append_assoc, List.cons_append, cutAt_append h, cutAt_append h, ih, List.cons_append]

theorem not_mem_of_mem_cutAt {mark : α} {text piece : Text α} (h : piece ∈ cutAt mark text) :
    mark ∉ piece := by
  induction text using cut_induction mark with
  | last line hline =>
    rw [cutAt_of_not_mem hline, List.mem_singleton] at h
    rwa [h]
  | more line text hline ih =>
    rw [cutAt_append hline, List.mem_cons] at h
    rcases h with rfl | h
    · exact hline
    · exact ih h

/-- Joined pieces are cut where they were joined. -/
theorem cutAt_join {mark : α} {pieces : List (Text α)} (hne : pieces ≠ [])
    (h : ∀ piece ∈ pieces, mark ∉ piece) : cutAt mark (join [mark] pieces) = pieces := by
  induction pieces with
  | nil => exact absurd rfl hne
  | cons piece rest ih =>
    obtain ⟨hpiece, hrest⟩ := List.forall_mem_cons.mp h
    cases rest with
    | nil => exact cutAt_of_not_mem hpiece
    | cons next rest =>
      rw [join_cons_cons, List.append_assoc, List.singleton_append, cutAt_append hpiece,
        ih (List.cons_ne_nil _ _) hrest]

/-! Cutting behind marks leaves each mark at the end of its piece. -/

theorem cutAfter_of_not_mem {mark : α} {text : Text α} (h : mark ∉ text) (hne : text ≠ []) :
    cutAfter mark text = [text] := by
  induction text with
  | nil => exact absurd rfl hne
  | cons c rest ih =>
    simp only [List.mem_cons, not_or] at h
    rw [cutAfter, if_neg (Ne.symm h.1)]
    cases rest with
    | nil => rfl
    | cons d rest => rw [ih h.2 (by simp)]

/-- The first piece reaches up to the first mark. -/
theorem cutAfter_append {mark : α} {piece : Text α} (h : mark ∉ piece) (rest : Text α) :
    cutAfter mark (piece ++ mark :: rest) = (piece ++ [mark]) :: cutAfter mark rest := by
  induction piece with
  | nil => simp [cutAfter]
  | cons c piece ih =>
    simp only [List.mem_cons, not_or] at h
    rw [List.cons_append, cutAfter, if_neg (Ne.symm h.1), ih h.2]
    rfl

end Marks

/-- A text is a line, or a line with its line feed and a text behind it. -/
theorem line_induction {P : Text → Prop} (last : ∀ line : Text, '\n' ∉ line → P line)
    (more : ∀ line rest : Text, '\n' ∉ line → P rest → P (line ++ '\n' :: rest)) :
    ∀ text, P text :=
  cut_induction '\n' last more

/-- The first line of a text, and what its end begins. -/
theorem exists_first_line (text : Text) :
    ∃ line tail : Text, '\n' ∉ line ∧ (tail = [] ∨ tail.head? = some '\n') ∧ text = line ++ tail := by
  induction text using line_induction with
  | last line h => exact ⟨line, [], h, .inl rfl, (List.append_nil line).symm⟩
  | more line rest h _ => exact ⟨line, '\n' :: rest, h, .inr rfl, rfl⟩

/-! ### Pieces -/

@[simp] theorem pieces_nil : pieces [] = [] := rfl

@[simp] theorem flatten_pieces (text : Text) : (pieces text).flatten = text :=
  flatten_cutAfter '\n' text

theorem pieces_of_not_mem {line : Text} (h : '\n' ∉ line) (hne : line ≠ []) :
    pieces line = [line] :=
  cutAfter_of_not_mem h hne

/-- The first piece of a text reaches up to its first line feed. -/
theorem pieces_line {line : Text} (h : '\n' ∉ line) (rest : Text) :
    pieces (line ++ '\n' :: rest) = (line ++ ['\n']) :: pieces rest :=
  cutAfter_append h rest

/-- The pieces of the end of a text are pieces of the text, but for the first of them, which may be
the end of one. -/
theorem tail_pieces_suffix {ending text : Text} (h : ending <:+ text) :
    (pieces ending).tail <:+ (pieces text).tail := by
  obtain ⟨before, rfl⟩ := h
  induction before with
  | nil => exact List.suffix_rfl
  | cons c before ih =>
    rw [pieces, pieces] at ih
    rw [pieces, pieces, List.cons_append, cutAfter]
    split
    · exact ih.trans (List.tail_suffix _)
    · split <;> simp_all

/-- The pieces behind some pieces of a text are those of the text that they make up. -/
theorem pieces_flatten_of_suffix {some all : List Text} {text : Text} (hall : pieces text = all)
    (h : some <:+ all) : pieces some.flatten = some := by
  subst hall
  induction text using line_induction with
  | last line hline =>
    by_cases hne : line = []
    · subst hne
      rw [pieces_nil, List.suffix_nil] at h
      rw [h]; rfl
    · rw [pieces_of_not_mem hline hne, List.suffix_cons_iff, List.suffix_nil] at h
      rcases h with rfl | rfl
      · simpa using pieces_of_not_mem hline hne
      · rfl
  | more line rest hline ih =>
    rw [pieces_line hline, List.suffix_cons_iff] at h
    rcases h with rfl | h
    · simpa using pieces_line hline rest
    · exact ih h

/-! ### Lines -/

/-- A line without the carriage return at its end, if there is one. -/
def withoutReturn (line : Text) : Text :=
  (line.dropLast? '\r').getD line

theorem dropLast?_of_not_mem {mark : Char} {text : Text} (h : mark ∉ text) :
    dropLast? mark text = none := by
  rw [dropLast?, if_neg]
  exact fun hlast => h (List.mem_of_getLast? hlast)

@[simp] theorem dropLast?_append_mark (mark : Char) (text : Text) :
    dropLast? mark (text ++ [mark]) = some text := by
  simp [dropLast?]

theorem withoutReturn_of_not_mem {line : Text} (h : '\r' ∉ line) : withoutReturn line = line := by
  rw [withoutReturn, dropLast?_of_not_mem h, Option.getD_none]

@[simp] theorem withoutReturn_append_return (line : Text) :
    withoutReturn (line ++ ['\r']) = line := by
  rw [withoutReturn, dropLast?_append_mark, Option.getD_some]

theorem withoutReturn_prefix (line : Text) : withoutReturn line <+: line := by
  rw [withoutReturn, dropLast?]
  split
  · exact List.dropLast_prefix line
  · exact List.prefix_rfl

@[simp] theorem lineOf_append_feed (line : Text) : lineOf (line ++ ['\n']) = withoutReturn line := by
  rw [lineOf, dropLast?_append_mark]
  rfl

theorem bareLine_of_not_mem {line : Text} (h : '\n' ∉ line) :
    bareLine line = withoutReturn line := by
  rw [bareLine, dropLast?_of_not_mem h]
  rfl

@[simp] theorem bareLine_append_feed (line : Text) :
    bareLine (line ++ ['\n']) = withoutReturn line := by
  rw [bareLine, dropLast?_append_mark]
  rfl

/-- The first line of a text, without its end. -/
theorem lines_line {line : Text} (h : '\n' ∉ line) (rest : Text) :
    lines (line ++ '\n' :: rest) = withoutReturn line :: lines rest := by
  rw [lines, pieces_line h, List.map_cons, lineOf_append_feed]
  rfl

/-- A property of lines that the empty one lacks counts the same over the pieces, line ends dropped,
and over what stands between the line feeds. -/
theorem countP_pieces_bareLine (test : Text → Bool) (hnil : test [] = false) (text : Text) :
    (pieces text).countP (fun piece => test (bareLine piece)) =
      (cutAt '\n' text).countP (fun line => test (withoutReturn line)) := by
  induction text using line_induction with
  | last line h =>
    rw [cutAt_of_not_mem h]
    by_cases hne : line = []
    · subst hne
      have : test (withoutReturn []) = false := hnil
      simp [this]
    · rw [pieces_of_not_mem h hne, List.countP_singleton, List.countP_singleton,
        bareLine_of_not_mem h]
  | more line rest h ih =>
    rw [pieces_line h, cutAt_append h, List.countP_cons, List.countP_cons, ih,
      bareLine_append_feed]

/-! ### Line ends of two characters -/

theorem hasCrlf_iff {text : Text} :
    hasCrlf text = true ↔ ∃ before rest, text = before ++ '\r' :: '\n' :: rest := by
  constructor
  · intro h
    induction text with
    | nil => simp [hasCrlf] at h
    | cons c rest ih =>
      unfold hasCrlf at h
      split at h
      · rename_i rest' heq
        exact ⟨[], rest', heq⟩
      · rename_i heq
        obtain ⟨-, rfl⟩ := List.cons.inj heq
        obtain ⟨before, rest', rfl⟩ := ih h
        exact ⟨c :: before, rest', rfl⟩
      · rename_i heq
        cases heq
  · rintro ⟨before, rest, rfl⟩
    induction before with
    | nil => rfl
    | cons c before ih =>
      rw [List.cons_append]
      unfold hasCrlf
      split
      · rfl
      · rename_i heq
        obtain ⟨-, rfl⟩ := List.cons.inj heq
        exact ih
      · rename_i heq
        cases heq

/-- What the end of a text has, the text has. -/
theorem hasCrlf_of_suffix {ending text : Text} (h : ending <:+ text) (hcrlf : hasCrlf ending = true) :
    hasCrlf text = true := by
  obtain ⟨front, rfl⟩ := h
  obtain ⟨before, rest, rfl⟩ := hasCrlf_iff.mp hcrlf
  exact hasCrlf_iff.mpr ⟨front ++ before, rest, by simp⟩

/-- A front without carriage returns has no part in a line end of two characters. -/
theorem hasCrlf_append_of_not_mem {front : Text} (h : '\r' ∉ front) (rest : Text) :
    hasCrlf (front ++ rest) = hasCrlf rest := by
  induction front with
  | nil => rfl
  | cons c front ih =>
    simp only [List.mem_cons, not_or] at h
    rw [List.cons_append, ← ih h.2, hasCrlf]
    exact fun _ hc _ => h.1 hc.symm

/-! ### Blanks -/

/-- What the trimming leaves is the end of the text. -/
theorem trimStart_suffix (text : Text) : trimStart text <:+ text :=
  List.dropWhile_suffix _

theorem trimStart_of_head {text : Text} (h : ∀ c ∈ text.head?, isBlank c = false) :
    trimStart text = text := by
  cases text with
  | nil => rfl
  | cons c rest =>
    have hc : isBlank c = false := h c rfl
    rw [trimStart, List.dropWhile_cons_of_neg (by simp [hc])]

/-- A text without blanks at its ends is trimmed. -/
theorem trim_of_ends {text : Text} (hfirst : ∀ c ∈ text.head?, isBlank c = false)
    (hlast : ∀ c ∈ text.getLast?, isBlank c = false) : trim text = text := by
  have hend : trimStart text.reverse = text.reverse :=
    trimStart_of_head fun c hc => hlast c (by rwa [List.head?_reverse] at hc)
  rw [trimStart] at hend
  rw [trim, trimStart_of_head hfirst, trimEnd, hend, List.reverse_reverse]

/-- A text without blanks is trimmed. -/
theorem trim_of_forall {text : Text} (h : ∀ c ∈ text, isBlank c = false) : trim text = text :=
  trim_of_ends (fun c hc => h c (List.mem_of_head? hc)) fun c hc => h c (List.mem_of_getLast? hc)

theorem isBlank_head?_trim (text : Text) : ∀ c ∈ (trim text).head?, isBlank c = false := by
  have hbegins : trim text <+: trimStart text := by
    obtain ⟨front, hfront⟩ := List.dropWhile_suffix isBlank (l := (trimStart text).reverse)
    exact ⟨front.reverse, by rw [trim, trimEnd, ← List.reverse_append, hfront, List.reverse_reverse]⟩
  intro c hc
  obtain ⟨rest, hrest⟩ := hbegins
  refine isBlank_head?_trimStart text c ?_
  rw [← hrest, List.head?_append, Option.mem_def.mp hc]
  rfl

theorem isBlank_getLast?_trim (text : Text) : ∀ c ∈ (trim text).getLast?, isBlank c = false := by
  intro c hc
  rw [trim, trimEnd, List.getLast?_reverse] at hc
  exact isBlank_head?_trimStart (trimStart text).reverse c hc

/-- Trimming twice is trimming once. -/
theorem trim_trim (text : Text) : trim (trim text) = trim text :=
  trim_of_ends (isBlank_head?_trim text) (isBlank_getLast?_trim text)

theorem trimStart_eq_nil_iff {text : Text} : trimStart text = [] ↔ ∀ c ∈ text, isBlank c = true := by
  induction text with
  | nil => simp
  | cons c rest ih =>
    rw [trimStart] at ih ⊢
    cases hc : isBlank c with
    | true => simp [hc, ih]
    | false => simp [hc]

/-- Nothing is left of a blank text, and of no other one. -/
theorem trim_eq_nil_iff {text : Text} : trim text = [] ↔ ∀ c ∈ text, isBlank c = true := by
  have hend : trim text = [] ↔ ∀ c ∈ trimStart text, isBlank c = true := by
    rw [trim, trimEnd, List.reverse_eq_nil_iff, ← trimStart, trimStart_eq_nil_iff]
    simp only [List.mem_reverse]
  rw [hend, ← trimStart_eq_nil_iff, trimStart_trimStart, trimStart_eq_nil_iff]

/-- A blank at the end is trimmed away. -/
theorem trim_append_blank (text : Text) {c : Char} (hc : isBlank c = true) :
    trim (text ++ [c]) = trim text := by
  have hend : ∀ front : Text, trimEnd (front ++ [c]) = trimEnd front := by
    intro front
    rw [trimEnd, List.reverse_append, List.reverse_singleton, List.singleton_append,
      List.dropWhile_cons_of_pos hc, trimEnd]
  rw [trim, trim, trimStart, trimStart, List.dropWhile_append]
  split
  · rename_i hempty
    rw [List.isEmpty_iff.mp hempty, List.dropWhile_cons_of_pos hc, List.dropWhile_nil]
  · exact hend _

end Text

end ScriptDesk
