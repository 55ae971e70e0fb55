import ScriptDesk.Proofs.Text.Lines

/-!
# The same text in the longer convention

`withCrlf` puts a carriage return in front of each line feed. A text that has none so far keeps its
lines (`lines_withCrlf`), and its pieces are the same but for their ends (`pieces_withCrlf`).
Whoever passes over characters of a kind does so alike in both texts, provided that the kind has
both characters of a line end or neither (`dropWhile_withCrlf`).
-/

namespace ScriptDesk.Text

/-- The text with each line feed replaced by a carriage return and a line feed. -/
def withCrlf (text : Text) : Text :=
  text.flatMap fun c => if c = '\n' then ['\r', '\n'] else [c]

@[simp] theorem withCrlf_nil : withCrlf [] = [] := rfl

@[simp] theorem withCrlf_feed (rest : Text) :
    withCrlf ('\n' :: rest) = '\r' :: '\n' :: withCrlf rest := rfl

theorem withCrlf_cons {c : Char} (h : c ≠ '\n') (rest : Text) :
    withCrlf (c :: rest) = c :: withCrlf rest := by
  simp [withCrlf, h]

@[simp] theorem withCrlf_append (front rest : Text) :
    withCrlf (front ++ rest) = withCrlf front ++ withCrlf rest :=
  List.flatMap_append

theorem withCrlf_of_not_mem {text : Text} (h : '\n' ∉ text) : withCrlf text = text := by
  induction text with
  | nil => rfl
  | cons c rest ih =>
    simp only [List.mem_cons, not_or] at h
    rw [withCrlf_cons (Ne.symm h.1), ih h.2]

theorem withCrlf_eq_nil_iff {text : Text} : withCrlf text = [] ↔ text = [] := by
  cases text with
  | nil => simp
  | cons c rest =>
    by_cases hc : c = '\n'
    · simp [hc]
    · simp [withCrlf_cons hc]

theorem length_le_length_withCrlf (text : Text) : text.length ≤ (withCrlf text).length := by
  induction text with
  | nil => exact Nat.le_refl _
  | cons c rest ih =>
    by_cases hc : c = '\n'
    · simp only [hc, withCrlf_feed, List.length_cons]
      omega
    · simpa [withCrlf_cons hc] using ih

/-- What stands in front of the first line feed stands in front in both texts. -/
theorem exists_of_withCrlf_eq_append {text front rest : Text} (h : withCrlf text = front ++ rest)
    (hfront : '\r' ∉ front) : ∃ others, text = front ++ others ∧ withCrlf others = rest := by
  induction front generalizing text with
  | nil => exact ⟨text, rfl, h⟩
  | cons c front ih =>
    simp only [List.mem_cons, not_or] at hfront
    cases text with
    | nil => simp at h
    | cons d text =>
      by_cases hd : d = '\n'
      · rw [hd, withCrlf_feed] at h
        exact absurd (List.cons.inj h).1 hfront.1
      · rw [withCrlf_cons hd] at h
        obtain ⟨rfl, htext⟩ := List.cons.inj h
        obtain ⟨others, rfl, hothers⟩ := ih htext hfront.2
        exact ⟨others, rfl, hothers⟩

theorem exists_of_withCrlf_eq_cons {text rest : Text} {c : Char} (h : withCrlf text = c :: rest)
    (hc : c ≠ '\r') : ∃ others, text = c :: others ∧ withCrlf others = rest := by
  have hfront : withCrlf text = [c] ++ rest := h
  exact exists_of_withCrlf_eq_append hfront (by simpa using hc.symm)

/-! ### Characters of a kind -/

theorem dropWhile_withCrlf {kind : Char → Bool} (h : kind '\r' = kind '\n') (text : Text) :
    (withCrlf text).dropWhile kind = withCrlf (text.dropWhile kind) := by
  induction text with
  | nil => rfl
  | cons c rest ih =>
    by_cases hc : c = '\n'
    · subst hc
      cases hkind : kind '\n' with
      | true => simp [hkind, h, ih]
      | false => simp [hkind, h]
    · cases hkind : kind c with
      | true => simp [withCrlf_cons hc, hkind, ih]
      | false => simp [withCrlf_cons hc, hkind]

/-- A kind without the characters of line ends ends where a line does. -/
theorem takeWhile_withCrlf {kind : Char → Bool} (hreturn : kind '\r' = false)
    (hfeed : kind '\n' = false) (text : Text) :
    (withCrlf text).takeWhile kind = text.takeWhile kind := by
  induction text with
  | nil => rfl
  | cons c rest ih =>
    by_cases hc : c = '\n'
    · simp [hc, hreturn, hfeed]
    · simp [withCrlf_cons hc, List.takeWhile_cons, ih]

theorem trimStart_withCrlf (text : Text) : trimStart (withCrlf text) = withCrlf (trimStart text) :=
  dropWhile_withCrlf (by decide) text

/-! ### Lines -/

/-- Both texts are cut in the same places. -/
theorem pieces_withCrlf (text : Text) : pieces (withCrlf text) = (pieces text).map withCrlf := by
  induction text using line_induction with
  | last line h =>
    rw [withCrlf_of_not_mem h]
    by_cases hne : line = []
    · simp [hne]
    · simp [pieces_of_not_mem h hne, withCrlf_of_not_mem h]
  | more line rest h ih =>
    have hline : '\n' ∉ line ++ ['\r'] := by simp [h]
    have heq : withCrlf (line ++ '\n' :: rest) = (line ++ ['\r']) ++ '\n' :: withCrlf rest := by
      simp [withCrlf_of_not_mem h]
    rw [heq, pieces_line hline, pieces_line h, ih]
    simp [withCrlf_of_not_mem h]

/-- A piece of a text is a line, with its line feed or, at the end of the text, without. -/
theorem line_of_mem_pieces {text piece : Text} (h : piece ∈ pieces text) :
    ∃ line : Text, '\n' ∉ line ∧ (piece = line ∨ piece = line ++ ['\n']) := by
  induction text using line_induction with
  | last line hline =>
    by_cases hne : line = []
    · simp [hne] at h
    · rw [pieces_of_not_mem hline hne, List.mem_singleton] at h
      exact ⟨line, hline, .inl h⟩
  | more line rest hline ih =>
    rw [pieces_line hline, List.mem_cons] at h
    rcases h with rfl | h
    · exact ⟨line, hline, .inr rfl⟩
    · exact ih h

theorem not_mem_of_mem_pieces {text piece : Text} {c : Char} (hc : c ∉ text)
    (h : piece ∈ pieces text) : c ∉ piece := by
  intro hpiece
  rw [← flatten_pieces text] at hc
  exact hc (List.mem_flatten_of_mem h hpiece)

section

variable {text : Text} (hreturn : '\r' ∉ text)
include hreturn

/-- A piece stays as it is, or is a line whose end gets longer. -/
theorem withCrlf_of_mem_pieces {piece : Text} (h : piece ∈ pieces text) :
    withCrlf piece = piece ∨
      ∃ line : Text, '\r' ∉ line ∧ piece = line ++ ['\n'] ∧
        withCrlf piece = (line ++ ['\r']) ++ ['\n'] := by
  have hpiece := not_mem_of_mem_pieces hreturn h
  obtain ⟨line, hline, rfl | rfl⟩ := line_of_mem_pieces h
  · exact .inl (withCrlf_of_not_mem hline)
  · refine .inr ⟨line, fun hmem => hpiece (List.mem_append_left _ hmem), rfl, ?_⟩
    simp [withCrlf_of_not_mem hline]

/-- Without its end a piece is the same line. -/
theorem bareLine_withCrlf {piece : Text} (h : piece ∈ pieces text) :
    bareLine (withCrlf piece) = bareLine piece := by
  obtain heq | ⟨line, hline, rfl, heq⟩ := withCrlf_of_mem_pieces hreturn h
  · rw [heq]
  · rw [heq, bareLine_append_feed, bareLine_append_feed, withoutReturn_append_return,
      withoutReturn_of_not_mem hline]

theorem lineOf_withCrlf {piece : Text} (h : piece ∈ pieces text) :
    lineOf (withCrlf piece) = lineOf piece := by
  obtain heq | ⟨line, hline, rfl, heq⟩ := withCrlf_of_mem_pieces hreturn h
  · rw [heq]
  · rw [heq, lineOf_append_feed, lineOf_append_feed, withoutReturn_append_return,
      withoutReturn_of_not_mem hline]

/-- Both texts have the same lines. -/
theorem lines_withCrlf : lines (withCrlf text) = lines text := by
  rw [lines, pieces_withCrlf, List.map_map, lines]
  exact List.map_congr_left fun piece hpiece => lineOf_withCrlf hreturn hpiece

end

/-- A line has no line feed. -/
theorem not_mem_of_mem_lines {text line : Text} (h : line ∈ lines text) : '\n' ∉ line := by
  obtain ⟨piece, hpiece, rfl⟩ := List.mem_map.mp h
  obtain ⟨line, hline, rfl | rfl⟩ := line_of_mem_pieces hpiece
  · rwa [lineOf, dropLast?_of_not_mem hline]
  · rw [lineOf_append_feed]
    have hbegins := withoutReturn_prefix line
    exact fun hmem => hline (hbegins.mem hmem)

/-- Lines joined in one convention are lines joined in the other. -/
theorem withCrlf_join {lines : List Text} (h : ∀ line ∈ lines, '\n' ∉ line) :
    withCrlf (join LineEnding.lf.separator lines) = join LineEnding.crlf.separator lines := by
  induction lines with
  | nil => rfl
  | cons line lines ih =>
    obtain ⟨hline, hlines⟩ := List.forall_mem_cons.mp h
    cases lines with
    | nil => exact withCrlf_of_not_mem hline
    | cons next lines =>
      rw [join_cons_cons, join_cons_cons, withCrlf_append, withCrlf_append, ih hlines,
        withCrlf_of_not_mem hline]
      rfl

/-! ### Conventions -/

theorem detect_of_not_mem {text : Text} (h : '\r' ∉ text) : LineEnding.detect text = .lf := by
  rw [LineEnding.detect, if_neg]
  intro hcrlf
  obtain ⟨before, rest, rfl⟩ := hasCrlf_iff.mp hcrlf
  simp at h

theorem detect_withCrlf {text : Text} (h : '\n' ∈ text) :
    LineEnding.detect (withCrlf text) = .crlf := by
  obtain ⟨before, rest, rfl⟩ := List.append_of_mem h
  rw [LineEnding.detect, if_pos]
  exact hasCrlf_iff.mpr ⟨withCrlf before, withCrlf rest, by simp⟩

end ScriptDesk.Text
