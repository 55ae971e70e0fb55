import ScriptDesk.Proofs.Script.Splicing

/-!
# Namespaces on lines

An editor shows the namespaces of a script one on each line, and reads what the user left there.
A carriage return at the end of a line is a blank, and an empty line counts for nothing, so what is
read are the texts between the line feeds, tidied up (`namespaceLines_eq`). All else follows from
this: a line feed parts what is read (`namespaceLines_feed`), the convention of the line ends does
not matter (`namespaceLines_withCrlf`), and namespaces that are tidy and go over no line are read as
they were shown (`namespaceLines_join`).
-/

namespace ScriptDesk

namespace Text

/-- A carriage return at the end is a blank. -/
theorem trim_withoutReturn (line : Text) : (withoutReturn line).trim = line.trim := by
  rcases List.eq_nil_or_concat line with rfl | ⟨front, last, rfl⟩
  · rfl
  · rw [List.concat_eq_append]
    by_cases hlast : last = '\r'
    · subst hlast
      rw [withoutReturn_append_return, trim_append_blank front (by decide)]
    · rw [withoutReturn, dropLast?, if_neg (by simp [hlast]), Option.getD_none]

end Text

open Text

namespace ScriptConfig

/-! ### Reading from lines -/

/-- **What is read are the texts between the line feeds**, tidied up. -/
theorem namespaceLines_eq (text : Text) : namespaceLines text = tidy (text.cutAt '\n') := by
  induction text using line_induction with
  | last line h =>
    rw [cutAt_of_not_mem h]
    by_cases hne : line = []
    · subst hne
      rfl
    · rw [namespaceLines, lines, pieces_of_not_mem h hne, List.map_singleton, lineOf,
        dropLast?_of_not_mem h]
  | more line rest h ih =>
    rw [namespaceLines, lines_line h, cutAt_append h, tidy_cons, tidy_cons line, ← ih,
      tidy_congr (trim_withoutReturn line)]
    rfl

theorem namespaceLines_of_not_mem {line : Text} (h : '\n' ∉ line) :
    namespaceLines line = tidy [line] := by
  rw [namespaceLines_eq, cutAt_of_not_mem h]

/-- A line feed parts what is read before it from what is read behind it. -/
theorem namespaceLines_feed (text rest : Text) :
    namespaceLines (text ++ '\n' :: rest) = namespaceLines text ++ namespaceLines rest := by
  rw [namespaceLines_eq, cutAt_append_cons, tidy_append, ← namespaceLines_eq, ← namespaceLines_eq]

/-- The same is read in the longer convention, whatever carriage returns there are besides. -/
theorem namespaceLines_withCrlf (text : Text) :
    namespaceLines (withCrlf text) = namespaceLines text := by
  induction text using line_induction with
  | last line h => rw [withCrlf_of_not_mem h]
  | more line rest h ih =>
    have hends : withCrlf (line ++ '\n' :: rest) = (line ++ ['\r']) ++ '\n' :: withCrlf rest := by
      simp [withCrlf_of_not_mem h]
    have hline : '\n' ∉ line ++ ['\r'] := by simp [h]
    rw [hends, namespaceLines_feed, namespaceLines_feed, ih, namespaceLines_of_not_mem hline,
      namespaceLines_of_not_mem h, tidy_congr (trim_append_blank line (by decide))]

/-- Joined names are read one by one if none goes over a line. -/
theorem namespaceLines_join {names : List Text} (h : ∀ name ∈ names, '\n' ∉ name)
    (ending : LineEnding) : namespaceLines (join ending.separator names) = tidy names := by
  have hshort : namespaceLines (join LineEnding.lf.separator names) = tidy names := by
    by_cases hne : names = []
    · subst hne
      rfl
    · exact (namespaceLines_eq _).trans (congrArg tidy (cutAt_join hne h))
  cases ending with
  | lf => exact hshort
  | crlf => rw [← withCrlf_join h, namespaceLines_withCrlf, hshort]

/-! ### Showing and reading back -/

variable (config : ScriptConfig)

/-- The namespaces as an editor shows them, one on each line. -/
def listing (ending : LineEnding) : Text :=
  join ending.separator config.namespaces

/-- The settings with the namespaces of a text that has one on each line. -/
def withListing (text : Text) : ScriptConfig :=
  { config with namespaces := namespaceLines text }

/-- Settings that are shown are read back unchanged just if their namespaces are tidy and none goes
over a line. -/
theorem withListing_listing_iff (ending : LineEnding) :
    config.withListing (config.listing ending) = config ↔
      config.IsPlain ∧ tidy config.namespaces = config.namespaces := by
  constructor
  · intro h
    refine ⟨h ▸ isPlain_namespaceLines config _, ?_⟩
    rw [← h]
    exact tidy_tidy _
  · rintro ⟨hplain, htidy⟩
    rw [withListing, listing, namespaceLines_join hplain, htidy]

/-- **Namespaces by lines and in a list.** The namespaces that are read from a text with one on each
line are those that settings get from the list of the texts between its line feeds, and to set them
again changes nothing. An editor that shows them, with line ends of either kind, and reads them back
leaves the settings as they are; it does so just for settings whose namespaces are tidy and go over
no line. A line feed parts what is read. -/
theorem namespaces_by_lines (text : Text) :
    (config.setNamespaces (text.cutAt '\n')).namespaces = namespaceLines text ∧
    (config.setNamespaces (namespaceLines text)).namespaces = namespaceLines text ∧
    (∀ ending : LineEnding,
      namespaceLines (join ending.separator (namespaceLines text)) = namespaceLines text ∧
      (config.withListing text).withListing ((config.withListing text).listing ending) =
        config.withListing text ∧
      (config.withListing (config.listing ending) = config ↔
        config.IsPlain ∧ tidy config.namespaces = config.namespaces)) ∧
    ∀ rest, namespaceLines (text ++ '\n' :: rest) = namespaceLines text ++ namespaceLines rest := by
  have htidy : tidy (namespaceLines text) = namespaceLines text := tidy_tidy _
  have hplain : (config.withListing text).IsPlain := isPlain_namespaceLines config text
  refine ⟨(namespaceLines_eq text).symm, htidy, fun ending => ⟨?_, ?_, ?_⟩,
    namespaceLines_feed text⟩
  · exact (namespaceLines_join hplain ending).trans htidy
  · exact ((config.withListing text).withListing_listing_iff ending).mpr ⟨hplain, htidy⟩
  · exact config.withListing_listing_iff ending

/-- A blank line, a carriage return within a name and blanks around one. -/
example :
    namespaceLines "A\r\n \u00a0\n B\rC\t\n".toList = ["A".toList, "B\rC".toList] := by decide

/-- A name that goes over a line is shown as two. -/
example :
    ({ namespaces := ["A\nB".toList] } : ScriptConfig).withListing "A\nB".toList =
      { namespaces := ["A".toList, "B".toList] } := by decide

end ScriptConfig

end ScriptDesk
