import ScriptDesk.Proofs.Json.Endings
import ScriptDesk.Proofs.Script.Parts

/-!
# Script files in either convention

A script file may end its lines with a line feed or with a carriage return and a line feed. To read
it in the longer convention gives what reading it in the shorter one gives, but for the code, which
is in the longer convention, too (`read_withCrlf`).

A text is read by its parts, and the parts of the text in the longer convention are the parts of the
text, each in the longer convention (`IsParted.withCrlf`). So its header has the same lines; the
settings among them are joined in the convention of the file, and JSON text means the same in both.
-/

namespace ScriptDesk.ScriptFile

open Text

variable {text header line code : Text}

theorem withoutMark_withCrlf (text : Text) :
    withoutMark (withCrlf text) = withCrlf (withoutMark text) := by
  cases text with
  | nil => rfl
  | cons c rest =>
    by_cases hfeed : c = '\n'
    · subst hfeed
      rfl
    · rw [withCrlf_cons hfeed, withoutMark, withoutMark]
      split
      · rfl
      · rw [withCrlf_cons hfeed]

theorem withoutMark_suffix (text : Text) : withoutMark text <:+ text := by
  cases text with
  | nil => exact List.suffix_rfl
  | cons c rest =>
    rw [withoutMark]
    split
    · exact List.suffix_cons c rest
    · exact List.suffix_rfl

theorem feed_mem_withoutMark (h : '\n' ∈ text) : '\n' ∈ withoutMark text := by
  cases text with
  | nil => exact h
  | cons c rest =>
    rw [withoutMark]
    split
    · rename_i hc
      refine (List.mem_cons.mp h).resolve_left ?_
      rw [hc]
      decide
    · exact h

/-- The same lines end a header. -/
theorem isDelimiter_withCrlf (hreturn : '\r' ∉ text) {piece : Text} (h : piece ∈ text.pieces) :
    isDelimiter (withCrlf piece) = isDelimiter piece := by
  rw [isDelimiter, bareLine_withCrlf hreturn h, isDelimiter]

theorem countP_withCrlf (hreturn : '\r' ∉ text) :
    (withCrlf text).pieces.countP isDelimiter = text.pieces.countP isDelimiter := by
  rw [pieces_withCrlf, List.countP_map]
  refine List.countP_congr fun piece hpiece => ?_
  rw [Function.comp, isDelimiter_withCrlf hreturn hpiece]

/-- The parts are in the longer convention if the text is. -/
theorem IsParted.withCrlf (h : IsParted text header line code) (hreturn : '\r' ∉ text) :
    IsParted text.withCrlf header.withCrlf line.withCrlf code.withCrlf := by
  have hpieces : ∀ piece ∈ header.pieces ++ line :: code.pieces,
      isDelimiter piece.withCrlf = isDelimiter piece := by
    rw [← h.pieces_eq]
    exact fun piece hpiece => isDelimiter_withCrlf hreturn hpiece
  refine ⟨?_, ?_, ?_, ?_⟩
  · rw [pieces_withCrlf, pieces_withCrlf, pieces_withCrlf, h.pieces_eq, List.map_append,
      List.map_cons]
  · rw [hpieces line (by simp), h.line]
  · rw [pieces_withCrlf, List.forall_mem_map]
    intro piece hpiece
    rw [hpieces piece (by simp [hpiece]), h.header piece hpiece]
  · rw [pieces_withCrlf, List.forall_mem_map]
    intro piece hpiece
    rw [hpieces piece (by simp [hpiece]), h.code piece hpiece]

/-- The lines are the same, but they are joined in the convention of the text. -/
theorem settingsLines_withCrlf (hreturn : '\r' ∉ header) :
    settingsLines .crlf (withCrlf header) = withCrlf (settingsLines .lf header) := by
  rw [settingsLines, settingsLines, lines_withCrlf hreturn, withCrlf_join]
  exact fun line hline => not_mem_of_mem_lines (List.mem_of_mem_tail hline)

/-- What the parts make up in the longer convention. -/
theorem ofParts_withCrlf (hreturn : '\r' ∉ header) (code : Text) :
    ofParts .crlf (withCrlf header) (withCrlf code) =
      (ofParts .lf header code).map fun file =>
        { file with code := withCrlf file.code, lineEnding := .crlf } := by
  have hidentity : identityLine (withCrlf header) = identityLine header := by
    rw [identityLine, lines_withCrlf hreturn, identityLine]
  rw [ofParts, hidentity, settingsLines_withCrlf hreturn, Json.decodeWhole_withCrlf,
    trimStart_withCrlf, ofParts]
  cases ScriptId.ofText? (identityLine header) with
  | none => rfl
  | some id =>
    cases Json.decodeWhole ScriptConfig.decode (settingsLines .lf header) with
    | error fault => rfl
    | ok config => rfl

/-- **The convention does not matter**: of a text whose lines end with a line feed only, the same
text with a carriage return in front of each has the same identity and settings and, in the longer
convention, the same code, or it is refused for the same reason. -/
theorem read_withCrlf (hreturn : '\r' ∉ text) (hfeed : '\n' ∈ text) :
    read (withCrlf text) =
        (read text).map (fun file =>
          { file with code := withCrlf file.code, lineEnding := .crlf }) ∧
      ∀ file, read text = .ok file → file.lineEnding = .lf := by
  have hbare : '\r' ∉ withoutMark text := fun h => hreturn ((withoutMark_suffix text).mem h)
  have hending := detect_of_not_mem hbare
  constructor
  · by_cases hcount : (withoutMark text).pieces.countP isDelimiter = 1
    · obtain ⟨header, line, code, hparted⟩ := exists_isParted hcount
      have hlonger : IsParted (withoutMark text.withCrlf) header.withCrlf line.withCrlf
          code.withCrlf := by
        rw [withoutMark_withCrlf]
        exact hparted.withCrlf hbare
      have hheader : '\r' ∉ header := by
        intro h
        rw [hparted.eq] at hbare
        simp [h] at hbare
      rw [hlonger.read_eq, hparted.read_eq, withoutMark_withCrlf, hending,
        detect_withCrlf (feed_mem_withoutMark hfeed), ofParts_withCrlf hheader]
    · have hlonger : (withoutMark text.withCrlf).pieces.countP isDelimiter =
          (withoutMark text).pieces.countP isDelimiter := by
        rw [withoutMark_withCrlf, countP_withCrlf hbare]
      rw [read_of_countP_ne hcount, read_of_countP_ne (hlonger ▸ hcount), hlonger]
      rfl
  · intro file hfile
    rw [(parts_of_read hfile).2.2, hending]

/-- A script file with settings on more than one line. -/
def spreadText : Text :=
  "3f2504e04f8911d39a0c0305e82c3301\n\x7b\"kind\":\n\"Statements\"\x7d\n#Query\n\nfeed;\n".toList

/-- What it holds. -/
def spreadFile : ScriptFile where
  id := ⟨0x3f2504e04f8911d39a0c0305e82c3301⟩
  config := ⟨.statements, []⟩
  code := "feed;\n".toList
  lineEnding := .lf

/-- Settings on several lines, in both conventions. -/
theorem read_withCrlf_spread :
    '\r' ∉ spreadText ∧ '\n' ∈ spreadText ∧ read spreadText = .ok spreadFile ∧
      read (withCrlf spreadText) =
        .ok { spreadFile with code := "feed;\r\n".toList, lineEnding := .crlf } := by
  have hreturn : '\r' ∉ spreadText := by decide
  have hfeed : '\n' ∈ spreadText := by decide
  have hread : read spreadText = .ok spreadFile := by rfl
  refine ⟨hreturn, hfeed, hread, ?_⟩
  rw [(read_withCrlf hreturn hfeed).1, hread]
  rfl

end ScriptDesk.ScriptFile
