import ScriptDesk.Proofs.Script.Header

/-!
# The parts of a script file

A text with exactly one line that ends a header has three parts: the header in front of that line,
the line with its end, and the code behind it (`IsParted`). The parts make up the text, and cutting
the text into pieces cuts the parts, so nothing in front of the line and nothing behind it is a line
that ends a header. What is read depends on the header, the code and the line ending only
(`IsParted.read_eq`), and in this order: the identity, the settings, and then the code (`ofParts`).
-/

namespace ScriptDesk

open Text

/-- The pieces in front of others are the pieces of the text that they make up. -/
theorem Text.pieces_flatten_of_prefix {some : List Text} {text : Text}
    (h : some <+: pieces text) : pieces some.flatten = some := by
  induction text using line_induction generalizing some with
  | last line hline =>
    by_cases hne : line = []
    · subst hne
      rw [pieces_nil, List.prefix_nil] at h
      rw [h]
      rfl
    · rw [pieces_of_not_mem hline hne, List.prefix_cons_iff] at h
      rcases h with rfl | ⟨others, rfl, hothers⟩
      · rfl
      · rw [List.prefix_nil] at hothers
        simpa [hothers] using pieces_of_not_mem hline hne
  | more line rest hline ih =>
    rw [pieces_line hline, List.prefix_cons_iff] at h
    rcases h with rfl | ⟨others, rfl, hothers⟩
    · rfl
    · have hflat : ((line ++ ['\n']) :: others).flatten = line ++ '\n' :: others.flatten := by simp
      rw [hflat, pieces_line hline, ih hothers]

namespace ScriptFile

/-- The parts of a text with one line that ends a header: the header, this line, and the code. -/
structure IsParted (text header line code : Text) : Prop where
  /-- The text is cut where its parts are. -/
  pieces_eq : text.pieces = header.pieces ++ line :: code.pieces
  /-- The line ends a header. -/
  line : isDelimiter line = true
  /-- No line of the header does. -/
  header : ∀ piece ∈ header.pieces, isDelimiter piece = false
  /-- No line of the code does. -/
  code : ∀ piece ∈ code.pieces, isDelimiter piece = false

/-- The first line of a header, which is to spell the identity; empty if there is none. -/
def identityLine (header : Text) : Text :=
  (header.lines.headD []).trim

/-- The other lines of a header, which are to hold the settings. -/
def settingsLines (ending : LineEnding) (header : Text) : Text :=
  Text.join ending.separator header.lines.tail

/-- The file that a header and a code make up. -/
def ofParts (ending : LineEnding) (header code : Text) : Except FormatError ScriptFile :=
  match ScriptId.ofText? (identityLine header) with
  | none => .error (.identity (identityLine header))
  | some id =>
    match Json.decodeWhole ScriptConfig.decode (settingsLines ending header) with
    | .error fault => .error (.config fault)
    | .ok config => .ok { id, config, code := code.trimStart, lineEnding := ending }

variable {text header line code : Text}

/-! ### Cutting a text into its parts -/

/-- The parts make up the text. -/
theorem IsParted.eq (h : IsParted text header line code) : text = header ++ line ++ code := by
  have hflat := congrArg List.flatten h.pieces_eq
  simpa using hflat

theorem countP_eq_zero {pieces : List Text} (h : ∀ piece ∈ pieces, isDelimiter piece = false) :
    pieces.countP isDelimiter = 0 := by
  simpa using h

theorem IsParted.countP_eq (h : IsParted text header line code) :
    text.pieces.countP isDelimiter = 1 := by
  rw [h.pieces_eq, List.countP_append, List.countP_cons_of_pos h.line, countP_eq_zero h.header,
    countP_eq_zero h.code]

theorem exists_isParted (h : text.pieces.countP isDelimiter = 1) :
    ∃ header line code, IsParted text header line code := by
  obtain ⟨line, hmem, hline⟩ := List.countP_pos_iff.mp (h ▸ Nat.one_pos)
  obtain ⟨front, rest, heq⟩ := List.append_of_mem hmem
  rw [heq, List.countP_append, List.countP_cons_of_pos hline] at h
  have hfront : front.countP isDelimiter = 0 := by omega
  have hrest : rest.countP isDelimiter = 0 := by omega
  have hheader : pieces front.flatten = front :=
    pieces_flatten_of_prefix (heq ▸ List.prefix_append front (line :: rest))
  have hcode : pieces rest.flatten = rest := by
    refine pieces_flatten_of_suffix heq ⟨front ++ [line], ?_⟩
    simp
  refine ⟨front.flatten, line, rest.flatten, ?_, hline, ?_, ?_⟩
  · rw [heq, hheader, hcode]
  · simpa [hheader] using hfront
  · simpa [hcode] using hrest

theorem IsParted.cut_eq (h : IsParted text header line code) :
    cut text.pieces = (header.pieces, code.pieces) := by
  have hnot : ∀ piece ∈ header.pieces, (!isDelimiter piece) = true := by
    intro piece hpiece
    rw [h.header piece hpiece]
    rfl
  rw [cut, h.pieces_eq, List.takeWhile_append_of_pos hnot, List.dropWhile_append_of_pos hnot]
  simp [h.line]

/-! ### Reading the parts -/

theorem read_of_countP_ne (h : (withoutMark text).pieces.countP isDelimiter ≠ 1) :
    read text = .error (.delimiters ((withoutMark text).pieces.countP isDelimiter)) := by
  simp only [read, if_pos h]
  rfl

/-- What is read is what the parts make up. -/
theorem IsParted.read_eq (h : IsParted (withoutMark text) header line code) :
    read text = ofParts (LineEnding.detect (withoutMark text)) header code := by
  simp only [read, h.countP_eq, h.cut_eq, flatten_pieces]
  rw [ofParts, identityLine, settingsLines]
  cases ScriptId.ofText? (header.lines.headD []).trim with
  | none => rfl
  | some id =>
    cases hconfig : Json.decodeWhole ScriptConfig.decode
        (Text.join (LineEnding.detect (withoutMark text)).separator header.lines.tail) with
    | error fault => rfl
    | ok config => rfl

/-! ### What parts make up -/

variable {ending : LineEnding}

theorem ofParts_ne_delimiters (found : Nat) :
    ofParts ending header code ≠ .error (.delimiters found) := by
  rw [ofParts]
  split
  · simp
  · split <;> simp

theorem ofParts_eq_identity_iff {spelling : Text} :
    ofParts ending header code = .error (.identity spelling) ↔
      spelling = identityLine header ∧ ScriptId.ofText? (identityLine header) = none := by
  rw [ofParts]
  split
  · rename_i hid
    simp [hid, eq_comm]
  · rename_i hid
    split <;> simp [hid]

theorem ofParts_eq_config_iff {fault : Json.Fault} :
    ofParts ending header code = .error (.config fault) ↔
      (∃ id, ScriptId.ofText? (identityLine header) = some id) ∧
        Json.decodeWhole ScriptConfig.decode (settingsLines ending header) = .error fault := by
  rw [ofParts]
  split
  · rename_i hid
    simp [hid]
  · rename_i hid
    split <;> rename_i hconfig <;> simp [hid, hconfig]

theorem ofParts_eq_ok_iff {file : ScriptFile} :
    ofParts ending header code = .ok file ↔
      ScriptId.ofText? (identityLine header) = some file.id ∧
        Json.decodeWhole ScriptConfig.decode (settingsLines ending header) = .ok file.config ∧
        file.code = code.trimStart ∧ file.lineEnding = ending := by
  rw [ofParts]
  split
  · rename_i hid
    simp [hid]
  · rename_i id hid
    split
    · rename_i hconfig
      simp [hid, hconfig]
    · rename_i config hconfig
      rw [hid, hconfig]
      constructor
      · rintro ⟨⟩
        exact ⟨rfl, rfl, rfl, rfl⟩
      · rintro ⟨h₁, h₂, h₃, h₄⟩
        cases file
        simp_all

end ScriptFile

end ScriptDesk
