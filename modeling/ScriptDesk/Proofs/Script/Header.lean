import ScriptDesk.Proofs.Json.ReadBack
import ScriptDesk.Proofs.Script.Spelling
import ScriptDesk.Script.File

/-!
# The header of a script file

What `ScriptFile.read` does with a text that `ScriptFile.write` made, and what any text that it
accepts looks like. The header that is written has three lines; none of them but the last is the
line that ends a header, because an identity has another length and settings start with a brace.
So what is read back depends only on how many such lines the code has (`delimiterLines`).

Main statements: `read_write_of_clean` and `read_write_of_delimiters` for texts that were written,
`parts_of_read` and `delimiterLines_of_read` for texts that were read.
-/

namespace ScriptDesk

open Text

namespace ScriptConfig

theorem isExact_toJson (config : ScriptConfig) : config.toJson.IsExact := by
  have hnames : ∀ names : List Text, Json.Value.AllExact (names.map .str) := by
    intro names
    induction names with
    | nil => exact trivial
    | cons name names ih => exact ⟨trivial, ih⟩
  exact ⟨trivial, hnames config.namespaces, trivial⟩

theorem decodeItems_texts (r : Json.Reading) (texts : List Text) :
    Json.decodeItems Json.decodeText r (Json.Tree.ofItems (texts.map .str)) true = .ok texts := by
  induction texts with
  | nil => rfl
  | cons text texts ih =>
    simp only [List.map_cons, Json.Tree.ofItems, Json.decodeItems, ih]
    rfl

/-- Settings that were written are read back. -/
theorem decodeWhole_toJson (config : ScriptConfig) :
    Json.decodeWhole decode config.toJson.written = .ok config := by
  obtain ⟨kind, namespaces⟩ := config
  cases kind
  rw [Json.decodeWhole_written decode (isExact_toJson _)]
  have hlist : Json.decodeList Json.decodeText (.streamed 126)
      (.arr (Json.Tree.ofItems (namespaces.map .str)) true) = .ok namespaces :=
    decodeItems_texts (.streamed 125) namespaces
  show record.decode (.streamed 127) (.obj [(some "kind".toList, .str (some "Statements".toList)),
    (some "namespaces".toList, .arr (Json.Tree.ofItems (namespaces.map .str)) true)] true) = _
  have hkind : ∀ rest, Json.Record.fillMembers record.fields (.streamed 126)
      ((some "kind".toList, .str (some "Statements".toList)) :: rest) true record.blank =
        Json.Record.fillMembers record.fields (.streamed 126) rest true
          { kind := some .statements } := fun _ => rfl
  have hnames : Json.Record.fillMembers record.fields (.streamed 126)
      [(some "namespaces".toList, .arr (Json.Tree.ofItems (namespaces.map .str)) true)] true
        { kind := some .statements } =
      .ok { kind := some .statements, namespaces := some namespaces } := by
    show (do
      let draft ← (do
        let names ← Json.decodeList Json.decodeText (.streamed 126)
          (.arr (Json.Tree.ofItems (namespaces.map .str)) true)
        return ({ kind := some .statements, namespaces := some names } : Draft))
      Json.Record.fillMembers record.fields (.streamed 126) [] true draft) = _
    rw [hlist]
    rfl
  simp only [Json.Record.decode, Json.Reading.enter, bind, Except.bind]
  rw [hkind, hnames]
  rfl

end ScriptConfig

namespace LineEnding

/-- What stands at the end of a line before its line feed. -/
def beforeFeed : LineEnding → Text
  | .lf => []
  | .crlf => ['\r']

theorem append_separator (ending : LineEnding) (line rest : Text) :
    line ++ ending.separator ++ rest = (line ++ ending.beforeFeed) ++ '\n' :: rest := by
  cases ending <;> simp [separator, beforeFeed]

theorem feed_not_mem_append {line : Text} (h : '\n' ∉ line) (ending : LineEnding) :
    '\n' ∉ line ++ ending.beforeFeed := by
  cases ending <;> simp [beforeFeed, h]

theorem withoutReturn_append {line : Text} (h : '\r' ∉ line) (ending : LineEnding) :
    withoutReturn (line ++ ending.beforeFeed) = line := by
  cases ending with
  | lf => rw [beforeFeed, List.append_nil, withoutReturn_of_not_mem h]
  | crlf => exact withoutReturn_append_return line

end LineEnding

namespace ScriptFile

/-! ### Lines that end a header -/

/-- How many lines of a text would end a header: a line stands between line feeds, and one carriage
return at its end does not count. -/
def delimiterLines (text : Text) : Nat :=
  (text.cutAt '\n').countP fun line => withoutReturn line == delimiter

theorem countP_isDelimiter (text : Text) :
    text.pieces.countP isDelimiter = delimiterLines text :=
  countP_pieces_bareLine (fun line => line == delimiter) rfl text

/-- The line with its end is the line that ends a header. -/
theorem isDelimiter_append {line : Text} (h : '\r' ∉ line) (ending : LineEnding) :
    isDelimiter (line ++ ending.beforeFeed ++ ['\n']) = (line == delimiter) := by
  rw [isDelimiter, bareLine_append_feed, ending.withoutReturn_append h]

/-! ### Texts that were written -/

variable (file : ScriptFile)

/-- The settings as they are written. -/
def settings : Text :=
  file.config.toJson.written

theorem control_not_mem_settings {c : Char} (h : c.toNat < 0x20) : c ∉ file.settings :=
  fun hc => Nat.not_lt.mpr (Json.le_of_mem_written file.config.isExact_toJson hc) h

/-- The first line of a written file, without its line feed. -/
def idLine : Text :=
  file.id.text ++ file.lineEnding.beforeFeed

/-- The second line. -/
def settingsLine : Text :=
  file.settings ++ file.lineEnding.beforeFeed

/-- The third line, which ends the header. -/
def delimiterLine : Text :=
  delimiter ++ file.lineEnding.beforeFeed

theorem write_eq : file.write =
    file.idLine ++ '\n' :: (file.settingsLine ++ '\n' :: (file.delimiterLine ++ '\n' ::
      file.code)) := by
  have h : file.write = file.id.text ++ file.lineEnding.separator ++ (file.settings ++
      file.lineEnding.separator ++ (delimiter ++ file.lineEnding.separator ++ file.code)) := by
    simp only [write, settings, List.append_assoc]
  rw [h, LineEnding.append_separator, LineEnding.append_separator, LineEnding.append_separator]
  rfl

theorem feed_not_mem_idLine : '\n' ∉ file.idLine :=
  LineEnding.feed_not_mem_append (file.id.not_mem_text_of_isBlank (by decide)) _

theorem feed_not_mem_settingsLine : '\n' ∉ file.settingsLine :=
  LineEnding.feed_not_mem_append (file.control_not_mem_settings (by decide)) _

theorem feed_not_mem_delimiterLine : '\n' ∉ file.delimiterLine :=
  LineEnding.feed_not_mem_append (by decide) _

theorem pieces_write : file.write.pieces =
    [file.idLine ++ ['\n'], file.settingsLine ++ ['\n'], file.delimiterLine ++ ['\n']] ++
      file.code.pieces := by
  rw [write_eq, pieces_line file.feed_not_mem_idLine, pieces_line file.feed_not_mem_settingsLine,
    pieces_line file.feed_not_mem_delimiterLine]
  rfl

theorem isDelimiter_idLine : isDelimiter (file.idLine ++ ['\n']) = false := by
  rw [idLine, isDelimiter_append (file.id.not_mem_text_of_isBlank (by decide)), beq_eq_false_iff_ne]
  intro h
  have hlength := file.id.length_text
  rw [h] at hlength
  exact absurd hlength (by decide)

theorem isDelimiter_settingsLine : isDelimiter (file.settingsLine ++ ['\n']) = false := by
  rw [settingsLine, isDelimiter_append (file.control_not_mem_settings (by decide)),
    beq_eq_false_iff_ne]
  exact fun h => absurd (List.cons.inj h).1 (by decide)

theorem isDelimiter_delimiterLine : isDelimiter (file.delimiterLine ++ ['\n']) = true := by
  rw [delimiterLine, isDelimiter_append (by decide), beq_self_eq_true]

/-- Besides the one that ends the header, a written file has the lines of this kind of its code. -/
theorem countP_pieces_write :
    file.write.pieces.countP isDelimiter = delimiterLines file.code + 1 := by
  rw [pieces_write, List.countP_append, countP_isDelimiter]
  simp only [List.countP_cons, List.countP_nil, isDelimiter_idLine, isDelimiter_settingsLine,
    isDelimiter_delimiterLine]
  exact Nat.add_comm _ _

/-- The header and the code of a written file are told apart. -/
theorem cut_write : cut file.write.pieces =
    ([file.idLine ++ ['\n'], file.settingsLine ++ ['\n']], file.code.pieces) := by
  rw [pieces_write, cut]
  simp only [List.cons_append, List.nil_append, List.takeWhile_cons, List.dropWhile_cons,
    isDelimiter_idLine, isDelimiter_settingsLine, isDelimiter_delimiterLine]
  rfl

theorem lines_header :
    Text.lines [file.idLine ++ ['\n'], file.settingsLine ++ ['\n']].flatten =
      [file.id.text, file.settings] := by
  have hflat : [file.idLine ++ ['\n'], file.settingsLine ++ ['\n']].flatten =
      file.idLine ++ '\n' :: (file.settingsLine ++ '\n' :: []) := by simp
  rw [hflat, lines_line file.feed_not_mem_idLine, lines_line file.feed_not_mem_settingsLine,
    idLine, settingsLine,
    LineEnding.withoutReturn_append (file.id.not_mem_text_of_isBlank (by decide)),
    LineEnding.withoutReturn_append (file.control_not_mem_settings (by decide))]
  rfl

theorem withoutMark_write : withoutMark file.write = file.write := by
  cases hid : file.id.text with
  | nil =>
    have hlength := file.id.length_text
    rw [hid] at hlength
    exact absurd hlength (by decide)
  | cons c text =>
    have hc : c ≠ byteOrderMark := by
      rintro rfl
      have := (file.id.isBlank_of_mem_text (c := byteOrderMark) (by simp [hid])).2
      exact absurd this (by decide)
    simp only [write, hid, List.cons_append, withoutMark, if_neg hc]

/-- The line ending that is found in a written file. -/
theorem detect_write : LineEnding.detect file.write =
    if file.lineEnding = .crlf ∨ file.code.hasCrlf then .crlf else .lf := by
  rw [LineEnding.detect]
  congr 1
  rw [eq_iff_iff]
  cases hending : file.lineEnding with
  | crlf =>
    have hcrlf : file.write = file.id.text ++ '\r' :: '\n' :: (file.settingsLine ++
        '\n' :: (file.delimiterLine ++ '\n' :: file.code)) := by
      rw [write_eq, idLine, hending, LineEnding.beforeFeed, List.append_assoc]
      rfl
    simp only [true_or, iff_true]
    exact hasCrlf_iff.mpr ⟨_, _, hcrlf⟩
  | lf =>
    have hlf : file.write = (file.id.text ++ '\n' :: (file.settings ++ '\n' :: (delimiter ++
        ['\n']))) ++ file.code := by
      rw [write_eq, idLine, settingsLine, delimiterLine, hending, LineEnding.beforeFeed]
      simp
    have hfront : '\r' ∉ file.id.text ++ '\n' :: (file.settings ++ '\n' :: (delimiter ++ ['\n'])) := by
      have hid : '\r' ∉ file.id.text := file.id.not_mem_text_of_isBlank (by decide)
      have hsettings : '\r' ∉ file.settings := file.control_not_mem_settings (by decide)
      have hrest : '\r' ∉ '\n' :: (delimiter ++ ['\n']) := by decide
      simp only [List.mem_append, List.mem_cons, not_or] at hrest ⊢
      exact ⟨hid, by decide, hsettings, hrest⟩
    rw [hlf, hasCrlf_append_of_not_mem hfront]
    simp

/-- A written file with no such line in its code is read back; its code loses the blanks in front
of it. -/
theorem read_write_of_clean (h : delimiterLines file.code = 0) :
    read file.write = .ok { file with
      code := file.code.trimStart
      lineEnding := if file.lineEnding = .crlf ∨ file.code.hasCrlf then .crlf else .lf } := by
  have hconfig : Json.decodeWhole ScriptConfig.decode file.settings = .ok file.config :=
    file.config.decodeWhole_toJson
  simp only [read, withoutMark_write, countP_pieces_write, h, cut_write, lines_header,
    detect_write, List.headD_cons, List.tail_cons, Text.join_singleton, ScriptId.trim_text,
    ScriptId.ofText?_text, hconfig, flatten_pieces]
  rfl

/-- A written file with such lines in its code is refused for them. -/
theorem read_write_of_delimiters (h : delimiterLines file.code ≠ 0) :
    read file.write = .error (.delimiters (delimiterLines file.code + 1)) := by
  have hne : delimiterLines file.code + 1 ≠ 1 := by omega
  simp only [read, withoutMark_write, countP_pieces_write, ne_eq, hne, not_false_eq_true, if_true]
  rfl

/-! ### Texts that were read -/

/-- The text of a file behind the line that ends its header, blanks and all. -/
def rawCode (text : Text) : Text :=
  (cut (withoutMark text).pieces).2.flatten

/-- What is known of a text that was read: it has one line that ends a header, and the code and the
line ending are those of the text. -/
theorem parts_of_read {text : Text} {file : ScriptFile} (h : read text = .ok file) :
    (withoutMark text).pieces.countP isDelimiter = 1 ∧ file.code = (rawCode text).trimStart ∧
      file.lineEnding = LineEnding.detect (withoutMark text) := by
  simp only [read, bind, Except.bind] at h
  split at h
  · cases h
  · rename_i hcount
    split at h
    · split at h
      · cases h
        exact ⟨Decidable.not_not.mp hcount, rfl, rfl⟩
      · cases h
    · cases h

theorem cut_snd_suffix (pieces : List Text) : (cut pieces).2 <:+ pieces :=
  (List.drop_suffix 1 _).trans (List.dropWhile_suffix _)

/-- Behind the only line of its kind there is no other one. -/
theorem countP_cut_snd {pieces : List Text} (h : pieces.countP isDelimiter = 1) :
    (cut pieces).2.countP isDelimiter = 0 := by
  induction pieces with
  | nil => simp at h
  | cons piece pieces ih =>
    cases hpiece : isDelimiter piece with
    | true =>
      rw [List.countP_cons_of_pos hpiece] at h
      simp only [cut, List.dropWhile_cons, hpiece, Bool.not_true, Bool.false_eq_true, if_false,
        List.drop_one, List.tail_cons]
      omega
    | false =>
      rw [List.countP_cons_of_neg (by simp [hpiece])] at h
      simpa only [cut, List.dropWhile_cons, hpiece, Bool.not_false, if_true] using ih h

theorem rawCode_suffix (text : Text) : rawCode text <:+ withoutMark text := by
  obtain ⟨front, hfront⟩ := cut_snd_suffix (withoutMark text).pieces
  refine ⟨front.flatten, ?_⟩
  rw [rawCode, ← List.flatten_append, hfront, flatten_pieces]

theorem pieces_rawCode (text : Text) :
    (rawCode text).pieces = (cut (withoutMark text).pieces).2 :=
  pieces_flatten_of_suffix rfl (cut_snd_suffix _)

/-- The first line of a text is one that would end a header. -/
def startsWithDelimiter (text : Text) : Bool :=
  match text.cutAt '\n' with
  | [] => false
  | line :: _ => withoutReturn line == delimiter

/-- A text whose pieces behind the first one end no header has as many lines that do as its first
line counts for. -/
theorem delimiterLines_of_tail {text : Text} (h : text.pieces.tail.countP isDelimiter = 0) :
    delimiterLines text = if startsWithDelimiter text then 1 else 0 := by
  rw [← countP_isDelimiter]
  have hfirst : ∀ line rest : Text, '\n' ∉ line → text = line ++ '\n' :: rest →
      text.pieces.countP isDelimiter = if startsWithDelimiter text then 1 else 0 := by
    rintro line rest hline rfl
    rw [pieces_line hline, List.tail_cons] at h
    rw [pieces_line hline, List.countP_cons, h, startsWithDelimiter, cutAt_append hline]
    simp [isDelimiter]
  induction text using line_induction with
  | more line rest hline _ => exact hfirst line rest hline rfl
  | last line hline =>
    rw [startsWithDelimiter, cutAt_of_not_mem hline]
    by_cases hne : line = []
    · subst hne; rfl
    · rw [pieces_of_not_mem hline hne, List.countP_singleton, isDelimiter,
        bareLine_of_not_mem hline]

/-- In the code of a text that was read only the first line can be one that ends a header: it was
none before the blanks in front of it were dropped. -/
theorem delimiterLines_of_read {text : Text} {file : ScriptFile} (h : read text = .ok file) :
    delimiterLines file.code = if startsWithDelimiter file.code then 1 else 0 := by
  obtain ⟨hcount, hcode, -⟩ := parts_of_read h
  apply delimiterLines_of_tail
  have hraw : (rawCode text).pieces.countP isDelimiter = 0 := by
    rw [pieces_rawCode]
    exact countP_cut_snd hcount
  have hsuffix : file.code.pieces.tail <:+ (rawCode text).pieces := by
    rw [hcode]
    exact (tail_pieces_suffix (trimStart_suffix _)).trans (List.tail_suffix _)
  exact Nat.le_zero.mp (hraw ▸ hsuffix.sublist.countP_le)

/-- The code of a text that was read has no blanks in front. -/
theorem trimStart_of_read {text : Text} {file : ScriptFile} (h : read text = .ok file) :
    file.code.trimStart = file.code := by
  obtain ⟨-, hcode, -⟩ := parts_of_read h
  rw [hcode, trimStart_trimStart]

/-- The line ending of a text that was read is the one that its code calls for. -/
theorem lineEnding_of_read {text : Text} {file : ScriptFile} (h : read text = .ok file) :
    (if file.lineEnding = .crlf ∨ file.code.hasCrlf then LineEnding.crlf else .lf) =
      file.lineEnding := by
  obtain ⟨-, hcode, hending⟩ := parts_of_read h
  cases hfile : file.lineEnding with
  | crlf => simp
  | lf =>
    rw [if_neg]
    rintro (hcontra | hcrlf)
    · cases hcontra
    · have hsuffix : file.code <:+ withoutMark text := by
        rw [hcode]
        exact (trimStart_suffix _).trans (rawCode_suffix text)
      rw [hending, LineEnding.detect, if_pos (hasCrlf_of_suffix hsuffix hcrlf)] at hfile
      cases hfile

end ScriptFile

end ScriptDesk
