import ScriptDesk.Proofs.Edit.Encoded
import ScriptDesk.Proofs.Script.Forms
import ScriptDesk.Proofs.Script.Parts

/-!
# Finding the parts of a script file among bytes

A script file can be read in one pass over its lines that counts bytes. It notes how many lines end
a header, and where the first of them starts and stops; in the end the header and the code are cut
out of the bytes there. To cut bytes within a character, or out of order, is no answer at all
(`none`).

It never comes to that. While no line ends a header the pass only moves on (`foldl_pass_of_none`),
so the bounds that it notes are the places of the parts (`IsParted.scan_eq`), and what is cut out
are the parts (`readScanned_eq`). This tells which texts are script files, and what is wrong with
all others (`reads_exactly`).
-/

namespace ScriptDesk.ScriptFile

open Text

/-- How far a text was passed, line by line, with places counted in bytes. -/
structure Scan where
  /-- The place behind the last line. -/
  place : Nat := 0
  /-- How many lines end a header. -/
  found : Nat := 0
  /-- Where the first of these starts and stops. -/
  bounds : Option (Nat × Nat) := none

/-- Pass one more line. -/
def Scan.pass (scan : Scan) (piece : Text) : Scan :=
  let stop := scan.place + piece.toBytes.length
  if isDelimiter piece then
    { place := stop, found := scan.found + 1,
      bounds := scan.bounds.or (some (scan.place, stop)) }
  else { scan with place := stop }

/-- Pass all lines of a text. -/
def scan (text : Text) : Scan :=
  text.pieces.foldl Scan.pass {}

/-- Read the text of a script file by the places of its parts. -/
def readScanned (text : Text) : Option (Except FormatError ScriptFile) :=
  let text := withoutMark text
  let scan := scan text
  match scan.bounds with
  | none => some (.error (.delimiters scan.found))
  | some (headerStop, codeStart) =>
    if scan.found = 1 then do
      let header ← ofBytes? (← Encoded.slice? text.toBytes 0 headerStop)
      let code ← ofBytes? (← Encoded.from? text.toBytes codeStart)
      return ofParts (LineEnding.detect text) header code
    else some (.error (.delimiters scan.found))

/-! ### Passing lines -/

theorem pass_of_not {piece : Text} (h : isDelimiter piece = false) (scan : Scan) :
    scan.pass piece = { scan with place := scan.place + piece.toBytes.length } := by
  simp [Scan.pass, h]

/-- Lines that end no header are only counted in bytes. -/
theorem foldl_pass_of_none {pieces : List Text} (h : ∀ piece ∈ pieces, isDelimiter piece = false)
    (scan : Scan) :
    pieces.foldl Scan.pass scan =
      { scan with place := scan.place + (toBytes pieces.flatten).length } := by
  induction pieces generalizing scan with
  | nil => rfl
  | cons piece pieces ih =>
    obtain ⟨hpiece, hpieces⟩ := List.forall_mem_cons.mp h
    rw [List.foldl_cons, pass_of_not hpiece, ih hpieces]
    simp [Nat.add_assoc]

/-- Each line that ends a header is found. -/
theorem found_foldl_pass (pieces : List Text) (scan : Scan) :
    (pieces.foldl Scan.pass scan).found = scan.found + pieces.countP isDelimiter := by
  induction pieces generalizing scan with
  | nil => rfl
  | cons piece pieces ih =>
    rw [List.foldl_cons, ih]
    cases hpiece : isDelimiter piece with
    | true =>
      simp only [Scan.pass, hpiece, if_true, List.countP_cons_of_pos]
      omega
    | false => simp [pass_of_not hpiece, hpiece]

theorem found_scan (text : Text) : (scan text).found = text.pieces.countP isDelimiter := by
  rw [scan, found_foldl_pass]
  exact Nat.zero_add _

/-- The bounds of the only line that ends a header are the places where the parts meet. -/
theorem IsParted.scan_eq {text header line code : Text} (h : IsParted text header line code) :
    scan text =
      { place := (toBytes text).length, found := 1,
        bounds := some ((toBytes header).length, (toBytes (header ++ line)).length) } := by
  rw [scan, h.pieces_eq, List.foldl_append, List.foldl_cons, foldl_pass_of_none h.header,
    foldl_pass_of_none h.code, h.eq]
  simp [Scan.pass, h.line, Nat.add_assoc]

/-! ### Cutting at the places that were found -/

/-- Reading by places never cuts a character in two, and reads what there is. -/
theorem readScanned_eq (text : Text) : readScanned text = some (read text) := by
  by_cases hcount : (withoutMark text).pieces.countP isDelimiter = 1
  · obtain ⟨header, line, code, hparted⟩ := exists_isParted hcount
    have hheader : Encoded.slice? (withoutMark text).toBytes 0 (toBytes header).length =
        some (toBytes header) := by
      have hslice := Encoded.slice?_toBytes [] header (line ++ code)
      simpa [hparted.eq] using hslice
    have hcode : Encoded.from? (withoutMark text).toBytes (toBytes (header ++ line)).length =
        some (toBytes code) := by
      rw [hparted.eq]
      exact Encoded.from?_toBytes (header ++ line) code
    rw [hparted.read_eq]
    simp only [readScanned, hparted.scan_eq, hheader, hcode, if_true]
    simp
  · rw [read_of_countP_ne hcount]
    simp only [readScanned, found_scan]
    split
    · rfl
    · rw [if_neg hcount]

/-- **Which texts are script files.** Without the mark that may stand in front of it, a text has to
have just one line that ends a header. The first line of the header, trimmed, has to spell an
identity, and the others, joined in the convention of the text, have to hold settings. A text is
refused for the first of these that fails; else it is the file with these and the trimmed code. -/
theorem reads_exactly (text : Text) :
    readScanned text = some (read text) ∧
    (∀ found, read text = .error (.delimiters found) ↔
      found = (withoutMark text).pieces.countP isDelimiter ∧ found ≠ 1) ∧
    ((withoutMark text).pieces.countP isDelimiter = 1 →
      ∃ header line code, IsParted (withoutMark text) header line code ∧
        withoutMark text = header ++ line ++ code ∧
        (∀ spelling, read text = .error (.identity spelling) ↔
          spelling = identityLine header ∧ ∀ id : ScriptId, lowerAscii spelling ∉ id.spellings) ∧
        (∀ fault, read text = .error (.config fault) ↔
          (∃ id : ScriptId, lowerAscii (identityLine header) ∈ id.spellings) ∧
            Json.decodeWhole ScriptConfig.decode
              (settingsLines (LineEnding.detect (withoutMark text)) header) = .error fault) ∧
        ∀ file, read text = .ok file ↔
          lowerAscii (identityLine header) ∈ file.id.spellings ∧
            Json.decodeWhole ScriptConfig.decode
              (settingsLines (LineEnding.detect (withoutMark text)) header) = .ok file.config ∧
            file.code = code.trimStart ∧ file.lineEnding = LineEnding.detect (withoutMark text)) := by
  refine ⟨readScanned_eq text, fun found => ?_, fun hcount => ?_⟩
  · by_cases hcount : (withoutMark text).pieces.countP isDelimiter = 1
    · obtain ⟨header, line, code, hparted⟩ := exists_isParted hcount
      rw [hparted.read_eq, hcount]
      constructor
      · exact fun h => absurd h (ofParts_ne_delimiters found)
      · rintro ⟨rfl, hne⟩
        exact absurd rfl hne
    · rw [read_of_countP_ne hcount]
      constructor
      · rintro ⟨⟩
        exact ⟨rfl, hcount⟩
      · rintro ⟨rfl, -⟩
        rfl
  · obtain ⟨header, line, code, hparted⟩ := exists_isParted hcount
    refine ⟨header, line, code, hparted, hparted.eq, fun spelling => ?_, fun fault => ?_,
      fun file => ?_⟩
    · rw [hparted.read_eq, ofParts_eq_identity_iff]
      refine and_congr_right fun hspelling => ?_
      rw [hspelling, Option.eq_none_iff_forall_ne_some]
      exact forall_congr' fun id => not_congr ScriptId.ofText?_eq_some_iff
    · simp only [hparted.read_eq, ofParts_eq_config_iff, ScriptId.ofText?_eq_some_iff]
    · simp only [hparted.read_eq, ofParts_eq_ok_iff, ScriptId.ofText?_eq_some_iff]

end ScriptDesk.ScriptFile
