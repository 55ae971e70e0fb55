import ScriptDesk.Proofs.Script.Header

/-!
# Writing and reading script files

Two round trips. A file that is written is read back exactly when its code has no line that would
end a header; the code loses the blanks in front of it, and nothing else changes (`read_write`). A
text that was read can be written and read again, with one exception: dropping the blanks in front
of the code can turn its first line into one that ends a header, and then what is written has two
of them (`read_write_of_read`).
-/

namespace ScriptDesk.ScriptFile

open Text

/-- **Writing and then reading.** The identity and the settings come back as they were, whatever the
namespaces contain; of the code only the blanks in front are lost; the file follows the longer line
ending when it was written so or when the code has such a line end. With lines in the code that
would end a header the text is refused, and the refusal counts them and the one of the header. -/
theorem read_write (file : ScriptFile) :
    read file.write =
      if delimiterLines file.code = 0 then
        .ok { file with
          code := file.code.trimStart
          lineEnding := if file.lineEnding = .crlf ∨ file.code.hasCrlf then .crlf else .lf }
      else .error (.delimiters (delimiterLines file.code + 1)) := by
  split
  · rename_i h
    exact read_write_of_clean file h
  · rename_i h
    exact read_write_of_delimiters file h

/-- **Reading, writing and reading again.** What was read is read again, unless the first line of
its code would end a header; then there are two such lines. So reading and writing a second time
changes nothing where reading is possible. -/
theorem read_write_of_read {text : Text} {file : ScriptFile} (h : read text = .ok file) :
    read file.write =
        (if startsWithDelimiter file.code then .error (.delimiters 2) else .ok file) ∧
      (startsWithDelimiter file.code = false → (read file.write).map write = .ok file.write) := by
  have hcount := delimiterLines_of_read h
  have hread : read file.write =
      if startsWithDelimiter file.code then .error (.delimiters 2) else .ok file := by
    cases hstart : startsWithDelimiter file.code with
    | true =>
      rw [hstart, if_pos rfl] at hcount
      rw [if_pos rfl, read_write_of_delimiters file (by omega), hcount]
    | false =>
      rw [hstart, if_neg Bool.false_ne_true] at hcount
      rw [if_neg Bool.false_ne_true, read_write_of_clean file hcount, trimStart_of_read h,
        lineEnding_of_read h]
  refine ⟨hread, fun hstart => ?_⟩
  rw [hread, hstart, if_neg Bool.false_ne_true]
  rfl

/-- A script file whose code is the given text. -/
def sample (code : Text) : Text :=
  "3f2504e0-4f89-11d3-9a0c-0305e82c3301\n\x7b\"kind\":\"Statements\"\x7d\n#Query\n".toList ++ code

/-- With two blanks in front of it the line `#Query` is code. What was read is written without the
blanks, and that cannot be read. With any other line behind the blanks it can. -/
theorem read_write_of_read_indented :
    (∃ file, read (sample "  #Query\nx();".toList) = .ok file ∧
      read file.write = .error (.delimiters 2)) ∧
    ∃ file, read (sample "  x();\n#Query();".toList) = .ok file ∧ read file.write = .ok file := by
  let id : ScriptId := ⟨0x3f2504e04f8911d39a0c0305e82c3301⟩
  have h₁ : read (sample "  #Query\nx();".toList) =
      .ok ⟨id, {}, "#Query\nx();".toList, .lf⟩ := by rfl
  have h₂ : read (sample "  x();\n#Query();".toList) =
      .ok ⟨id, {}, "x();\n#Query();".toList, .lf⟩ := by rfl
  exact ⟨⟨_, h₁, (read_write_of_read h₁).1⟩, _, h₂, (read_write_of_read h₂).1⟩

end ScriptDesk.ScriptFile
