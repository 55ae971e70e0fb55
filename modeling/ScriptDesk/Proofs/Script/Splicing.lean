import ScriptDesk.Proofs.Script.Imports
import ScriptDesk.Proofs.Text.Endings

/-!
# A program determines its script

The code of a script is put into its program as it stands, whatever is in it, between lines that are
the same in all programs (`ofScript_eq`). So how much of a program is code can be told only from its
ends: the closing lines are of fixed length, and in front of the opening ones, which begin with an
empty line, there are the imports, none of which is empty (`takeWhile_lines_ofScript`). As long as
no namespace goes over a line, the program tells its imports and its code
(`program_determines_inputs`).
-/

namespace ScriptDesk

namespace Text

theorem mem_of_mem_trim {text : Text} {c : Char} (h : c ∈ trim text) : c ∈ text := by
  rw [trim, trimEnd, List.mem_reverse] at h
  have hstart := (List.dropWhile_sublist _).subset h
  exact (trimStart_suffix text).subset (List.mem_reverse.mp hstart)

end Text

open Text

namespace ScriptConfig

/-- No namespace of the settings goes over a line. -/
def IsPlain (config : ScriptConfig) : Prop :=
  ∀ name ∈ config.namespaces, '\n' ∉ name

/-- Namespaces that are given one on each line are plain. -/
theorem isPlain_namespaceLines (config : ScriptConfig) (text : Text) :
    { config with namespaces := namespaceLines text }.IsPlain := by
  intro name hname hfeed
  obtain ⟨line, hline, rfl⟩ := List.mem_map.mp (List.mem_filter.mp hname).1
  exact not_mem_of_mem_lines hline (mem_of_mem_trim hfeed)

/-- Then neither does an imported one. -/
theorem IsPlain.imports {config : ScriptConfig} (h : config.IsPlain) {name : Text}
    (hname : name ∈ config.imports) : '\n' ∉ name := by
  rcases (config.isImportList_imports.mem_iff name).mp hname with hstandard | ⟨given, hgiven, -, rfl⟩
  · exact (show ∀ name ∈ standardNamespaces, '\n' ∉ name by decide) name hstandard
  · exact fun hfeed => h given hgiven (mem_of_mem_trim hfeed)

end ScriptConfig

namespace Program

theorem ended_append (first second : List Text) :
    ended (first ++ second) = ended first ++ ended second :=
  List.flatMap_append

/-- The code of a script stands between the same lines in all programs. -/
theorem ofScript_eq (config : ScriptConfig) (code : Text) :
    ofScript config code =
      ended (config.imports.map importLine) ++ ended opening ++ code ++ '\n' :: ended closing := by
  rw [ofScript, ended_append, ended_append, ended_append]
  simp [ended]

/-- Ended lines are the first ones of what they begin. -/
theorem lines_ended_append {lines : List Text}
    (h : ∀ line ∈ lines, '\n' ∉ line ∧ withoutReturn line = line) (rest : Text) :
    (ended lines ++ rest).lines = lines ++ rest.lines := by
  induction lines with
  | nil => rfl
  | cons line lines ih =>
    obtain ⟨⟨hfeed, hreturn⟩, hlines⟩ := List.forall_mem_cons.mp h
    have hended : ended (line :: lines) ++ rest = line ++ '\n' :: (ended lines ++ rest) := by
      simp [ended]
    rw [hended, lines_line hfeed, hreturn, ih hlines, List.cons_append]

theorem importLine_injective : Function.Injective importLine := by
  intro name other h
  exact List.append_cancel_left (List.append_cancel_right h)

/-- The line of a plain namespace is one line, and ends with no carriage return. -/
theorem importLine_plain {name : Text} (h : '\n' ∉ name) :
    '\n' ∉ importLine name ∧ withoutReturn (importLine name) = importLine name := by
  constructor
  · change '\n' ∉ "using ".toList ++ name ++ [';']
    rw [List.mem_append, List.mem_append, not_or, not_or]
    exact ⟨⟨by decide, h⟩, by decide⟩
  · have hlast : (importLine name).getLast? = some ';' := List.getLast?_concat
    rw [withoutReturn, dropLast?, if_neg (by rw [hlast]; decide), Option.getD_none]

/-- The lines before the first empty one are the imports. -/
theorem takeWhile_lines_ofScript {config : ScriptConfig} (h : config.IsPlain) (code : Text) :
    (ofScript config code).lines.takeWhile (fun line => !line.isEmpty) =
      config.imports.map importLine := by
  have hplain : ∀ line ∈ config.imports.map importLine,
      '\n' ∉ line ∧ withoutReturn line = line := by
    rw [List.forall_mem_map]
    exact fun name hname => importLine_plain (h.imports hname)
  -- the opening lines begin with an empty one
  have hopening : ∃ rest, ended opening = [] ++ '\n' :: rest := ⟨_, rfl⟩
  obtain ⟨rest, hrest⟩ := hopening
  rw [ofScript_eq, List.append_assoc, List.append_assoc, lines_ended_append hplain, hrest,
    List.append_assoc, List.cons_append, lines_line List.not_mem_nil, List.takeWhile_append_of_pos]
  · exact List.append_nil _
  · rw [List.forall_mem_map]
    exact fun name _ => rfl

/-- **A program determines its script.** If no namespace of two scripts goes over a line, they have
the same program if and only if they have the same code and import the same namespaces. The lines
of a program in front of its first empty line are those of its imports, in order, and then the code
stands unchanged between an opening and a closing that are the same for all scripts. -/
theorem program_determines_inputs {config other : ScriptConfig} (h : config.IsPlain)
    (hother : other.IsPlain) (code otherCode : Text) :
    (ofScript config code = ofScript other otherCode ↔
      code = otherCode ∧ config.imports = other.imports) ∧
    (ofScript config code).lines.takeWhile (fun line => !line.isEmpty) =
      config.imports.map importLine ∧
    ofScript config code =
      ended (config.imports.map importLine) ++ ended opening ++ code ++ '\n' :: ended closing := by
  refine ⟨⟨fun heq => ?_, ?_⟩, takeWhile_lines_ofScript h code, ofScript_eq config code⟩
  · have hlines : config.imports.map importLine = other.imports.map importLine := by
      rw [← takeWhile_lines_ofScript h code, heq, takeWhile_lines_ofScript hother otherCode]
    rw [ofScript_eq, ofScript_eq, hlines] at heq
    exact ⟨List.append_cancel_left (List.append_cancel_right heq),
      List.map_injective_iff.mpr importLine_injective hlines⟩
  · rintro ⟨rfl, himports⟩
    rw [ofScript, ofScript, himports]

/-- Code that ends the lines around it and opens them again. -/
def wrappedCode : Text :=
  ended closing ++ "using A;\n".toList ++ ended opening

theorem program_determines_inputs_wrapped :
    let config : ScriptConfig := { namespaces := ScriptConfig.namespaceLines "A\r\n System".toList }
    let other : ScriptConfig := { namespaces := ScriptConfig.namespaceLines "\n A \nA".toList }
    ofScript config wrappedCode = ofScript other wrappedCode ∧
      ofScript config wrappedCode ≠ ofScript other [] := by
  intro config other
  have hplain : config.IsPlain := ScriptConfig.isPlain_namespaceLines {} _
  have hother : other.IsPlain := ScriptConfig.isPlain_namespaceLines {} _
  refine ⟨(program_determines_inputs hplain hother _ _).1.mpr ⟨rfl, by decide⟩, fun heq => ?_⟩
  cases ((program_determines_inputs hplain hother _ _).1.mp heq).1

/-- The line of a namespace that goes over a line may look like two. -/
example :
    ended (["A;\nusing B".toList].map importLine) = ended (["A".toList, "B".toList].map importLine) :=
  rfl

end Program

end ScriptDesk
