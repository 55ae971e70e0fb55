import ScriptDesk.Proofs.Path.Names

/-!
# Paths that are text

A path need not be text (`IsText`). What people are shown of a path leads back to it just if it is
(`spell_shown_iff`). Where a mark stands in the spelling of a text, the text has that mark, and what
is on either side of it is spelled on its own (`exists_of_spell_eq`). So the file of a script has a
path that is text just if the directory has (`isText_forScript_iff`).
-/

namespace ScriptDesk.Path

open PathUnit Text

variable {α : Type} [PathUnit α]

/-- The path is the spelling of a text. -/
def IsText (path : Path α) : Prop :=
  ∃ text, spell text = path

theorem isText_spell (text : Text) : IsText (spell text : Path α) :=
  ⟨text, rfl⟩

instance (path : Path α) : Decidable path.IsText :=
  decidable_of_iff ((read? path).isSome = true) (by
    rw [Option.isSome_iff_exists]
    exact exists_congr fun text => read?_eq_some_iff)

/-- No text has the byte FF in its spelling. -/
example : ¬IsText ([0x64, 0xFF] : Path UInt8) := by decide

/-- A path is what people are shown of it just if it is text. -/
theorem spell_shown_iff {path : Path α} : spell (shown path) = path ↔ path.IsText := by
  constructor
  · exact fun h => ⟨_, h⟩
  · rintro ⟨text, rfl⟩
    rw [shown_spell]

/-- A mark in the spelling of a text parts the text. -/
theorem exists_of_spell_eq {mark : Char} (hmark : mark.toNat < 128) {text : Text}
    {front rest : Path α} (h : spell text = front ++ ascii mark :: rest) :
    ∃ before behind, text = before ++ mark :: behind ∧ spell before = front ∧
      spell behind = rest := by
  induction text using cut_induction mark generalizing front with
  | last line hline =>
    refine absurd (mem_of_ascii_mem hmark (?_ : ascii mark ∈ (spell line : Path α))) hline
    rw [h]
    exact List.mem_append_right _ List.mem_cons_self
  | more line later hline ih =>
    rw [spell_append_cons hmark] at h
    have hmark' : ascii mark ∉ (spell line : Path α) := mt (mem_of_ascii_mem hmark) hline
    rcases eq_or_later_of_append_eq hmark' h with ⟨hfront, hrest⟩ | ⟨between, hfront, hlater⟩
    · exact ⟨line, later, rfl, hfront, hrest⟩
    · obtain ⟨before, behind, rfl, hbefore, hrest⟩ := ih hlater
      refine ⟨line ++ mark :: before, behind, by simp, ?_, hrest⟩
      rw [spell_append_cons hmark, hbefore, hfront]

/-- So what is around a mark is text just if both sides are. -/
theorem isText_append_cons_iff {mark : Char} (hmark : mark.toNat < 128) {front rest : Path α} :
    IsText (front ++ ascii mark :: rest) ↔ front.IsText ∧ rest.IsText := by
  constructor
  · rintro ⟨text, h⟩
    obtain ⟨before, behind, -, hbefore, hbehind⟩ := exists_of_spell_eq hmark h
    exact ⟨⟨before, hbefore⟩, behind, hbehind⟩
  · rintro ⟨⟨before, rfl⟩, behind, rfl⟩
    exact ⟨before ++ mark :: behind, spell_append_cons hmark before behind⟩

variable [DecidableEq α]

/-- The path of the file of a script is text just if the directory's is. -/
theorem isText_forScript_iff {directory : Path α} {name : Text} (h : '/' ∉ name) :
    (forScript directory name).IsText ↔ directory.IsText := by
  have hname : IsText (spell (name ++ scriptEnding) : Path α) := isText_spell _
  unfold forScript join
  rw [(isName_append_scriptEnding_iff.mpr h).isAbsolute]
  split
  · contradiction
  · split
    · rename_i hends
      rw [Bool.or_eq_true, List.isEmpty_iff, beq_iff_eq] at hends
      rcases hends with rfl | hlast
      · exact iff_of_true hname ⟨[], spell_nil⟩
      · obtain ⟨front, rfl⟩ := List.getLast?_eq_some_iff.mp hlast
        have hempty : IsText ([] : Path α) := ⟨[], spell_nil⟩
        rw [List.append_assoc, List.singleton_append, isText_append_cons_iff (by decide),
          isText_append_cons_iff (by decide), and_iff_left hname, and_iff_left hempty]
    · rw [isText_append_cons_iff (by decide), and_iff_left hname]

end ScriptDesk.Path
