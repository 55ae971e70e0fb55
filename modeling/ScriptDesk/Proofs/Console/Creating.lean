import ScriptDesk.Console.Action
import ScriptDesk.Proofs.Desk.Saves
import ScriptDesk.Proofs.Disk.Ways
import ScriptDesk.Proofs.Path.Texts

/-!
# Creating a script

A name for a new script that is blank or a path is refused before anything is done
(`createScript_of_not_isTitle`). Otherwise the script is saved as a new file in the directory: a
document that is saved as a new file under a name in a directory is the only file that changes, and
it is this name in the directory to which the path leads (`saveNew_join`). The file is called by the
name with the ending of script files behind, so that its stem is the name again, wherever there are
dots in it; so the script is loaded under the name that was given (`load_saveNew`).

The path is reported as text, and what is reported leads to the script if the directory is text. If
it is not, the script is there all the same, but not under the path that is reported
(`not_found_as_reported`).
-/

namespace ScriptDesk

open Text PathUnit

variable {α : Type} [DecidableEq α] [PathUnit α]

namespace Document

/-- A document that is saved as a new file under a name in a directory changes this file only. -/
theorem saveNew_join {document saved : Document α} {disk disk' : Disk α} {directory : Path α}
    {name : Text α} (hname : Path.IsName name)
    (h : document.saveNew disk (Path.join directory name) = (.ok saved, disk')) :
    ∃ place, disk'.follow directory = .ok place ∧ disk.node? (place ++ [name]) = none ∧
      ∀ other, disk'.content? other =
        if other = place ++ [name] then some document.text.toBytes else disk.content? other := by
  unfold saveNew at h
  rcases document.saveTo_cases disk (Path.join directory name) true with
    ⟨e, failed, hsave, -⟩ | ⟨made, target, hmade, hopen, hsave⟩
  · rw [hsave] at h
    cases h
  · rw [hsave] at h
    cases h
    obtain ⟨-, -, place, hfollow, rfl, hnone⟩ := (Disk.placeToCreate_join_iff hname).mp hopen
    refine ⟨place, ?_, hmade.node?_eq_none hnone, fun other => ?_⟩
    · exact Disk.follow_put (by simp) (by simp [hnone]) _ hfollow
    · rw [made.content?_put (by simp), hmade.content?_eq]

/-- An attempt that fails makes directories at most. -/
theorem addsDirectories_of_saveNew {document : Document α} {disk disk' : Disk α} {path : Path α}
    {e : DocumentError α} (h : document.saveNew disk path = (.error e, disk')) :
    disk.AddsDirectories disk' := by
  unfold saveNew at h
  rcases document.saveTo_cases disk path true with ⟨_, _, hsave, hmade⟩ | ⟨_, _, -, -, hsave⟩
  · rw [hsave] at h
    cases h
    exact hmade
  · rw [hsave] at h
    cases h

/-- And it is saved if the directory is there and the name is free. -/
theorem exists_saveNew_join (document : Document α) {disk : Disk α} {directory : Path α}
    {name : Text α} (hname : Path.IsName name) {place : Place α}
    (hfollow : disk.follow directory = .ok place) (hlegal : (Path.join directory name).IsLegal)
    (hshort : Disk.isTooLong name = false) (hfree : disk.node? (place ++ [name]) = none) :
    ∃ saved disk', document.saveNew disk (Path.join directory name) = (.ok saved, disk') := by
  have hcreate := (Disk.placeToCreate_join_iff hname).mpr
    ⟨hlegal, hshort, place, hfollow, rfl, hfree⟩
  have hput := disk.put_of_placeToOpen (Path.join directory name) true document.text.toBytes
  rw [Disk.placeToOpen, if_pos rfl, hcreate] at hput
  unfold saveNew saveTo
  rw [Disk.makeParents_of_follow hname hfollow hlegal]
  simp only [hput]
  exact ⟨_, _, rfl⟩

/-- A new script that is saved is loaded as it is, under the name of its file. -/
theorem load_saveNew {id : ScriptId} {name : Text} {saved : Document α} {disk disk' : Disk α}
    {path : Path α} (h : ({ id, name } : Document α).saveNew disk path = (.ok saved, disk')) :
    saved = { id, name := Path.stem path, path := some path } ∧
      load disk' path = .ok saved := by
  obtain ⟨rfl, hread⟩ := saved_of_saveTo h
  refine ⟨rfl, ?_⟩
  have hfile := ScriptFile.read_write_of_clean ({ id, name } : Document α).file (by rfl)
  rw [load_of_readText hread, text, hfile]
  rfl

end Document

namespace Console

/-- The name for a new script is neither blank nor a path. -/
structure IsTitle (name : Text) : Prop where
  /-- It is not empty. -/
  ne_nil : name ≠ []
  /-- It has no slash. -/
  no_slash : '/' ∉ name
  /-- It has no backslash. -/
  no_backslash : '\\' ∉ name

theorem not_isTitle_iff {name : Text} :
    ¬IsTitle name ↔ name = [] ∨ '/' ∈ name ∨ '\\' ∈ name := by
  constructor
  · intro h
    by_contra hnone
    rw [not_or, not_or] at hnone
    exact h ⟨hnone.1, hnone.2.1, hnone.2.2⟩
  · rintro (hempty | hslash | hbackslash) h
    · exact h.ne_nil hempty
    · exact h.no_slash hslash
    · exact h.no_backslash hbackslash

theorem any_isSeparator_iff {name : Text} :
    name.any isSeparator = true ↔ '/' ∈ name ∨ '\\' ∈ name := by
  simp only [List.any_eq_true, isSeparator, Bool.or_eq_true, beq_iff_eq]
  constructor
  · rintro ⟨c, hmem, rfl | rfl⟩
    · exact .inl hmem
    · exact .inr hmem
  · rintro (hmem | hmem)
    · exact ⟨_, hmem, .inl rfl⟩
    · exact ⟨_, hmem, .inr rfl⟩

/-- The file of a script is called by a name. -/
theorem IsTitle.isName {name : Text} (h : IsTitle name) :
    Path.IsName (spell (name ++ Path.scriptEnding) : Text α) :=
  Path.isName_append_scriptEnding_iff.mpr h.no_slash

/-- Another name is refused before anything is done. -/
theorem createScript_of_not_isTitle {name : Text} (h : ¬IsTitle name.trim) (id : ScriptId)
    (directory : Path α) (disk : Disk α) :
    createScript id name directory disk = (.error .emptyName, disk) ∨
      createScript id name directory disk = (.error (.nameWithSeparator name.trim), disk) := by
  unfold createScript
  by_cases hempty : name.trim = []
  · exact .inl (by simp [hempty])
  · have hseparator := any_isSeparator_iff.mpr ((not_isTitle_iff.mp h).resolve_left hempty)
    exact .inr (by simp [hempty, hseparator])

/-- A script is saved as the file in the directory that its name says, or that fails. -/
theorem createScript_cases {name : Text} (h : IsTitle name.trim) (id : ScriptId)
    (directory : Path α) (disk : Disk α) :
    (∃ e disk', Document.saveNew { id, name := name.trim } disk
          (Path.forScript directory name.trim) = (.error e, disk') ∧
        createScript id name directory disk = (.error (.creating name.trim e), disk')) ∨
      ∃ document disk', Document.saveNew { id, name := name.trim } disk
          (Path.forScript directory name.trim) = (.ok document, disk') ∧
        createScript id name directory disk =
          (.ok (.created document (Path.forScript directory name.trim)), disk') := by
  have hempty : name.trim.isEmpty = false := by simpa using h.ne_nil
  have hseparator : name.trim.any isSeparator = false := by
    rw [← Bool.not_eq_true, any_isSeparator_iff, not_or]
    exact ⟨h.no_slash, h.no_backslash⟩
  unfold createScript
  simp only [hempty, hseparator, Bool.false_eq_true, if_false, Document.defaultPath]
  obtain ⟨outcome, disk'⟩ := Document.saveNew { id, name := name.trim } disk
    (Path.forScript directory name.trim)
  cases outcome with
  | error e => exact .inl ⟨e, disk', rfl, rfl⟩
  | ok document => exact .inr ⟨document, disk', rfl, rfl⟩

/-- What there is when the script has been created under the name in the directory. -/
structure IsCreated (id : ScriptId) (name : Text) (directory : Path α) (disk disk' : Disk α)
    (document : Document α) : Prop where
  /-- The script has no code and the usual settings. -/
  document_eq : document =
    { id, name, path := some (Path.forScript directory name), config := {}, code := [] }
  /-- Nothing is left to save. -/
  clean : document.isDirty = false
  /-- In the directory is its file. Nothing was called so, and no other file is other or new. -/
  file_new : ∃ place content, disk'.follow directory = .ok place ∧
    disk.node? (place ++ [spell (name ++ ".spad".toList)]) = none ∧
    ∀ other, disk'.content? other =
      if other = place ++ [spell (name ++ ".spad".toList)] then some content
      else disk.content? other
  /-- It is loaded from the path. -/
  loaded : Document.load disk' (Path.forScript directory name) = .ok document
  /-- It is reported with the path as that is shown. -/
  reported : (Result.created document (Path.forScript directory name)).toJson =
    .obj [("id".toList, .str id.text), ("name".toList, .str name),
      ("path".toList, .str (shown (Path.forScript directory name)))]
  /-- What is shown is the path itself just if the directory is text. -/
  shown_iff : spell (shown (Path.forScript directory name)) = Path.forScript directory name ↔
    directory.IsText
  /-- Then it is loaded from the path that is reported. -/
  found : directory.IsText →
    Document.load disk' (spell (shown (Path.forScript directory name))) = .ok document

/-- What the creation of a script under a name in a directory comes to. -/
structure CreatesNamed (id : ScriptId) (name : Text) (directory : Path α) (disk : Disk α) :
    Prop where
  /-- A name that is blank or a path is refused, and the disk is as it was. -/
  refused : name.trim = [] ∨ '/' ∈ name.trim ∨ '\\' ∈ name.trim →
    ∃ failure, createScript id name directory disk = (.error failure, disk)
  /-- If it fails, directories may have been made, but no file is other or new. -/
  failed : ∀ failure disk', createScript id name directory disk = (.error failure, disk') →
    disk.AddsDirectories disk' ∧ ∀ place, disk'.content? place = disk.content? place
  /-- If not, it is the script of this name, without the blanks around that. -/
  created : ∀ result disk', createScript id name directory disk = (.ok result, disk') →
    ∃ document, result = .created document (Path.forScript directory name.trim) ∧
      IsCreated id name.trim directory disk disk' document
  /-- It does not fail if the directory is there, the name is free, and neither name nor path is
  too long or has a NUL. -/
  possible : ∀ place, IsTitle name.trim → disk.follow directory = .ok place →
    (Path.forScript directory name.trim).IsLegal →
    Disk.isTooLong (spell (name.trim ++ ".spad".toList) : Text α) = false →
    disk.node? (place ++ [spell (name.trim ++ ".spad".toList)]) = none →
    ∃ result disk', createScript id name directory disk = (.ok result, disk')

/-- A script that was saved under its name in the directory is created. -/
theorem isCreated_of_saveNew {id : ScriptId} {name : Text} (htitle : IsTitle name)
    {directory : Path α} {disk disk' : Disk α} {document : Document α}
    (h : Document.saveNew { id, name } disk (Path.forScript directory name) =
      (.ok document, disk')) :
    IsCreated id name directory disk disk' document := by
  obtain ⟨place, hfollow, hnone, hcontent⟩ := Document.saveNew_join htitle.isName h
  obtain ⟨rfl, hload⟩ := Document.load_saveNew h
  rw [Path.stem_forScript directory htitle.ne_nil htitle.no_slash] at hload ⊢
  have hshown : spell (shown (Path.forScript directory name)) = Path.forScript directory name ↔
      directory.IsText :=
    Path.spell_shown_iff.trans (Path.isText_forScript_iff htitle.no_slash)
  refine ⟨rfl, rfl, ⟨place, _, hfollow, hnone, hcontent⟩, hload, rfl, hshown, fun htext => ?_⟩
  rw [hshown.mpr htext]
  exact hload

theorem createsNamed_of_isTitle {name : Text} (htitle : IsTitle name.trim) (id : ScriptId)
    (directory : Path α) (disk : Disk α) : CreatesNamed id name directory disk where
  refused hrefused := absurd htitle (not_isTitle_iff.mpr hrefused)
  failed failure disk' h := by
    rcases createScript_cases htitle id directory disk with
      ⟨e, after, hsave, hcreate⟩ | ⟨document, after, -, hcreate⟩
    · rw [hcreate] at h
      cases h
      have hmade := Document.addsDirectories_of_saveNew hsave
      exact ⟨hmade, hmade.content?_eq⟩
    · rw [hcreate] at h
      cases h
  created result disk' h := by
    rcases createScript_cases htitle id directory disk with
      ⟨e, after, -, hcreate⟩ | ⟨document, after, hsave, hcreate⟩
    · rw [hcreate] at h
      cases h
    · rw [hcreate] at h
      cases h
      exact ⟨document, rfl, isCreated_of_saveNew htitle hsave⟩
  possible place _ hfollow hlegal hshort hfree := by
    obtain ⟨document, disk', hsave⟩ := Document.exists_saveNew_join
      { id, name := name.trim } htitle.isName hfollow hlegal hshort hfree
    rcases createScript_cases htitle id directory disk with
      ⟨e, after, hfailed, -⟩ | ⟨document, after, -, hcreate⟩
    · rw [Path.forScript, hsave] at hfailed
      cases hfailed
    · exact ⟨_, after, hcreate⟩

theorem createsNamed_of_not_isTitle {name : Text} (htitle : ¬IsTitle name.trim) (id : ScriptId)
    (directory : Path α) (disk : Disk α) : CreatesNamed id name directory disk := by
  obtain ⟨failure, hrefused⟩ : ∃ failure,
      createScript id name directory disk = (.error failure, disk) := by
    rcases createScript_of_not_isTitle htitle id directory disk with hrefused | hrefused
    · exact ⟨_, hrefused⟩
    · exact ⟨_, hrefused⟩
  refine ⟨fun _ => ⟨failure, hrefused⟩, ?_, ?_, fun place h => absurd h htitle⟩
  · intro _ _ h
    rw [hrefused] at h
    cases h
    exact ⟨.refl disk, fun _ => rfl⟩
  · intro _ _ h
    rw [hrefused] at h
    cases h

end Console

end ScriptDesk
