import ScriptDesk.Document
import ScriptDesk.Proofs.Disk.Writing
import ScriptDesk.Proofs.Script.Header

/-!
# Saving a document and loading it

What can be done to a document is an `Action`, and a document is `Reachable` when it was new or
loaded at first and only actions happened to it since. All of a reachable document can be told from
its file and the path of it: the name is not in the file, but it is the stem of the path whenever
there is a path (`Reachable.named`). So a document that was saved is what is loaded from its path
afterwards, with two provisos: the blanks in front of the code are lost, and with a line in the code
that would end the header nothing can be loaded (`load_saved`).
-/

namespace ScriptDesk.Document

open Text ScriptFile

/-- A way to save a document. -/
inductive Saving where
  /-- To the path it has. -/
  | inPlace
  /-- Under a path, in place of a file that is there. -/
  | under (path : Path)
  /-- Under a path where no file is. -/
  | fresh (path : Path)
  deriving DecidableEq, Repr

/-- Save the document in one of the ways. The disk can be another one even if that fails. -/
def saveBy (document : Document) (disk : Disk) : Saving → Except DocumentError Document × Disk
  | .inPlace =>
    match document.save disk with
    | .ok (saved, disk) => (.ok saved, disk)
    | .error e => (.error e, disk)
  | .under path => document.saveAs disk path
  | .fresh path => document.saveNew disk path

/-- What can be done to a document. -/
inductive Action where
  /-- Give it another code. -/
  | code (code : Text)
  /-- Give it other namespaces. -/
  | namespaces (namespaces : List Text)
  /-- Give it another kind. -/
  | kind (kind : ScriptKind)
  /-- Give it another path. -/
  | path (path : Path)
  /-- Save it on a disk; anything may have happened to the disk before. -/
  | save (disk : Disk) (way : Saving)

/-- The document after an action. An attempt to save it that fails leaves it as it was. -/
def act (document : Document) : Action → Document
  | .code code => document.setCode code
  | .namespaces namespaces => document.setNamespaces namespaces
  | .kind kind => document.setKind kind
  | .path path => document.setPath path
  | .save disk way => (document.saveBy disk way).1.toOption.getD document

/-- The documents that there can be. -/
inductive Reachable : Document → Prop where
  /-- A new document. -/
  | new (id : ScriptId) (name : Text) : Reachable { id, name }
  /-- A document from the disk. -/
  | load {disk : Disk} {path : Path} {document : Document} :
    load disk path = .ok document → Reachable document
  /-- A document to which something was done. -/
  | act {document : Document} (action : Action) : Reachable document → Reachable (document.act action)

/-! ### The name is that of the path -/

/-- If the document has a path, its name is the stem of that. -/
def IsNamed (document : Document) : Prop :=
  ∀ path, document.path = some path → document.name = Path.stem path

/-- To give a document the path that it has changes nothing. -/
theorem IsNamed.setPath_eq {document : Document} (h : document.IsNamed) {path : Path}
    (hpath : document.path = some path) : document.setPath path = document := by
  have hname := h path hpath
  unfold setPath
  rw [← hname, ← hpath]

theorem isNamed_setPath (document : Document) (path : Path) : (document.setPath path).IsNamed := by
  rintro other hother
  cases hother
  rfl

/-- A document that is saved in place has a path, and is not edited any more. -/
theorem eq_of_save {document saved : Document} {disk disk' : Disk}
    (h : document.save disk = .ok (saved, disk')) :
    ∃ path, document.path = some path ∧ saved = { document with edited := false } ∧
      disk.write path document.text.toBytes = .ok disk' := by
  unfold save at h
  split at h
  · rename_i path hpath
    cases hwrite : disk.write path document.text.toBytes with
    | error e => rw [hwrite] at h; cases h
    | ok written =>
      rw [hwrite] at h
      cases h
      exact ⟨path, hpath, rfl, hwrite⟩
  · cases h

/-- Saving in place is like saving under the path that the document has. -/
theorem saved_of_save {document saved : Document} {disk disk' : Disk} (hnamed : document.IsNamed)
    (h : document.save disk = .ok (saved, disk')) :
    ∃ path, saved = { document.setPath path with edited := false } ∧
      disk'.readText path = .ok document.text := by
  obtain ⟨path, hpath, rfl, hwrite⟩ := eq_of_save h
  refine ⟨path, ?_, Disk.readText_write hwrite⟩
  rw [hnamed.setPath_eq hpath]

theorem saved_of_saveTo {α : Type} [DecidableEq α] [PathUnit α] {document saved : Document α}
    {disk disk' : Disk α} {path : Path α} {fresh : Bool}
    (h : document.saveTo disk path fresh = (.ok saved, disk')) :
    saved = { document.setPath path with edited := false } ∧
      disk'.readText path = .ok document.text := by
  unfold saveTo at h
  split at h
  · cases h
  · rename_i disk _
    cases hwrite : (if fresh then disk.create path document.text.toBytes
        else disk.write path document.text.toBytes) with
    | error e => simp only [hwrite] at h; cases h
    | ok written =>
      simp only [hwrite] at h
      cases h
      refine ⟨rfl, Disk.readText_write (?_ : disk.write path _ = .ok disk')⟩
      split at hwrite
      · exact Disk.write_of_create hwrite
      · exact hwrite

/-- An attempt to save a document leaves it as it is, or it has the path of its file afterwards. -/
theorem act_save (document : Document) (disk : Disk) (way : Saving) :
    document.act (.save disk way) = document ∨
      ∃ path, document.path = some path ∧
          document.act (.save disk way) = { document with edited := false } ∨
        document.act (.save disk way) = { document.setPath path with edited := false } := by
  have hsaveTo : ∀ path fresh,
      (document.saveTo disk path fresh).1.toOption.getD document = document ∨
        (document.saveTo disk path fresh).1.toOption.getD document =
          { document.setPath path with edited := false } := by
    intro path fresh
    cases hsave : document.saveTo disk path fresh with
    | mk result disk' =>
      cases result with
      | error e => exact .inl rfl
      | ok saved => exact .inr (saved_of_saveTo hsave).1
  cases way with
  | inPlace =>
    cases hsave : document.save disk with
    | error e => exact .inl (by simp only [act, saveBy, hsave]; rfl)
    | ok result =>
      obtain ⟨path, hpath, hsaved, -⟩ := eq_of_save hsave
      refine .inr ⟨path, .inl ⟨hpath, ?_⟩⟩
      simp only [act, saveBy, hsave, hsaved]
      rfl
  | under path => exact (hsaveTo path false).imp_right fun h => ⟨path, .inr h⟩
  | fresh path => exact (hsaveTo path true).imp_right fun h => ⟨path, .inr h⟩

/-- However a document is saved, it has the path of its file afterwards, and its text is read
there. -/
theorem saved_of_saveBy {document saved : Document} {disk disk' : Disk} {way : Saving}
    (hnamed : document.IsNamed) (h : document.saveBy disk way = (.ok saved, disk')) :
    ∃ path, saved = { document.setPath path with edited := false } ∧
      disk'.readText path = .ok document.text := by
  cases way with
  | inPlace =>
    cases hsave : document.save disk with
    | error e => simp only [saveBy, hsave] at h; cases h
    | ok result =>
      simp only [saveBy, hsave] at h
      cases h
      exact saved_of_save hnamed hsave
  | under path => exact ⟨path, saved_of_saveTo h⟩
  | fresh path => exact ⟨path, saved_of_saveTo h⟩

theorem IsNamed.act {document : Document} (h : document.IsNamed) (action : Action) :
    (document.act action).IsNamed := by
  cases action with
  | code code => exact h
  | namespaces namespaces => exact h
  | kind kind => exact h
  | path path => exact isNamed_setPath document path
  | save disk way =>
    cases hsave : document.saveBy disk way with
    | mk result disk' =>
      cases result with
      | error e => simp only [Document.act, hsave]; exact h
      | ok saved =>
        simp only [Document.act, hsave]
        obtain ⟨path, rfl, _⟩ := saved_of_saveBy h hsave
        exact isNamed_setPath document path

/-- Loading is reading the text at the path as that of a script file. -/
theorem load_of_readText {α : Type} [DecidableEq α] [PathUnit α] {disk : Disk α} {path : Path α}
    {text : Text} (h : disk.readText path = .ok text) :
    load disk path =
      match ScriptFile.read text with
      | .ok file => .ok (ofFile path file)
      | .error e => .error (.format path e) := by
  unfold load
  rw [h]
  change ((ScriptFile.read text).mapError (DocumentError.format path) >>=
    fun file => .ok (ofFile path file)) = _
  cases ScriptFile.read text with
  | ok file => rfl
  | error e => rfl

/-- A document from the disk is what the file at its path holds. -/
theorem exists_file_of_load {α : Type} [DecidableEq α] [PathUnit α] {disk : Disk α} {path : Path α}
    {document : Document α} (h : load disk path = .ok document) :
    ∃ text file, disk.readText path = .ok text ∧ ScriptFile.read text = .ok file ∧
      document = ofFile path file := by
  cases hread : disk.readText path with
  | error e =>
    unfold load at h
    rw [hread] at h
    cases h
  | ok text =>
    rw [load_of_readText hread] at h
    split at h
    · rename_i file hfile
      cases h
      exact ⟨text, file, rfl, hfile, rfl⟩
    · cases h

theorem isNamed_of_load {disk : Disk} {path : Path} {document : Document}
    (h : load disk path = .ok document) : document.IsNamed := by
  obtain ⟨-, file, -, -, rfl⟩ := exists_file_of_load h
  rintro other hother
  cases hother
  rfl

/-- A reachable document has the name that its path gives it. -/
theorem Reachable.isNamed {document : Document} (h : document.Reachable) : document.IsNamed := by
  induction h with
  | new id name => rintro path hpath; cases hpath
  | load hload => exact isNamed_of_load hload
  | act action _ ih => exact ih.act action

/-! ### Loading -/

/-- **Loading what was saved.** Whatever was done to a document before, if it is saved in any of the
three ways, then it has a path and nothing is left to save, and its identity, settings and code are
as before. Loading from the path gives just this document back, up to the blanks in front of the
code and the line ending, unless the code has lines that would end the header. Then the file is
refused, and the refusal counts them and the one of the header. -/
theorem load_saved {document saved : Document} {disk disk' : Disk} {way : Saving}
    (hreach : document.Reachable) (h : document.saveBy disk way = (.ok saved, disk')) :
    ∃ path, saved = { document.setPath path with edited := false } ∧
      saved.isDirty = false ∧
      load disk' path =
        if delimiterLines saved.code = 0 then
          .ok { saved with
            code := saved.code.trimStart
            lineEnding := if saved.lineEnding = .crlf ∨ saved.code.hasCrlf then .crlf else .lf }
        else .error (.format path (.delimiters (delimiterLines saved.code + 1))) := by
  obtain ⟨path, rfl, hread⟩ := saved_of_saveBy hreach.isNamed h
  refine ⟨path, rfl, rfl, ?_⟩
  by_cases hclean : delimiterLines document.code = 0
  · have hfile := read_write_of_clean document.file hclean
    rw [load_of_readText hread, text, hfile]
    exact (if_pos hclean).symm
  · have hfile := read_write_of_delimiters document.file hclean
    rw [load_of_readText hread, text, hfile]
    exact (if_neg hclean).symm

/-- A new document with a code. -/
def draft (code : Text) : Document :=
  act { id := ⟨7⟩, name := "Draft".toList } (.code code)

theorem reachable_draft (code : Text) : (draft code).Reachable :=
  .act (.code code) (.new ⟨7⟩ "Draft".toList)

/-- Saved under a path, a draft with two blanks in front of its code is loaded without them, and
with the name of the path. -/
theorem load_saved_draft :
    ∃ saved disk, (draft "  x();".toList).saveBy {} (.fresh "/a.spad".toList) = (.ok saved, disk) ∧
      load disk "/a.spad".toList = .ok { saved with code := "x();".toList } ∧
      saved.name = "a".toList := by
  have hsave : (draft "  x();".toList).saveBy {} (.fresh "/a.spad".toList) =
      (.ok { (draft "  x();".toList).setPath "/a.spad".toList with edited := false },
        ((draft "  x();".toList).saveBy {} (.fresh "/a.spad".toList)).2) := by rfl
  refine ⟨_, _, hsave, ?_, by rfl⟩
  obtain ⟨path, hsaved, -, hload⟩ := load_saved (reachable_draft _) hsave
  have hpath : "/a.spad".toList = path := Option.some.inj (congrArg Document.path hsaved)
  subst hpath
  rw [hload]
  rfl

/-- With a line in its code that would end the header a draft is saved, and nothing is loaded. -/
theorem load_saved_delimiter :
    ∃ document : Document, document.Reachable ∧ ∃ saved disk,
      document.saveBy {} (.fresh "/a.spad".toList) = (.ok saved, disk) ∧ saved.isDirty = false ∧
        saved.path = some "/a.spad".toList ∧
        load disk "/a.spad".toList = .error (.format "/a.spad".toList (.delimiters 2)) :=
  ⟨_, reachable_draft "#Query".toList, _, _, rfl, rfl, rfl, by rfl⟩

end ScriptDesk.Document
