import ScriptDesk.Proofs.Desk.Operations
import ScriptDesk.Proofs.Document.Stepwise

/-!
# A save is whole or does not happen

When a document is saved, directories may be made, and then either one file is written or it fails
(`saveBy_cases`). So an attempt that fails leaves the document and all files as they were. Where a
file has to be new, all that was on the disk stays, and so it does when a script without a path is
saved on the desk (`node?_save_of_draft`).
-/

namespace ScriptDesk

namespace Disk

/-- A path leads to a file that was written by it. -/
theorem placeToWrite_put {disk : Disk} {path : Path} {place : Place}
    (h : disk.placeToWrite path = .ok place) (content : Bytes) :
    (disk.put place (.file content)).placeToWrite path = .ok place := by
  obtain ⟨directory, name, hleads, rfl⟩ := leadsTo_of_placeToWrite h
  have hplace : directory ++ [name] ≠ [] := by simp
  have hloc := locate_put hplace hleads.free (.file content) hleads.located
  have hnode := node?_put disk hplace (.file content) (directory ++ [name])
  rw [if_pos rfl] at hnode
  unfold placeToWrite
  simp only [hloc, hleads.short, hnode, bind, Except.bind]
  rfl

end Disk

namespace Document

/-- The path to which a document is saved. -/
def Saving.target? (document : Document) : Saving → Option Path
  | .inPlace => document.path
  | .under path | .fresh path => some path

/-- With the directories made, if any, the path leads to a place where a file is written. -/
theorem saveTo_cases {α : Type} [DecidableEq α] [PathUnit α] (document : Document α)
    (disk : Disk α) (path : Path α) (fresh : Bool) :
    (∃ e disk', document.saveTo disk path fresh = (.error e, disk') ∧ disk.AddsDirectories disk') ∨
      ∃ made place, disk.AddsDirectories made ∧ made.placeToOpen path fresh = .ok place ∧
        document.saveTo disk path fresh = (.ok { document.setPath path with edited := false },
          made.put place (.file document.text.toBytes)) := by
  have hmade := disk.addsDirectories_makeParents path
  simp only [saveTo, Disk.put_of_placeToOpen]
  cases hparents : disk.makeParents path with
  | mk result made =>
    rw [hparents] at hmade
    cases result with
    | error e => exact .inl ⟨_, made, rfl, hmade⟩
    | ok u =>
      cases hopen : made.placeToOpen path fresh with
      | error e => exact .inl ⟨.ofOpening path e, made, by simp [hopen, Except.map], hmade⟩
      | ok place => exact .inr ⟨made, place, hmade, hopen, by simp [hopen, Except.map]⟩

theorem save_cases (document : Document) (disk : Disk) :
    (∃ e, document.save disk = .error e) ∨
      ∃ path place, document.path = some path ∧ disk.placeToOpen path false = .ok place ∧
        document.save disk = .ok ({ document with edited := false },
          disk.put place (.file document.text.toBytes)) := by
  cases hsave : document.save disk with
  | error e => exact .inl ⟨e, rfl⟩
  | ok result =>
    obtain ⟨saved, disk'⟩ := result
    obtain ⟨path, hpath, rfl, hwrite⟩ := eq_of_save hsave
    have hput := disk.put_of_placeToOpen path false document.text.toBytes
    rw [if_neg (by simp), hwrite] at hput
    cases hopen : disk.placeToOpen path false with
    | error e => rw [hopen] at hput; cases hput
    | ok place =>
      rw [hopen] at hput
      cases hput
      exact .inr ⟨path, place, hpath, hopen, rfl⟩

/-- However a document is saved, it fails with nothing but directories made, or one file is
written. -/
theorem saveBy_cases (document : Document) (disk : Disk) (way : Saving) :
    (∃ e disk', document.saveBy disk way = (.error e, disk') ∧ disk.AddsDirectories disk') ∨
      ∃ path made place saved, way.target? document = some path ∧ disk.AddsDirectories made ∧
        made.placeToWrite path = .ok place ∧
        (∀ target, way = .fresh target → made.node? place = none) ∧
        (document.path = some path ∧ saved = { document with edited := false } ∨
          saved = { document.setPath path with edited := false }) ∧
        document.saveBy disk way = (.ok saved, made.put place (.file document.text.toBytes)) := by
  cases way with
  | inPlace =>
    rcases document.save_cases disk with ⟨e, hsave⟩ | ⟨path, place, hpath, hopen, hsave⟩
    · exact .inl ⟨e, disk, by rw [saveBy, hsave], .refl disk⟩
    · exact .inr ⟨path, disk, place, _, hpath, .refl disk, hopen, fun _ h => (by cases h),
        .inl ⟨hpath, rfl⟩, by rw [saveBy, hsave]⟩
  | under path =>
    rcases document.saveTo_cases disk path false with hfailed | ⟨made, place, hmade, hopen, hsave⟩
    · exact .inl hfailed
    · exact .inr ⟨path, made, place, _, rfl, hmade, hopen, fun _ h => (by cases h), .inr rfl, hsave⟩
  | fresh path =>
    rcases document.saveTo_cases disk path true with hfailed | ⟨made, place, hmade, hopen, hsave⟩
    · exact .inl hfailed
    · exact .inr ⟨path, made, place, _, rfl, hmade, Disk.placeToWrite_of_placeToOpen hopen,
        fun _ _ => Disk.node?_of_placeToCreate hopen, .inr rfl, hsave⟩

end Document

namespace Desk

/-- To write a document that has no path is to save it where no file is; another one is saved in
place. -/
theorem saveDocument_eq (settings : Settings) (disk : Disk) (document : Document) :
    saveDocument settings disk document =
      document.saveBy disk
        (if document.isNew then .fresh (document.defaultPath settings.scriptsDirectory)
          else .inPlace) := by
  unfold saveDocument
  split <;> rfl

theorem save_of_error {desk : Desk} {script : ScriptId} {seat : Nat} {document : Document}
    {e : DocumentError} {disk : Disk} (hopen : desk.register.get? script = some seat)
    (h : desk.document? seat = some document)
    (hsave : saveDocument desk.settings desk.disk document = (.error e, disk)) :
    desk.save script = (.error (.document e), { desk with disk }) := by
  unfold save
  simp only [openSeat_eq_ok_iff.mpr hopen, h, hsave]

theorem save_of_ok {desk : Desk} {script : ScriptId} {seat : Nat} {document saved : Document}
    {disk : Disk} (hopen : desk.register.get? script = some seat)
    (h : desk.document? seat = some document)
    (hsave : saveDocument desk.settings desk.disk document = (.ok saved, disk)) :
    desk.save script =
      (.ok (saved.path.getD []), { desk with disk }.setDocument seat saved) := by
  unfold save
  simp only [openSeat_eq_ok_iff.mpr hopen, h, hsave]

/-- An attempt to save a script that fails makes directories at most. -/
theorem addsDirectories_of_save {desk desk' : Desk} {script : ScriptId} {e : SessionError}
    (h : desk.save script = (.error e, desk')) :
    ∃ disk, desk' = { desk with disk } ∧ desk.disk.AddsDirectories disk := by
  cases hopen : desk.register.get? script with
  | none =>
    unfold save openSeat at h
    rw [hopen] at h
    cases h
    exact ⟨desk.disk, rfl, .refl _⟩
  | some seat =>
    cases hdocument : desk.document? seat with
    | none =>
      unfold save at h
      simp only [openSeat_eq_ok_iff.mpr hopen, hdocument] at h
      cases h
      exact ⟨desk.disk, rfl, .refl _⟩
    | some document =>
      rcases document.saveBy_cases desk.disk (if document.isNew then
          .fresh (document.defaultPath desk.settings.scriptsDirectory) else .inPlace) with
        ⟨reason, disk, hsave, hmade⟩ | ⟨path, made, place, saved, -, -, -, -, -, hsave⟩
      · rw [← saveDocument_eq] at hsave
        rw [save_of_error hopen hdocument hsave] at h
        cases h
        exact ⟨disk, rfl, hmade⟩
      · rw [← saveDocument_eq] at hsave
        rw [save_of_ok hopen hdocument hsave] at h
        cases h

/-- When a script without a path is saved, whatever was on the disk stays. -/
theorem node?_save_of_draft {desk : Desk} {script : ScriptId} {seat : Nat} {draft : Document}
    (hopen : desk.register.get? script = some seat) (h : desk.document? seat = some draft)
    (hpath : draft.path = none) {place : Place} {node : Node}
    (hnode : desk.disk.node? place = some node) :
    (desk.save script).2.disk.node? place = some node := by
  have hway := saveDocument_eq desk.settings desk.disk draft
  rw [Document.isNew, hpath, Option.isNone_none, if_pos rfl] at hway
  rcases draft.saveBy_cases desk.disk (.fresh (draft.defaultPath desk.settings.scriptsDirectory))
    with ⟨e, disk, hsave, hmade⟩ | ⟨path, made, target, saved, -, hmade, hplace, hfree, -, hsave⟩
  · rw [save_of_error hopen h (hway.trans hsave)]
    exact hmade.node?_eq_some hnode
  · rw [save_of_ok hopen h (hway.trans hsave)]
    have hkept := hmade.node?_eq_some hnode
    obtain ⟨directory, name, -, rfl⟩ := Disk.leadsTo_of_placeToWrite hplace
    have hne : place ≠ directory ++ [name] := by
      rintro rfl
      rw [hfree _ rfl] at hkept
      cases hkept
    exact (Disk.node?_put made (by simp) _ place).trans ((if_neg hne).trans hkept)

/-- What comes of saving the document in one of the three ways. -/
structure SavesWhole (document : Document) (disk : Disk) (way : Document.Saving) : Prop where
  /-- Done in place, step by step, it comes to what the document itself answers. -/
  outcome_eq : (Document.Stepwise.saveBy way).outcome (document, disk) =
    Document.Stepwise.left document (document.saveBy disk way)
  /-- If it fails, the document is as it was, and there may be directories where nothing was; so no
  file has another content, and none appeared. -/
  failed : ∀ e after disk', (Document.Stepwise.saveBy way).outcome (document, disk) =
      (.error e, after, disk') →
    after = document ∧ disk.AddsDirectories disk' ∧
      ∀ place, disk'.content? place = disk.content? place
  /-- Otherwise the path leads to a file with the text of the document, and all other files are as
  they were. The document has this path and its stem as the name, and is not edited any more. If no
  file was to be replaced, nothing was there before. -/
  saved : ∀ after disk', (Document.Stepwise.saveBy way).outcome (document, disk) =
      (.ok (), after, disk') →
    ∃ path place, way.target? document = some path ∧ disk'.placeToWrite path = .ok place ∧
      disk'.readBytes path = .ok document.text.toBytes ∧
      (∀ other, disk'.content? other =
        if other = place then some document.text.toBytes else disk.content? other) ∧
      after = { document with path := some path, name := Path.stem path, edited := false } ∧
      ∀ target, way = .fresh target → disk.node? place = none

/-- **A save is whole or does not happen.** So an attempt to save a script on the desk that fails
makes directories at most, and a script that has no path replaces nothing when it is saved. -/
theorem saves_whole {document : Document} (hreach : document.Reachable) (disk : Disk)
    (way : Document.Saving) :
    SavesWhole document disk way ∧
    ∀ (desk : Desk) (script : ScriptId),
      (∀ e desk', desk.save script = (.error e, desk') →
        ∃ disk, desk' = { desk with disk } ∧ desk.disk.AddsDirectories disk) ∧
      ∀ seat draft, desk.register.get? script = some seat → desk.document? seat = some draft →
        draft.path = none → ∀ place node, desk.disk.node? place = some node →
          (desk.save script).2.disk.node? place = some node := by
  have houtcome := Document.Stepwise.outcome_saveBy way document disk
  refine ⟨⟨houtcome, fun e after disk' h => ?_, fun after disk' h => ?_⟩, fun desk script =>
    ⟨fun e desk' => addsDirectories_of_save, fun seat draft hopen hdraft hpath place node =>
      node?_save_of_draft hopen hdraft hpath⟩⟩
  · rw [houtcome] at h
    rcases document.saveBy_cases disk way with
      ⟨reason, failed, hsave, hmade⟩ | ⟨path, made, place, saved, -, -, -, -, -, hsave⟩
    · rw [hsave] at h
      cases h
      exact ⟨rfl, hmade, hmade.content?_eq⟩
    · rw [hsave] at h
      cases h
  · rw [houtcome] at h
    rcases document.saveBy_cases disk way with
      ⟨reason, failed, hsave, -⟩ |
        ⟨path, made, place, saved, htarget, hmade, hopen, hfree, hsaved, hsave⟩
    · rw [hsave] at h
      cases h
    · rw [hsave] at h
      cases h
      obtain ⟨directory, name, hleads, rfl⟩ := Disk.leadsTo_of_placeToWrite hopen
      refine ⟨path, _, htarget, Disk.placeToWrite_put hopen _, Disk.readBytes_put hleads _,
        fun other => ?_, ?_, fun target hway => ?_⟩
      · rw [made.content?_put (by simp), hmade.content?_eq]
      · rcases hsaved with ⟨hpath, rfl⟩ | rfl
        · have hsame := hreach.isNamed.setPath_eq hpath
          exact congrArg (fun named : Document => { named with edited := false }) hsame.symm
        · rfl
      · cases hnode : disk.node? (directory ++ [name]) with
        | none => rfl
        | some node =>
          have hkept := hmade.node?_eq_some hnode
          rw [hfree target hway] at hkept
          cases hkept

/-- A path to a new file in a new directory. -/
def newPath : Path :=
  "/d/a.spad".toList

/-- The draft is saved to the new file. -/
theorem saves_whole_once :
    ∃ saved disk, (Document.draft "x();".toList).saveBy {} (.fresh newPath) = (.ok saved, disk) ∧
      disk.readBytes newPath = .ok (Document.draft "x();".toList).text.toBytes ∧
      saved.name = "a".toList := by
  obtain ⟨⟨hstep, -, hwritten⟩, -⟩ :=
    saves_whole (Document.reachable_draft "x();".toList) {} (.fresh newPath)
  have hsave : (Document.draft "x();".toList).saveBy {} (.fresh newPath) =
      (.ok { (Document.draft "x();".toList).setPath newPath with edited := false },
        ((Document.draft "x();".toList).saveBy {} (.fresh newPath)).2) := by rfl
  rw [hsave] at hstep
  obtain ⟨path, place, htarget, -, hread, -⟩ := hwritten _ _ hstep
  cases htarget
  exact ⟨_, _, hsave, hread, by rfl⟩

end Desk

end ScriptDesk
