import ScriptDesk.Proofs.Console.Codes
import ScriptDesk.Proofs.Console.Creating

/-!
# Why commands fail

An action that reads a script fails just if the script cannot be loaded (`perform_of_reads`), for a
script that was loaded can be saved again (`exists_save_of_load`). It cannot be loaded because there
is no such file, because the text of the file is that of no script file, or for a reason that has no
code of its own (`kind_of_load`). A script is not created because its name is refused or taken, or
again for such a reason (`kind_of_saveNew_join`); it is never not found, for the directories on the
way to it are made.

So the disk tells of which kind a failure is (`Explained`). The code is told by the kind and by what
is quoted in the message (`code_of_failed_action`), and a file whose path has the words of another
kind gets the wrong one (`code_told_by_path`).
-/

namespace ScriptDesk

open Text PathUnit

variable {α : Type} [DecidableEq α] [PathUnit α]

namespace Disk

/-- Where a file is read one can be written. -/
theorem exists_placeToWrite_of_readText {disk : Disk α} {path : Path α} {text : Text}
    (h : disk.readText path = .ok text) : ∃ place, disk.placeToWrite path = .ok place := by
  unfold readText at h
  cases hbytes : disk.readBytes path with
  | error e =>
    rw [hbytes] at h
    cases h
  | ok bytes =>
    unfold readBytes at hbytes
    unfold placeToWrite
    cases hlocate : disk.locate path with
    | error e =>
      rw [hlocate] at hbytes
      cases hbytes
    | ok target =>
      rw [hlocate] at hbytes
      cases target with
      | directory place => cases hbytes
      | entry place name closed =>
        simp only [bind, Except.bind] at hbytes ⊢
        split at hbytes
        · cases hbytes
        · rename_i hshort
          split at hbytes
          · cases hbytes
          · cases hbytes
          · rename_i content hnode
            cases closed with
            | true => cases hbytes
            | false => exact ⟨place ++ [name], by simp [hshort, hnode]; rfl⟩

end Disk

namespace Document

theorem load_eq_error_iff {disk : Disk α} {path : Path α} {e : DocumentError α} :
    load disk path = .error e ↔
      (∃ reason, disk.readText path = .error reason ∧ e = .disk path reason) ∨
        ∃ text reason, disk.readText path = .ok text ∧ ScriptFile.read text = .error reason ∧
          e = .format path reason := by
  cases hread : disk.readText path with
  | error reason =>
    have hload : load disk path = .error (.disk path reason) := by
      unfold load
      rw [hread]
      rfl
    simp [hload, eq_comm]
  | ok text =>
    rw [load_of_readText hread]
    cases hfile : ScriptFile.read text with
    | error reason => simp [hfile, eq_comm]
    | ok file => simp [hfile]

/-- Why a document cannot be loaded, and what is quoted then. -/
theorem kind_of_load {disk : Disk α} {path : Path α} {e : DocumentError α}
    (h : load disk path = .error e) :
    (e.kind = .notFound ↔ path = [] ∨ path.IsLegal ∧ disk.Lacks path) ∧
      (e.kind = .invalid ↔ ∃ text reason, disk.readText path = .ok text ∧
        ScriptFile.read text = .error reason) ∧
      e.kind ≠ .exists ∧ e.kind ≠ .denied ∧
      ∀ quote ∈ e.quoted, quote = shown path ∨ ∃ text reason, disk.readText path = .ok text ∧
        ScriptFile.read text = .error reason ∧ quote ∈ reason.quoted := by
  rw [← Disk.readText_eq_notFound_iff]
  rcases load_eq_error_iff.mp h with ⟨reason, hread, rfl⟩ | ⟨text, reason, hread, hfile, rfl⟩
  · rw [hread]
    rcases reason.kind_cases with ⟨rfl, hkind⟩ | ⟨hne, hkind⟩
    · simp [DocumentError.kind, hkind, DocumentError.quoted]
    · simp [DocumentError.kind, hkind, hne, DocumentError.quoted]
  · refine ⟨?_, iff_of_true rfl ⟨text, reason, hread, hfile⟩, by simp [DocumentError.kind],
      by simp [DocumentError.kind], ?_⟩
    · simp [DocumentError.kind, hread]
    · intro quote hquote
      rcases List.mem_cons.mp hquote with rfl | hquote
      · exact .inl rfl
      · exact .inr ⟨text, reason, hread, hfile, hquote⟩

/-- A document that was loaded can be saved. -/
theorem exists_save_of_load {disk : Disk α} {path : Path α} {document : Document α}
    (h : load disk path = .ok document) (names : List Text) :
    ∃ result, (document.setNamespaces names).save disk = .ok result := by
  obtain ⟨text, file, hread, -, rfl⟩ := exists_file_of_load h
  obtain ⟨place, hplace⟩ := Disk.exists_placeToWrite_of_readText hread
  have hwrite : ∀ content, disk.write path content = .ok (disk.put place (.file content)) := by
    intro content
    unfold Disk.write
    rw [hplace]
    rfl
  unfold save
  simp only [setNamespaces, ofFile, hwrite]
  exact ⟨_, rfl⟩

/-- Either the directories cannot be made or the file cannot be opened. -/
theorem cases_of_saveTo {document : Document α} {disk disk' : Disk α} {path : Path α} {fresh : Bool}
    {e : DocumentError α} (h : document.saveTo disk path fresh = (.error e, disk')) :
    (∃ reason, disk.makeParents path = (.error reason, disk') ∧ e = .disk path reason) ∨
      disk.makeParents path = (.ok (), disk') ∧
        ∃ reason, disk'.placeToOpen path fresh = .error reason ∧ e = .ofOpening path reason := by
  simp only [saveTo, Disk.put_of_placeToOpen] at h
  cases hmade : disk.makeParents path with
  | mk result made =>
    rw [hmade] at h
    cases result with
    | error reason =>
      cases h
      exact .inl ⟨reason, rfl, rfl⟩
    | ok u =>
      cases hopen : made.placeToOpen path fresh with
      | error reason =>
        simp only [hopen, Except.map] at h
        cases h
        exact .inr ⟨rfl, reason, hopen, rfl⟩
      | ok place =>
        simp only [hopen, Except.map] at h
        cases h

theorem quoted_of_saveTo {document : Document α} {disk disk' : Disk α} {path : Path α}
    {fresh : Bool} {e : DocumentError α} (h : document.saveTo disk path fresh = (.error e, disk')) :
    e.quoted = [shown path] := by
  rcases cases_of_saveTo h with ⟨reason, -, rfl⟩ | ⟨-, reason, -, rfl⟩
  · rfl
  · cases reason <;> rfl

/-- A new file cannot be saved under a name in a directory because something there has the name, or
for a reason that has no code of its own. -/
theorem kind_of_saveNew_join {document : Document α} {disk disk' : Disk α} {directory : Path α}
    {name : Text α} {e : DocumentError α} (hname : Path.IsName name)
    (h : document.saveNew disk (Path.join directory name) = (.error e, disk')) :
    e.kind = .exists ∧ (disk.makeParents (Path.join directory name) = (.ok (), disk') ∧
        disk'.Holds directory name) ∨
      e.kind = .other ∧ ¬(disk.makeParents (Path.join directory name) = (.ok (), disk') ∧
        disk'.Holds directory name) := by
  obtain ⟨hfound, hthere⟩ := disk.makeParents_stands directory hname
  rcases cases_of_saveTo h with ⟨reason, hmade, rfl⟩ | ⟨hmade, reason, hopen, rfl⟩
  · rw [hmade] at hfound ⊢
    refine .inr ⟨?_, by simp⟩
    cases reason with
    | notFound => exact absurd rfl hfound
    | _ => rfl
  · rw [hmade] at hthere
    have hholds : disk'.placeToCreate (Path.join directory name) = .error .exists ↔ _ :=
      Disk.placeToCreate_join_eq_exists_iff hname
    have hcreate : disk'.placeToCreate (Path.join directory name) = .error reason := hopen
    rw [and_iff_right hmade, ← hholds, hcreate]
    cases reason with
    | notFound => exact absurd (Disk.follow_of_placeToCreate_join hname hcreate) (hthere rfl)
    | «exists» => exact .inl ⟨rfl, rfl⟩
    | _ => exact .inr ⟨rfl, nofun⟩

end Document

namespace Console

open ErrorCode

/-- The path of the script file that an action reads. -/
def Action.reads? : Action α → Option (Path α)
  | .create _ _ => none
  | .inspect path | .synthesize path | .namespaces path _ => some path

theorem loadScript_of_ok {path : Path α} {disk : Disk α} {document : Document α}
    (h : Document.load disk path = .ok document) : loadScript path disk = .ok document := by
  unfold loadScript
  rw [h]
  rfl

theorem loadScript_of_error {path : Path α} {disk : Disk α} {e : DocumentError α}
    (h : Document.load disk path = .error e) : loadScript path disk = .error (.opening path e) := by
  unfold loadScript
  rw [h]
  rfl

/-- If a script cannot be loaded, an action that reads it fails and says why. -/
theorem perform_of_load_error {disk : Disk α} {action : Action α} {path : Path α}
    {e : DocumentError α} (hreads : action.reads? = some path)
    (h : Document.load disk path = .error e) (home : Path α) (id : ScriptId) :
    action.perform home id disk = (.error (.opening path e), disk) := by
  have hscript := loadScript_of_error h
  cases action with
  | create name given => cases hreads
  | inspect path =>
    cases hreads
    rw [Action.perform, hscript]
    rfl
  | synthesize path =>
    cases hreads
    rw [Action.perform, hscript]
    rfl
  | «namespaces» path names =>
    cases hreads
    cases names with
    | none =>
      rw [Action.perform, listNamespaces, hscript]
      rfl
    | some names =>
      rw [Action.perform, setNamespaces, hscript]
      rfl

/-- If it can be loaded, the action has a result. -/
theorem exists_perform_of_load {disk : Disk α} {action : Action α} {path : Path α}
    {document : Document α} (hreads : action.reads? = some path)
    (h : Document.load disk path = .ok document) (home : Path α) (id : ScriptId) :
    ∃ result disk', action.perform home id disk = (.ok result, disk') := by
  have hscript := loadScript_of_ok h
  cases action with
  | create name given => cases hreads
  | inspect path =>
    cases hreads
    rw [Action.perform, hscript]
    exact ⟨_, _, rfl⟩
  | synthesize path =>
    cases hreads
    rw [Action.perform, hscript]
    exact ⟨_, _, rfl⟩
  | «namespaces» path names =>
    cases hreads
    cases names with
    | none =>
      rw [Action.perform, listNamespaces, hscript]
      exact ⟨_, _, rfl⟩
    | some names =>
      obtain ⟨result, hsave⟩ := Document.exists_save_of_load h names
      rw [Action.perform, setNamespaces, hscript]
      simp only [bind, Except.bind, hsave]
      exact ⟨_, _, rfl⟩

/-- An action that reads a script fails just if the script cannot be loaded. -/
theorem perform_of_reads {home : Path α} {id : ScriptId} {disk disk' : Disk α} {action : Action α}
    {path : Path α} {failure : Failure α} (hreads : action.reads? = some path)
    (h : action.perform home id disk = (.error failure, disk')) :
    ∃ e, Document.load disk path = .error e ∧ failure = .opening path e := by
  cases hload : Document.load disk path with
  | error e =>
    rw [perform_of_load_error hreads hload] at h
    cases h
    exact ⟨e, rfl, rfl⟩
  | ok document =>
    obtain ⟨result, after, hperform⟩ := exists_perform_of_load hreads hload home id
    rw [hperform] at h
    cases h

/-- No script is created because the name is refused, or because it cannot be saved as a new
file. -/
theorem perform_of_create {home : Path α} {id : ScriptId} {disk disk' : Disk α} {name : Text}
    {given : Option (Path α)} {failure : Failure α}
    (h : (Action.create name given).perform home id disk = (.error failure, disk')) :
    ¬IsTitle name.trim ∧ (failure = .emptyName ∨ failure = .nameWithSeparator name.trim) ∨
      IsTitle name.trim ∧ ∃ e, failure = .creating name.trim e ∧
        Document.saveNew { id, name := name.trim } disk
          ((Action.create name given).path home disk) = (.error e, disk') := by
  rw [Action.perform] at h
  by_cases htitle : IsTitle name.trim
  · rcases createScript_cases htitle id
      (given.getD (Settings.load home disk).scriptsDirectory) disk with
      ⟨e, after, hsave, hcreate⟩ | ⟨document, after, -, hcreate⟩
    · rw [hcreate] at h
      cases h
      exact .inr ⟨htitle, e, rfl, hsave⟩
    · rw [hcreate] at h
      cases h
  · refine .inl ⟨htitle, ?_⟩
    rcases createScript_of_not_isTitle htitle id
      (given.getD (Settings.load home disk).scriptsDirectory) disk with hrefused | hrefused
    · rw [hrefused] at h
      cases h
      exact .inl rfl
    · rw [hrefused] at h
      cases h
      exact .inr rfl

theorem path_of_reads {action : Action α} {path : Path α} (h : action.reads? = some path)
    (home : Path α) (disk : Disk α) : action.path home disk = path := by
  cases action with
  | create name given => cases h
  | _ => exact Option.some.inj h

/-- What is quoted is the path, the name for a new script, or from the file. -/
theorem quoted_of_perform {home : Path α} {id : ScriptId} {disk disk' : Disk α} {action : Action α}
    {failure : Failure α} (h : action.perform home id disk = (.error failure, disk')) :
    ∀ quote ∈ failure.quoted, quote = shown (action.path home disk) ∨
      (∃ name given, action = .create name given ∧ quote = name.trim) ∨
      ∃ text reason, disk.readText (action.path home disk) = .ok text ∧
        ScriptFile.read text = .error reason ∧ quote ∈ reason.quoted := by
  intro quote hquote
  cases hreads : action.reads? with
  | some path =>
    obtain ⟨e, hload, rfl⟩ := perform_of_reads hreads h
    rw [path_of_reads hreads home disk]
    rcases List.mem_cons.mp hquote with rfl | hcause
    · exact .inl rfl
    · exact ((Document.kind_of_load hload).2.2.2.2 quote hcause).imp_right .inr
  | none =>
    cases action with
    | create name given =>
      rcases perform_of_create h with ⟨-, rfl | rfl⟩ | ⟨-, e, rfl, hsave⟩
      · cases hquote
      · exact .inr (.inl ⟨name, given, rfl, List.mem_singleton.mp hquote⟩)
      · rcases List.mem_cons.mp hquote with rfl | hcause
        · exact .inr (.inl ⟨name, given, rfl, rfl⟩)
        · rw [Document.quoted_of_saveTo hsave] at hcause
          exact .inl (List.mem_singleton.mp hcause)
    | _ => cases hreads

/-- What each kind of failure says of the disk on which the action was tried. -/
structure Explained (home : Path α) (disk disk' : Disk α) (action : Action α) (kind : ErrorCode) :
    Prop where
  /-- A script was read, and its path is empty or a name on it is missing. -/
  notFound_iff : kind = .notFound ↔
    ∃ path, action.reads? = some path ∧ (path = [] ∨ path.IsLegal ∧ disk.Lacks path)
  /-- A script was created, and something has its name in the directory. -/
  exists_iff : kind = .exists ↔
    ∃ name given directory, action = .create name given ∧
      directory = given.getD (Settings.load home disk).scriptsDirectory ∧ IsTitle name.trim ∧
      disk.makeParents (Path.forScript directory name.trim) = (.ok (), disk') ∧
      disk'.Holds directory (spell (name.trim ++ ".spad".toList))
  /-- A script was read, and its text is that of no script file. -/
  invalid_iff : kind = .invalid ↔
    ∃ path text reason, action.reads? = some path ∧ disk.readText path = .ok text ∧
      ScriptFile.read text = .error reason
  /-- No file is forbidden. -/
  ne_denied : kind ≠ .denied

theorem explained_of_reads {home : Path α} {id : ScriptId} {disk disk' : Disk α} {action : Action α}
    {path : Path α} {failure : Failure α} (hreads : action.reads? = some path)
    (h : action.perform home id disk = (.error failure, disk')) :
    Explained home disk disk' action failure.kind := by
  obtain ⟨e, hload, rfl⟩ := perform_of_reads hreads h
  obtain ⟨hnotFound, hinvalid, hexists, hdenied, -⟩ := Document.kind_of_load hload
  refine ⟨hnotFound.trans ?_, iff_of_false hexists ?_, hinvalid.trans ?_, hdenied⟩
  · constructor
    · exact fun hmissing => ⟨path, hreads, hmissing⟩
    · rintro ⟨other, hother, hmissing⟩
      rw [hreads] at hother
      cases hother
      exact hmissing
  · rintro ⟨name, given, -, rfl, -⟩
    cases hreads
  · constructor
    · exact fun ⟨text, reason, hfile⟩ => ⟨path, text, reason, hreads, hfile⟩
    · rintro ⟨other, text, reason, hother, hfile⟩
      rw [hreads] at hother
      cases hother
      exact ⟨text, reason, hfile⟩

theorem explained_of_create {home : Path α} {id : ScriptId} {disk disk' : Disk α} {name : Text}
    {given : Option (Path α)} {failure : Failure α}
    (h : (Action.create name given).perform home id disk = (.error failure, disk')) :
    Explained home disk disk' (.create name given) failure.kind := by
  -- a failure that has no code of its own is none of the others
  have hother : ∀ {kind : ErrorCode}, kind = .other →
      ¬(IsTitle name.trim ∧ disk.makeParents ((Action.create name given).path home disk) =
        (.ok (), disk') ∧ disk'.Holds (given.getD (Settings.load home disk).scriptsDirectory)
          (spell (name.trim ++ ".spad".toList))) →
      Explained home disk disk' (.create name given) kind := by
    rintro _ rfl hnot
    refine ⟨iff_of_false nofun nofun, iff_of_false nofun ?_, iff_of_false nofun nofun, nofun⟩
    rintro ⟨other, _, _, hother, rfl, hheld⟩
    cases hother
    exact hnot hheld
  rcases perform_of_create h with ⟨htitle, hfailure⟩ | ⟨htitle, e, rfl, hsave⟩
  · refine hother ?_ fun hheld => htitle hheld.1
    rcases hfailure with rfl | rfl <;> rfl
  · rcases Document.kind_of_saveNew_join htitle.isName hsave with ⟨hkind, hheld⟩ | ⟨hkind, hnot⟩
    · have hexists : (Failure.creating name.trim e).kind = .exists := hkind
      rw [hexists]
      exact ⟨iff_of_false nofun nofun,
        iff_of_true rfl ⟨name, given, _, rfl, rfl, htitle, hheld⟩, iff_of_false nofun nofun, nofun⟩
    · exact hother hkind fun hheld => hnot hheld.2

theorem explained_of_perform {home : Path α} {id : ScriptId} {disk disk' : Disk α}
    {action : Action α} {failure : Failure α}
    (h : action.perform home id disk = (.error failure, disk')) :
    Explained home disk disk' action failure.kind := by
  cases action with
  | create name given => exact explained_of_create h
  | inspect path => exact explained_of_reads rfl h
  | synthesize path => exact explained_of_reads rfl h
  | «namespaces» path names => exact explained_of_reads rfl h

/-- **The code of an action that failed** is that of its kind, unless something that is quoted tells
an earlier one; then it is the first code that is told. The disk explains the kind (`Explained`),
and what is quoted is the path, the name for a new script, or taken from a text that is no script
file. So two failures of one kind have the same code if what they quote tells the same codes. -/
theorem code_of_failed_action {home : Path α} {id : ScriptId} {disk disk' : Disk α}
    {action : Action α} {failure : Failure α}
    (h : action.perform home id disk = (.error failure, disk')) :
    Explained home disk disk' action failure.kind ∧
    (failure.code = failure.kind ∨ ∃ quote ∈ failure.quoted, failure.code ∈ told quote) ∧
    (failure.code.rank ≤ failure.kind.rank ∧
      ∀ quote ∈ failure.quoted, ∀ code ∈ told quote, failure.code.rank ≤ code.rank) ∧
    (failure.code = failure.kind ↔
      ∀ quote ∈ failure.quoted, ∀ code ∈ told quote, failure.kind.rank ≤ code.rank) ∧
    (∀ quote ∈ failure.quoted, quote = shown (action.path home disk) ∨
      (∃ name given, action = .create name given ∧ quote = name.trim) ∨
      ∃ text reason, disk.readText (action.path home disk) = .ok text ∧
        ScriptFile.read text = .error reason ∧ quote ∈ reason.quoted) ∧
    ∀ other : Failure α, failure.kind = other.kind →
      (∀ code, (∃ quote ∈ failure.quoted, code ∈ told quote) ↔
        ∃ quote ∈ other.quoted, code ∈ told quote) →
      failure.code = other.code :=
  ⟨explained_of_perform h, failure.code_isFirst.1, failure.code_isFirst.2,
    failure.code_eq_kind_iff, quoted_of_perform h, fun _ => Failure.code_congr⟩

/-- A disk with two files that hold the same, which is no script. -/
def twins : Disk :=
  (({} : Disk).put ["a.spad".toList] (.file (toBytes ['x']))).put ["no such file.spad".toList]
    (.file (toBytes ['x']))

/-- The file at a path that tells nothing is invalid, and the code says so. -/
theorem code_of_failed_action_plain :
    ∃ failure, (Action.inspect "/a.spad".toList).perform [] ⟨7⟩ twins = (.error failure, twins) ∧
      failure.kind = .invalid ∧ failure.code = .invalid := by
  have hfails : (Action.inspect "/a.spad".toList).perform [] ⟨7⟩ twins =
      (.error (.opening "/a.spad".toList (.format "/a.spad".toList (.delimiters 0))), twins) := by
    rfl
  refine ⟨_, hfails, rfl, ?_⟩
  obtain ⟨-, -, -, hcode, -, -⟩ := code_of_failed_action hfails
  exact hcode.mpr (by decide +kernel)

/-- The same file at a path that has the words of another kind is said not to be found. -/
theorem code_told_by_path :
    ∃ failure other,
      (Action.inspect "/a.spad".toList).perform [] ⟨7⟩ twins = (.error failure, twins) ∧
      (Action.inspect "/no such file.spad".toList).perform [] ⟨7⟩ twins = (.error other, twins) ∧
      failure.kind = .invalid ∧ other.kind = .invalid ∧
      failure.code = .invalid ∧ other.code = .notFound :=
  ⟨.opening "/a.spad".toList (.format "/a.spad".toList (.delimiters 0)),
    .opening "/no such file.spad".toList (.format "/no such file.spad".toList (.delimiters 0)),
    by rfl, by rfl, rfl, rfl, by decide +kernel, by decide +kernel⟩

end Console

end ScriptDesk
