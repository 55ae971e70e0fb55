import ScriptDesk.Proofs.Document.Saving
import ScriptDesk.Proofs.InPlace
import ScriptDesk.Proofs.Script.Tidying

/-!
# The life of a document

A document is new or loaded at first. Then it is edited, given another path, and saved, in any
order, and each attempt to save it may fail at any of its steps, as the disk pleases (`Answers`).
What was done, and what came of it, makes a log beside the document (`Life`).

One deed does what `Does` lists; the document of a life agrees with its log, and each deed keeps
that (`IsTold.step`). So a document has something to save if and only if it has no path or its log
ends with an edit that no attempt to save it succeeded after (`kept_in_every_life`).
-/

namespace ScriptDesk.Document

open InPlace Text

/-! ### Deeds -/

/-- What the disk answers to the steps of saving: an error, or it does what it was asked. -/
structure Answers where
  /-- To making the directories above the file. -/
  parents : Option DiskError := none
  /-- To opening the file. -/
  opening : Option DiskError := none
  /-- To writing the text. -/
  writing : Option DiskError := none
  /-- To making sure that it is written. -/
  flushing : Option DiskError := none

/-- What is done to a document where it is. -/
inductive Deed where
  /-- Give it another code, or none. -/
  | code (code : Option Text)
  /-- Give it other namespaces. -/
  | namespaces (names : List Text)
  /-- Give it another kind. -/
  | kind (kind : ScriptKind)
  /-- Give it another path. -/
  | path (path : Path)
  /-- Save it while the disk answers so. -/
  | save (way : Saving) (answers : Answers)

/-- Work on a document. -/
abbrev Work : Type :=
  InPlace DocumentError Document Unit

/-- Go on if the disk has no error. -/
def ask (answer : Option DiskError) (wrap : DiskError → DocumentError) : Work :=
  match answer with
  | none => return
  | some e => throw (wrap e)

/-- Save the document to the path that it has. -/
def saveInPlace (answers : Answers) : Work := do
  match (← get).path with
  | none => throw (.noPath (← get).id)
  | some path =>
    ask answers.opening (.disk path)
    ask answers.writing (.disk path)
    modify ({ · with edited := false })

/-- Save the document under a path, which becomes its own. -/
def saveUnder (path : Path) (answers : Answers) : Work := do
  ask answers.parents (.disk path)
  ask answers.opening (.ofOpening path)
  ask answers.writing (.disk path)
  ask answers.flushing (.disk path)
  modify (·.setPath path)
  modify ({ · with edited := false })

/-- Do something to a document. -/
def perform : Deed → Work
  | .code code => modify (·.setCode (code.getD []))
  | .namespaces names => modify (·.setNamespaces names)
  | .kind kind => modify (·.setKind kind)
  | .path path => modify (·.setPath path)
  | .save .inPlace answers => saveInPlace answers
  | .save (.under path) answers => saveUnder path answers
  | .save (.fresh path) answers => saveUnder path answers

/-- What a deed does: the answer, and the document afterwards. -/
inductive Does (document : Document) : Deed → Except DocumentError Unit → Document → Prop where
  /-- It has another code. -/
  | code (code : Option Text) : Does document (.code code) (.ok ()) (document.setCode (code.getD []))
  /-- It has other namespaces. -/
  | namespaces (names : List Text) :
      Does document (.namespaces names) (.ok ()) (document.setNamespaces names)
  /-- It has another kind. -/
  | kind (kind : ScriptKind) : Does document (.kind kind) (.ok ()) (document.setKind kind)
  /-- It has another path. -/
  | path (path : Path) : Does document (.path path) (.ok ()) (document.setPath path)
  /-- It could not be saved. -/
  | fails (way : Saving) (answers : Answers) (e : DocumentError) :
      Does document (.save way answers) (.error e) document
  /-- It was saved. -/
  | saves (way : Saving) (answers : Answers) {path : Path} : document.path = some path →
      Does document (.save way answers) (.ok ()) { document with edited := false }
  /-- It was saved under another path. -/
  | savesUnder (way : Saving) (answers : Answers) (path : Path) :
      Does document (.save way answers) (.ok ()) { document.setPath path with edited := false }

theorem outcome_ask (answer : Option DiskError) (wrap : DiskError → DocumentError)
    (document : Document) :
    (ask answer wrap).outcome document =
      match answer with
      | none => (.ok (), document)
      | some e => (.error (wrap e), document) := by
  cases answer with
  | none => rfl
  | some e => rfl

theorem saveInPlace_cases (answers : Answers) (document : Document) :
    (∃ e, (saveInPlace answers).outcome document = (.error e, document)) ∨
      (∃ path, document.path = some path) ∧
        (saveInPlace answers).outcome document = (.ok (), { document with edited := false }) := by
  simp only [saveInPlace, outcome_bind, outcome_get]
  split
  · exact .inl ⟨_, rfl⟩
  · rename_i path hpath
    simp only [outcome_bind, outcome_ask]
    cases answers.opening with
    | some e => exact .inl ⟨_, rfl⟩
    | none =>
      cases answers.writing with
      | some e => exact .inl ⟨_, rfl⟩
      | none => exact .inr ⟨⟨path, hpath⟩, rfl⟩

theorem saveUnder_cases (path : Path) (answers : Answers) (document : Document) :
    (∃ e, (saveUnder path answers).outcome document = (.error e, document)) ∨
      (saveUnder path answers).outcome document =
        (.ok (), { document.setPath path with edited := false }) := by
  simp only [saveUnder, outcome_bind, outcome_ask]
  cases answers.parents with
  | some e => exact .inl ⟨_, rfl⟩
  | none =>
    cases answers.opening with
    | some e => exact .inl ⟨_, rfl⟩
    | none =>
      cases answers.writing with
      | some e => exact .inl ⟨_, rfl⟩
      | none =>
        cases answers.flushing with
        | some e => exact .inl ⟨_, rfl⟩
        | none => exact .inr rfl

/-- Whatever is done to a document, it does one of these. -/
theorem does_perform (document : Document) (deed : Deed) :
    Does document deed ((perform deed).outcome document).1 ((perform deed).outcome document).2 := by
  have hunder : ∀ way path answers, perform (.save way answers) = saveUnder path answers →
      Does document (.save way answers) ((perform (.save way answers)).outcome document).1
        ((perform (.save way answers)).outcome document).2 := by
    intro way path answers heq
    rw [heq]
    obtain ⟨e, hfails⟩ | hsaves := saveUnder_cases path answers document
    · rw [hfails]
      exact .fails way answers e
    · rw [hsaves]
      exact .savesUnder way answers path
  cases deed with
  | code code => exact .code code
  | namespaces names => exact .namespaces names
  | kind kind => exact .kind kind
  | path path => exact .path path
  | save way answers =>
    cases way with
    | under path => exact hunder _ path answers rfl
    | fresh path => exact hunder _ path answers rfl
    | inPlace =>
      rw [perform]
      obtain ⟨e, hfails⟩ | ⟨⟨path, hpath⟩, hsaves⟩ := saveInPlace_cases answers document
      · rw [hfails]
        exact .fails .inPlace answers e
      · rw [hsaves]
        exact .saves .inPlace answers hpath

/-- To save a document on a disk is one of these deeds: the disk answers in one of these ways. -/
theorem exists_answers (document : Document) (disk : Disk) (way : Saving) :
    ∃ answers, (perform (.save way answers)).outcome document =
      match (document.saveBy disk way).1 with
      | .ok saved => (.ok (), saved)
      | .error e => (.error e, document) := by
  have hunder : ∀ path fresh, ∃ answers, (saveUnder path answers).outcome document =
      match (document.saveTo disk path fresh).1 with
      | .ok saved => (.ok (), saved)
      | .error e => (.error e, document) := by
    intro path fresh
    simp only [saveTo]
    obtain ⟨made, disk⟩ := disk.makeParents path
    cases made with
    | error e => exact ⟨{ parents := some e }, rfl⟩
    | ok u =>
      dsimp only
      cases (if fresh then disk.create path document.text.toBytes
          else disk.write path document.text.toBytes) with
      | error e => exact ⟨{ opening := some e }, rfl⟩
      | ok written => exact ⟨{}, rfl⟩
  cases way with
  | under path => exact hunder path false
  | fresh path => exact hunder path true
  | inPlace =>
    simp only [saveBy, save, perform, saveInPlace, outcome_bind, outcome_get]
    cases hpath : document.path with
    | none => exact ⟨{}, rfl⟩
    | some path =>
      simp only [outcome_bind, outcome_ask]
      cases disk.write path document.text.toBytes with
      | error e => exact ⟨{ opening := some e }, rfl⟩
      | ok written =>
        refine ⟨{}, ?_⟩
        rw [← hpath]
        rfl

/-! ### Lives -/

/-- What was done, and what came of it. -/
structure Entry where
  /-- What was done. -/
  deed : Deed
  /-- The answer. -/
  result : Except DocumentError Unit

namespace Entry

/-- Something of the document's file was edited. -/
def isEdit (entry : Entry) : Bool :=
  match entry.deed with
  | .code _ | .namespaces _ | .kind _ => true
  | .path _ | .save _ _ => false

/-- The document was saved. -/
def isSaved (entry : Entry) : Bool :=
  match entry.deed, entry.result with
  | .save _ _, .ok _ => true
  | _, _ => false

end Entry

/-- There is an edit in the log, and the document was not saved since. -/
def IsUnsaved (log : List Entry) : Prop :=
  ∃ earlier entry later, log = earlier ++ entry :: later ∧ entry.isEdit = true ∧
    ∀ other ∈ later, other.isSaved = false

theorem not_isUnsaved_nil : ¬ IsUnsaved [] := by
  rintro ⟨earlier, entry, later, heq, -⟩
  simp at heq

/-- Only the last entry counts, if it is an edit or tells that the document was saved. -/
theorem isUnsaved_concat {log : List Entry} {entry : Entry} :
    IsUnsaved (log ++ [entry]) ↔
      entry.isEdit = true ∨ entry.isSaved = false ∧ IsUnsaved log := by
  constructor
  · rintro ⟨earlier, edit, later, heq, hedit, hlater⟩
    rcases List.eq_nil_or_concat later with rfl | ⟨others, last, rfl⟩
    · obtain ⟨-, hlast⟩ := List.append_inj' heq rfl
      cases hlast
      exact .inl hedit
    · rw [List.concat_eq_append, ← List.cons_append, ← List.append_assoc] at heq
      obtain ⟨hlog, hlast⟩ := List.append_inj' heq rfl
      cases hlast
      refine .inr ⟨hlater _ (by simp), earlier, edit, others, hlog, hedit, ?_⟩
      exact fun other hother => hlater other (by simp [hother])
  · rintro (hedit | ⟨hsaved, earlier, edit, later, rfl, hedit, hlater⟩)
    · exact ⟨log, entry, [], rfl, hedit, by simp⟩
    · refine ⟨earlier, edit, later ++ [entry], by simp, hedit, ?_⟩
      intro other hother
      rcases List.mem_append.mp hother with hother | hother
      · exact hlater other hother
      · rw [List.mem_singleton.mp hother, hsaved]

/-- A document, and what was done to it so far. -/
structure Life where
  /-- The document. -/
  document : Document
  /-- What was done, in order. -/
  log : List Entry := []

/-- One more deed. -/
def Life.step (life : Life) (deed : Deed) : Life where
  document := ((perform deed).outcome life.document).2
  log := life.log ++ [⟨deed, ((perform deed).outcome life.document).1⟩]

/-- The life of a document to which all this is done. -/
def live (first : Document) (deeds : List Deed) : Life :=
  deeds.foldl Life.step { document := first }

/-- The documents that a life starts with. -/
inductive IsFirst : Document → Prop where
  /-- A new document. -/
  | new (id : ScriptId) (name : Text) : IsFirst { id, name }
  /-- A document from the disk. -/
  | load {disk : Disk} {path : Path} {document : Document} :
    load disk path = .ok document → IsFirst document

theorem IsFirst.isNamed {document : Document} (h : document.IsFirst) : document.IsNamed := by
  cases h with
  | new id name => rintro path ⟨⟩
  | load hload => exact isNamed_of_load hload

theorem IsFirst.edited_eq {document : Document} (h : document.IsFirst) :
    document.edited = false := by
  cases h with
  | new id name => rfl
  | load hload =>
    obtain ⟨-, file, -, -, rfl⟩ := exists_file_of_load hload
    rfl

/-- The document of a life is the first one, but for what its log tells. -/
structure Life.IsTold (first : Document) (life : Life) : Prop where
  /-- It is the same script. -/
  id_eq : life.document.id = first.id
  /-- It has the name of its path. -/
  named : life.document.IsNamed
  /-- It is edited if it was not saved since the last edit. -/
  edited_iff : life.document.edited = true ↔ IsUnsaved life.log

theorem Life.IsTold.step {first : Document} {life : Life} (h : life.IsTold first) (deed : Deed) :
    (life.step deed).IsTold first := by
  obtain ⟨document, log⟩ := life
  obtain ⟨hid, hnamed, hedited⟩ := h
  have hdoes := does_perform document deed
  rw [Life.step]
  generalize ((perform deed).outcome document) = outcome at hdoes ⊢
  obtain ⟨result, after⟩ := outcome
  cases hdoes with
  | code code => exact ⟨hid, hnamed, iff_of_true rfl (isUnsaved_concat.mpr (.inl rfl))⟩
  | namespaces names => exact ⟨hid, hnamed, iff_of_true rfl (isUnsaved_concat.mpr (.inl rfl))⟩
  | kind kind => exact ⟨hid, hnamed, iff_of_true rfl (isUnsaved_concat.mpr (.inl rfl))⟩
  | path path =>
    refine ⟨hid, isNamed_setPath document path, ?_⟩
    simpa [isUnsaved_concat, Entry.isEdit, Entry.isSaved, setPath] using hedited
  | fails way answers e =>
    refine ⟨hid, hnamed, ?_⟩
    simpa [isUnsaved_concat, Entry.isEdit, Entry.isSaved] using hedited
  | saves way answers hpath =>
    exact ⟨hid, hnamed, by simp [isUnsaved_concat, Entry.isEdit, Entry.isSaved]⟩
  | savesUnder way answers path =>
    refine ⟨hid, isNamed_setPath document path, ?_⟩
    simp [isUnsaved_concat, Entry.isEdit, Entry.isSaved]

theorem isTold_live {first : Document} (h : first.IsFirst) (deeds : List Deed) :
    (live first deeds).IsTold first := by
  have hrun : ∀ (deeds : List Deed) (life : Life), life.IsTold first →
      (deeds.foldl Life.step life).IsTold first := by
    intro deeds
    induction deeds with
    | nil => exact fun life hlife => hlife
    | cons deed deeds ih => exact fun life hlife => ih _ (hlife.step deed)
  refine hrun deeds _ ⟨rfl, h.isNamed, ?_⟩
  rw [h.edited_eq]
  exact iff_of_false Bool.false_ne_true not_isUnsaved_nil

/-- A document has something to save if it has no path, or was not saved since the last edit. -/
theorem Life.IsTold.isDirty_iff {first : Document} {life : Life} (h : life.IsTold first) :
    life.document.isDirty = true ↔ life.document.path = none ∨ IsUnsaved life.log := by
  rw [isDirty, Bool.or_eq_true, h.edited_iff, isNew, Option.isNone_iff_eq_none, or_comm]

/-- To fail to save the document changes neither it nor what is told of unsaved edits. -/
theorem Life.step_of_fails {life : Life} {way : Saving} {answers : Answers} {e : DocumentError}
    (h : ((perform (.save way answers)).outcome life.document).1 = .error e) :
    (life.step (.save way answers)).document = life.document ∧
      (IsUnsaved (life.step (.save way answers)).log ↔ IsUnsaved life.log) := by
  obtain ⟨document, log⟩ := life
  have hdoes := does_perform document (.save way answers)
  rw [Life.step]
  generalize ((perform (.save way answers)).outcome document) = outcome at hdoes h ⊢
  obtain ⟨result, after⟩ := outcome
  subst h
  cases hdoes with
  | fails => exact ⟨rfl, by simp [isUnsaved_concat, Entry.isEdit, Entry.isSaved]⟩

/-! ### Namespaces -/

/-- Only to set namespaces changes them. -/
theorem namespaces_foldl {deeds : List Deed} (h : ∀ names, .namespaces names ∉ deeds) (life : Life) :
    (deeds.foldl Life.step life).document.config.namespaces = life.document.config.namespaces := by
  induction deeds generalizing life with
  | nil => rfl
  | cons deed deeds ih =>
    have hdeed : ∀ names, deed ≠ .namespaces names := fun names heq => h names (by simp [heq])
    have hstep : (life.step deed).document.config.namespaces = life.document.config.namespaces := by
      have hdoes := does_perform life.document deed
      rw [Life.step]
      generalize ((perform deed).outcome life.document) = outcome at hdoes ⊢
      obtain ⟨result, after⟩ := outcome
      cases hdoes with
      | namespaces names => exact absurd rfl (hdeed names)
      | _ => rfl
    rw [List.foldl_cons, ih (fun names hmem => h names (List.mem_cons_of_mem _ hmem)), hstep]

/-- The namespaces are those that were set last. -/
theorem namespaces_live (first : Document) (earlier : List Deed) (names : List Text)
    {later : List Deed} (h : ∀ others, .namespaces others ∉ later) :
    (live first (earlier ++ .namespaces names :: later)).document.config.namespaces =
      ScriptConfig.tidy names := by
  rw [live, List.foldl_append, List.foldl_cons, namespaces_foldl h]
  rfl

/-- **What holds of a document all its life**, whatever is done to it and whichever attempts to save
it fail. It is the same script; with a path it has the name of that; and it has something to save if
and only if it has no path, or it was edited and not saved since. To fail to save it changes nothing
of this, and another path no more than that. An attempt to save it on any disk is one of the deeds
that are allowed for. The namespaces that were set last are those of the document: trimmed, without
the blank ones, in the order in which they were given, and as often. -/
theorem kept_in_every_life {first : Document} (hfirst : first.IsFirst) (deeds : List Deed) :
    (live first deeds).document.id = first.id ∧
    (∀ path, (live first deeds).document.path = some path →
      (live first deeds).document.name = Path.stem path) ∧
    ((live first deeds).document.isDirty = true ↔
      (live first deeds).document.path = none ∨ IsUnsaved (live first deeds).log) ∧
    (∀ way answers e,
      ((perform (.save way answers)).outcome (live first deeds).document).1 = .error e →
        ((live first deeds).step (.save way answers)).document = (live first deeds).document ∧
          (IsUnsaved ((live first deeds).step (.save way answers)).log ↔
            IsUnsaved (live first deeds).log)) ∧
    (∀ path,
      ((live first deeds).step (.path path)).document.edited = (live first deeds).document.edited ∧
        (IsUnsaved ((live first deeds).step (.path path)).log ↔
          IsUnsaved (live first deeds).log)) ∧
    (∀ disk way, ∃ answers,
      (perform (.save way answers)).outcome (live first deeds).document =
        match ((live first deeds).document.saveBy disk way).1 with
        | .ok saved => (.ok (), saved)
        | .error e => (.error e, (live first deeds).document)) ∧
    ∀ earlier names later, deeds = earlier ++ .namespaces names :: later →
      (∀ others, .namespaces others ∉ later) →
        (live first deeds).document.config.namespaces =
            (names.filter fun name => name.any fun c => !isBlank c).map trim ∧
          ∀ name ∈ (live first deeds).document.config.namespaces,
            trim name = name ∧ ∃ c ∈ name, isBlank c = false := by
  have htold := isTold_live hfirst deeds
  refine ⟨htold.id_eq, htold.named, htold.isDirty_iff, fun way answers e hfails => ?_,
    fun path => ⟨rfl, ?_⟩, fun disk way => ?_, ?_⟩
  · exact Life.step_of_fails hfails
  · rw [Life.step, isUnsaved_concat]
    simp [Entry.isEdit, Entry.isSaved]
  · exact exists_answers (live first deeds).document disk way
  · rintro earlier names later rfl hlater
    rw [namespaces_live first earlier names hlater]
    exact ⟨ScriptConfig.tidy_eq names, fun name hname => ScriptConfig.of_mem_tidy hname⟩

/-- A new document gets namespaces, cannot be written, is saved at the second attempt, and moved. -/
def sampleDeeds : List Deed :=
  [.namespaces [" System ".toList, " ".toList, "System".toList],
    .save (.fresh "/a.spad".toList) { writing := some .notDirectory },
    .save (.fresh "/a.spad".toList) {}, .path "/b.spad".toList]

/-- It is unsaved until the second attempt; it keeps its identity and gets the name of its path. -/
theorem kept_in_every_life_sample :
    ∃ first : Document, first.IsFirst ∧
      IsUnsaved (live first (sampleDeeds.take 2)).log ∧
      ¬ IsUnsaved (live first sampleDeeds).log ∧
      (live first sampleDeeds).document.id = first.id ∧
      (live first sampleDeeds).document.name = "b".toList ∧
      (live first sampleDeeds).document.config.namespaces = ["System".toList, "System".toList] := by
  have hfirst : IsFirst { id := ⟨7⟩, name := "Draft".toList } := .new ⟨7⟩ "Draft".toList
  obtain ⟨hid, hname, hdirty, -⟩ := kept_in_every_life hfirst sampleDeeds
  refine ⟨_, hfirst, ?_, fun hunsaved => ?_, hid, hname "/b.spad".toList rfl, rfl⟩
  · exact (isTold_live hfirst (sampleDeeds.take 2)).edited_iff.mp rfl
  · exact absurd (hdirty.mpr (.inr hunsaved)) (by decide)

end ScriptDesk.Document
