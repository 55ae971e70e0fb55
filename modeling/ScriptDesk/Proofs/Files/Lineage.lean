import ScriptDesk.Proofs.Files.Frame

/-!
# The lineages of tracked files

A name that is opened or modified holds a lineage, from which the modifications of the file can be
told. A renaming moves the lineage to another name, and whatever that name held is lost. So which
lineage a name holds is found by going back in the history: from the name that a file has now to the
one that it had before (`lineage?`). Only what was reported of a script since its files were last
forgotten counts (`since`).

A history is listed with the latest action first. The tables that the desk keeps agree with the
lineages (`follows_ofHistory`), and `tracked_by_lineage` says what that means for those who ask for
files. Files are listed by name in the order of text, which is a linear one.
-/

namespace ScriptDesk

/-- What is known of a file whose modifications gave these buffers in order. -/
def TrackedFile.ofEdits (edits : List Text) : TrackedFile :=
  { buffer := edits.getLast?, revision := edits.length }

namespace Files

/-! ### Histories -/

/-- The tracked files after a history, in which the latest action comes first. -/
def ofHistory : List Action → Files
  | [] => {}
  | action :: earlier => (ofHistory earlier).act action

/-- What was reported of a script since its files were last forgotten, the latest first. -/
def since (script : ScriptId) : List Action → List Response
  | [] => []
  | .apply other response :: earlier =>
    if other = script then response :: since script earlier else since script earlier
  | .forget other :: earlier => if other = script then [] else since script earlier

/-- The lineage that a name holds after some responses, of which the latest comes first: the buffers
that the modifications gave, in order. -/
def lineage? : List Response → Text → Option (List Text)
  | [], _ => none
  | .opened file :: earlier, name =>
    if name = file then some ((lineage? earlier name).getD []) else lineage? earlier name
  | .modified file buffer changes :: earlier, name =>
    match Buffer.apply buffer changes with
    | .ok edited =>
      if name = file then some ((lineage? earlier name).getD [] ++ [edited])
      else lineage? earlier name
    | .error _ => lineage? earlier name
  | .renamed file newFile :: earlier, name =>
    if name = newFile then some ((lineage? earlier file).getD [])
    else if name = file then none
    else lineage? earlier name

/-! ### The tables agree with the lineages -/

/-- The tables of a script tell the lineage of each name. -/
def Follows (known : Table Text TrackedFile) (responses : List Response) : Prop :=
  ∀ name, known.get? name = (lineage? responses name).map .ofEdits

variable {known : Table Text TrackedFile} {responses : List Response}

/-- A file that was not known has an empty lineage. -/
theorem Follows.getD (h : Follows known responses) (name : Text) :
    (known.get? name).getD {} = .ofEdits ((lineage? responses name).getD []) := by
  rw [h name]
  cases lineage? responses name with
  | none => rfl
  | some edits => rfl

/-- One more modification. -/
theorem ofEdits_concat (edits : List Text) (edited : Text) :
    TrackedFile.ofEdits (edits ++ [edited]) =
      { buffer := some edited, revision := (TrackedFile.ofEdits edits).revision + 1 } := by
  simp [TrackedFile.ofEdits]

/-- There is no buffer before the first modification. -/
theorem buffer_ofEdits_eq_none_iff (edits : List Text) :
    (TrackedFile.ofEdits edits).buffer = none ↔ (TrackedFile.ofEdits edits).revision = 0 := by
  simp [TrackedFile.ofEdits]

/-- One more response. -/
theorem Follows.afterResponse (h : Follows known responses) (response : Response) :
    Follows (afterResponse known response) (response :: responses) := by
  intro name
  cases response with
  | opened file =>
    simp only [Files.afterResponse, applyTo, pure, Except.pure, Table.get?_set, lineage?]
    by_cases hname : name = file
    · rw [if_pos hname, if_pos hname, ← hname, h.getD]
      rfl
    · rw [if_neg hname, if_neg hname]
      exact h name
  | modified file buffer changes =>
    simp only [Files.afterResponse, applyTo, lineage?]
    cases Buffer.apply buffer changes with
    | error e => exact h name
    | ok edited =>
      simp only [bind, Except.bind, pure, Except.pure, Table.get?_set]
      by_cases hname : name = file
      · rw [if_pos hname, if_pos hname, ← hname, h.getD, Option.map_some, ofEdits_concat]
      · rw [if_neg hname, if_neg hname]
        exact h name
  | renamed file newFile =>
    simp only [Files.afterResponse, applyTo, pure, Except.pure, Table.get?_set, Table.get?_erase,
      lineage?]
    by_cases hnew : name = newFile
    · rw [if_pos hnew, if_pos hnew, h.getD]
      rfl
    · rw [if_neg hnew, if_neg hnew]
      by_cases hold : name = file
      · rw [if_pos hold, if_pos hold]
        rfl
      · rw [if_neg hold, if_neg hold]
        exact h name

/-- The tables of a script tell the lineages from what was reported since it was last forgotten. -/
theorem follows_ofHistory (script : ScriptId) (history : List Action) :
    Follows ((ofHistory history).ofScript script) (since script history) := by
  induction history with
  | nil => exact fun _ => rfl
  | cons action earlier ih =>
    cases action with
    | apply other response =>
      simp only [ofHistory, since, ofScript_act_apply]
      by_cases hscript : other = script
      · rw [if_pos hscript, if_pos hscript.symm, hscript]
        exact ih.afterResponse response
      · rw [if_neg hscript, if_neg (Ne.symm hscript)]
        exact ih
    | forget other =>
      simp only [ofHistory, since, act, ofScript_forget]
      by_cases hscript : other = script
      · rw [if_pos hscript, if_pos hscript.symm]
        exact fun _ => rfl
      · rw [if_neg hscript, if_neg (Ne.symm hscript)]
        exact ih

/-! ### Listing files -/

theorem before_iff (a b : Text) : Text.before a b = true ↔ ¬b < a := by
  unfold Text.before
  rw [Bool.not_eq_true', decide_eq_false_iff_not]

/-- The names are sorted, and none is there twice. -/
theorem pairwise_names (files : Files) (script : ScriptId) :
    (files.names script).Pairwise (· < ·) := by
  have hsorted : (files.names script).Pairwise (fun a b => Text.before a b = true) := by
    refine List.pairwise_mergeSort ?_ ?_ _
    · intro a b c hab hbc
      rw [before_iff] at hab hbc ⊢
      exact List.not_lt.mpr (List.le_trans (List.not_lt.mp hab) (List.not_lt.mp hbc))
    · intro a b
      rw [Bool.or_eq_true, before_iff, before_iff]
      exact (List.le_total a b).imp List.not_lt.mpr List.not_lt.mpr
  have hnodup : (files.names script).Nodup :=
    (List.mergeSort_perm _ _).nodup_iff.mpr (files.ofScript script).nodup
  refine (hsorted.and hnodup).imp fun {a b} ⟨hbefore, hne⟩ => ?_
  refine Decidable.not_not.mp fun hnot => hne ?_
  exact List.le_antisymm (List.not_lt.mp ((before_iff a b).mp hbefore)) (List.not_lt.mp hnot)

theorem mem_names_iff (files : Files) (script : ScriptId) (name : Text) :
    name ∈ files.names script ↔ (files.get? script name).isSome := by
  unfold names get?
  rw [(List.mergeSort_perm _ _).mem_iff, Table.mem_keys_iff]

theorem length_names (files : Files) (script : ScriptId) :
    (files.names script).length = (files.ofScript script).size := by
  unfold names
  rw [List.length_mergeSort]
  exact List.length_map _

/-! ### What is answered -/

/-- What taking a response into account gives back: an error if a batch of changes cannot be
applied, and what another name held that a file takes over. -/
def answer (files : Files) (script : ScriptId) :
    Response → Except EditError (Option TrackedFile)
  | .modified _ buffer changes => (Buffer.apply buffer changes).map fun _ => none
  | .opened _ => .ok none
  | .renamed file newFile => .ok (if newFile = file then none else files.get? script newFile)

theorem apply_answers (files : Files) (script : ScriptId) (response : Response) :
    (files.apply script response).map (·.2) = files.answer script response := by
  rw [apply_eq]
  cases response with
  | opened file => rfl
  | modified file buffer changes =>
    simp only [applyTo, answer]
    cases Buffer.apply buffer changes with
    | error e => rfl
    | ok edited => rfl
  | renamed file newFile =>
    simp only [applyTo, answer, pure, Except.pure, Except.map, Table.get?_erase]
    rfl

/-- **A tracked file tells its lineage.** A name is known if it holds a lineage by what was reported
of the script since that was last forgotten. Its buffer is the result of the last modification, and
its revision counts them, in 64 bits if there are less than `2^64`. The names are listed in order,
and a forgotten script has none. A response is answered as `Files.answer` says; one that is refused
changes nothing, and no action on one script concerns the files of another. -/
theorem tracked_by_lineage (history : List Action) :
    let files := ofHistory history
    (∀ script name, files.get? script name =
      (lineage? (since script history) name).map fun edits =>
        { buffer := edits.getLast?, revision := edits.length }) ∧
    (∀ script name file, files.get? script name = some file →
      (file.buffer = none ↔ file.revision = 0)) ∧
    (∀ script, (files.names script).Pairwise (· < ·) ∧
      ∀ name, name ∈ files.names script ↔ (lineage? (since script history) name).isSome) ∧
    (∀ script, (files.forget script).2 = (files.names script).length ∧
      ∀ name, (files.act (.forget script)).get? script name = none) ∧
    (∀ script response, (files.apply script response).map (·.2) = files.answer script response ∧
      ∀ e, files.apply script response = .error e →
        files.act (.apply script response) = files) ∧
    ∀ (action : Action) (script : ScriptId), script ≠ action.script →
      (files.act action).names script = files.names script ∧
        ∀ name, (files.act action).get? script name = files.get? script name := by
  intro files
  have hfollows : ∀ script, Follows (files.ofScript script) (since script history) :=
    fun script => follows_ofHistory script history
  refine ⟨fun script => hfollows script, fun script name file hfile => ?_, fun script => ?_,
    fun script => ?_, fun script response => ?_, fun action script hne => ?_⟩
  · obtain ⟨edits, -, rfl⟩ := Option.map_eq_some_iff.mp ((hfollows script name).symm.trans hfile)
    exact buffer_ofEdits_eq_none_iff edits
  · refine ⟨files.pairwise_names script, fun name => ?_⟩
    rw [mem_names_iff]
    change ((files.ofScript script).get? name).isSome ↔ _
    rw [hfollows script name, Option.isSome_map]
  · refine ⟨(files.length_names script).symm, fun name => ?_⟩
    unfold get?
    simp only [act, ofScript_forget, if_true]
    rfl
  · refine ⟨files.apply_answers script response, fun e he => ?_⟩
    simp only [act, he]
  · have hsame := files.ofScript_act_of_ne hne
    refine ⟨?_, fun name => ?_⟩
    · unfold names
      rw [hsame]
    · unfold get?
      rw [hsame]

/-- Two files change places by way of a third name; the latest response comes first. -/
example :
    let swap : List Response := [.renamed ['c'] ['b'], .renamed ['b'] ['a'], .renamed ['a'] ['c']]
    let before : List Response := [.modified ['a'] ['x'] [], .opened ['b']]
    lineage? (swap ++ before) ['a'] = some [] ∧ lineage? (swap ++ before) ['b'] = some [['x']] ∧
      lineage? (swap ++ before) ['c'] = none := by
  decide

end Files

end ScriptDesk
