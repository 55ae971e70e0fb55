import ScriptDesk.Files

/-!
# Whom an action on the tracked files concerns

Responses are taken into account and scripts are forgotten, in any order (`Files.Action`). Each of
these actions concerns the files of one script, and those of all others stay as they are
(`ofScript_act_of_ne`).
-/

namespace ScriptDesk.Files

/-- Something that is done to the tracked files. -/
inductive Action where
  /-- A response about a script's files is taken into account. -/
  | apply (script : ScriptId) (response : Response)
  /-- The files of a script are dropped. -/
  | forget (script : ScriptId)

/-- The script whose files the action is about. -/
def Action.script : Action → ScriptId
  | .apply script _ | .forget script => script

/-- The files after an action; a response that cannot be taken into account changes nothing. -/
def act (files : Files) : Action → Files
  | .apply script response =>
    match files.apply script response with
    | .ok (after, _) => after
    | .error _ => files
  | .forget script => (files.forget script).1

theorem ofScript_setScript (files : Files) (script other : ScriptId)
    (known : Table Text TrackedFile) :
    (files.setScript script known).ofScript other =
      if other = script then known else files.ofScript other := by
  unfold ofScript setScript
  rw [Table.get?_set]
  split <;> rfl

theorem setScript_setScript (files : Files) (script : ScriptId)
    (first second : Table Text TrackedFile) :
    (files.setScript script first).setScript script second = files.setScript script second := by
  simp [setScript]

theorem ofScript_forget (files : Files) (script other : ScriptId) :
    (files.forget script).1.ofScript other =
      if other = script then .empty else files.ofScript other := by
  unfold forget ofScript
  rw [Table.get?_erase]
  split <;> rfl

/-- The files of one script after a response about them; one that cannot be taken into account
changes nothing. -/
def afterResponse (known : Table Text TrackedFile) (response : Response) :
    Table Text TrackedFile :=
  match applyTo known response with
  | .ok (after, _) => after
  | .error _ => known

/-- Taking a response into account replaces the files of its script. -/
theorem apply_eq (files : Files) (script : ScriptId) (response : Response) :
    files.apply script response = (applyTo (files.ofScript script) response).map
      fun (known, displaced) => (files.setScript script known, displaced) := by
  unfold apply
  cases applyTo (files.ofScript script) response with
  | error e => rfl
  | ok result => rfl

/-- A response changes the files of its script. -/
theorem ofScript_act_apply (files : Files) (script other : ScriptId) (response : Response) :
    (files.act (.apply script response)).ofScript other =
      if other = script then afterResponse (files.ofScript script) response
      else files.ofScript other := by
  simp only [act, apply_eq, afterResponse]
  cases applyTo (files.ofScript script) response with
  | error e =>
    by_cases h : other = script
    · rw [h, if_pos rfl]
      rfl
    · rw [if_neg h]
      rfl
  | ok result => exact ofScript_setScript files script other result.1

/-- An action about one script does not concern the files of others. -/
theorem ofScript_act_of_ne (files : Files) {action : Action} {script : ScriptId}
    (h : script ≠ action.script) : (files.act action).ofScript script = files.ofScript script := by
  cases action with
  | apply other response => exact (ofScript_act_apply files other script response).trans (if_neg h)
  | forget other => exact (ofScript_forget files other script).trans (if_neg h)

end ScriptDesk.Files
