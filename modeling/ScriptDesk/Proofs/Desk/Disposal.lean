import ScriptDesk.Proofs.Desk.Calls

/-!
# Disposal is final

Once an environment is disposed, no turn changes anything of it but its document, which only those
change who use it (`Office.turn_of_disposed`); no turn of its own changes tracked files
(`Office.files_turn_of_disposed`); and calls to it that come back were refused
(`Office.refuses_turn`), which is soon (`Office.refused_of_disposed`). A call that disposes comes
back only when the environment is disposed, whatever other calls are on their way
(`Office.IsTruthful`). Together with what a delivery does in one turn this is `disposal_is_final`.
-/

namespace ScriptDesk

namespace Environment

theorem afterEvent_of_disposed {environment : Environment} (h : environment.disposed = true)
    (files : Files) (event : Event) :
    environment.afterEvent files event = (environment, files) := by
  rw [afterEvent_eq, if_pos (.inr h)]

/-- A disposed environment takes no event into account. -/
theorem deliverAll_of_disposed {environment : Environment} (h : environment.disposed = true)
    (files : Files) (events : List Event) :
    environment.deliverAll files events = (environment, files) := by
  induction events with
  | nil => rfl
  | cons event events ih => rw [deliverAll_cons, afterEvent_of_disposed h, ih]

end Environment

namespace Desk

/-! ### Steps of others -/

theorem environment?_modifySeat_of_ne (desk : Desk) {seat other : Nat} (h : other ≠ seat)
    (change : Seat → Seat) :
    (desk.modifySeat seat change).environment? other = desk.environment? other := by
  unfold environment?
  rw [seat?_modifySeat, if_neg h]

theorem environment?_dropSubscription (desk : Desk) (seat : Nat) :
    (desk.dropSubscription seat).environment? = desk.environment? := by
  unfold dropSubscription
  split
  · rfl
  · exact environment?_modifySeat fun _ => rfl

theorem environment?_stopPump (desk : Desk) (seat : Nat) :
    (desk.stopPump seat).environment? = desk.environment? := by
  unfold stopPump
  split
  · rfl
  · exact environment?_modifySeat fun _ => rfl

theorem environment?_attach (desk : Desk) (seat : Nat) :
    (desk.attach seat).environment? = desk.environment? := by
  unfold attach
  split
  · rfl
  · simp only [Bus.subscribe]
    rw [environment?_modifySeat, environment?_stopPump, environment?_dropSubscription]
    · rfl
    · exact fun _ => rfl

/-- Disposing marks the environment and leaves it alone otherwise. -/
theorem environment?_dispose {desk : Desk} {seat : Nat} {environment : Environment}
    (h : desk.environment? seat = some environment) :
    (desk.dispose seat).environment? seat = some { environment with disposed := true } := by
  obtain ⟨s, hseat, rfl⟩ := Option.map_eq_some_iff.mp h
  cases hdisposed : s.environment.disposed with
  | true =>
    have hsame : { s.environment with disposed := true } = s.environment := by rw [← hdisposed]
    unfold dispose
    simp only [hseat, hdisposed, if_true]
    rw [environment?_dropSubscription, hsame]
    exact h
  | false =>
    rw [dispose_eq hseat hdisposed]
    unfold environment?
    rw [seat?_modifySeat, if_pos rfl]
    change ((desk.seat? seat).map retire).map (·.environment) = _
    rw [hseat]
    rfl

theorem environment?_dispose_of_ne (desk : Desk) {seat other : Nat} (h : other ≠ seat) :
    (desk.dispose seat).environment? other = desk.environment? other := by
  unfold dispose
  split
  · rfl
  · split
    · rw [environment?_dropSubscription]
    · rw [environment?_stopPump, setEnvironment, environment?_modifySeat_of_ne _ h,
        environment?_dropSubscription]

theorem environment?_getOrCreate (desk : Desk) (document : Document) {seat : Nat}
    (h : seat < desk.seats.length) :
    (desk.getOrCreate document).1.environment? seat = desk.environment? seat := by
  cases hopen : desk.register.get? document.id with
  | some seat => rw [getOrCreate_of_open hopen]
  | none =>
    obtain ⟨-, -, -, hseats⟩ := getOrCreate_new hopen
    unfold environment?
    rw [hseats, if_neg (Nat.ne_of_lt h)]

theorem files_dropSubscription (desk : Desk) (seat : Nat) :
    (desk.dropSubscription seat).files = desk.files := by
  unfold dropSubscription
  split <;> rfl

theorem files_stopPump (desk : Desk) (seat : Nat) : (desk.stopPump seat).files = desk.files := by
  unfold stopPump
  split <;> rfl

theorem files_attach (desk : Desk) (seat : Nat) : (desk.attach seat).files = desk.files := by
  unfold attach
  split
  · rfl
  · exact (files_stopPump _ _).trans (files_dropSubscription _ _)

theorem environment?_deliver_of_ne (desk : Desk) {seat other : Nat} (h : other ≠ seat)
    (event : Event) : (desk.deliver seat event).2.environment? other = desk.environment? other := by
  cases hseat : desk.seat? seat with
  | none =>
    unfold deliver
    rw [hseat]
  | some s =>
    unfold environment?
    rw [(deliver_eq hseat event).2.2, if_neg h]

theorem environment?_setStatus_of_ne (desk : Desk) {seat other : Nat} (h : other ≠ seat)
    (target : Status) :
    (desk.setStatus seat target).2.environment? other = desk.environment? other := by
  unfold setStatus
  split
  · rfl
  · split
    · rfl
    · exact environment?_modifySeat_of_ne _ h _

/-- A step of a call does not concern the environments of other seats. -/
theorem environment?_of_step?_of_ne {desk desk' : Desk} {seat other : Nat} (h : other ≠ seat)
    {stage : Stage} {progress : Progress} (hstep : desk.step? seat stage = some (desk', progress)) :
    desk'.environment? other = desk.environment? other := by
  cases stage with
  | deliver event =>
    simp only [step?] at hstep
    split at hstep
    · obtain ⟨taken, htaken, hresult⟩ := Option.map_eq_some_iff.mp hstep
      cases hresult
      rw [takeDocument?_eq htaken, environment?_hold]
    · cases hstep
      exact environment?_deliver_of_ne desk h event
  | deliverHolding event =>
    cases hstep
    rw [environment?_hold]
    exact environment?_deliver_of_ne desk h event
  | setStatus target =>
    cases hstep
    exact environment?_setStatus_of_ne desk h target
  | dispose =>
    cases hstep
    rw [environment?_dropSubscription]
  | mark =>
    obtain ⟨environment, -, hresult⟩ := Option.map_eq_some_iff.mp hstep
    split at hresult
    · cases hresult
      rfl
    · cases hresult
      exact environment?_modifySeat_of_ne desk h _
  | stopPump =>
    cases hstep
    rw [environment?_stopPump]
  | edit change =>
    obtain ⟨taken, htaken, hresult⟩ := Option.map_eq_some_iff.mp hstep
    cases hresult
    rw [takeDocument?_eq htaken, environment?_hold]
  | editHolding change =>
    cases hstep
    rw [environment?_hold]
    exact environment?_modifySeat_of_ne desk h _

/-! ### Steps of a disposed environment -/

/-- What someone who uses a document makes of it in one step. -/
def Stage.edited (document : Document) : Stage → Document
  | .editHolding change => change document
  | _ => document

/-- The answer of a disposed environment. -/
def Answer.Refuses (script : ScriptId) : Answer → Prop
  | .delivered result => result = .ok .dropped
  | .statusSet result => result = .error (.disposed script)
  | .disposed | .edited => True

/-- How a disposed environment answers a call. -/
def Stage.refusal (script : ScriptId) : Stage → Answer
  | .deliver _ | .deliverHolding _ => .delivered (.ok .dropped)
  | .setStatus _ => .statusSet (.error (.disposed script))
  | .dispose | .mark | .stopPump => .disposed
  | .edit _ | .editHolding _ => .edited

/-- Nobody has the document of a seat. -/
def IsFree (desk : Desk) (seat : Nat) : Prop :=
  ∃ s, desk.seat? seat = some s ∧ s.documentHeld = false

/-- The call has marked the environment as disposed, or has found it so. -/
def Progress.HasMarked : Progress → Prop
  | .pending .stopPump | .answered .disposed => True
  | _ => False

/-- A call gets there by marking the environment, or by finding it marked. -/
theorem disposed_of_step? {desk desk' : Desk} {seat : Nat} {stage : Stage} {progress : Progress}
    (hstep : desk.step? seat stage = some (desk', progress)) (hmarked : progress.HasMarked) :
    stage = .stopPump ∨
      ∃ environment, desk'.environment? seat = some environment ∧ environment.disposed = true := by
  cases stage with
  | deliver event =>
    simp only [step?] at hstep
    split at hstep
    · obtain ⟨taken, -, hresult⟩ := Option.map_eq_some_iff.mp hstep
      cases hresult
      cases hmarked
    · cases hstep
      cases hmarked
  | edit change =>
    obtain ⟨taken, -, hresult⟩ := Option.map_eq_some_iff.mp hstep
    cases hresult
    cases hmarked
  | mark =>
    obtain ⟨environment, henvironment, hresult⟩ := Option.map_eq_some_iff.mp hstep
    split at hresult
    · rename_i hdisposed
      cases hresult
      exact .inr ⟨environment, henvironment, hdisposed⟩
    · cases hresult
      obtain ⟨s, hseat, rfl⟩ := Option.map_eq_some_iff.mp henvironment
      refine .inr ⟨{ s.environment with disposed := true }, ?_, rfl⟩
      unfold environment? markDisposed
      rw [seat?_modifySeat, if_pos rfl, hseat]
      rfl
  | stopPump => exact .inl rfl
  | _ =>
    cases hstep
    cases hmarked

section Disposed

variable {desk : Desk} {seat : Nat} {environment : Environment}

theorem exists_seat? (h : desk.environment? seat = some environment) :
    ∃ s, desk.seat? seat = some s ∧ s.environment = environment :=
  Option.map_eq_some_iff.mp h

theorem deliver_of_disposed (h : desk.environment? seat = some environment)
    (hdisposed : environment.disposed = true) (event : Event) :
    desk.deliver seat event = (.ok .dropped, desk) := by
  obtain ⟨s, hseat, rfl⟩ := exists_seat? h
  have hdropped : s.environment.deliver desk.files event =
      .ok (.dropped, s.environment, desk.files) := if_pos (.inr hdisposed)
  unfold deliver
  simp only [hseat, hdropped, setEnvironment_self hseat]

theorem setStatus_of_disposed (h : desk.environment? seat = some environment)
    (hdisposed : environment.disposed = true) (target : Status) :
    desk.setStatus seat target = (.error (.disposed environment.id), desk) := by
  obtain ⟨s, hseat, rfl⟩ := exists_seat? h
  have hrefused : s.environment.setStatus target = .error (.disposed s.environment.id) :=
    if_pos hdisposed
  unfold setStatus
  simp only [hseat, hrefused]

/-- A step of a call to a disposed environment changes at most the document, and no files. If it
comes back with it, it was refused. -/
theorem step?_of_disposed (h : desk.environment? seat = some environment)
    (hdisposed : environment.disposed = true) {stage : Stage} {desk' : Desk} {progress : Progress}
    (hstep : desk.step? seat stage = some (desk', progress)) :
    desk'.environment? seat =
        some { environment with document := stage.edited environment.document } ∧
      desk'.files = desk.files ∧
      ∀ answer, progress = .answered answer → answer.Refuses environment.id := by
  cases stage with
  | deliver event =>
    simp only [step?, deliver_of_disposed h hdisposed] at hstep
    split at hstep
    · obtain ⟨taken, htaken, hresult⟩ := Option.map_eq_some_iff.mp hstep
      cases hresult
      rw [takeDocument?_eq htaken, environment?_hold]
      refine ⟨h, rfl, fun answer hanswer => ?_⟩
      cases hanswer
    · cases hstep
      refine ⟨h, rfl, fun answer hanswer => ?_⟩
      cases hanswer
      rfl
  | deliverHolding event =>
    simp only [step?, deliver_of_disposed h hdisposed] at hstep
    cases hstep
    rw [environment?_hold]
    refine ⟨h, rfl, fun answer hanswer => ?_⟩
    cases hanswer
    rfl
  | setStatus target =>
    simp only [step?, setStatus_of_disposed h hdisposed] at hstep
    cases hstep
    refine ⟨h, rfl, fun answer hanswer => ?_⟩
    cases hanswer
    rfl
  | dispose =>
    cases hstep
    rw [environment?_dropSubscription]
    refine ⟨h, files_dropSubscription desk seat, fun answer hanswer => ?_⟩
    cases hanswer
  | mark =>
    simp only [step?, h, Option.map_some, hdisposed, if_true] at hstep
    cases hstep
    refine ⟨h, rfl, fun answer hanswer => ?_⟩
    cases hanswer
    trivial
  | stopPump =>
    cases hstep
    rw [environment?_stopPump]
    refine ⟨h, files_stopPump desk seat, fun answer hanswer => ?_⟩
    cases hanswer
    trivial
  | edit change =>
    obtain ⟨taken, htaken, hresult⟩ := Option.map_eq_some_iff.mp hstep
    cases hresult
    rw [takeDocument?_eq htaken, environment?_hold]
    refine ⟨h, rfl, fun answer hanswer => ?_⟩
    cases hanswer
  | editHolding change =>
    cases hstep
    obtain ⟨s, hseat, rfl⟩ := exists_seat? h
    rw [environment?_hold]
    refine ⟨?_, rfl, fun answer hanswer => ?_⟩
    · unfold environment? changeDocument
      rw [seat?_modifySeat, if_pos rfl, hseat]
      rfl
    · cases hanswer
      trivial

/-- A call to a disposed environment comes back refused at once or in its next step, unless it has
to wait for the document. -/
theorem exists_step?_of_disposed (h : desk.environment? seat = some environment)
    (hdisposed : environment.disposed = true) {stage : Stage}
    (hfree : stage.isHolding = true ∨ desk.IsFree seat) :
    (∃ desk', desk.step? seat stage = some (desk', .answered (stage.refusal environment.id))) ∨
      ∃ desk' next desk'', desk.step? seat stage = some (desk', .pending next) ∧
        desk'.step? seat next = some (desk'', .answered (stage.refusal environment.id)) := by
  have htake : desk.IsFree seat → desk.takeDocument? seat = some (desk.hold seat true) := by
    rintro ⟨s, hseat, hfree⟩
    simp only [takeDocument?, hseat, hfree, Bool.false_eq_true, if_false]
  have hheld : (desk.hold seat true).environment? seat = some environment := by
    rw [environment?_hold]
    exact h
  cases stage with
  | deliver event =>
    by_cases hneeds : environment.needsDocument event = true
    · rcases hfree with hholding | hfree
      · cases hholding
      · refine .inr ⟨desk.hold seat true, .deliverHolding event,
          (desk.hold seat true).hold seat false, ?_, ?_⟩
        · simp only [step?, h, Option.any_some, hneeds, if_true, htake hfree, Option.map_some]
        · simp only [step?, deliver_of_disposed hheld hdisposed, Stage.refusal]
    · refine .inl ⟨desk, ?_⟩
      simp only [step?, h, Option.any_some, hneeds, deliver_of_disposed h hdisposed, Stage.refusal]
      rfl
  | deliverHolding event =>
    refine .inl ⟨desk.hold seat false, ?_⟩
    simp only [step?, deliver_of_disposed h hdisposed, Stage.refusal]
  | setStatus target =>
    refine .inl ⟨desk, ?_⟩
    simp only [step?, setStatus_of_disposed h hdisposed, Stage.refusal]
  | dispose =>
    refine .inr ⟨desk.dropSubscription seat, .mark, desk.dropSubscription seat, rfl, ?_⟩
    simp only [step?, environment?_dropSubscription, h, Option.map_some, hdisposed, if_true,
      Stage.refusal]
  | mark =>
    refine .inl ⟨desk, ?_⟩
    simp only [step?, h, Option.map_some, hdisposed, if_true, Stage.refusal]
  | stopPump => exact .inl ⟨_, rfl⟩
  | edit change =>
    rcases hfree with hholding | hfree
    · cases hholding
    · refine .inr ⟨desk.hold seat true, .editHolding change, _, ?_, rfl⟩
      simp only [step?, htake hfree, Option.map_some]
  | editHolding change => exact .inl ⟨_, rfl⟩

theorem Advance.environment?_eq {desk' : Desk} {s : Seat} {pump pump' : Pump}
    {delivered : Option Event} (h : desk.Advance desk' seat s pump pump' delivered) (other : Nat) :
    desk'.environment? other =
      if other = seat then some (s.environment.deliverAll desk.files delivered.toList).1
      else desk.environment? other := by
  unfold environment?
  rw [h.seat?_eq]
  split <;> rfl

/-- A pump does not change disposed environments, nor files if the environment of its seat is
disposed. -/
theorem Advance.of_disposed {desk' : Desk} {s : Seat} {other : Nat} {pump pump' : Pump}
    {delivered : Option Event} (h : desk.Advance desk' other s pump pump' delivered)
    (henvironment : desk.environment? seat = some environment)
    (hdisposed : environment.disposed = true) :
    desk'.environment? seat = some environment ∧ (other = seat → desk'.files = desk.files) := by
  rw [h.environment?_eq, h.files_eq]
  by_cases hseat : seat = other
  · subst hseat
    obtain ⟨o, ho, rfl⟩ := exists_seat? henvironment
    cases h.attached.seat_eq.symm.trans ho
    rw [Environment.deliverAll_of_disposed hdisposed, if_pos rfl]
    exact ⟨rfl, fun _ => rfl⟩
  · rw [if_neg hseat]
    exact ⟨henvironment, fun heq => absurd heq.symm hseat⟩

end Disposed

namespace Office

/-! ### Turns -/

/-- It is the turn of someone who uses the document of a seat, to change it. -/
def IsEdit (office : Office) (turn : Turn) (seat : Nat) : Prop :=
  ∃ number change, turn = .go number ∧
    office.calls[number]? = some ⟨seat, .pending (.editHolding change)⟩

/-- A call does nothing, or it goes a step on. -/
theorem go_cases (office : Office) (number : Nat) :
    office.turn (.go number) = office ∨ ∃ seat stage desk' progress,
      office.calls[number]? = some ⟨seat, .pending stage⟩ ∧
        office.desk.step? seat stage = some (desk', progress) ∧
          office.turn (.go number) = ⟨desk', office.calls.set number ⟨seat, progress⟩⟩ := by
  simp only [Office.turn]
  split
  · rename_i seat stage hcall
    cases hstep : office.desk.step? seat stage with
    | none => exact .inl rfl
    | some result => exact .inr ⟨seat, stage, _, _, hcall, hstep, rfl⟩
  · exact .inl rfl

/-- Abandoning a call does nothing, or it gives the document back. -/
theorem abandon_cases (office : Office) (number : Nat) :
    office.turn (.abandon number) = office ∨ ∃ seat stage desk',
      office.calls[number]? = some ⟨seat, .pending stage⟩ ∧
        (desk' = office.desk ∨ desk' = office.desk.hold seat false) ∧
          office.turn (.abandon number) =
            ⟨desk', office.calls.set number ⟨seat, .abandoned⟩⟩ := by
  simp only [Office.turn]
  split
  · rename_i seat stage hcall
    refine .inr ⟨seat, stage, _, hcall, ?_, rfl⟩
    split
    · exact .inr rfl
    · exact .inl rfl
  · exact .inl rfl

/-- A turn leaves environments and files as they are, or a call goes a step on, or a pump does. -/
theorem turn_cases (office : Office) (turn : Turn) :
    ((office.turn turn).desk.environment? = office.desk.environment? ∧
        (office.turn turn).desk.files = office.desk.files) ∨
      (∃ number seat stage progress, turn = .go number ∧
        office.calls[number]? = some ⟨seat, .pending stage⟩ ∧
          office.desk.step? seat stage = some ((office.turn turn).desk, progress)) ∨
      ∃ seat s pump pump' delivered, office.seatOf? turn = some seat ∧
        office.desk.Advance (office.turn turn).desk seat s pump pump' delivered := by
  cases turn with
  | ask seat request => exact .inl ⟨rfl, rfl⟩
  | go number =>
    rcases office.go_cases number with hnothing | ⟨seat, stage, desk', progress, hcall, hstep, hgo⟩
    · rw [hnothing]
      exact .inl ⟨rfl, rfl⟩
    · rw [hgo]
      exact .inr (.inl ⟨number, seat, stage, progress, rfl, hcall, hstep⟩)
  | abandon number =>
    rcases office.abandon_cases number with hnothing | ⟨seat, stage, desk', -, hdesk, habandon⟩
    · rw [hnothing]
      exact .inl ⟨rfl, rfl⟩
    · rw [habandon]
      rcases hdesk with rfl | rfl
      · exact .inl ⟨rfl, rfl⟩
      · exact .inl ⟨environment?_hold _ _ _, rfl⟩
  | publish event => exact .inl ⟨rfl, rfl⟩
  | take seat =>
    simp only [Office.turn]
    cases htake : office.desk.takeNext? seat with
    | none => exact .inl ⟨rfl, rfl⟩
    | some desk' =>
      obtain ⟨s, pump, pump', hadvance⟩ := advance_of_takeNext? htake
      exact .inr (.inr ⟨seat, s, pump, pump', none, rfl, hadvance⟩)
  | pump seat =>
    simp only [Office.turn]
    cases hstep : office.desk.pumpStep? seat with
    | none => exact .inl ⟨rfl, rfl⟩
    | some result =>
      obtain ⟨s, pump, pump', delivered, hadvance⟩ := advance_of_pumpStep? hstep
      exact .inr (.inr ⟨seat, s, pump, pump', delivered, rfl, hadvance⟩)
  | attach seat =>
    exact .inl ⟨environment?_attach office.desk seat, files_attach office.desk seat⟩

/-- A call that there is after a turn was there before as it is, or it was made in this turn, or it
was its turn, or it was abandoned. -/
theorem call_cases {office : Office} {turn : Turn} {number seat : Nat} {progress : Progress}
    (h : (office.turn turn).calls[number]? = some ⟨seat, progress⟩) :
    office.calls[number]? = some ⟨seat, progress⟩ ∨
      (∃ request : Request, progress = .pending request.stage) ∨
      (∃ stage, office.calls[number]? = some ⟨seat, .pending stage⟩ ∧
        office.desk.step? seat stage = some ((office.turn turn).desk, progress)) ∨
      progress = .abandoned := by
  cases turn with
  | ask other request =>
    simp only [Office.turn, List.getElem?_append] at h
    split at h
    · exact .inl h
    · obtain ⟨_, hcall⟩ := List.getElem?_eq_some_iff.mp h
      rw [List.getElem_singleton] at hcall
      cases hcall
      exact .inr (.inl ⟨request, rfl⟩)
  | go going =>
    rcases office.go_cases going with hnothing | ⟨other, stage, desk', next, hcall, hstep, hgo⟩
    · rw [hnothing] at h
      exact .inl h
    · rw [hgo] at h ⊢
      rw [List.getElem?_set] at h
      split at h
      · rename_i hnumber
        subst hnumber
        split at h
        · cases h
          exact .inr (.inr (.inl ⟨stage, hcall, hstep⟩))
        · cases h
      · exact .inl h
  | abandon abandoned =>
    rcases office.abandon_cases abandoned with hnothing | ⟨other, stage, desk', -, -, habandon⟩
    · rw [hnothing] at h
      exact .inl h
    · rw [habandon, List.getElem?_set] at h
      split at h
      · split at h
        · cases h
          exact .inr (.inr (.inr rfl))
        · cases h
      · exact .inl h
  | publish event => exact .inl h
  | take other => exact .inl h
  | pump other => exact .inl h
  | attach other => exact .inl h

section Disposed

variable {office : Office} {seat : Nat} {environment : Environment}

/-- A turn changes nothing of a disposed environment but its document, which only those change who
use it. -/
theorem turn_of_disposed (h : office.desk.environment? seat = some environment)
    (hdisposed : environment.disposed = true) (turn : Turn) :
    ∃ document, (office.turn turn).desk.environment? seat = some { environment with document } ∧
      (¬office.IsEdit turn seat → document = environment.document) := by
  have hsame : (office.turn turn).desk.environment? seat = some environment →
      ∃ document, (office.turn turn).desk.environment? seat = some { environment with document } ∧
        (¬office.IsEdit turn seat → document = environment.document) :=
    fun h' => ⟨environment.document, h', fun _ => rfl⟩
  rcases office.turn_cases turn with ⟨henvironment, -⟩ |
    ⟨number, other, stage, progress, rfl, hcall, hstep⟩ | ⟨other, s, pump, pump', _, -, hadvance⟩
  · exact hsame (by rw [henvironment]; exact h)
  · by_cases hother : other = seat
    · subst hother
      obtain ⟨hafter, -, -⟩ := step?_of_disposed h hdisposed hstep
      refine ⟨_, hafter, fun hedit => ?_⟩
      cases stage with
      | editHolding change => exact absurd ⟨number, change, rfl, hcall⟩ hedit
      | _ => rfl
    · exact hsame ((environment?_of_step?_of_ne (Ne.symm hother) hstep).trans h)
  · exact hsame (hadvance.of_disposed h hdisposed).1

/-- A turn of a disposed environment changes no files. -/
theorem files_turn_of_disposed (h : office.desk.environment? seat = some environment)
    (hdisposed : environment.disposed = true) {turn : Turn}
    (hturn : office.seatOf? turn = some seat) :
    (office.turn turn).desk.files = office.desk.files := by
  rcases office.turn_cases turn with ⟨-, hfiles⟩ |
    ⟨number, other, stage, progress, rfl, hcall, hstep⟩ |
    ⟨other, s, pump, pump', _, hother, hadvance⟩
  · exact hfiles
  · simp only [seatOf?, hcall, Option.map_some, Option.some.injEq] at hturn
    subst hturn
    exact (step?_of_disposed h hdisposed hstep).2.1
  · exact (hadvance.of_disposed h hdisposed).2 (Option.some.inj (hother.symm.trans hturn))

/-- The calls to a disposed environment that come back in a turn were refused. -/
theorem refuses_turn (h : office.desk.environment? seat = some environment)
    (hdisposed : environment.disposed = true) (turn : Turn) {number : Nat} {answer : Answer}
    (hanswer : (office.turn turn).calls[number]? = some ⟨seat, .answered answer⟩) :
    office.calls[number]? = some ⟨seat, .answered answer⟩ ∨ answer.Refuses environment.id := by
  rcases call_cases hanswer with hold | ⟨request, hnew⟩ | ⟨stage, -, hstep⟩ | habandoned
  · exact .inl hold
  · cases hnew
  · exact .inr ((step?_of_disposed h hdisposed hstep).2.2 answer rfl)
  · cases habandoned

theorem go_of_answered {number : Nat} {answer : Answer}
    (hcall : office.calls[number]? = some ⟨seat, .answered answer⟩) :
    office.turn (.go number) = office := by
  simp only [Office.turn, hcall]

/-- A call to a disposed environment comes back refused after at most two of its turns, unless it
has to wait for the document. -/
theorem refused_of_disposed (h : office.desk.environment? seat = some environment)
    (hdisposed : environment.disposed = true) {number : Nat} {stage : Stage}
    (hcall : office.calls[number]? = some ⟨seat, .pending stage⟩)
    (hfree : stage.isHolding = true ∨ office.desk.IsFree seat) :
    (office.turnAll [.go number, .go number]).calls[number]? =
      some ⟨seat, .answered (stage.refusal environment.id)⟩ := by
  simp only [turnAll, List.foldl_cons, List.foldl_nil]
  rcases exists_step?_of_disposed h hdisposed hfree with
    ⟨desk', hstep⟩ | ⟨desk', next, desk'', hstep, hnext⟩
  · rw [go_eq hcall hstep]
    have hanswered := getElem?_set_of_call hcall
      ⟨seat, .answered (stage.refusal environment.id)⟩
    rw [go_of_answered hanswered]
    exact hanswered
  · rw [go_eq hcall hstep]
    have hpending := getElem?_set_of_call hcall ⟨seat, .pending next⟩
    rw [go_eq hpending hnext]
    exact getElem?_set_of_call hpending _

end Disposed

/-! ### Runs -/

/-- The environment of a seat is disposed. -/
def IsDisposed (office : Office) (seat : Nat) : Prop :=
  ∃ environment, office.desk.environment? seat = some environment ∧ environment.disposed = true

/-- Who was disposed stays disposed. -/
theorem IsDisposed.turn {office : Office} {seat : Nat} (h : office.IsDisposed seat) (turn : Turn) :
    (office.turn turn).IsDisposed seat := by
  obtain ⟨environment, henvironment, hdisposed⟩ := h
  obtain ⟨document, hafter, -⟩ := turn_of_disposed henvironment hdisposed turn
  exact ⟨_, hafter, hdisposed⟩

/-- Calls that have marked an environment as disposed did so. -/
def IsTruthful (office : Office) : Prop :=
  ∀ (number seat : Nat) (progress : Progress), office.calls[number]? = some ⟨seat, progress⟩ →
    progress.HasMarked → office.IsDisposed seat

/-- Whatever happens, calls stay truthful. -/
theorem IsTruthful.turn {office : Office} (h : office.IsTruthful) (turn : Turn) :
    (office.turn turn).IsTruthful := by
  intro number seat progress hcall hmarked
  rcases call_cases hcall with hold | ⟨request, rfl⟩ | ⟨stage, hbefore, hstep⟩ | rfl
  · exact (h number seat progress hold hmarked).turn turn
  · cases request <;> cases hmarked
  · rcases disposed_of_step? hstep hmarked with rfl | hdisposed
    · exact (h number seat _ hbefore trivial).turn turn
    · exact hdisposed
  · cases hmarked

theorem IsTruthful.turnAll (turns : List Turn) :
    ∀ {office : Office}, office.IsTruthful → (office.turnAll turns).IsTruthful := by
  induction turns with
  | nil => intro office h; exact h
  | cons turn turns ih => intro office h; exact ih (h.turn turn)

/-- After any turns a disposed environment has at most another document, and the calls to it that
came back meanwhile were refused. -/
theorem turnAll_of_disposed {seat : Nat} {environment : Environment}
    (hdisposed : environment.disposed = true) (turns : List Turn) :
    ∀ {office : Office}, (∃ document,
        office.desk.environment? seat = some { environment with document }) →
      (∃ document,
        (office.turnAll turns).desk.environment? seat = some { environment with document }) ∧
      ∀ (number : Nat) (answer : Answer),
        (office.turnAll turns).calls[number]? = some ⟨seat, .answered answer⟩ →
          office.calls[number]? = some ⟨seat, .answered answer⟩ ∨
            answer.Refuses environment.id := by
  induction turns with
  | nil => intro office h; exact ⟨h, fun _ _ hanswer => .inl hanswer⟩
  | cons turn turns ih =>
    rintro office ⟨document, h⟩
    obtain ⟨document', hafter, -⟩ := turn_of_disposed h hdisposed turn
    obtain ⟨hlater, hanswers⟩ := ih ⟨document', hafter⟩
    refine ⟨hlater, fun number answer hanswer => ?_⟩
    rcases hanswers number answer hanswer with hnow | hrefuses
    · exact refuses_turn h hdisposed turn hnow
    · exact .inr hrefuses

/-- **Disposal is final.** Once a call that disposes an environment has come back, the environment
stays as it is but for its document, whatever calls were and are on their way. Those that come back
later were refused, in at most two turns unless they wait for the document, and none changes tracked
files. A delivery that has its turn or is abandoned does all that it is to do or nothing. -/
theorem disposal_is_final (desk : Desk) (earlier : List Turn) {number seat : Nat}
    (hreturned : ((ofDesk desk).turnAll earlier).calls[number]? =
      some ⟨seat, .answered .disposed⟩) (later : List Turn) :
    let returned := (ofDesk desk).turnAll earlier
    let office := returned.turnAll later
    (∃ environment now, returned.desk.environment? seat = some environment ∧
      office.desk.environment? seat = some now ∧ environment.disposed = true ∧
      now = { environment with document := now.document } ∧
      (∀ turn, ¬office.IsEdit turn seat → (office.turn turn).desk.environment? seat = some now) ∧
      (∀ (call : Nat) (answer : Answer), office.calls[call]? = some ⟨seat, .answered answer⟩ →
        returned.calls[call]? = some ⟨seat, .answered answer⟩ ∨ answer.Refuses environment.id) ∧
      ∀ (call : Nat) (stage : Stage), office.calls[call]? = some ⟨seat, .pending stage⟩ →
        stage.isHolding = true ∨ office.desk.IsFree seat →
          (office.turnAll [.go call, .go call]).calls[call]? =
            some ⟨seat, .answered (stage.refusal environment.id)⟩) ∧
    (∀ turn, office.seatOf? turn = some seat →
      (office.turn turn).desk.files = office.desk.files) ∧
    ∀ (before : List Turn) (call : Nat) (event : Event),
      let office := (ofDesk desk).turnAll before
      office.IsDelivering call seat event →
        office.WholeOrNothing (office.turn (.go call)) call seat event ∧
          office.WholeOrNothing (office.turn (.abandon call)) call seat event := by
  have htruthful : (ofDesk desk).IsTruthful := by
    intro number seat progress hcall
    cases hcall
  obtain ⟨environment, hstart, hdisposed⟩ :=
    htruthful.turnAll earlier number seat _ hreturned trivial
  obtain ⟨⟨document, hnow⟩, hanswers⟩ := turnAll_of_disposed hdisposed later ⟨_, hstart⟩
  refine ⟨⟨environment, _, hstart, hnow, hdisposed, rfl, fun turn hedit => ?_, hanswers,
      fun call stage hcall hfree => refused_of_disposed hnow hdisposed hcall hfree⟩,
    fun turn hturn => files_turn_of_disposed hnow hdisposed hturn,
    fun before call event h => ⟨h.wholeOrNothing_go, h.wholeOrNothing_abandon⟩⟩
  obtain ⟨document', hafter, hsame⟩ := turn_of_disposed hnow hdisposed turn
  rw [hafter, hsame hedit]

/-- A desk with one script, which has a file. -/
def singleDesk : Desk :=
  (Desk.empty { scriptsDirectory := [] }).openAll
    [{ id := ⟨1⟩, name := "a".toList, path := some "/a.spad".toList }]

/-- An event that renames the file. -/
def fileRenamed : Event :=
  ⟨⟨1⟩, .file (.renamed "a.spad".toList "c.spad".toList)⟩

/-- Someone uses the document, the event waits for it, and then the environment is disposed. -/
def disposedMeanwhile : List Turn :=
  [.ask 0 (.edit (·.setCode [])), .go 0, .ask 0 (.deliver fileRenamed), .go 1,
   .ask 0 .dispose, .go 2, .go 2, .go 2]

/-- The document is given back, and the event gets it. -/
theorem disposal_is_final_waiting :
    let returned := (ofDesk singleDesk).turnAll disposedMeanwhile
    let office := returned.turnAll [.go 0, .go 1, .go 1]
    returned.calls[1]? = some ⟨0, .pending (.deliver fileRenamed)⟩ ∧
      office.calls[1]? = some ⟨0, .answered (.delivered (.ok .dropped))⟩ ∧
      ∃ now, office.desk.environment? 0 = some now ∧ now.disposed = true ∧
        now.document.name = "a".toList := by
  have hreturned : ((ofDesk singleDesk).turnAll disposedMeanwhile).calls[2]? =
      some ⟨0, .answered .disposed⟩ := rfl
  obtain ⟨⟨environment, now, -, hnow, hdisposed, hsame, -⟩, -⟩ :=
    disposal_is_final singleDesk disposedMeanwhile hreturned [.go 0, .go 1, .go 1]
  have hname : some "a".toList = some now.document.name :=
    congrArg (Option.map fun e : Environment => e.document.name) hnow
  refine ⟨rfl, rfl, now, hnow, ?_, (Option.some.inj hname).symm⟩
  rw [hsame]
  exact hdisposed

end Office

end Desk

end ScriptDesk
