import ScriptDesk.Proofs.Desk.Deliveries
import ScriptDesk.Proofs.Desk.Errands
import ScriptDesk.Proofs.Environment.Results

/-!
# Runs among other moves

A run sets the status to running, hands the program to the backend, and if that rejects it sets the
status to error. On an orderly desk the first of these steps never fails, nor does the last one
while the script runs (`Serving.setStatus_running`, `Serving.failRun_eq`). So a run without
interruption reports what the backend rejects, and one that is refused for another reason has
changed nothing (`Orderly.run_of_error`).

Between the steps of a run the pumps may go on (`runAmong`). What they deliver of the script may end
what the backend has not begun: then the last step is refused, and it is this that the run reports
(`run_rejected_among`).
-/

namespace ScriptDesk

/-- What observers are told when a script that has this status is run. -/
def Status.runNotices (previous : Status) (rejected : Bool) : List Notice :=
  (if previous = .running then [] else [.statusChanged previous .running, .resultsCleared]) ++
    if rejected then [.statusChanged .running .error] else []

/-- The backend after a program was handed to it. -/
def Backend.handed (backend : Backend) (script : ScriptId) (program : Text) : Backend :=
  { backend with
    submissions := backend.submissions ++
      [{ script, program, accepted := backend.rejection.isNone }] }

namespace Environment

/-! ### Changes of the status -/

/-- A change that is allowed is made. -/
theorem exists_changeStatus_eq {environment : Environment} {target : Status} {cleared : Bool}
    (h : Status.clears? environment.status target = some cleared) :
    ∃ changed, environment.changeStatus target =
        .ok (changed, ⟨environment.status, target, cleared⟩) ∧ changed.status = target := by
  simp only [changeStatus, h]
  split
  · rename_i hsame
    exact ⟨environment, rfl, hsame⟩
  · split
    · exact ⟨_, rfl, rfl⟩
    · exact ⟨_, rfl, rfl⟩

/-- Other changes are refused. -/
theorem changeStatus_of_none {environment : Environment} {target : Status}
    (h : Status.clears? environment.status target = none) :
    environment.changeStatus target = .error (.transition environment.status target) := by
  simp only [changeStatus, h]

/-- The environment after a run. -/
def afterRun (environment : Environment) (rejected : Bool) : Environment :=
  { environment with
    status := if rejected then .error else .running
    output := if environment.status = .running then environment.output else []
    log := environment.log ++ environment.status.runNotices rejected }

/-- Whatever the status is, it may become running. -/
theorem changeStatus_running (environment : Environment) :
    environment.changeStatus .running =
      .ok (environment.afterRun false,
        ⟨environment.status, .running, environment.status != .running⟩) := by
  obtain ⟨id, document, status, output, diagnostics, disposed, log⟩ := environment
  cases status <;> simp [changeStatus, afterRun, Status.clears?, Status.runNotices, emit]

/-- A script that has begun to run may fail. -/
theorem changeStatus_error (environment : Environment) :
    (environment.afterRun false).changeStatus .error =
      .ok (environment.afterRun true, ⟨.running, .error, false⟩) := by
  simp [changeStatus, afterRun, Status.clears?, Status.runNotices, emit]

/-- The status after events is what the requests of those about the script lead to. -/
theorem status_deliverAll (events : List Event) :
    ∀ {environment : Environment} (files : Files), environment.disposed = false →
      (environment.deliverAll files events).1.status =
        ((events.filter (·.script = environment.id)).filterMap (·.news.status?)).foldl Status.next
          environment.status := by
  induction events with
  | nil => intro environment files _; rfl
  | cons event events ih =>
    intro environment files hlive
    have hsame := (frame_afterEvent environment files event).1
    rw [deliverAll_cons, ih _ (hsame.disposed_eq.trans hlive), hsame.id_eq]
    by_cases hscript : event.script = environment.id
    · have habsorbed := absorbed_act hlive (.deliver files event)
      simp only [Action.news?, if_pos hscript] at habsorbed
      have hstatus : (environment.afterEvent files event).1.status =
          environment.status.afterNews event.news := habsorbed.status_eq
      rw [List.filter_cons_of_pos (by simpa using hscript), hstatus]
      cases event with
      | mk about news => cases news <;> rfl
    · rw [List.filter_cons_of_neg (by simpa using hscript), afterEvent_of_ne hscript]

end Environment

namespace Desk

variable {desk : Desk} {script : ScriptId} {seat number : Nat} {s : Seat}

/-! ### The steps of a run -/

theorem setStatus_of_live (hseat : desk.seat? seat = some s)
    (hlive : s.environment.disposed = false) (target : Status) :
    desk.setStatus seat target =
      match s.environment.changeStatus target with
      | .error e => (.error e, desk)
      | .ok (environment, transition) =>
        (.ok (some transition), desk.setEnvironment seat environment) := by
  have hset : s.environment.setStatus target = s.environment.changeStatus target :=
    if_neg (by rw [hlive]; exact Bool.false_ne_true)
  cases hchange : s.environment.changeStatus target with
  | error e => simp only [setStatus, hseat, hset, hchange]
  | ok result => simp only [setStatus, hseat, hset, hchange]

/-- An open script may always begin to run. -/
theorem Serving.setStatus_running (h : desk.Serving script seat s number) :
    ∃ transition s', desk.setStatus seat .running =
        (.ok transition, (desk.setStatus seat .running).2) ∧
      (desk.setStatus seat .running).2.Serving script seat s' number ∧
      s'.environment.status = .running := by
  obtain ⟨s', hs'⟩ := h.proceeds (proceeds_setStatus desk seat .running)
  have hset := setStatus_of_live h.seat_eq h.live .running
  rw [Environment.changeStatus_running] at hset
  refine ⟨_, s', by rw [hset], hs', ?_⟩
  have hseat : (desk.setEnvironment seat (s.environment.afterRun false)).seat? seat = some s' := by
    rw [← hs'.seat_eq, hset]
  unfold setEnvironment at hseat
  rw [seat?_modifySeat, if_pos rfl, h.seat_eq] at hseat
  cases hseat
  rfl

/-- A run is ended by a rejection if the script runs still. If not the last step is refused. -/
theorem Serving.failRun_eq (h : desk.Serving script seat s number) (reason : Text) :
    ∃ environment,
      desk.failRun script seat reason =
        (.error (if s.environment.status = .running then .rejected script reason
          else .environment (.transition s.environment.status .error)),
        desk.setEnvironment seat environment) ∧
      environment.status =
        if s.environment.status = .running then .error else s.environment.status := by
  have hset := setStatus_of_live h.seat_eq h.live .error
  unfold failRun
  by_cases hrunning : s.environment.status = .running
  · have hclears : Status.clears? s.environment.status .error = some false := by rw [hrunning]; rfl
    obtain ⟨changed, hchange, hstatus⟩ := Environment.exists_changeStatus_eq hclears
    rw [hchange] at hset
    rw [hset, if_pos hrunning, if_pos hrunning]
    exact ⟨changed, rfl, hstatus⟩
  · have hclears : Status.clears? s.environment.status .error = none := by
      cases hstatus : s.environment.status <;> first | rfl | exact absurd hstatus hrunning
    rw [Environment.changeStatus_of_none hclears] at hset
    rw [hset, if_neg hrunning, if_neg hrunning]
    exact ⟨s.environment, by rw [setEnvironment_self h.seat_eq], rfl⟩

/-- A run is prepared for an open script if there is a backend. -/
theorem Serving.prepareRun_eq (h : desk.Serving script seat s number)
    (hopen : desk.register.get? script = some seat) {backend : Backend}
    (hbackend : desk.backend = some backend) :
    desk.prepareRun script = .ok (seat, s.environment.document.program) := by
  have hdocument : desk.document? seat = some s.environment.document :=
    congrArg (Option.map _) h.seat_eq
  simp only [prepareRun, openSeat_eq_ok_iff.mpr hopen, hbackend, bind, Except.bind, hdocument]
  rfl

theorem Serving.submit (h : desk.Serving script seat s number) (program : Text) :
    (desk.submit script program).1.Serving script seat s number := by
  unfold Desk.submit
  split
  · exact h
  · exact ⟨h.seat_eq, h.id_eq, h.document_eq, h.live, h.subscription_eq, h.channel_eq,
      h.subscribers_eq, h.feeds⟩

/-- The backend notes each program, and says why it rejects it if it does. -/
theorem submit_eq {backend : Backend} (hbackend : desk.backend = some backend) (script : ScriptId)
    (program : Text) :
    desk.submit script program =
      ({ desk with backend := some (backend.handed script program) },
        backend.rejection.map (Text.join ": ".toList)) := by
  simp only [submit, hbackend, Backend.handed]

/-- A program that is rejected is only noted by the backend. -/
theorem submit_of_rejection {backend : Backend} (hbackend : desk.backend = some backend)
    {reasons : List Text} (hrejection : backend.rejection = some reasons) (script : ScriptId)
    (program : Text) :
    ∃ backend', desk.submit script program =
      ({ desk with backend := backend' }, some (Text.join ": ".toList reasons)) := by
  rw [submit_eq hbackend, hrejection]
  exact ⟨_, rfl⟩

/-! ### Runs without interruption -/

/-- If a run fails the backend has rejected the program, or nothing was changed. -/
theorem Orderly.run_of_error (h : desk.Orderly desk.register.get?) {error : SessionError}
    (herror : (desk.run script).1 = .error error) :
    (∃ reason, error = .rejected script reason) ∨ (desk.run script).2 = desk := by
  unfold run at herror ⊢
  cases hprepare : desk.prepareRun script with
  | error e => exact .inr rfl
  | ok prepared =>
    obtain ⟨seat, program⟩ := prepared
    obtain ⟨s, number, hs⟩ := h.serving (get?_of_prepareRun hprepare)
    obtain ⟨transition, s', hset, hs', hrunning⟩ := hs.setStatus_running
    have hsubmitted := hs'.submit program
    simp only [hprepare] at herror
    rw [hset] at herror
    simp only at herror
    split at herror
    · cases herror
    · rename_i submitted reason hsubmit
      rw [hsubmit] at hsubmitted
      obtain ⟨environment, hfail, -⟩ := hsubmitted.failRun_eq reason
      rw [hfail, if_pos hrunning] at herror
      cases herror
      exact .inl ⟨reason, rfl⟩

/-! ### Runs among other moves -/

/-- A run of a script among other moves: those in `before` are made when its program was read, those
in `between` when the status was set to running, and those in `after` when the program was
rejected. -/
def runAmong (desk : Desk) (script : ScriptId) (before between after : List Move) :
    Except SessionError Unit × Desk :=
  match desk.prepareRun script with
  | .error e => (.error e, desk)
  | .ok (seat, program) =>
    match (desk.moveAll before).setStatus seat .running with
    | (.error e, desk) => (.error (.environment e), desk)
    | (.ok _, desk) =>
      match (desk.moveAll between).submit script program with
      | (desk, none) => (.ok (), desk)
      | (desk, some reason) => (desk.moveAll after).failRun script seat reason

/-- Without other moves this is what the desk does. -/
theorem runAmong_nil (desk : Desk) (script : ScriptId) :
    desk.runAmong script [] [] [] = desk.run script := rfl

theorem backend_move (desk : Desk) (first : Move) : (desk.move first).backend = desk.backend := by
  cases first with
  | publish event => rfl
  | take seat =>
    simp only [move]
    cases htake : desk.takeNext? seat with
    | none => rfl
    | some taken =>
      unfold takeNext? at htake
      obtain ⟨s, -, htake⟩ := Option.bind_eq_some_iff.mp htake
      obtain ⟨pump, -, htake⟩ := Option.bind_eq_some_iff.mp htake
      split at htake
      · cases htake
      · obtain ⟨⟨event, bus⟩, -, htake⟩ := Option.bind_eq_some_iff.mp htake
        cases htake
        rfl
  | pump seat =>
    simp only [move]
    cases hstep : desk.pumpStep? seat with
    | none => rfl
    | some result =>
      obtain ⟨_, _, _, -, -, hframe⟩ := frame_of_pumpStep? hstep
      exact congrArg (·.backend) hframe
  | hold seat held => rfl

theorem backend_moveAll (moves : List Move) :
    ∀ desk : Desk, (desk.moveAll moves).backend = desk.backend := by
  induction moves with
  | nil => exact fun _ => rfl
  | cons first rest ih => exact fun desk => (ih _).trans (desk.backend_move first)

theorem backend_setStatus (desk : Desk) (seat : Nat) (target : Status) :
    (desk.setStatus seat target).2.backend = desk.backend := by
  unfold setStatus
  split
  · rfl
  · split
    · rfl
    · rfl

/-- Among moves the pump of an open script delivers events about it in order, and the status follows
their requests. -/
theorem Serving.moveAll (h : desk.Serving script seat s number) {pump : Pump}
    (hpump : desk.Attached seat s pump) (hwired : desk.Wired) (moves : List Move) :
    ∃ s' pump' delivered, (desk.moveAll moves).Serving script seat s' number ∧
      (desk.moveAll moves).Attached seat s' pump' ∧
      (pump.pending desk.bus ++ published moves).filter (·.script = script) =
        delivered ++ (pump'.pending (desk.moveAll moves).bus).filter (·.script = script) ∧
      s'.environment.status =
        (delivered.filterMap (·.news.status?)).foldl Status.next s.environment.status := by
  obtain ⟨s', hs'⟩ := h.proceeds (proceeds_moveAll moves desk)
  have hstart : desk.HasDelivered seat s.environment desk.files [] (pump.pending desk.bus) :=
    ⟨s, pump, hpump, rfl, rfl⟩
  obtain ⟨more, waiting, hmore, s'', pump', hpump', hwaiting, houtcome⟩ :=
    hstart.moveAll moves hwired
  cases hs'.seat_eq.symm.trans hpump'.seat_eq
  rw [h.id_eq] at hmore
  refine ⟨s', pump', more.filter (·.script = script), hs', hpump', ?_, ?_⟩
  · rw [hwaiting, ← List.filter_append, ← hmore, List.filter_append, List.filter_append,
      List.filter_filter]
    simp
  · have hstatus := Environment.status_deliverAll ([] ++ more) desk.files h.live
    rw [h.id_eq] at hstatus
    exact (congrArg (·.1.status) houtcome).trans hstatus

/-- **What comes of a run that the backend rejects while the pumps go on.** The status is set to
running, and then the pump of the script delivers some of the events about it. If their requests
leave the script running, the run reports the rejection and the status ends in error. Otherwise the
last step is refused: this is what the run reports instead of the rejection, and the status ends
where the events have brought it. -/
theorem run_rejected_among (h : desk.Orderly desk.register.get?)
    (hopen : desk.register.get? script = some seat) {backend : Backend}
    (hbackend : desk.backend = some backend) {reasons : List Text}
    (hrejection : backend.rejection = some reasons) (before between after : List Move) :
    let begun := ((desk.moveAll before).setStatus seat .running).2
    let (result, ended) := desk.runAmong script before between after
    ∃ s pump s' pump' delivered,
      begun.Attached seat s pump ∧ s.environment.status = .running ∧ ended.Attached seat s' pump' ∧
      (pump.pending begun.bus ++ published (between ++ after)).filter (·.script = script) =
        delivered ++ (pump'.pending ended.bus).filter (·.script = script) ∧
      let status := (delivered.filterMap (·.news.status?)).foldl Status.next .running
      (status = .running →
        result = .error (.rejected script (Text.join ": ".toList reasons)) ∧
          s'.environment.status = .error) ∧
      (status ≠ .running →
        result = .error (.environment (.transition status .error)) ∧
          s'.environment.status = status) := by
  obtain ⟨s₀, number, hs₀⟩ := h.serving hopen
  have hprepare := hs₀.prepareRun_eq hopen hbackend
  generalize s₀.environment.document.program = program at hprepare
  have hfirst := proceeds_moveAll before desk
  obtain ⟨s₁, hs₁⟩ := hs₀.proceeds hfirst
  obtain ⟨transition, s, hset, hs, hrunning⟩ := hs₁.setStatus_running
  have hbegun := (h.proceeds hfirst).proceeds (proceeds_setStatus _ seat .running)
  have hbackend' := (backend_setStatus (desk.moveAll before) seat .running).trans
    ((backend_moveAll before desk).trans hbackend)
  simp only [runAmong, hprepare]
  rw [hset]
  simp only
  generalize ((desk.moveAll before).setStatus seat .running).2 = begun at hs hbegun hbackend' ⊢
  -- the pump goes on before the program is handed over
  obtain ⟨pump, hpump, -⟩ := Option.map_eq_some_iff.mp hs.channel_eq
  have hattached : begun.Attached seat s pump := ⟨hs.seat_eq, hpump⟩
  obtain ⟨s₂, pump₂, first, hs₂, hpump₂, hdelivered, hstatus⟩ :=
    hs.moveAll hattached hbegun.wired between
  have hsecond := hbegun.proceeds (proceeds_moveAll between begun)
  -- and when it was rejected
  obtain ⟨backend', hsubmit⟩ := submit_of_rejection
    ((backend_moveAll between begun).trans hbackend') hrejection script program
  have hs₃ := hs₂.submit program
  have hthird := hsecond.proceeds (proceeds_submit _ script program)
  rw [hsubmit] at hs₃ hthird
  rw [hsubmit]
  simp only
  obtain ⟨s₄, pump₄, later, hs₄, hpump₄, hdelivered', hstatus'⟩ :=
    hs₃.moveAll ⟨hpump₂.seat_eq, hpump₂.pump_eq⟩ hthird.wired after
  obtain ⟨environment, hfail, hended⟩ := hs₄.failRun_eq (Text.join ": ".toList reasons)
  have hall : s₄.environment.status =
      ((first ++ later).filterMap (·.news.status?)).foldl Status.next .running := by
    rw [hstatus', hstatus, hrunning, ← List.foldl_append, ← List.filterMap_append]
  rw [hall] at hfail hended
  rw [hfail]
  refine ⟨s, pump, { s₄ with environment }, pump₄, first ++ later, hattached, hrunning,
    ⟨?_, hpump₄.pump_eq⟩, ?_, ?_, ?_⟩
  · refine (seat?_modifySeat _ seat seat _).trans ?_
    rw [if_pos rfl, hs₄.seat_eq]
    rfl
  · rw [published_append, ← List.append_assoc, List.filter_append, hdelivered, List.append_assoc,
      List.append_assoc, ← List.filter_append]
    exact congrArg (first ++ ·) hdelivered'
  · intro hstill
    rw [if_pos hstill] at hended
    exact ⟨congrArg _ (if_pos hstill), hended⟩
  · intro hnot
    rw [if_neg hnot] at hended
    exact ⟨congrArg _ (if_neg hnot), hended⟩

/-- A desk with an open script and a backend that rejects every program. -/
def rejectingDesk : Desk :=
  (fresh { scriptsDirectory := [] } (some { rejection := some ["no service".toList] }) {}).perform
    (.create ⟨7⟩ "a".toList)

theorem orderly_rejectingDesk : rejectingDesk.Orderly rejectingDesk.register.get? :=
  ((orderly_fresh _ _ _).perform _).1

/-- News about that script are published, and its pump delivers them. -/
def broughtIn (news : News) : List Move :=
  [.publish ⟨⟨7⟩, news⟩, .pump 0]

/-- An earlier run ends before the status is set to running, and then there is more output. -/
theorem run_rejected_among_output :
    (rejectingDesk.runAmong ⟨7⟩ (broughtIn (.status .completed))
      (broughtIn (.output (some "late".toList))) []).1 =
        .error (.rejected ⟨7⟩ "no service".toList) := by
  have hopen : rejectingDesk.register.get? ⟨7⟩ = some 0 := rfl
  obtain ⟨s, pump, s', pump', delivered, hs, -, -, hdelivered, hstill, -⟩ :=
    run_rejected_among orderly_rejectingDesk hopen rfl rfl (broughtIn (.status .completed))
      (broughtIn (.output (some "late".toList))) []
  refine (hstill ?_).1
  have hpending : pump.pending ((rejectingDesk.moveAll
      (broughtIn (.status .completed))).setStatus 0 .running).2.bus = [] := by
    cases hs.seat_eq
    cases hs.pump_eq
    rfl
  rw [hpending] at hdelivered
  have hrequests := congrArg (·.filterMap (·.news.status?)) hdelivered
  simp only [List.filterMap_append] at hrequests
  rw [(List.append_eq_nil_iff.mp hrequests.symm).1]
  rfl

/-- **A rejection can go unreported.** Between the first and the last step of a run the end of an
earlier one is delivered. The run reports a change of status that is not allowed, and the script
ends as if it had run. -/
theorem rejection_unreported :
    let (result, ended) := rejectingDesk.runAmong ⟨7⟩ [] (broughtIn (.status .completed)) []
    result = .error (.environment (.transition .completed .error)) ∧
      (ended.environment? 0).map (·.status) = some .completed :=
  ⟨rfl, rfl⟩

end Desk

end ScriptDesk
