import ScriptDesk.Proofs.Desk.Manuscripts

/-!
# Runs from end to end

A run without interruption has three steps, and for an open script each of them does what it is
meant to do: whatever the status is, it may become running (`Environment.changeStatus_running`), the
backend notes the program (`submit_eq`), and if it rejects it the status, which is running now, may
become error (`Environment.changeStatus_error`). So all that a run does can be said at once
(`Serving.run_eq`), and with it what observers see.
-/

namespace ScriptDesk

namespace Observer

/-- An observer that has read all sees of more notices what it would see without the earlier
ones. -/
theorem unread_append (capacity : Nat) (log notices : List Notice) :
    unread capacity (log ++ notices) log.length = unread capacity notices 0 := by
  have hmissed : (log ++ notices).length - kept capacity - log.length =
      notices.length - kept capacity - 0 := by
    rw [List.length_append]
    omega
  unfold unread
  simp only [hmissed]
  rw [List.drop_length_add_append, Nat.zero_add]

/-- As long as all notices are kept it sees them all. -/
theorem unread_of_length_le {capacity : Nat} {notices : List Notice}
    (h : notices.length ≤ kept capacity) : unread capacity notices 0 = notices.map .notice := by
  have hmissed : notices.length - kept capacity - 0 = 0 := by omega
  unfold unread
  simp only [hmissed, if_true, Nat.add_zero, List.drop_zero]

end Observer

namespace Backend

/-- What a run reports. -/
def answer (backend : Backend) (script : ScriptId) : Except SessionError Unit :=
  match backend.rejection with
  | none => .ok ()
  | some reasons => .error (.rejected script (Text.join ": ".toList reasons))

end Backend

namespace Desk

variable {desk : Desk} {script : ScriptId} {seat number : Nat} {s : Seat} {backend : Backend}

/-- A run that has begun ends with the rejection. -/
theorem failRun_of_begun {begun : Seat} (hseat : desk.seat? seat = some begun)
    (hlive : begun.environment.disposed = false) {environment : Environment}
    (hbegun : begun.environment = environment.afterRun false) (script : ScriptId) (reason : Text) :
    desk.failRun script seat reason =
      (.error (.rejected script reason), desk.setEnvironment seat (environment.afterRun true)) := by
  have hset := setStatus_of_live hseat hlive .error
  rw [hbegun, Environment.changeStatus_error] at hset
  unfold failRun
  rw [hset]

/-- **What a run does**, if there is a backend. -/
theorem Serving.run_eq (h : desk.Serving script seat s number)
    (hopen : desk.register.get? script = some seat) (hbackend : desk.backend = some backend) :
    desk.run script =
      (backend.answer script,
        { desk with
          backend := some (backend.handed script s.environment.document.program)
        }.setEnvironment seat (s.environment.afterRun backend.rejection.isSome)) := by
  have hbegin := setStatus_of_live h.seat_eq h.live .running
  rw [Environment.changeStatus_running] at hbegin
  -- the program is handed over when the status is running
  have hsubmit := submit_eq (show (desk.setEnvironment seat (s.environment.afterRun false)).backend =
    some backend from hbackend) script s.environment.document.program
  unfold run
  rw [h.prepareRun_eq hopen hbackend]
  simp only [hbegin, hsubmit]
  cases hrejection : backend.rejection with
  | none =>
    simp only [Option.map_none, Option.isSome_none, Backend.answer, hrejection]
    rfl
  | some reasons =>
    simp only [Option.map_some, Option.isSome_some, Backend.answer, hrejection]
    have hseat : ({ desk.setEnvironment seat (s.environment.afterRun false) with
        backend := some (backend.handed script s.environment.document.program) } : Desk).seat? seat =
          some { s with environment := s.environment.afterRun false } := by
      refine (seat?_modifySeat desk seat seat _).trans ?_
      rw [if_pos rfl, h.seat_eq]
      rfl
    rw [failRun_of_begun hseat h.live rfl]
    exact congrArg (Prod.mk _) (modifySeat_modifySeat { desk with backend := _ } seat _ _)

/-! ### What observers see -/

/-- Somebody knows an environment that is open. -/
theorem isKnown_of_open (hseat : desk.seat? seat = some s)
    (hopen : desk.register.get? script = some seat) : desk.isKnown seat = true := by
  have hentry := (desk.register.mem_entries_iff script seat).mpr hopen
  unfold isKnown
  simp only [hseat, Bool.or_eq_true, List.any_eq_true]
  exact .inr ⟨(script, seat), hentry, beq_self_eq_true seat⟩

/-- Who observes an open script and has read the first notices sees the others. -/
theorem observe_of_open (hseat : desk.seat? seat = some s)
    (hopen : desk.register.get? script = some seat) (read : Nat) :
    desk.observe seat read =
      (Observer.unread s.capacity s.environment.log read, s.environment.log.length) := by
  unfold observe
  simp only [hseat, isKnown_of_open hseat hopen, if_true]

/-- Who has read all that was told before a run sees what the run tells. -/
theorem Serving.observe_run (h : desk.Serving script seat s number)
    (hopen : desk.register.get? script = some seat) (hbackend : desk.backend = some backend) :
    ((desk.run script).2.observe seat s.environment.log.length).1 =
      Observer.unread s.capacity (s.environment.status.runNotices backend.rejection.isSome) 0 := by
  have hseat : (desk.run script).2.seat? seat =
      some { s with environment := s.environment.afterRun backend.rejection.isSome } := by
    rw [h.run_eq hopen hbackend]
    refine (seat?_modifySeat _ seat seat _).trans ?_
    rw [if_pos rfl]
    exact congrArg (Option.map _) h.seat_eq
  have hopen' : (desk.run script).2.register.get? script = some seat := by
    rw [(desk.proceeds_run script).register_eq, hopen]
  rw [observe_of_open hseat hopen']
  exact Observer.unread_append _ _ _

/-! ### Runs on any desk -/

theorem run_of_closed (h : desk.register.get? script = none) :
    desk.run script = (.error (.notOpen script), desk) := by
  have hopen : desk.openSeat script = .error (.notOpen script) := by
    unfold openSeat
    rw [h]
  unfold run prepareRun
  rw [hopen]
  rfl

theorem run_of_no_backend (h : desk.register.get? script = some seat)
    (hbackend : desk.backend = none) : desk.run script = (.error .noBackend, desk) := by
  unfold run prepareRun
  rw [openSeat_eq_ok_iff.mpr h, hbackend]
  rfl

/-- No change of the status is refused in a run. -/
theorem Orderly.run_ne_environment (h : desk.Orderly desk.register.get?) (script : ScriptId)
    (error : EnvironmentError) : (desk.run script).1 ≠ .error (.environment error) := by
  cases hopen : desk.register.get? script with
  | none =>
    rw [run_of_closed hopen]
    nofun
  | some seat =>
    cases hbackend : desk.backend with
    | none =>
      rw [run_of_no_backend hopen hbackend]
      nofun
    | some backend =>
      obtain ⟨s, number, hs⟩ := h.serving hopen
      rw [hs.run_eq hopen hbackend, Backend.answer]
      split <;> nofun

/-- A run of the script on the seat hands its program over to the backend. -/
structure HandsOver (desk : Desk) (script : ScriptId) (seat : Nat) (s : Seat) (backend : Backend) :
    Prop where
  /-- It is one program, that of the document as it is now. The run says whether it was rejected,
  and besides the backend only the environment is other than before. -/
  run_eq : desk.run script =
    (backend.answer script,
      { desk with
        backend :=
          some (backend.handed script
            (Program.ofScript s.environment.document.config s.environment.document.code))
      }.setEnvironment seat (s.environment.afterRun backend.rejection.isSome))
  /-- Who has read all notices before sees just those of the run, as far as they are kept. -/
  observe_eq : ((desk.run script).2.observe seat s.environment.log.length).1 =
    Observer.unread s.capacity (s.environment.status.runNotices backend.rejection.isSome) 0
  /-- If they are all kept, they are all seen. -/
  observe_eq_map :
    (s.environment.status.runNotices backend.rejection.isSome).length ≤ Observer.kept s.capacity →
      ((desk.run script).2.observe seat s.environment.log.length).1 =
        (s.environment.status.runNotices backend.rejection.isSome).map .notice

theorem Serving.handsOver (hs : desk.Serving script seat s number)
    (hopen : desk.register.get? script = some seat) (hbackend : desk.backend = some backend) :
    desk.HandsOver script seat s backend where
  run_eq := hs.run_eq hopen hbackend
  observe_eq := hs.observe_run hopen hbackend
  observe_eq_map hkept := by
    rw [hs.observe_run hopen hbackend, Observer.unread_of_length_le hkept]

/-- What a run of the script comes to on the desk. -/
structure RunsThrough (desk : Desk) (script : ScriptId) : Prop where
  /-- A change of the status is never refused. -/
  changes_status : ∀ error, (desk.run script).1 ≠ .error (.environment error)
  /-- If the script is not open, the run says so, and nothing is changed. -/
  not_open : desk.register.get? script = none → desk.run script = (.error (.notOpen script), desk)
  /-- Or else if there is no backend. -/
  no_backend : ∀ seat, desk.register.get? script = some seat → desk.backend = none →
    desk.run script = (.error .noBackend, desk)
  /-- Otherwise the program of the document on its seat is handed over. -/
  handed : ∀ seat, desk.register.get? script = some seat → ∃ s, desk.seat? seat = some s ∧
    ∀ backend, desk.backend = some backend → desk.HandsOver script seat s backend

/-- **A run hands over one program**, whatever was done before. It is that of the document as it is
now: since a time from which on the script was open, the edits of the document were made in order,
and nothing else has changed its settings or its code, be it saved or not. -/
theorem run_hands_over (settings : Settings) (service : Option Backend) (disk : Disk)
    (deeds : List Deed) (script : ScriptId) :
    let first := fresh settings service disk
    (first.workAll deeds).RunsThrough script ∧
      ∀ earlier later seat, deeds = earlier ++ later →
        (first.workAll earlier).register.get? script = some seat →
        (∀ deed ∈ later, deed.closes script = false) →
          (first.workAll earlier).Revises (first.workAll deeds) script seat
            (reviseAll script seat later) := by
  intro first
  have horderly : ∀ deeds, (first.workAll deeds).Orderly (first.workAll deeds).register.get? :=
    (orderly_fresh settings service disk).workAll
  refine ⟨⟨(horderly deeds).run_ne_environment script, run_of_closed,
    fun seat => run_of_no_backend, fun seat hopen => ?_⟩, ?_⟩
  · obtain ⟨s, number, hs⟩ := (horderly deeds).serving hopen
    exact ⟨s, hs.seat_eq, fun backend => hs.handsOver hopen⟩
  · rintro earlier later seat rfl hbefore hstays
    rw [workAll_append]
    exact (horderly earlier).revises_workAll later hbefore hstays

end Desk

end ScriptDesk
