import ScriptDesk.Proofs.Desk.Demultiplexing
import ScriptDesk.Proofs.Desk.Disposal
import ScriptDesk.Proofs.Desk.Order

/-!
# What was delivered, and what is left to a pump

Of the events about a script, those that were delivered have made its environment and its files what
they are, and the pump of its seat has still to deliver the others (`Desk.HasDelivered`). Moves keep
this account: publishing adds to what is left, the steps of the pump take from it what they deliver,
in order, and nothing else is lost or added (`HasDelivered.moveAll`). Nor does it matter when other
scripts are closed (`HasDelivered.close`).
-/

namespace ScriptDesk.Desk

open Environment

/-- The events `delivered` have made an environment and the files of its script what is found with
an attached seat, whose pump has still to deliver those in `waiting`. -/
def HasDelivered (desk : Desk) (seat : Nat) (environment : Environment) (files : Files)
    (delivered waiting : List Event) : Prop :=
  ∃ s pump, desk.Attached seat s pump ∧ pump.pending desk.bus = waiting ∧
    (s.environment, desk.files.ofScript environment.id) = environment.outcome files delivered

/-- Nobody uses a document, and the pumps have nothing to deliver. -/
def IsIdle (desk : Desk) : Prop :=
  ∀ seat s, desk.seat? seat = some s →
    s.documentHeld = false ∧ ∀ pump, s.pump = some pump → pump.pending desk.bus = []

variable {desk desk' : Desk} {seat : Nat} {environment : Environment} {files : Files}
  {delivered waiting : List Event}

/-- Opening a document gives nobody anything to do. -/
theorem IsIdle.getOrCreate (h : desk.IsIdle) (document : Document) :
    (desk.getOrCreate document).1.IsIdle := by
  cases hopen : desk.register.get? document.id with
  | some other =>
    rw [getOrCreate_of_open hopen]
    exact h
  | none =>
    obtain ⟨hbus, -, -, hseats⟩ := getOrCreate_new hopen
    intro seat s hs
    rw [hseats] at hs
    split at hs
    · cases hs
      refine ⟨rfl, ?_⟩
      rintro pump ⟨⟩
      rw [Pump.pending, Bus.queue, hbus, Bus.channel_subscribe, if_pos rfl]
      rfl
    · obtain ⟨hfree, hidle⟩ := h seat s hs
      refine ⟨hfree, fun pump hpump => ?_⟩
      obtain ⟨hwaiting, hqueue⟩ := List.append_eq_nil_iff.mp (hidle pump hpump)
      rw [Pump.pending, Bus.queue, hbus, Bus.channel_subscribe, hwaiting]
      split
      · rfl
      · exact hqueue

/-- Publishing changes no seat. -/
theorem seats_publishAll (events : List Event) :
    ∀ desk : Desk, (desk.publishAll events).seats = desk.seats := by
  induction events with
  | nil => exact fun _ => rfl
  | cons event events ih => exact fun desk => ih (desk.publish event).1

/-- The seat is that of the same script. -/
theorem id_of_outcome {s : Seat}
    (h : (s.environment, desk.files.ofScript environment.id) =
      environment.outcome files delivered) : s.environment.id = environment.id :=
  (congrArg (·.1.id) h).trans (id_deliverAll delivered environment files)

theorem HasDelivered.environment?_eq
    (h : desk.HasDelivered seat environment files delivered waiting) :
    desk.environment? seat = some (environment.deliverAll files delivered).1 := by
  obtain ⟨s, pump, hs, -, houtcome⟩ := h
  refine (congrArg (Option.map _) hs.seat_eq).trans (congrArg some ?_)
  exact congrArg Prod.fst houtcome

theorem HasDelivered.publish (h : desk.HasDelivered seat environment files delivered waiting)
    (hwired : desk.Wired) (event : Event) :
    (desk.publish event).1.HasDelivered seat environment files delivered
      (waiting ++ [event].filter (·.script = environment.id)) := by
  obtain ⟨s, pump, hs, hpending, houtcome⟩ := h
  refine ⟨s, pump, ⟨hs.seat_eq, hs.pump_eq⟩, ?_, houtcome⟩
  rw [hwired.pending_publish hs, hpending, id_of_outcome houtcome]
  by_cases hscript : event.script = environment.id <;> simp [hscript]

/-- Without a pump at work, what is published is left to it. -/
theorem HasDelivered.publishAll (events : List Event) :
    ∀ {desk : Desk} {waiting : List Event},
      desk.HasDelivered seat environment files delivered waiting → desk.Wired →
      (desk.publishAll events).HasDelivered seat environment files delivered
        (waiting ++ events.filter (·.script = environment.id)) := by
  induction events with
  | nil =>
    intro desk waiting h _
    rwa [List.filter_nil, List.append_nil]
  | cons event events ih =>
    intro desk waiting h hwired
    have hrest := ih (h.publish hwired event) (hwired.publish event)
    rwa [List.append_assoc, ← List.filter_append] at hrest

/-- What the pump of the seat delivers it takes from what is left to it. -/
theorem HasDelivered.advance (h : desk.HasDelivered seat environment files delivered waiting)
    (hwired : desk.Wired) {other : Nat} {o : Seat} {p p' : Pump} {taken : Option Event}
    (hadvance : desk.Advance desk' other o p p' taken) :
    ∃ more waiting', waiting = more ++ waiting' ∧
      desk'.HasDelivered seat environment files (delivered ++ more) waiting' := by
  obtain ⟨s, pump, hs, hpending, houtcome⟩ := h
  have hid := id_of_outcome houtcome
  by_cases hother : seat = other
  · subst hother
    obtain ⟨rfl, rfl⟩ := hs.unique hadvance.attached
    refine ⟨taken.toList, p'.pending desk'.bus, hpending ▸ hadvance.pending_eq, _, p',
      hadvance.attached_after, rfl, ?_⟩
    have houtcome' : o.environment.outcome desk.files taken.toList =
        environment.outcome files (delivered ++ taken.toList) := by
      obtain ⟨henvironment, hfiles⟩ := Prod.mk.inj houtcome
      rw [outcome_append, ← henvironment]
      exact outcome_congr _ _ (hid ▸ hfiles)
    rw [← houtcome', outcome, hadvance.files_eq, hid]
  · obtain ⟨hs', hpending', hfiles⟩ := hadvance.frame hwired hs hother
    refine ⟨[], waiting, rfl, s, pump, hs', hpending'.trans hpending, ?_⟩
    rw [hid] at hfiles
    rw [List.append_nil, hfiles]
    exact houtcome

theorem HasDelivered.move (h : desk.HasDelivered seat environment files delivered waiting)
    (hwired : desk.Wired) (first : Move) :
    ∃ more waiting', waiting ++ (published [first]).filter (·.script = environment.id) =
        more ++ waiting' ∧
      (desk.move first).HasDelivered seat environment files (delivered ++ more) waiting' := by
  have hstill : desk.HasDelivered seat environment files (delivered ++ []) waiting := by
    rwa [List.append_nil]
  cases first with
  | publish event =>
    refine ⟨[], _, rfl, ?_⟩
    rw [List.append_nil]
    exact h.publish hwired event
  | take other =>
    rw [Desk.move, show published [.take other] = [] from rfl, List.filter_nil, List.append_nil]
    cases htake : desk.takeNext? other with
    | none => exact ⟨[], waiting, rfl, hstill⟩
    | some desk' =>
      obtain ⟨o, p, p', hadvance⟩ := advance_of_takeNext? htake
      exact h.advance hwired hadvance
  | pump other =>
    rw [Desk.move, show published [.pump other] = [] from rfl, List.filter_nil, List.append_nil]
    cases hstep : desk.pumpStep? other with
    | none => exact ⟨[], waiting, rfl, hstill⟩
    | some result =>
      obtain ⟨desk', refusal⟩ := result
      obtain ⟨o, p, p', taken, hadvance⟩ := advance_of_pumpStep? hstep
      exact h.advance hwired hadvance
  | hold other held =>
    refine ⟨[], waiting, by simp [published], ?_⟩
    obtain ⟨s, pump, hs, hpending, houtcome⟩ := hstill
    by_cases hother : seat = other
    · refine ⟨{ s with documentHeld := held }, pump, ⟨?_, hs.pump_eq⟩, hpending, houtcome⟩
      rw [Desk.move, seat?_hold, if_pos hother, ← hother, hs.seat_eq]
      rfl
    · refine ⟨s, pump, ⟨?_, hs.pump_eq⟩, hpending, houtcome⟩
      rw [Desk.move, seat?_hold, if_neg hother]
      exact hs.seat_eq

/-- **Moves lose no event**: what was left to the pump or has been published is delivered in order
or is left to the pump. -/
theorem HasDelivered.moveAll (moves : List Move) :
    ∀ {desk : Desk} {delivered waiting : List Event},
      desk.HasDelivered seat environment files delivered waiting → desk.Wired →
      ∃ more waiting', waiting ++ (published moves).filter (·.script = environment.id) =
          more ++ waiting' ∧
        (desk.moveAll moves).HasDelivered seat environment files (delivered ++ more) waiting' := by
  induction moves with
  | nil =>
    intro desk delivered waiting h _
    exact ⟨[], waiting, by simp [published], by rwa [List.append_nil]⟩
  | cons first rest ih =>
    intro desk delivered waiting h hwired
    obtain ⟨more, waiting', hmore, h'⟩ := h.move hwired first
    obtain ⟨more', waiting'', hmore', h''⟩ := ih h' (hwired.move first).1
    refine ⟨more ++ more', waiting'', ?_, by rwa [← List.append_assoc]⟩
    rw [published_cons, List.filter_append, ← List.append_assoc, hmore, List.append_assoc, hmore',
      List.append_assoc]

/-- While nobody else uses its document, the pump can deliver all that is left to it. -/
theorem HasDelivered.of_pumps (h : desk.HasDelivered seat environment files delivered waiting)
    (hwired : desk.Wired) (hfree : ∀ s, desk.seat? seat = some s → s.documentHeld = false) :
    ∃ steps, (desk.moveAll (List.replicate steps (.pump seat))).HasDelivered seat environment files
      (delivered ++ waiting) [] := by
  obtain ⟨s, pump, hs, hpending, -⟩ := id h
  refine ⟨(pump.pending desk.bus).length, ?_⟩
  have hdrained := isDrained_of_pumps _ hs (hfree s hs.seat_eq) rfl
  obtain ⟨more, waiting', hmore, h'⟩ :=
    h.moveAll (List.replicate (pump.pending desk.bus).length (.pump seat)) hwired
  obtain ⟨s', pump', hs', hpending', -⟩ := id h'
  have hrest : waiting' = [] := hpending'.symm.trans (hdrained s' pump' hs')
  subst hrest
  rw [published_pumps, List.filter_nil, List.append_nil, List.append_nil] at hmore
  rwa [hmore]

/-- Closing another script concerns neither the seat nor its channel and files. -/
theorem HasDelivered.close (h : desk.HasDelivered seat environment files delivered waiting)
    (hwired : desk.Wired) {script : ScriptId} {other number : Nat} {o : Seat}
    (ho : desk.Serving script other o number) (hne : script ≠ environment.id) :
    ((desk.dispose other).forget script).1.HasDelivered seat environment files delivered
      waiting := by
  obtain ⟨s, pump, hs, hpending, houtcome⟩ := h
  have hid := id_of_outcome houtcome
  have hseat : seat ≠ other := by
    rintro rfl
    cases hs.seat_eq.symm.trans ho.seat_eq
    exact hne (ho.id_eq.symm.trans hid)
  have hchannel : pump.channel ≠ number := by
    rintro rfl
    exact hne ((ho.feeds.script_eq (hwired.feeds hs)).trans hid)
  rw [ho.closed_eq]
  refine ⟨s, pump, ⟨?_, hs.pump_eq⟩, ?_, ?_⟩
  · rw [seat?_modifySeat, if_neg hseat]
    exact hs.seat_eq
  · rw [← hpending, Pump.pending, Pump.pending, Bus.queue, Bus.queue, modifySeat,
      Bus.channel_stopReceiving, if_neg hchannel]
    rfl
  · refine Eq.trans (congrArg (s.environment, ·) ?_) houtcome
    exact (Files.ofScript_forget desk.files script environment.id).trans (if_neg (Ne.symm hne))

end ScriptDesk.Desk
