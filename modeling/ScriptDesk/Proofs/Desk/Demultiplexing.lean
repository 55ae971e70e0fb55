import ScriptDesk.Proofs.Desk.Wiring

/-!
# What the events come to, whatever the order

Events are published and the pumps of the attached seats go on, in any order (`Desk.Move`). A pump
may be interrupted between taking an event and delivering it, and it waits with an event that needs
the document while someone else uses that.

What does not change is what a seat will come to when its pump has delivered everything that is
pending (`Desk.prospect`): a step of its own pump leaves it as it is, steps of others cannot be
noticed, and publishing adds the event to what is pending if it is about the script. So after any
run in which the pump has caught up, the environment and the files of the script are what delivering
the script's own events in the order of publication makes of them (`moveAll_eq_deliverAll`).
-/

namespace ScriptDesk.Desk

open Environment

/-! ### Moves -/

/-- What happens while events come in. -/
inductive Move where
  /-- An event is published. -/
  | publish (event : Event)
  /-- The pump of a seat takes an event and is interrupted. -/
  | take (seat : Nat)
  /-- The pump of a seat makes a step. -/
  | pump (seat : Nat)
  /-- Someone begins to use the document of a seat, or ceases to. -/
  | hold (seat : Nat) (held : Bool)

/-- The desk after a move. Where a pump cannot go on nothing happens. -/
def move (desk : Desk) : Move → Desk
  | .publish event => (desk.publish event).1
  | .take seat => (desk.takeNext? seat).getD desk
  | .pump seat => ((desk.pumpStep? seat).map (·.1)).getD desk
  | .hold seat held => desk.hold seat held

/-- The desk after moves in order. -/
def moveAll (desk : Desk) : List Move → Desk
  | [] => desk
  | first :: rest => (desk.move first).moveAll rest

/-- The events that are published, in order. -/
def published : List Move → List Event
  | [] => []
  | .publish event :: rest => event :: published rest
  | _ :: rest => published rest

/-- The pump of a seat, if it has one, has nothing to deliver. -/
def IsDrained (desk : Desk) (seat : Nat) : Prop :=
  ∀ s pump, desk.Attached seat s pump → pump.pending desk.bus = []

/-! ### What a seat will come to -/

/-- What a seat comes to when its pump has delivered what is pending, and then other events. -/
def prospect (desk : Desk) (s : Seat) (pump : Pump) (events : List Event) :
    Environment × Table Text TrackedFile :=
  s.environment.outcome desk.files (pump.pending desk.bus ++ events)

/-- Attached seats stay attached, and with the events that were published between the two desks what
they will come to is the same. -/
def Keeps (desk desk' : Desk) (events : List Event) : Prop :=
  ∀ seat s pump, desk.Attached seat s pump → ∃ s' pump', desk'.Attached seat s' pump' ∧
    s'.environment.id = s.environment.id ∧
      ∀ later, desk'.prospect s' pump' later = desk.prospect s pump (events ++ later)

theorem Keeps.refl (desk : Desk) : desk.Keeps desk [] :=
  fun _ s pump hs => ⟨s, pump, hs, rfl, fun _ => rfl⟩

theorem Keeps.trans {first second third : Desk} {events later : List Event}
    (h : first.Keeps second events) (hlater : second.Keeps third later) :
    first.Keeps third (events ++ later) := by
  intro seat s pump hs
  obtain ⟨s', pump', hs', hid, hprospect⟩ := h seat s pump hs
  obtain ⟨s'', pump'', hs'', hid', hprospect'⟩ := hlater seat s' pump' hs'
  refine ⟨s'', pump'', hs'', hid'.trans hid, fun rest => ?_⟩
  rw [hprospect', hprospect, List.append_assoc]

/-- Publishing adds an event to what is pending for the seat of its script. -/
theorem Wired.pending_publish {desk : Desk} (h : desk.Wired) {seat : Nat} {s : Seat} {pump : Pump}
    (hs : desk.Attached seat s pump) (event : Event) :
    pump.pending (desk.publish event).1.bus =
      pump.pending desk.bus ++ if event.script = s.environment.id then [event] else [] := by
  unfold Pump.pending
  rw [List.append_assoc]
  exact congrArg (_ ++ ·) ((h.feeds hs).queue_publish event)

theorem Wired.keeps_publish {desk : Desk} (h : desk.Wired) (event : Event) :
    desk.Keeps (desk.publish event).1 [event] := by
  intro seat s pump hs
  refine ⟨s, pump, ⟨hs.seat_eq, hs.pump_eq⟩, rfl, fun later => ?_⟩
  have hpending := h.pending_publish hs event
  have hfilter : (pump.pending (desk.publish event).1.bus ++ later).filter
      (·.script = s.environment.id) =
        (pump.pending desk.bus ++ ([event] ++ later)).filter (·.script = s.environment.id) := by
    rw [hpending]
    by_cases hscript : event.script = s.environment.id
    · rw [if_pos hscript, List.append_assoc]
    · rw [if_neg hscript]
      simp [hscript]
  calc s.environment.outcome desk.files (pump.pending (desk.publish event).1.bus ++ later)
      = s.environment.outcome desk.files
          ((pump.pending (desk.publish event).1.bus ++ later).filter
            (·.script = s.environment.id)) := (outcome_filter _ _ _).symm
    _ = s.environment.outcome desk.files
          ((pump.pending desk.bus ++ ([event] ++ later)).filter
            (·.script = s.environment.id)) := by rw [hfilter]
    _ = s.environment.outcome desk.files (pump.pending desk.bus ++ ([event] ++ later)) :=
      outcome_filter _ _ _

/-- A step of a pump is nothing that other seats could notice. -/
theorem Advance.frame {desk desk' : Desk} {seat other : Nat} {s o : Seat} {pump pump' p : Pump}
    {delivered : Option Event} (h : desk.Advance desk' seat s pump pump' delivered)
    (hwired : desk.Wired) (ho : desk.Attached other o p) (hother : other ≠ seat) :
    desk'.Attached other o p ∧ p.pending desk'.bus = p.pending desk.bus ∧
      desk'.files.ofScript o.environment.id = desk.files.ofScript o.environment.id := by
  refine ⟨⟨?_, ho.pump_eq⟩, ?_, ?_⟩
  · rw [h.seat?_eq, if_neg hother]
    exact ho.seat_eq
  · unfold Pump.pending
    rw [h.others _ (hwired.channel_ne ho h.attached hother)]
  · have hscript : o.environment.id ≠ s.environment.id := by
      intro heq
      exact hother (hwired.distinct ho h.attached heq)
    rw [h.files_eq]
    exact ofScript_deliverAll_of_ne delivered.toList s.environment desk.files hscript

/-- So it leaves what each seat will come to: it delivers what is pending for its own. -/
theorem Advance.keeps {desk desk' : Desk} {seat : Nat} {s : Seat} {pump pump' : Pump}
    {delivered : Option Event} (h : desk.Advance desk' seat s pump pump' delivered)
    (hwired : desk.Wired) : desk.Keeps desk' [] := by
  intro other o p ho
  by_cases hother : other = seat
  · subst hother
    obtain ⟨rfl, rfl⟩ := h.attached.unique ho
    refine ⟨_, pump', h.attached_after, id_deliverAll _ _ _, fun later => ?_⟩
    unfold prospect
    rw [List.nil_append, h.pending_eq, List.append_assoc,
      outcome_append o.environment desk.files delivered.toList, h.files_eq]
  · obtain ⟨ho', hpending, hfiles⟩ := h.frame hwired ho hother
    refine ⟨o, p, ho', rfl, fun later => ?_⟩
    unfold prospect
    rw [List.nil_append, hpending]
    exact outcome_congr _ o.environment hfiles

theorem keeps_hold (desk : Desk) (seat : Nat) (held : Bool) :
    desk.Keeps (desk.hold seat held) [] := by
  intro other o p ho
  by_cases hother : other = seat
  · refine ⟨{ o with documentHeld := held }, p, ⟨?_, ho.pump_eq⟩, rfl, fun later => rfl⟩
    rw [seat?_hold, if_pos hother, ← hother, ho.seat_eq]
    rfl
  · refine ⟨o, p, ⟨?_, ho.pump_eq⟩, rfl, fun later => rfl⟩
    rw [seat?_hold, if_neg hother]
    exact ho.seat_eq

/-! ### Runs -/

/-- One move keeps the wiring and what each seat will come to. -/
theorem Wired.move {desk : Desk} (h : desk.Wired) (first : Move) :
    (desk.move first).Wired ∧ desk.Keeps (desk.move first) (published [first]) := by
  cases first with
  | publish event => exact ⟨h.publish event, h.keeps_publish event⟩
  | take seat =>
    simp only [Desk.move]
    cases htake : desk.takeNext? seat with
    | none => exact ⟨h, Keeps.refl desk⟩
    | some desk' =>
      obtain ⟨s, pump, pump', hadvance⟩ := advance_of_takeNext? htake
      exact ⟨hadvance.wired h, hadvance.keeps h⟩
  | pump seat =>
    simp only [Desk.move]
    cases hstep : desk.pumpStep? seat with
    | none => exact ⟨h, Keeps.refl desk⟩
    | some result =>
      obtain ⟨desk', refusal⟩ := result
      obtain ⟨s, pump, pump', delivered, hadvance⟩ := advance_of_pumpStep? hstep
      exact ⟨hadvance.wired h, hadvance.keeps h⟩
  | hold seat held => exact ⟨h.hold seat held, desk.keeps_hold seat held⟩

theorem published_cons (first : Move) (rest : List Move) :
    published (first :: rest) = published [first] ++ published rest := by
  cases first with
  | publish event => rfl
  | take seat => rfl
  | pump seat => rfl
  | hold seat held => rfl

theorem published_append (moves others : List Move) :
    published (moves ++ others) = published moves ++ published others := by
  induction moves with
  | nil => rfl
  | cons first moves ih =>
    rw [List.cons_append, published_cons, published_cons first moves, ih, List.append_assoc]

theorem moveAll_append (moves others : List Move) (desk : Desk) :
    desk.moveAll (moves ++ others) = (desk.moveAll moves).moveAll others := by
  induction moves generalizing desk with
  | nil => rfl
  | cons first moves ih => exact ih (desk.move first)

/-- So do many moves. -/
theorem Wired.moveAll (moves : List Move) :
    ∀ {desk : Desk}, desk.Wired →
      (desk.moveAll moves).Wired ∧ desk.Keeps (desk.moveAll moves) (published moves) := by
  induction moves with
  | nil => intro desk h; exact ⟨h, Keeps.refl desk⟩
  | cons first rest ih =>
    intro desk h
    obtain ⟨hwired, hkeeps⟩ := h.move first
    obtain ⟨hwired', hkeeps'⟩ := ih hwired
    rw [published_cons]
    exact ⟨hwired', hkeeps.trans hkeeps'⟩

/-- What a seat has come to when its pump has nothing left to deliver. -/
theorem Wired.outcome_of_isDrained {desk : Desk} (h : desk.Wired) {seat : Nat} {s : Seat}
    {pump : Pump} (hs : desk.Attached seat s pump) {moves : List Move}
    (hdrained : (desk.moveAll moves).IsDrained seat) :
    ∃ s', (desk.moveAll moves).seat? seat = some s' ∧
      (s'.environment, (desk.moveAll moves).files.ofScript s.environment.id) =
        s.environment.outcome desk.files
          ((pump.pending desk.bus ++ published moves).filter (·.script = s.environment.id)) := by
  obtain ⟨-, hkeeps⟩ := h.moveAll moves
  obtain ⟨s', pump', hs', hid, hprospect⟩ := hkeeps seat s pump hs
  refine ⟨s', hs'.seat_eq, ?_⟩
  have hnow := hprospect []
  unfold prospect at hnow
  rw [hdrained s' pump' hs', List.append_nil, List.append_nil] at hnow
  rw [outcome_filter, ← hnow, ← hid]
  rfl

/-- **Whatever the order, each script gets its own events.** After any moves that leave the pump of
an attached seat without anything to deliver, its environment and its script's files are what
delivering the events about the script one after the other makes of them: those that were pending
first and then those published. Events that cannot be applied are skipped. So moves that publish the
same events about the script, in the same order, come to the same for it. -/
theorem moveAll_eq_outcome {desk : Desk} (hwired : desk.Wired) {seat : Nat} {s : Seat}
    {pump : Pump} (hs : desk.Attached seat s pump) (moves : List Move)
    (hdrained : (desk.moveAll moves).IsDrained seat) :
    ∃ s', (desk.moveAll moves).seat? seat = some s' ∧
      (s'.environment, (desk.moveAll moves).files.ofScript s.environment.id) =
        s.environment.outcome desk.files
          ((pump.pending desk.bus ++ published moves).filter (·.script = s.environment.id)) ∧
      ∀ others, (desk.moveAll others).IsDrained seat →
        (published others).filter (·.script = s.environment.id) =
          (published moves).filter (·.script = s.environment.id) →
        ∃ o', (desk.moveAll others).seat? seat = some o' ∧ o'.environment = s'.environment ∧
          (desk.moveAll others).files.ofScript s.environment.id =
            (desk.moveAll moves).files.ofScript s.environment.id := by
  obtain ⟨s', hs', houtcome⟩ := hwired.outcome_of_isDrained hs hdrained
  refine ⟨s', hs', houtcome, fun others hothers hsame => ?_⟩
  obtain ⟨o', ho', houtcome'⟩ := hwired.outcome_of_isDrained hs hothers
  rw [List.filter_append, hsame, ← List.filter_append, ← houtcome] at houtcome'
  obtain ⟨henvironment, hfiles⟩ := Prod.mk.inj houtcome'
  exact ⟨o', ho', henvironment, hfiles⟩

/-- Two scripts on a desk; the first one has a file. -/
def sampleDesk : Desk :=
  (empty { scriptsDirectory := [] }).openAll
    [{ id := ⟨1⟩, name := "a".toList, path := some "/a.spad".toList },
     { id := ⟨2⟩, name := "b".toList }]

/-- While the document of the first script is in use, its file is renamed. Its pump waits with that
event, and with the output behind it; the other pump goes on. -/
def sampleMoves : List Move :=
  [.hold 0 true,
   .publish ⟨⟨1⟩, .file (.renamed "a.spad".toList "c.spad".toList)⟩,
   .publish ⟨⟨2⟩, .output (some "first".toList)⟩,
   .publish ⟨⟨1⟩, .output (some "late".toList)⟩,
   .pump 0, .take 1, .pump 0, .pump 1,
   .hold 0 false, .pump 0, .pump 0]

theorem moveAll_eq_outcome_sample :
    ∃ s', (sampleDesk.moveAll sampleMoves).seat? 0 = some s' ∧
      s'.environment.document.name = "c".toList ∧ s'.environment.output = ["late".toList] := by
  have hwired : sampleDesk.Wired := ((tidy_empty _).openAll _).wired
  have hs : sampleDesk.Attached 0 _ _ := ⟨rfl, rfl⟩
  have hdrained : (sampleDesk.moveAll sampleMoves).IsDrained 0 := by
    rintro s pump ⟨hseat, hpump⟩
    cases hseat
    cases hpump
    rfl
  obtain ⟨s', hs', houtcome, -⟩ := moveAll_eq_outcome hwired hs sampleMoves hdrained
  have henvironment := congrArg Prod.fst houtcome
  refine ⟨s', hs', ?_, ?_⟩
  · exact congrArg (·.document.name) henvironment
  · exact congrArg (·.output) henvironment

/-! ### Catching up -/

theorem isDrained_of_pending {desk : Desk} {seat : Nat} {s : Seat} {pump : Pump}
    (hs : desk.Attached seat s pump) (hpending : pump.pending desk.bus = []) :
    desk.IsDrained seat := by
  intro o p ho
  obtain ⟨rfl, rfl⟩ := hs.unique ho
  exact hpending

/-- While nobody else uses the document, a pump needs as many steps as there are events pending. -/
theorem isDrained_of_pumps {seat : Nat} (steps : Nat) :
    ∀ {desk : Desk} {s : Seat} {pump : Pump}, desk.Attached seat s pump → s.documentHeld = false →
      (pump.pending desk.bus).length = steps →
        (desk.moveAll (List.replicate steps (.pump seat))).IsDrained seat := by
  induction steps with
  | zero =>
    intro desk s pump hs _ hlength
    exact isDrained_of_pending hs (List.length_eq_zero_iff.mp hlength)
  | succ steps ih =>
    intro desk s pump hs hfree hlength
    have hpending : pump.pending desk.bus ≠ [] := by
      intro hnil
      rw [hnil] at hlength
      cases hlength
    obtain ⟨desk', refusal, pump', event, hstep, hadvance⟩ := exists_pumpStep? hs hfree hpending
    have hmove : desk.move (.pump seat) = desk' := by
      simp only [move, hstep]
      rfl
    have hrest : (pump'.pending desk'.bus).length = steps := by
      rw [hadvance.pending_eq] at hlength
      exact Nat.succ.inj hlength
    rw [List.replicate_succ, moveAll, hmove]
    exact ih hadvance.attached_after hfree hrest

theorem published_pumps (seat steps : Nat) :
    published (List.replicate steps (.pump seat)) = [] := by
  induction steps with
  | zero => rfl
  | succ steps ih => exact ih

/-- Every pump can catch up: when the document of its seat is released, without other events. -/
theorem exists_isDrained {desk : Desk} {seat : Nat} {s : Seat} {pump : Pump}
    (hs : desk.Attached seat s pump) :
    ∃ moves, published moves = [] ∧ (desk.moveAll moves).IsDrained seat := by
  let free : Seat := { s with documentHeld := false }
  have hfree : (desk.hold seat false).Attached seat free pump := by
    refine ⟨?_, hs.pump_eq⟩
    rw [seat?_hold, if_pos rfl, hs.seat_eq]
    rfl
  have hpumps := isDrained_of_pumps _ hfree rfl rfl
  exact ⟨.hold seat false :: List.replicate _ (.pump seat), published_pumps _ _, hpumps⟩

end ScriptDesk.Desk
