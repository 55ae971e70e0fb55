import ScriptDesk.Daemon.Task
import ScriptDesk.Desk.Feed
import ScriptDesk.Proofs.Desk.Demultiplexing
import ScriptDesk.Proofs.Service.Framing

/-!
# From the lines to the desk

The reader and the bridge work in turn, in any order, and between their steps pumps and loggers do.
The events that were not yet published, in the stream or in lines that were not yet read, are
`Daemon.coming`. A step of the reader leaves them as they are, and a step of the bridge publishes
the first of them or finds that there are none. So for the desk a run of the daemon is a row of
moves that publishes what is coming (`Forwards`), and when the bridge has noticed the end of the
stream nothing is coming any more (`exists_forwards`).

Main statement: `Stream.forwards_events`.
-/

namespace ScriptDesk

namespace Daemon

open Desk (Move published published_append moveAll_append)

/-- The events that are still to be published. -/
def coming (daemon : Daemon) : List Event :=
  daemon.stream ++ if daemon.readerDone then [] else Stream.eventsOf daemon.lines

/-- The closer has not begun. -/
def IsServing (daemon : Daemon) : Prop :=
  daemon.phase = .serving ∨ daemon.phase = .ended

/-- When the bridge is done, there is nothing left to publish. -/
def IsSettled (daemon : Daemon) : Prop :=
  daemon.phase = .serving ∨ daemon.coming = []

/-! ### Steps -/

/-- The reader takes an event from the lines to the stream, or passes over a line. -/
theorem coming_readerStep? {daemon daemon' : Daemon} (h : daemon.readerStep? = some daemon') :
    daemon'.desk = daemon.desk ∧ daemon'.phase = daemon.phase ∧
      daemon'.coming = daemon.coming := by
  rw [readerStep?] at h
  split at h
  · cases h
  · rename_i hreading
    have hcoming : daemon.coming = daemon.stream ++ Stream.eventsOf daemon.lines := by
      rw [coming, if_neg hreading]
    rw [hcoming]
    split at h
    · rename_i hlines
      cases h
      exact ⟨rfl, rfl, by simp [coming, hlines, Stream.eventsOf]⟩
    · rename_i bytes lines hlines
      rw [hlines, Stream.eventsOf_cons]
      rcases Stream.line_cases bytes with ⟨htext, fault, hline⟩ | ⟨htext, hevent, hline | hline⟩ |
        ⟨htext, event, hevent, hline⟩
      all_goals simp only [hline] at h
      · cases h
        exact ⟨rfl, rfl, by simp [coming, record, htext]⟩
      · cases h
        exact ⟨rfl, rfl, by simp [coming, hreading, htext, hevent]⟩
      · cases h
        exact ⟨rfl, rfl, by simp [coming, record, hreading, htext, hevent]⟩
      · split at h
        · cases h
          exact ⟨rfl, rfl, by simp [coming, hreading, htext, hevent]⟩
        · cases h

/-- The bridge publishes the first event that is coming, or finds that there is none. -/
theorem coming_bridgeStep? {daemon daemon' : Daemon} (h : daemon.bridgeStep? = some daemon') :
    daemon.phase = .serving ∧
      ((∃ event, daemon'.desk = (daemon.desk.publish event).1 ∧ daemon'.phase = .serving ∧
          daemon.coming = event :: daemon'.coming) ∨
        (daemon'.desk = daemon.desk ∧ daemon'.phase = .ended ∧ daemon.coming = [] ∧
          daemon'.coming = [])) := by
  rw [bridgeStep?] at h
  split at h
  · rename_i hphase
    refine ⟨hphase, ?_⟩
    split at h
    · rename_i event stream hstream
      cases h
      refine .inl ⟨event, rfl, hphase, ?_⟩
      rw [coming, hstream, List.cons_append]
      rfl
    · rename_i hstream
      split at h
      · rename_i hdone
        cases h
        exact .inr ⟨rfl, rfl, by simp [coming, hstream, hdone], by simp [coming, hstream, hdone]⟩
      · cases h
  · cases h

theorem coming_pumpStep? {daemon daemon' : Daemon} {seat : Nat}
    (h : daemon.pumpStep? seat = some daemon') :
    daemon'.desk = daemon.desk.move (.pump seat) ∧ daemon'.phase = daemon.phase ∧
      daemon'.coming = daemon.coming := by
  obtain ⟨⟨desk, refusal⟩, hstep, rfl⟩ := Option.map_eq_some_iff.mp h
  refine ⟨?_, rfl, rfl⟩
  rw [Desk.move, hstep]
  rfl

theorem coming_loggerStep? {daemon daemon' : Daemon} {number : Nat}
    (h : daemon.loggerStep? number = some daemon') :
    daemon'.desk = daemon.desk ∧ daemon'.phase = daemon.phase ∧
      daemon'.coming = daemon.coming := by
  obtain ⟨logger, -, h⟩ := Option.bind_eq_some_iff.mp h
  dsimp only at h
  split at h
  · cases h
  · cases h
    exact ⟨rfl, rfl, rfl⟩

/-- Once the closer has begun, it goes on; it publishes nothing. -/
theorem coming_closerStep? {daemon daemon' : Daemon} (h : daemon.closerStep? = some daemon') :
    daemon.phase ≠ .serving ∧ ¬ daemon'.IsServing ∧ daemon'.coming = daemon.coming := by
  rw [closerStep?] at h
  split at h
  · cases h
  · cases h
  all_goals
    rename_i hphase
    cases h
    refine ⟨by simp [hphase], ?_, rfl⟩
    rintro (h | h) <;> cases h

/-! ### Runs -/

theorem perform_cons_none {daemon : Daemon} {task : Task} (h : daemon.step? task = none)
    (tasks : List Task) : daemon.perform (task :: tasks) = daemon.perform tasks := by
  rw [perform, h]
  rfl

theorem perform_cons_some {daemon daemon' : Daemon} {task : Task}
    (h : daemon.step? task = some daemon') (tasks : List Task) :
    daemon.perform (task :: tasks) = daemon'.perform tasks := by
  rw [perform, h]
  rfl

/-- What every step keeps is kept by runs. -/
theorem perform_of_step? {P : Daemon → Prop}
    (hkept : ∀ {daemon task daemon'}, P daemon → daemon.step? task = some daemon' → P daemon')
    {tasks : List Task} : ∀ {daemon : Daemon}, P daemon → P (daemon.perform tasks) := by
  induction tasks with
  | nil => exact id
  | cons task tasks ih =>
    intro daemon h
    cases hstep : daemon.step? task with
    | none =>
      rw [perform_cons_none hstep]
      exact ih h
    | some daemon' =>
      rw [perform_cons_some hstep]
      exact ih (hkept h hstep)

/-- Once the bridge is done, nothing more comes. -/
theorem IsSettled.step? {daemon daemon' : Daemon} (h : daemon.IsSettled) {task : Task}
    (hstep : daemon.step? task = some daemon') : daemon'.IsSettled := by
  -- all tasks but bridge and closer leave the phase and what is coming
  have hkeeps : daemon'.phase = daemon.phase ∧ daemon'.coming = daemon.coming →
      daemon'.IsSettled := by
    rintro ⟨hphase, hcoming⟩
    rwa [IsSettled, hphase, hcoming]
  cases task with
  | reader => exact hkeeps (coming_readerStep? hstep).2
  | bridge =>
    obtain ⟨-, ⟨event, -, hphase, -⟩ | ⟨-, -, -, hcoming⟩⟩ := coming_bridgeStep? hstep
    · exact .inl hphase
    · exact .inr hcoming
  | pump seat => exact hkeeps (coming_pumpStep? hstep).2
  | logger number => exact hkeeps (coming_loggerStep? hstep).2
  | closer =>
    obtain ⟨hphase, -, hcoming⟩ := coming_closerStep? hstep
    exact .inr (hcoming.trans (h.resolve_left hphase))

theorem IsSettled.perform {daemon : Daemon} (h : daemon.IsSettled) {tasks : List Task} :
    (daemon.perform tasks).IsSettled :=
  perform_of_step? (fun h hstep => h.step? hstep) h

/-- For the desk, what happened between the two is `moves`, and they publish the events that were
coming. -/
structure Forwards (daemon daemon' : Daemon) (moves : List Move) : Prop where
  /-- The desk has made the moves. -/
  desk : daemon'.desk = daemon.desk.moveAll moves
  /-- What they publish was coming. -/
  coming : daemon.coming = published moves ++ daemon'.coming

/-- A move of a schedule: an event is published, or one of its pumps makes a step. -/
def IsMoveOf (tasks : List Task) : Move → Prop
  | .publish _ => True
  | .pump seat => .pump seat ∈ tasks
  | .take _ | .hold _ _ => False

/-- The phase is the same, or the bridge has noticed the end. -/
def Keeps (daemon daemon' : Daemon) : Prop :=
  daemon'.phase = daemon.phase ∨ daemon.phase = .serving ∧ daemon'.phase = .ended

/-- A step of any task but the closer. -/
theorem forwards_step {daemon daemon' : Daemon} {task : Task}
    (h : daemon.step? task = some daemon') (htask : task ≠ .closer) :
    daemon.Keeps daemon' ∧
      ∃ moves, daemon.Forwards daemon' moves ∧ ∀ move ∈ moves, IsMoveOf [task] move := by
  have hkeeps : ∀ moves : List Move, published moves = [] →
      daemon'.desk = daemon.desk.moveAll moves ∧ daemon'.phase = daemon.phase ∧
        daemon'.coming = daemon.coming → daemon.Keeps daemon' ∧ daemon.Forwards daemon' moves := by
    rintro moves hpublished ⟨hdesk, hphase, hcoming⟩
    exact ⟨.inl hphase, hdesk, by rw [hpublished, hcoming, List.nil_append]⟩
  cases task with
  | reader =>
    obtain ⟨hphase, hforwards⟩ := hkeeps [] rfl (coming_readerStep? h)
    exact ⟨hphase, [], hforwards, by simp⟩
  | bridge =>
    obtain ⟨hphase, ⟨event, hdesk, hphase', hcoming⟩ | ⟨hdesk, hphase', hcoming, hcoming'⟩⟩ :=
      coming_bridgeStep? h
    · exact ⟨.inl (hphase'.trans hphase.symm), [.publish event], ⟨hdesk, hcoming⟩,
        by simp [IsMoveOf]⟩
    · exact ⟨.inr ⟨hphase, hphase'⟩, [], ⟨hdesk, hcoming.trans hcoming'.symm⟩, by simp⟩
  | pump seat =>
    obtain ⟨hphase, hforwards⟩ := hkeeps [.pump seat] rfl (coming_pumpStep? h)
    exact ⟨hphase, [.pump seat], hforwards, by simp [IsMoveOf]⟩
  | logger number =>
    obtain ⟨hphase, hforwards⟩ := hkeeps [] rfl (coming_loggerStep? h)
    exact ⟨hphase, [], hforwards, by simp⟩
  | closer => exact absurd rfl htask

/-- As long as the closer has not begun, it has made no step. -/
theorem isServing_of_step? {daemon daemon' : Daemon} {task : Task}
    (h : daemon.step? task = some daemon') (hserving : daemon'.IsServing) :
    task ≠ .closer ∧ daemon.IsServing := by
  have htask : task ≠ .closer := by
    rintro rfl
    exact (coming_closerStep? h).2.1 hserving
  refine ⟨htask, ?_⟩
  obtain ⟨hphase | ⟨hphase, -⟩, -⟩ := forwards_step h htask
  · rwa [IsServing, ← hphase]
  · exact .inl hphase

theorem isServing_of_perform {tasks : List Task} :
    ∀ {daemon : Daemon}, (daemon.perform tasks).IsServing → daemon.IsServing := by
  induction tasks with
  | nil => exact id
  | cons task tasks ih =>
    intro daemon h
    cases hstep : daemon.step? task with
    | none =>
      rw [perform_cons_none hstep] at h
      exact ih h
    | some daemon' =>
      rw [perform_cons_some hstep] at h
      exact (isServing_of_step? hstep (ih h)).2

/-- **A run of the daemon up to its closing** makes moves that publish what was coming. -/
theorem exists_forwards {tasks : List Task} :
    ∀ {daemon : Daemon}, (daemon.perform tasks).IsServing →
      ∃ moves, daemon.Forwards (daemon.perform tasks) moves ∧
        ∀ move ∈ moves, IsMoveOf tasks move := by
  have hmono : ∀ {some all : List Task} {move : Move}, some ⊆ all → IsMoveOf some move →
      IsMoveOf all move := by
    intro some all move hsub hmove
    cases move with
    | publish _ => exact trivial
    | pump seat => exact hsub hmove
    | take _ | hold _ _ => exact hmove
  induction tasks with
  | nil => exact fun _ => ⟨[], ⟨rfl, rfl⟩, by simp⟩
  | cons task tasks ih =>
    intro daemon h
    cases hstep : daemon.step? task with
    | none =>
      rw [perform_cons_none hstep] at h ⊢
      obtain ⟨moves, hforwards, hmoves⟩ := ih h
      exact ⟨moves, hforwards,
        fun move hmove => hmono (List.subset_cons_self _ _) (hmoves move hmove)⟩
    | some daemon' =>
      rw [perform_cons_some hstep] at h ⊢
      obtain ⟨htask, -⟩ := isServing_of_step? hstep (isServing_of_perform h)
      obtain ⟨-, first, hfirst, hfirsts⟩ := forwards_step hstep htask
      obtain ⟨moves, hforwards, hmoves⟩ := ih h
      refine ⟨first ++ moves, ⟨?_, ?_⟩, ?_⟩
      · rw [moveAll_append, ← hfirst.desk]
        exact hforwards.desk
      · rw [published_append, List.append_assoc, hfirst.coming, hforwards.coming]
      · intro move hmove
        rcases List.mem_append.mp hmove with hmove | hmove
        · exact hmono (by simp) (hfirsts move hmove)
        · exact hmono (List.subset_cons_self _ _) (hmoves move hmove)

/-! ### Reader and bridge alone -/

/-- The task is the reader's or the bridge's. -/
def IsForwarding (task : Task) : Prop :=
  task = .reader ∨ task = .bridge

theorem IsForwarding.ne_closer {task : Task} (h : IsForwarding task) : task ≠ .closer := by
  rintro rfl
  exact h.elim nofun nofun

/-- While only reader and bridge work, nothing but publishing happens to the desk. -/
theorem moveAll_eq_publishAll {tasks : List Task} (htasks : ∀ task ∈ tasks, IsForwarding task)
    {moves : List Move} (hmoves : ∀ move ∈ moves, IsMoveOf tasks move) (desk : Desk) :
    desk.moveAll moves = desk.publishAll (published moves) := by
  induction moves generalizing desk with
  | nil => rfl
  | cons first moves ih =>
    have hrest := ih (fun move hmove => hmoves move (List.mem_cons_of_mem _ hmove))
    have hfirst := hmoves first List.mem_cons_self
    cases first with
    | publish event => exact hrest _
    | pump seat => exact (htasks _ hfirst).elim nofun nofun
    | take _ | hold _ _ => exact hfirst.elim

/-- Reader and bridge alone can bring the daemon to the end of the stream. -/
def CanEnd (daemon : Daemon) : Prop :=
  ∃ tasks, (∀ task ∈ tasks, IsForwarding task) ∧ (daemon.perform tasks).phase = .ended

theorem canEnd_of_step? {daemon daemon' : Daemon} {task : Task}
    (hstep : daemon.step? task = some daemon') (htask : IsForwarding task) (h : daemon'.CanEnd) :
    daemon.CanEnd := by
  obtain ⟨tasks, htasks, hended⟩ := h
  refine ⟨task :: tasks, List.forall_mem_cons.mpr ⟨htask, htasks⟩, ?_⟩
  rwa [perform_cons_some hstep]

/-- When the reader is done and the stream is empty, the bridge notices the end. -/
theorem canEnd_of_readerDone {daemon : Daemon} (hphase : daemon.phase = .serving)
    (hstream : daemon.stream = []) (hdone : daemon.readerDone = true) : daemon.CanEnd := by
  have hstep : daemon.step? .bridge = some { daemon with phase := .ended } := by
    simp only [step?, bridgeStep?, hphase, hstream, hdone, if_pos]
  exact canEnd_of_step? hstep (.inr rfl) ⟨[], by simp, rfl⟩

/-- From an empty stream reader and bridge come to the end, one line after the other. -/
theorem canEnd_of_lines {lines : List Bytes} :
    ∀ {daemon : Daemon}, daemon.lines = lines → daemon.phase = .serving → daemon.stream = [] →
      daemon.CanEnd := by
  induction lines with
  | nil =>
    intro daemon hlines hphase hstream
    cases hdone : daemon.readerDone with
    | true => exact canEnd_of_readerDone hphase hstream hdone
    | false =>
      have hstep : daemon.step? .reader = some { daemon with readerDone := true } := by
        simp [step?, readerStep?, hdone, hlines]
      exact canEnd_of_step? hstep (.inl rfl) (canEnd_of_readerDone hphase hstream rfl)
  | cons bytes lines ih =>
    intro daemon hlines hphase hstream
    cases hdone : daemon.readerDone with
    | true => exact canEnd_of_readerDone hphase hstream hdone
    | false =>
      rcases Stream.line_cases bytes with ⟨-, fault, hline⟩ | ⟨-, -, hline | hline⟩ |
        ⟨-, event, -, hline⟩
      · have hstep : daemon.step? .reader =
            some ({ daemon with lines, readerDone := true }.record [.unreadable fault]) := by
          simp [step?, readerStep?, hdone, hlines, hline]
        exact canEnd_of_step? hstep (.inl rfl) (canEnd_of_readerDone hphase hstream rfl)
      · have hstep : daemon.step? .reader = some { daemon with lines } := by
          simp [step?, readerStep?, hdone, hlines, hline]
        exact canEnd_of_step? hstep (.inl rfl) (ih rfl hphase hstream)
      · have hstep : daemon.step? .reader = some ({ daemon with lines }.record [.malformed]) := by
          simp [step?, readerStep?, hdone, hlines, hline]
        exact canEnd_of_step? hstep (.inl rfl) (ih rfl hphase hstream)
      · -- the stream has room for the event, and the bridge empties it again
        have hstep : daemon.step? .reader = some { daemon with lines, stream := [event] } := by
          simp [step?, readerStep?, hdone, hlines, hline, hstream, streamCapacity]
        have hnext : step? { daemon with lines, stream := [event] } .bridge =
            some { daemon with lines, stream := [], desk := (daemon.desk.publish event).1 } := by
          simp [step?, bridgeStep?, hphase]
        exact canEnd_of_step? hstep (.inl rfl) (canEnd_of_step? hnext (.inr rfl) (ih rfl hphase rfl))

/-- The daemon begins to serve the lines of an input. -/
structure Begins (daemon : Daemon) (bytes : Bytes) : Prop where
  /-- The lines are those of the input. -/
  lines_eq : daemon.lines = bytes.pieces
  /-- Nothing was read. -/
  stream_eq : daemon.stream = []
  /-- The reader is at work. -/
  readerDone_eq : daemon.readerDone = false
  /-- The bridge is at work. -/
  phase_eq : daemon.phase = .serving

theorem Begins.coming_eq {daemon : Daemon} {bytes : Bytes} (h : daemon.Begins bytes) :
    daemon.coming = Stream.eventsOf (bytes.splitOn Bytes.lineFeed) := by
  rw [coming, h.stream_eq, h.readerDone_eq, h.lines_eq, (Stream.eventsOf_pieces bytes).1]
  rfl

/-- When reader and bridge have come to the end, the events were published one by one. -/
theorem Begins.desk_ended {daemon : Daemon} {bytes : Bytes} (h : daemon.Begins bytes)
    {tasks : List Task} (htasks : ∀ task ∈ tasks, IsForwarding task)
    (hended : (daemon.perform tasks).phase = .ended) :
    (daemon.perform tasks).desk =
      daemon.desk.publishAll (Stream.eventsOf (bytes.splitOn Bytes.lineFeed)) := by
  obtain ⟨moves, hforwards, hmoves⟩ := exists_forwards (.inr hended)
  have hsettled : (daemon.perform tasks).IsSettled := IsSettled.perform (.inl h.phase_eq)
  have hcoming : (daemon.perform tasks).coming = [] := hsettled.resolve_left (by simp [hended])
  have hpublished : Stream.eventsOf (bytes.splitOn Bytes.lineFeed) = published moves := by
    rw [← h.coming_eq, hforwards.coming, hcoming, List.append_nil]
  rw [hforwards.desk, moveAll_eq_publishAll htasks hmoves, hpublished]

end Daemon

namespace Stream

/-- **Reading a stream and passing it on.** Of any bytes, reading finds the events of the lines
before the first that is not UTF-8, and reports their number, or a fault if there is such a line.
When nobody listens, it finds none and is content with the first event. A stream put together from
rows, events and other lines in any order, gives the events of the rows. And however reader and
bridge take turns, the bridge comes to the end with the events published one by one. -/
theorem forwards_events :
    (∀ bytes : Bytes,
      let lines := bytes.splitOn Bytes.lineFeed
      (read true bytes).Finds (eventsOf lines) (∀ line ∈ lines, isText line) ∧
        (read false bytes).Finds [] (eventsOf lines ≠ [] ∨ ∀ line ∈ lines, isText line)) ∧
      (∀ rows last, (∀ row ∈ rows.map Prod.fst ++ [last], row.IsLine) →
        (read true (written rows last)).Finds
          ((rows.map Prod.fst ++ [last]).filterMap Row.event?) True) ∧
      ∀ bytes : Bytes,
        (∀ desk : Desk, (desk.feed false bytes).2 = desk.publishAll (read true bytes).events) ∧
          ∀ daemon : Daemon, daemon.Begins bytes → daemon.CanEnd ∧
            ∀ tasks, (∀ task ∈ tasks, Daemon.IsForwarding task) →
              (daemon.perform tasks).phase = .ended →
                (daemon.perform tasks).desk = daemon.desk.publishAll (read true bytes).events := by
  refine ⟨fun bytes => ⟨finds_listening bytes, finds_deaf bytes⟩, ?_,
    fun bytes => ⟨fun desk => rfl, fun daemon hbegins => ⟨?_, ?_⟩⟩⟩
  · intro rows last hrows
    obtain ⟨hevents, htexts⟩ := eventsOf_written hrows
    have hfinds := finds_listening (written rows last)
    rw [hevents] at hfinds
    exact ⟨hfinds.events_eq, fun _ => hfinds.ok htexts, fun h => absurd trivial h⟩
  · exact Daemon.canEnd_of_lines rfl hbegins.phase_eq hbegins.stream_eq
  · intro tasks htasks hended
    rw [(finds_listening bytes).events_eq]
    exact hbegins.desk_ended htasks hended

/-- Output of the first script of a desk. -/
def sampleEvent : Event := ⟨⟨1⟩, .output (some "hi".toList)⟩

theorem isLine_sampleEvent : (Row.event sampleEvent).IsLine :=
  ⟨trivial, trivial, by decide +kernel⟩

theorem isLine_blank : (Row.other []).IsLine :=
  ⟨by decide, rfl⟩

/-- The event, a line that holds none and a blank line. -/
def sampleRows : List (Row × LineEnding) :=
  [(.event sampleEvent, .crlf), (.other "noise".toList, .lf), (.other [' '], .crlf)]

theorem forwards_events_sample :
    (read true (written sampleRows (.other []))).result = .ok 1 ∧
      ∃ tasks daemon, daemon = Daemon.perform tasks
          { desk := Desk.sampleDesk, lines := (written sampleRows (.other [])).pieces } ∧
        daemon.phase = .ended ∧ daemon.desk = (Desk.sampleDesk.publish sampleEvent).1 := by
  obtain ⟨-, hwritten, hpassed⟩ := forwards_events
  have hrows : ∀ row ∈ sampleRows.map Prod.fst ++ [.other []], row.IsLine := by
    intro row hrow
    rcases hrow with _ | ⟨_, _ | ⟨_, _ | ⟨_, _ | ⟨_, hnil⟩⟩⟩⟩
    · exact isLine_sampleEvent
    · exact ⟨by decide, rfl⟩
    · exact ⟨by decide, rfl⟩
    · exact isLine_blank
    · cases hnil
  have hfinds := hwritten sampleRows (.other []) hrows
  obtain ⟨-, hbegun⟩ := hpassed (written sampleRows (.other []))
  obtain ⟨⟨tasks, htasks, hended⟩, hdesk⟩ :=
    hbegun { desk := Desk.sampleDesk, lines := (written sampleRows (.other [])).pieces }
      ⟨rfl, rfl, rfl, rfl⟩
  refine ⟨hfinds.ok trivial, tasks, _, rfl, hended, ?_⟩
  rw [hdesk tasks htasks hended, hfinds.events_eq]
  rfl

end Stream

end ScriptDesk
