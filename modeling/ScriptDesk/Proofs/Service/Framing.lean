import ScriptDesk.Proofs.Service.Encoding
import ScriptDesk.Proofs.Text.Bytes
import ScriptDesk.Service.Stream

/-!
# The events in a stream of bytes

A stream is cut at its line feeds. Each line says for itself whether it is UTF-8 (`isText`) and
which event it holds (`event?`); up to the first line that is not UTF-8 the events are those of the
lines, in order (`eventsOf`), and reading finds just these (`finds_listening`). The line feed itself
and a carriage return before it make no difference, and an event is written without either.

A stream that is put together from rows, events and other lines between them, holds the events of
its rows (`eventsOf_written`).
-/

namespace ScriptDesk.Stream

/-! ### Lines -/

/-- The line is UTF-8. -/
def isText (line : Bytes) : Bool :=
  (Text.ofBytes? line).isSome

/-- The event that a line holds between blanks. -/
def event? (line : Bytes) : Option Event :=
  (Text.ofBytes? line).bind fun text =>
    if text.trim.isEmpty then none else (Json.decodeWhole Event.decode text.trim).toOption

/-- The events of the lines before the first one that is not UTF-8. -/
def eventsOf (lines : List Bytes) : List Event :=
  (lines.takeWhile isText).filterMap event?

/-- What reading reports: how many events there were, or the fault of a line that is not UTF-8. -/
def Outcome.result (outcome : Outcome) : Except EncodingFault Nat :=
  match outcome.ending with
  | .finished => .ok outcome.events.length
  | .unreadable fault => .error fault

/-- The events were read; if the stream was `readable` their number is reported, else a fault. -/
structure Outcome.Finds (outcome : Outcome) (events : List Event) (readable : Prop) : Prop where
  /-- These were the events. -/
  events_eq : outcome.events = events
  /-- Their number is the result. -/
  ok : readable → outcome.result = .ok events.length
  /-- There is a fault. -/
  error : ¬ readable → ∃ fault, outcome.result = .error fault

theorem isText_toBytes (text : Text) : isText (Text.toBytes text) = true := by
  rw [isText, Text.ofBytes?_toBytes, Option.isSome_some]

/-- What a line is, by what it says for itself. -/
theorem line_cases (bytes : Bytes) :
    (isText bytes = false ∧ ∃ fault, line bytes = .unreadable fault) ∨
      (isText bytes = true ∧ event? bytes = none ∧
        (line bytes = .blank ∨ line bytes = .malformed)) ∨
      (isText bytes = true ∧ ∃ event, event? bytes = some event ∧ line bytes = .event event) := by
  rw [isText, event?, line]
  cases Text.ofBytes? bytes with
  | none => exact .inl ⟨rfl, _, rfl⟩
  | some text =>
    refine .inr ?_
    simp only [Option.isSome_some, Option.bind_some, true_and]
    cases text.trim.isEmpty with
    | true => exact .inl ⟨rfl, .inl rfl⟩
    | false =>
      cases Json.decodeWhole Event.decode text.trim with
      | error fault => exact .inl ⟨rfl, .inr rfl⟩
      | ok event => exact .inr ⟨event, rfl, rfl⟩

theorem eventsOf_cons (line : Bytes) (lines : List Bytes) :
    eventsOf (line :: lines) =
      if isText line then (event? line).toList ++ eventsOf lines else [] := by
  rw [eventsOf, eventsOf, List.takeWhile_cons]
  cases isText line with
  | false => rfl
  | true =>
    rw [if_pos rfl, if_pos rfl, List.filterMap_cons]
    cases event? line <;> rfl

/-- A line is the same with its line feed as without it. -/
theorem isText_append_feed (line : Bytes) : isText (line ++ [Bytes.lineFeed]) = isText line := by
  rw [isText, Text.ofBytes?_append_feed, Option.isSome_map, isText]

theorem event?_append_feed (line : Bytes) : event? (line ++ [Bytes.lineFeed]) = event? line := by
  rw [event?, Text.ofBytes?_append_feed, event?]
  cases Text.ofBytes? line with
  | none => rfl
  | some text =>
    simp only [Option.map_some, Option.bind_some,
      Text.trim_append_blank text (show isBlank '\n' by decide)]

/-- Cutting behind the line feeds and cutting at them give the same events. -/
theorem eventsOf_pieces (bytes : Bytes) :
    eventsOf bytes.pieces = eventsOf (bytes.splitOn Bytes.lineFeed) ∧
      ((∀ line ∈ bytes.pieces, isText line = true) ↔
        ∀ line ∈ bytes.splitOn Bytes.lineFeed, isText line = true) := by
  unfold Bytes.pieces
  induction bytes using Bytes.line_induction with
  | last line h =>
    rw [List.splitOn_eq_singleton h]
    by_cases hne : line = []
    · subst hne
      exact ⟨rfl, by simp [Text.cutAfter, show isText [] = true from isText_toBytes []]⟩
    · rw [Text.cutAfter_of_not_mem h hne]
      exact ⟨rfl, Iff.rfl⟩
  | more line rest h ih =>
    rw [Text.cutAfter_append h, List.splitOn_append_cons_self, List.splitOn_eq_singleton h,
      List.singleton_append, eventsOf_cons, eventsOf_cons, isText_append_feed, event?_append_feed,
      ih.1, List.forall_mem_cons, List.forall_mem_cons, isText_append_feed, ih.2]
    exact ⟨rfl, Iff.rfl⟩

/-! ### Reading -/

/-- While someone listens, reading finds the events of the lines. -/
theorem readLines_listening (lines : List Bytes) :
    (readLines true lines).events = eventsOf lines ∧
      ((readLines true lines).ending = .finished ↔ ∀ line ∈ lines, isText line = true) := by
  induction lines with
  | nil => exact ⟨rfl, by simp [readLines]⟩
  | cons bytes lines ih =>
    rw [eventsOf_cons, List.forall_mem_cons, readLines]
    rcases line_cases bytes with ⟨htext, fault, hline⟩ | ⟨htext, hevent, hline | hline⟩ |
      ⟨htext, event, hevent, hline⟩
    · simp [htext, hline]
    · simp [htext, hevent, hline, ih]
    · simp [htext, hevent, hline, ih]
    · simp [htext, hevent, hline, ih]

/-- When nobody listens, reading ends at the first event. -/
theorem readLines_deaf (lines : List Bytes) :
    (readLines false lines).events = [] ∧
      ((readLines false lines).ending = .finished ↔
        eventsOf lines ≠ [] ∨ ∀ line ∈ lines, isText line = true) := by
  induction lines with
  | nil => exact ⟨rfl, by simp [readLines]⟩
  | cons bytes lines ih =>
    rw [eventsOf_cons, List.forall_mem_cons, readLines]
    rcases line_cases bytes with ⟨htext, fault, hline⟩ | ⟨htext, hevent, hline | hline⟩ |
      ⟨htext, event, hevent, hline⟩
    · simp [htext, hline]
    · simp [htext, hevent, hline, ih]
    · simp [htext, hevent, hline, ih]
    · simp [htext, hevent, hline]

theorem Outcome.finds_of_ending {outcome : Outcome} {events : List Event} {readable : Prop}
    (hevents : outcome.events = events) (hending : outcome.ending = .finished ↔ readable) :
    outcome.Finds events readable := by
  refine ⟨hevents, fun h => ?_, fun h => ?_⟩
  · rw [result, hending.mpr h, hevents]
  · cases hfault : outcome.ending with
    | finished => exact absurd (hending.mp hfault) h
    | unreadable fault => exact ⟨fault, by rw [result, hfault]⟩

/-- **What reading finds in a stream of bytes** while someone listens. -/
theorem finds_listening (bytes : Bytes) :
    (read true bytes).Finds (eventsOf (bytes.splitOn Bytes.lineFeed))
      (∀ line ∈ bytes.splitOn Bytes.lineFeed, isText line) := by
  obtain ⟨hevents, htexts⟩ := eventsOf_pieces bytes
  obtain ⟨hread, hending⟩ := readLines_listening bytes.pieces
  exact Outcome.finds_of_ending (hread.trans hevents) (hending.trans htexts)

/-- **What it finds when nobody listens.** -/
theorem finds_deaf (bytes : Bytes) :
    (read false bytes).Finds []
      (eventsOf (bytes.splitOn Bytes.lineFeed) ≠ [] ∨
        ∀ line ∈ bytes.splitOn Bytes.lineFeed, isText line) := by
  obtain ⟨hevents, htexts⟩ := eventsOf_pieces bytes
  obtain ⟨hread, hending⟩ := readLines_deaf bytes.pieces
  exact Outcome.finds_of_ending hread (by rw [← htexts, ← hevents]; exact hending)

/-! ### Streams that are put together -/

/-- A row of a stream: an event, or a line that holds none. -/
inductive Row where
  /-- An event as it is written. -/
  | event (event : Event)
  /-- Another text. -/
  | other (text : Text)

namespace Row

/-- The line of a row. -/
def text : Row → Text
  | .event e => e.toJson.written
  | .other text => text

/-- The event of a row. -/
def event? : Row → Option Event
  | .event e => some e
  | .other _ => none

/-- The row is one line: an event that is read back, or a text without line feed and event. -/
def IsLine : Row → Prop
  | .event e => e.news.IsExact ∧ e.news.IsSorted ∧ e.toJson.depth < 128
  | .other text => '\n' ∉ text ∧ Stream.event? (Text.toBytes text) = none

end Row

/-- A row with its line end. -/
def Row.line (row : Row) (ending : LineEnding) : Bytes :=
  Text.toBytes (row.text ++ ending.separator)

/-- The rows, each with its line end, and a last row without one. -/
def written (rows : List (Row × LineEnding)) (last : Row) : Bytes :=
  rows.flatMap (fun row => row.1.line row.2) ++ Text.toBytes last.text

theorem event?_toBytes (text : Text) :
    event? (Text.toBytes text) =
      if text.trim.isEmpty then none else (Json.decodeWhole Event.decode text.trim).toOption := by
  rw [event?, Text.ofBytes?_toBytes, Option.bind_some]

/-- A carriage return at the end of a line makes no difference. -/
theorem event?_append_return (text : Text) :
    event? (Text.toBytes (text ++ ['\r'])) = event? (Text.toBytes text) := by
  rw [event?_toBytes, event?_toBytes, Text.trim_append_blank text (show isBlank '\r' by decide)]

/-- An event is written without blanks at the ends. -/
theorem trim_written (event : Event) : event.toJson.written.trim = event.toJson.written := by
  obtain ⟨middle, hmiddle⟩ := Json.exists_written_obj (Json.membersOf event.entries)
  rw [Event.toJson_eq_objectOf, Json.objectOf, hmiddle]
  apply Text.trim_of_ends
  · rintro c hc
    cases hc
    decide
  · intro c hc
    rw [List.getLast?_concat] at hc
    cases hc
    decide

/-- A row holds its event and is one line. -/
theorem event?_row {row : Row} (h : row.IsLine) :
    event? (Text.toBytes row.text) = row.event? ∧ '\n' ∉ row.text := by
  cases row with
  | other text => exact ⟨h.2, h.1⟩
  | event event =>
    obtain ⟨hexact, hsorted, hdepth⟩ := h
    have hjson := Event.isExact_toJson hexact
    constructor
    · have hdecode : Json.decodeWhole Event.decode event.toJson.written = .ok event := by
        rw [Json.decodeWhole_written _ hjson]
        exact Event.decode_toJson hsorted (Nat.le_of_lt_succ hdepth)
      have hne : event.toJson.written.isEmpty = false := rfl
      rw [event?_toBytes, Row.text, trim_written, hdecode, hne]
      rfl
    · intro hmem
      exact absurd (Json.le_of_mem_written hjson hmem) (by decide)

/-- **A stream that is put together from rows holds the events of the rows**, and all of it is
read. -/
theorem eventsOf_written {rows : List (Row × LineEnding)} {last : Row}
    (h : ∀ row ∈ rows.map Prod.fst ++ [last], row.IsLine) :
    eventsOf ((written rows last).splitOn Bytes.lineFeed) =
        (rows.map Prod.fst ++ [last]).filterMap Row.event? ∧
      ∀ line ∈ (written rows last).splitOn Bytes.lineFeed, isText line = true := by
  have hlines : ∀ {text : Text}, '\n' ∉ text → Bytes.lineFeed ∉ Text.toBytes text :=
    fun hn hmem => hn (Text.feed_mem_toBytes.mp hmem)
  induction rows with
  | nil =>
    obtain ⟨hevent, hfeed⟩ := event?_row (h last (by simp))
    rw [written, List.flatMap_nil, List.nil_append, List.splitOn_eq_singleton (hlines hfeed),
      eventsOf_cons, isText_toBytes, hevent]
    refine ⟨?_, by simpa using isText_toBytes _⟩
    cases hlast : last.event? <;> simp [hlast, eventsOf]
  | cons first rows ih =>
    obtain ⟨row, ending⟩ := first
    obtain ⟨ihevents, ihtexts⟩ := ih fun row hrow => h row (by simp at hrow ⊢; tauto)
    obtain ⟨hevent, hfeed⟩ := event?_row (h row (by simp))
    -- the line feed of the row ends the first line, and a carriage return before it belongs to that
    have hfront : ∃ front : Text, row.text ++ ending.separator = front ++ ['\n'] ∧ '\n' ∉ front ∧
        event? (Text.toBytes front) = row.event? := by
      cases ending with
      | lf => exact ⟨row.text, rfl, hfeed, hevent⟩
      | crlf =>
        exact ⟨row.text ++ ['\r'], by simp [LineEnding.separator], by simpa using hfeed,
          (event?_append_return row.text).trans hevent⟩
    obtain ⟨front, hseparator, hfeed, hevent⟩ := hfront
    have hwritten : written ((row, ending) :: rows) last =
        Text.toBytes front ++ Bytes.lineFeed :: written rows last := by
      have hline : row.line ending = Text.toBytes front ++ [Bytes.lineFeed] := by
        rw [Row.line, hseparator, Text.toBytes_append]
        rfl
      simp [written, hline]
    rw [hwritten, List.splitOn_append_cons_self, List.splitOn_eq_singleton (hlines hfeed),
      List.singleton_append, eventsOf_cons, isText_toBytes, if_pos rfl, hevent, ihevents,
      List.forall_mem_cons]
    refine ⟨?_, isText_toBytes front, ihtexts⟩
    cases hrow : row.event? <;> simp [hrow]

end ScriptDesk.Stream
