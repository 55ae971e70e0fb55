import ScriptDesk.Proofs.Json.Entries
import ScriptDesk.Proofs.Script.Header
import ScriptDesk.Service.Event

/-!
# What goes over the wire

Positions, changes, responses, settings and events are told by their fields: `slots` are the places
into which the fields of a record are decoded, and `entries` are the fields of a tagged value, its
tag first. A value is written as the object of its fields, so what was written is decoded again.

Diagnostics are any JSON value, and are kept only if the members of their objects are sorted by name
(`News.IsSorted`). All other values are read back as they are (`Response.decode_toJson`,
`Change.decode_toJson`).

Main statement: `isReadBack_toJson`.
-/

namespace ScriptDesk

open Json (Entry Slot Reading Tree Value objectOf)

/-! ### Values of one token -/

theorem Json.decodeWord_ofValue (r : Reading) (n : UInt32) :
    Json.decodeWord r (Tree.ofValue (.num (.int n.toNat))) = .ok n := by
  have hn : 0 ≤ (n.toNat : Int) ∧ (n.toNat : Int) < 4294967296 := by
    have := n.toNat_lt
    omega
  rw [Tree.ofValue, Json.decodeWord, if_pos hn]
  simp

/-- Any value is decoded as it is, if it is sorted and not nested too deep. -/
theorem Json.decodeValue_ofValue {v : Value} (hv : v.IsSorted) {r : Reading} (hr : r.Allows v.depth) :
    Json.decodeValue r (Tree.ofValue v) = .ok v := by
  rw [← Tree.depth_ofValue] at hr
  rw [Json.decodeValue, Tree.checkAll_of_isSound (Tree.isSound_ofValue v) hr, Tree.toValue_ofValue hv]
  rfl

/-- A list is decoded if each of its items is. -/
theorem Json.decodeList_ofValue {item : Json.Decoder α} {toJson : α → Value} {values : List α}
    (hitem : ∀ a ∈ values, ∀ r : Reading, r.Allows (toJson a).depth →
      item r (Tree.ofValue (toJson a)) = .ok a)
    {r : Reading} (hr : r.Allows (Value.arr (values.map toJson)).depth) :
    Json.decodeList item r (Tree.ofValue (.arr (values.map toJson))) = .ok values := by
  have hitems : ∀ {inner : Reading}, inner.Allows (Value.depthOfItems (values.map toJson)) →
      Json.decodeItems item inner (Tree.ofItems (values.map toJson)) true = .ok values := by
    intro inner hinner
    clear hr
    induction values with
    | nil => rfl
    | cons a values ih =>
      simp only [List.map_cons, Value.depthOfItems] at hinner
      simp only [List.map_cons, Tree.ofItems, Json.decodeItems,
        hitem a List.mem_cons_self inner (hinner.mono (Nat.le_max_left _ _)),
        ih (fun b hb => hitem b (List.mem_cons_of_mem _ hb)) (hinner.mono (Nat.le_max_right _ _))]
      rfl
  obtain ⟨inner, henter, hinner⟩ := hr.enter
  rw [Tree.ofValue, Json.decodeList, henter]
  exact hitems hinner

/-! ### Positions -/

namespace Position

/-- The places of a position. -/
def slots (position : Position) : List (Slot Draft Position) :=
  [{ get := Draft.line
     set := fun draft line => { draft with line := some line }
     decode := Json.decodeWord
     content := position.line
     entry := { name := "line".toList, value := .num (.int position.line.toNat) }
     get_set := fun _ _ => rfl
     reads := fun r _ => Json.decodeWord_ofValue r position.line },
   { get := Draft.character
     set := fun draft character => { draft with character := some character }
     decode := Json.decodeWord
     content := position.character
     entry := { name := "character".toList, value := .num (.int position.character.toNat) }
     get_set := fun _ _ => rfl
     reads := fun r _ => Json.decodeWord_ofValue r position.character }]

theorem tells (position : Position) : record.Tells position.slots position where
  fields := rfl
  apart := by
    have hnames : "line".toList ≠ "character".toList := by decide
    exact List.pairwise_pair.mpr ⟨Entry.answers_disjoint rfl rfl hnames,
      fun _ _ => rfl, fun _ _ => rfl, fun _ _ _ => rfl⟩
  blank := by
    intro slot hslot
    rcases List.mem_pair.mp hslot with rfl | rfl <;> rfl
  build := rfl
  build_eraseIdx
    | 0, _ => rfl
    | 1, _ => rfl

theorem decode_toJson (position : Position) {r : Reading} (hr : r.Allows position.toJson.depth) :
    decode r (Tree.ofValue position.toJson) = .ok position :=
  position.tells.decode_objectOf hr

theorem isExact_toJson (position : Position) : position.toJson.IsExact := by
  have hword : ∀ n : UInt32, Json.Number.IsExact (.int n.toNat) := by
    intro n
    have := n.toNat_lt
    constructor <;> omega
  exact ⟨hword position.line, hword position.character, trivial⟩

end Position

/-! ### Changes -/

namespace Change

/-- The places of a change. -/
def slots (change : Change) : List (Slot Draft Change) :=
  [{ get := Draft.start
     set := fun draft start => { draft with start := some start }
     decode := Position.decode
     content := change.start
     entry := { name := "start".toList, value := change.start.toJson }
     get_set := fun _ _ => rfl
     reads := fun _ hr => change.start.decode_toJson hr },
   { get := Draft.stop
     set := fun draft stop => { draft with stop := some stop }
     decode := Position.decode
     content := change.stop
     entry := { name := "end".toList, value := change.stop.toJson }
     get_set := fun _ _ => rfl
     reads := fun _ hr => change.stop.decode_toJson hr },
   { get := Draft.newText
     set := fun draft newText => { draft with newText := some newText }
     decode := Json.decodeText
     content := change.newText
     entry := { name := "newText".toList, value := .str change.newText }
     get_set := fun _ _ => rfl
     reads := fun _ _ => rfl }]

theorem tells (change : Change) : record.Tells change.slots change where
  fields := rfl
  apart := by
    have hstop : "start".toList ≠ "end".toList := by decide
    have htext : "start".toList ≠ "newText".toList := by decide
    have hboth : "end".toList ≠ "newText".toList := by decide
    refine .cons ?_ (List.pairwise_pair.mpr ⟨Entry.answers_disjoint rfl rfl hboth,
      fun _ _ => rfl, fun _ _ => rfl, fun _ _ _ => rfl⟩)
    intro slot hslot
    rcases List.mem_pair.mp hslot with rfl | rfl
    · exact ⟨Entry.answers_disjoint rfl rfl hstop, fun _ _ => rfl, fun _ _ => rfl, fun _ _ _ => rfl⟩
    · exact ⟨Entry.answers_disjoint rfl rfl htext, fun _ _ => rfl, fun _ _ => rfl, fun _ _ _ => rfl⟩
  blank := by
    intro slot hslot
    rcases List.mem_cons.mp hslot with rfl | hslot
    · rfl
    · rcases List.mem_pair.mp hslot with rfl | rfl <;> rfl
  build := rfl
  build_eraseIdx
    | 0, _ => rfl
    | 1, _ => rfl
    | 2, _ => rfl

theorem decode_toJson (change : Change) {r : Reading} (hr : r.Allows change.toJson.depth) :
    decode r (Tree.ofValue change.toJson) = .ok change :=
  change.tells.decode_objectOf hr

theorem depth_toJson (change : Change) : change.toJson.depth = 2 := rfl

theorem isExact_toJson (change : Change) : change.toJson.IsExact :=
  ⟨change.start.isExact_toJson, change.stop.isExact_toJson, trivial, trivial⟩

end Change

/-! ### Responses -/

namespace Response

/-- The place of the name of the file. -/
def fileNameSlot (fileName : Text) : Slot Draft Response where
  get := Draft.fileName
  set := fun draft fileName => { draft with fileName := some fileName }
  decode := Json.decodeText
  content := fileName
  entry := { name := "fileName".toList, value := .str fileName }
  get_set := fun _ _ => rfl
  reads := fun _ _ => rfl

/-- The place of the buffer. -/
def bufferSlot (buffer : Text) : Slot Draft Response where
  get := Draft.buffer
  set := fun draft buffer => { draft with buffer := some buffer }
  decode := Json.decodeText
  content := buffer
  entry := { name := "buffer".toList, value := .str buffer }
  get_set := fun _ _ => rfl
  reads := fun _ _ => rfl

/-- The place of the changes; without them there are none. -/
def changesSlot (fileName buffer : Text) (changes : List Change) : Slot Draft Response where
  get := Draft.changes
  set := fun draft changes => { draft with changes := some changes }
  optional := true
  decode := Json.decodeList Change.decode
  content := changes
  entry :=
    { name := "changes".toList
      value := .arr (changes.map Change.toJson)
      absent := some (.modified fileName buffer []) }
  get_set := fun _ _ => rfl
  reads := fun _ hr => Json.decodeList_ofValue (fun change _ _ => change.decode_toJson) hr

/-- The place of the new name. -/
def newFileNameSlot (newFileName : Text) : Slot Draft Response where
  get := Draft.newFileName
  set := fun draft newFileName => { draft with newFileName := some newFileName }
  decode := Json.decodeText
  content := newFileName
  entry := { name := "newFileName".toList, value := .str newFileName }
  get_set := fun _ _ => rfl
  reads := fun _ _ => rfl

/-- The record of a response. -/
def record : Response → Json.Record Draft Response
  | .modified .. => modifiedRecord
  | .opened _ => openedRecord
  | .renamed .. => renamedRecord

/-- The places of a response. -/
def slots : Response → List (Slot Draft Response)
  | .modified fileName buffer changes =>
    [fileNameSlot fileName, bufferSlot buffer, changesSlot fileName buffer changes]
  | .opened fileName => [fileNameSlot fileName]
  | .renamed fileName newFileName => [fileNameSlot fileName, newFileNameSlot newFileName]

/-- The fields of a response. -/
def entries (response : Response) : List (Entry Response) :=
  choice.tagEntry response.kind.name :: response.slots.map Slot.entry

theorem toJson_eq_objectOf (response : Response) : response.toJson = objectOf response.entries := by
  cases response <;> rfl

theorem apart_slots (response : Response) : response.slots.Pairwise Slot.Apart := by
  cases response with
  | modified fileName buffer changes =>
    have hbuffer : "fileName".toList ≠ "buffer".toList := by decide
    have hchanges : "fileName".toList ≠ "changes".toList := by decide
    have hboth : "buffer".toList ≠ "changes".toList := by decide
    refine .cons ?_ (List.pairwise_pair.mpr ⟨Entry.answers_disjoint rfl rfl hboth,
      fun _ _ => rfl, fun _ _ => rfl, fun _ _ _ => rfl⟩)
    intro slot hslot
    rcases List.mem_pair.mp hslot with rfl | rfl
    · exact ⟨Entry.answers_disjoint rfl rfl hbuffer, fun _ _ => rfl, fun _ _ => rfl,
        fun _ _ _ => rfl⟩
    · exact ⟨Entry.answers_disjoint rfl rfl hchanges, fun _ _ => rfl, fun _ _ => rfl,
        fun _ _ _ => rfl⟩
  | opened fileName => exact List.pairwise_singleton _ _
  | renamed fileName newFileName =>
    have hnames : "fileName".toList ≠ "newFileName".toList := by decide
    exact List.pairwise_pair.mpr ⟨Entry.answers_disjoint rfl rfl hnames,
      fun _ _ => rfl, fun _ _ => rfl, fun _ _ _ => rfl⟩

/-- Each place is one of the four. -/
theorem slots_cases {response : Response} {slot : Slot Draft Response} (h : slot ∈ response.slots) :
    (∃ fileName, slot = fileNameSlot fileName) ∨ (∃ buffer, slot = bufferSlot buffer) ∨
      (∃ fileName buffer changes, slot = changesSlot fileName buffer changes) ∨
      ∃ newFileName, slot = newFileNameSlot newFileName := by
  cases response with
  | modified fileName buffer changes =>
    rcases List.mem_cons.mp h with rfl | h
    · exact .inl ⟨_, rfl⟩
    · rcases List.mem_pair.mp h with rfl | rfl
      · exact .inr (.inl ⟨_, rfl⟩)
      · exact .inr (.inr (.inl ⟨_, _, _, rfl⟩))
  | opened fileName => exact .inl ⟨_, List.mem_singleton.mp h⟩
  | renamed fileName newFileName =>
    rcases List.mem_pair.mp h with rfl | rfl
    · exact .inl ⟨_, rfl⟩
    · exact .inr (.inr (.inr ⟨_, rfl⟩))

theorem tells_record (response : Response) : response.record.Tells response.slots response where
  fields := by cases response <;> rfl
  apart := response.apart_slots
  blank := by
    have hblank : response.record.blank = {} := by cases response <;> rfl
    intro slot hslot
    rw [hblank]
    rcases slots_cases hslot with ⟨_, rfl⟩ | ⟨_, rfl⟩ | ⟨_, _, _, rfl⟩ | ⟨_, rfl⟩ <;> rfl
  build := by cases response <;> rfl
  build_eraseIdx i h := by
    cases response with
    | modified fileName buffer changes =>
      match i with
      | 0 | 1 | 2 => rfl
    | opened fileName =>
      match i with
      | 0 => rfl
    | renamed fileName newFileName =>
      match i with
      | 0 | 1 => rfl

theorem tells (response : Response) :
    choice.Tells response.kind.name response.record response.slots response where
  named := by cases response <;> rfl
  record := response.tells_record
  untagged := by
    have hfile : "fileName".toList ≠ "modificationType".toList := by decide
    have hbuffer : "buffer".toList ≠ "modificationType".toList := by decide
    have hchanges : "changes".toList ≠ "modificationType".toList := by decide
    have hnew : "newFileName".toList ≠ "modificationType".toList := by decide
    intro slot hslot hanswers
    rcases slots_cases hslot with ⟨_, rfl⟩ | ⟨_, rfl⟩ | ⟨_, _, _, rfl⟩ | ⟨_, rfl⟩
    · exact hanswers.elim hfile fun h => by cases h
    · exact hanswers.elim hbuffer fun h => by cases h
    · exact hanswers.elim hchanges fun h => by cases h
    · exact hanswers.elim hnew fun h => by cases h

/-- A response is read back. -/
theorem decode_toJson (response : Response) {r : Reading} (hr : r.Allows response.toJson.depth) :
    decode r (Tree.ofValue response.toJson) = .ok response := by
  rw [toJson_eq_objectOf] at hr ⊢
  exact response.tells.decode_objectOf hr

theorem depth_toJson (response : Response) : response.toJson.depth ≤ 4 := by
  have hchanges : ∀ changes : List Change, Value.depthOfItems (changes.map Change.toJson) ≤ 2 := by
    intro changes
    induction changes with
    | nil => exact Nat.zero_le _
    | cons change changes ih => exact Nat.max_le.mpr ⟨Nat.le_of_eq change.depth_toJson, ih⟩
  cases response with
  | modified fileName buffer changes =>
    have := hchanges changes
    simp only [toJson, kind, Modification.toJson, Value.depth, Value.depthOfMembers]
    omega
  | opened fileName => exact show 1 ≤ 4 by decide
  | renamed fileName newFileName => exact show 1 ≤ 4 by decide

theorem isExact_toJson (response : Response) : response.toJson.IsExact := by
  have hchanges : ∀ changes : List Change, Value.AllExact (changes.map Change.toJson) := by
    intro changes
    induction changes with
    | nil => exact trivial
    | cons change changes ih => exact ⟨change.isExact_toJson, ih⟩
  cases response with
  | modified fileName buffer changes =>
    exact ⟨trivial, trivial, trivial, hchanges changes, trivial⟩
  | opened fileName => exact ⟨trivial, trivial, trivial⟩
  | renamed fileName newFileName => exact ⟨trivial, trivial, trivial, trivial⟩

end Response

/-! ### Events -/

namespace News

/-- Diagnostics hold no double. -/
def IsExact : News → Prop
  | .diagnostics value => value.IsExact
  | .output _ | .status _ | .file _ => True

/-- The members of the objects in diagnostics are sorted by name. -/
def IsSorted : News → Prop
  | .diagnostics value => value.IsSorted
  | .output _ | .status _ | .file _ => True

end News

theorem Json.decodeText?_ofValue (r : Reading) (text : Option Text) :
    Json.decodeText? r (Tree.ofValue (text.elim .null .str)) = .ok text := by
  cases text <;> rfl

theorem ScriptId.decode_text (id : ScriptId) (r : Reading) :
    ScriptId.decode r (Tree.ofValue (.str id.text)) = .ok id := by
  simp only [Tree.ofValue, ScriptId.decode, ScriptId.ofText?_text]

theorem Status.decode_toJson (status : Status) (r : Reading) :
    Status.decode r (Tree.ofValue status.toJson) = .ok status := by
  cases status <;> rfl

namespace Event

/-- The field with the script. -/
def scriptEntry (event : Event) : Entry Event where
  name := "scriptId".toList
  value := .str event.script.text

/-- The field with what is new; without it an output is none. -/
def newsEntry (event : Event) : Entry Event :=
  match event.news with
  | .output text =>
    { name := "output".toList
      value := text.elim .null .str
      absent := some { event with news := .output none } }
  | .diagnostics value => { name := "diagnostics".toList, value }
  | .status status => { name := "status".toList, value := status.toJson }
  | .file response => { name := "response".toList, value := response.toJson }

/-- The fields of an event. -/
def entries (event : Event) : List (Entry Event) :=
  [choice.tagEntry event.news.tag, event.scriptEntry, event.newsEntry]

theorem toJson_eq_objectOf (event : Event) : event.toJson = objectOf event.entries := by
  obtain ⟨script, news⟩ := event
  cases news with
  | output text => cases text <;> rfl
  | diagnostics value => rfl
  | status status => rfl
  | file response => rfl

/-- The place of the script. -/
def scriptSlot (event : Event) : Slot (Draft α) Event where
  get := Draft.script
  set := fun draft script => { draft with script := some script }
  decode := ScriptId.decode
  content := event.script
  entry := event.scriptEntry
  get_set := fun _ _ => rfl
  reads := fun r _ => event.script.decode_text r

/-- The place of what is new. -/
def newsSlot (event : Event) (optional : Bool) (decode : Json.Decoder α) (content : α)
    (reads : ∀ r : Reading, r.Allows event.newsEntry.value.depth →
      decode r (Tree.ofValue event.newsEntry.value) = .ok content) : Slot (Draft α) Event where
  get := Draft.news
  set := fun draft news => { draft with news := some news }
  optional
  decode
  content
  entry := event.newsEntry
  get_set := fun _ _ => rfl
  reads

/-- A record of events decodes the event that is built from what it finds. -/
theorem tells_recordOf {event : Event} {tag name : Text} {optional : Bool} {decode : Json.Decoder α}
    {build : Option α → Except Json.Fault News} {content : α}
    (reads : ∀ r : Reading, r.Allows event.newsEntry.value.depth →
      decode r (Tree.ofValue event.newsEntry.value) = .ok content)
    (hname : event.newsEntry.name = name) (hother : event.newsEntry.other = none)
    (hscript : "scriptId".toList ≠ name) (hbuild : build (some content) = .ok event.news)
    (habsent : (build none).map (fun news => ({ event with news } : Event)) =
      event.newsEntry.outcomeWithout) :
    (recordOf tag name optional decode build).Tells
      [event.scriptSlot, event.newsSlot optional decode content reads] event where
  fields := by
    have hfield : (event.newsSlot optional decode content reads).field =
        { name
          optional
          isFilled := fun draft => draft.news.isSome
          fill := fun r t draft => do return { draft with news := some (← decode r t) } } := by
      subst hname
      simp only [Slot.field, newsSlot, hother]
    rw [List.map_cons, List.map_cons, hfield]
    rfl
  apart := List.pairwise_pair.mpr
    ⟨Entry.answers_disjoint rfl hother (hname ▸ hscript), fun _ _ => rfl, fun _ _ => rfl,
      fun _ _ _ => rfl⟩
  blank := by
    intro slot hslot
    rcases List.mem_pair.mp hslot with rfl | rfl <;> rfl
  build := by
    show (build (some content)).bind _ = _
    rw [hbuild]
    rfl
  build_eraseIdx i h := by
    obtain rfl | rfl : i = 0 ∨ i = 1 := by
      simp at h
      omega
    · rfl
    · rw [List.getElem_cons_succ, List.getElem_cons_zero]
      show _ = event.newsEntry.outcomeWithout
      rw [← habsent]
      show (build none).bind _ = _
      cases build none <;> rfl

/-- An event whose tag names a record of events. -/
theorem tells_of_record {event : Event} {record : Json.Record (Draft α) Event} {optional : Bool}
    {decode : Json.Decoder α} {content : α}
    {reads : ∀ r : Reading, r.Allows event.newsEntry.value.depth →
      decode r (Tree.ofValue event.newsEntry.value) = .ok content}
    (h : record.Tells [event.scriptSlot, event.newsSlot optional decode content reads] event)
    (hnamed : choice.cases.lookup event.news.tag = some record.decode)
    (htype : ¬ event.newsEntry.Answers "type".toList) :
    choice.Tells event.news.tag record
      [event.scriptSlot, event.newsSlot optional decode content reads] event where
  named := hnamed
  record := h
  untagged := by
    have hscript : "scriptId".toList ≠ "type".toList := by decide
    intro slot hslot hanswers
    rcases List.mem_pair.mp hslot with rfl | rfl
    · exact hanswers.elim hscript fun h => by cases h
    · exact htype hanswers

/-- **An event is decoded by the record that its tag names.** -/
theorem exists_tells {event : Event} (h : event.news.IsSorted) :
    ∃ (α : Type) (record : Json.Record (Draft α) Event) (slots : List (Slot (Draft α) Event)),
      choice.Tells event.news.tag record slots event ∧
        event.entries = choice.tagEntry event.news.tag :: slots.map Slot.entry := by
  obtain ⟨script, news⟩ := event
  cases news with
  | output text =>
    have hscript : "scriptId".toList ≠ "output".toList := by decide
    have htype : "output".toList ≠ "type".toList := by decide
    exact ⟨_, _, _, tells_of_record (tells_recordOf
      (fun r _ => Json.decodeText?_ofValue r text) rfl rfl hscript rfl rfl) rfl
      (Or.rec htype fun h => by cases h), rfl⟩
  | diagnostics value =>
    have hscript : "scriptId".toList ≠ "diagnostics".toList := by decide
    have htype : "diagnostics".toList ≠ "type".toList := by decide
    exact ⟨_, _, _, tells_of_record (tells_recordOf
      (fun r hr => Json.decodeValue_ofValue h hr) rfl rfl hscript rfl rfl) rfl
      (Or.rec htype fun h => by cases h), rfl⟩
  | status status =>
    have hscript : "scriptId".toList ≠ "status".toList := by decide
    have htype : "status".toList ≠ "type".toList := by decide
    exact ⟨_, _, _, tells_of_record (tells_recordOf
      (fun r _ => status.decode_toJson r) rfl rfl hscript rfl rfl) rfl
      (Or.rec htype fun h => by cases h), rfl⟩
  | file response =>
    have hscript : "scriptId".toList ≠ "response".toList := by decide
    have htype : "response".toList ≠ "type".toList := by decide
    exact ⟨_, _, _, tells_of_record (tells_recordOf
      (fun r hr => response.decode_toJson hr) rfl rfl hscript rfl rfl) rfl
      (Or.rec htype fun h => by cases h), rfl⟩

/-- An event is read back. -/
theorem decode_toJson {event : Event} (h : event.news.IsSorted) {r : Reading}
    (hr : r.Allows event.toJson.depth) : decode r (Tree.ofValue event.toJson) = .ok event := by
  obtain ⟨_, record, slots, htells, hentries⟩ := exists_tells h
  rw [toJson_eq_objectOf, hentries] at hr ⊢
  exact htells.decode_objectOf hr

theorem isExact_toJson {event : Event} (h : event.news.IsExact) : event.toJson.IsExact := by
  obtain ⟨script, news⟩ := event
  cases news with
  | output text => cases text <;> exact ⟨trivial, trivial, trivial, trivial⟩
  | diagnostics value => exact ⟨trivial, trivial, h, trivial⟩
  | status status => exact ⟨trivial, trivial, trivial, trivial⟩
  | file response => exact ⟨trivial, trivial, response.isExact_toJson, trivial⟩

end Event

/-! ### What was written -/

/-- What is written for a value is decoded to this value, and it has no control characters. -/
def IsReadBack (decode : Json.Decoder α) (json : Value) (a : α) : Prop :=
  Json.decodeWhole decode json.written = .ok a ∧ ∀ c ∈ json.written, 0x20 ≤ c.toNat

theorem isReadBack_of_decode {decode : Json.Decoder α} {json : Value} {a : α} (hexact : json.IsExact)
    (h : decode (.streamed Reading.maxLevels) (Tree.ofValue json) = .ok a) :
    IsReadBack decode json a :=
  ⟨(Json.decodeWhole_written decode hexact).trans h, fun _ hc => Json.le_of_mem_written hexact hc⟩

/-- **What goes over the wire is read back**: every event whose diagnostics hold no double, are
sorted and are nested less than 128 levels deep with all that is around them, and every response,
change and settings. -/
theorem isReadBack_toJson :
    (∀ event : Event, event.news.IsExact → event.news.IsSorted → event.toJson.depth < 128 →
      IsReadBack Event.decode event.toJson event) ∧
    (∀ response : Response, IsReadBack Response.decode response.toJson response) ∧
    (∀ change : Change, IsReadBack Change.decode change.toJson change) ∧
    ∀ config : ScriptConfig, IsReadBack ScriptConfig.decode config.toJson config := by
  refine ⟨?_, ?_, ?_, ?_⟩
  · intro event hexact hsorted hdepth
    exact isReadBack_of_decode (Event.isExact_toJson hexact)
      (Event.decode_toJson hsorted (Nat.le_of_lt_succ hdepth))
  · intro response
    exact isReadBack_of_decode response.isExact_toJson
      (response.decode_toJson (Nat.le_trans response.depth_toJson (by decide)))
  · intro change
    have hdepth : change.toJson.depth ≤ Reading.maxLevels := change.depth_toJson ▸ by decide
    exact isReadBack_of_decode change.isExact_toJson (change.decode_toJson hdepth)
  · intro config
    exact ⟨config.decodeWhole_toJson, fun _ hc => Json.le_of_mem_written config.isExact_toJson hc⟩

/-- Diagnostics with sorted members, the least and the greatest integer, and characters that are
written with a backslash. -/
def sampleDiagnostics : Event where
  script := ⟨0x3f2504e04f8911d39a0c0305e82c3301⟩
  news := .diagnostics (.arr
    [.obj
      [("code".toList, .str "CS\"0103\"\n\u0001".toList),
       ("span".toList, .obj
        [("end".toList, .num (.int 18446744073709551615)),
         ("start".toList, .num (.int (-9223372036854775808)))])],
     .null])

theorem isReadBack_toJson_sample :
    sampleDiagnostics.news.IsExact ∧ sampleDiagnostics.news.IsSorted ∧
      sampleDiagnostics.toJson.depth < 128 ∧
      IsReadBack Event.decode sampleDiagnostics.toJson sampleDiagnostics := by
  have hexact : sampleDiagnostics.news.IsExact :=
    ⟨⟨trivial, ⟨⟨by decide, by decide⟩, ⟨by decide, by decide⟩, trivial⟩, trivial⟩, trivial,
      trivial⟩
  have hsorted : sampleDiagnostics.news.IsSorted :=
    ⟨⟨by decide, trivial, ⟨by decide, trivial, trivial, trivial⟩, trivial⟩, trivial, trivial⟩
  exact ⟨hexact, hsorted, by decide, isReadBack_toJson.1 _ hexact hsorted (by decide)⟩

end ScriptDesk
