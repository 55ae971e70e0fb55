import Mathlib.Data.List.Forall2
import Mathlib.Data.List.InsertIdx
import Mathlib.Data.List.Pairwise
import ScriptDesk.Proofs.Json.Members

/-!
# Values told field by field

A value that is decoded from an object is told by its fields (`Entry`): each goes by one or two
names and has a value, and some may be left out. `Mixes` says that the members of an object are some
of these fields and any others, in any order. `ToldByNames` says what becomes of all such objects:
the fields alone decide, each may be there once, and none may be left out unless it has a value of
its own without it.

A field is decoded into a place of the draft (`Slot`). If a record has apart places
(`Record.Tells`), its values are told by their fields (`Record.Tells.toldByNames`), and so are those
of a choice, whose tag is one more field (`Choice.Tells.toldByNames`). What was written is decoded
as a special case (`Record.Tells.decode_objectOf`, `Choice.Tells.decode_objectOf`).
-/

namespace ScriptDesk.Json

/-- A field of a value. -/
structure Entry (α : Type) where
  /-- The name under which it is written. -/
  name : Text
  /-- Another name for it. -/
  other : Option Text := none
  /-- Its value. -/
  value : Value
  /-- What is decoded when it is left out, if it may be. -/
  absent : Option α := none

namespace Entry

/-- The field goes by this name. -/
def Answers (entry : Entry α) (name : Text) : Prop :=
  entry.name = name ∨ entry.other = some name

instance (entry : Entry α) (name : Text) : Decidable (entry.Answers name) :=
  inferInstanceAs (Decidable (_ ∨ _))

/-- Fields of one name each have none in common if the names differ. -/
theorem answers_disjoint {entry second : Entry α} (hentry : entry.other = none)
    (hsecond : second.other = none) (hne : entry.name ≠ second.name) (name : Text)
    (h : entry.Answers name) : ¬ second.Answers name := by
  intro hname
  simp only [Answers, hentry, hsecond, reduceCtorEq, or_false] at h hname
  exact hne (h.trans hname.symm)

/-- What comes of leaving the field out. -/
def outcomeWithout (entry : Entry α) : Except Fault α :=
  match entry.absent with
  | some a => .ok a
  | none => .error (.missingField entry.name)

/-- The member has a name of the field and its value. -/
def IsHeldBy (entry : Entry α) (member : Member) : Prop :=
  (∃ name, member.1 = some name ∧ entry.Answers name) ∧ member.2 = Tree.ofValue entry.value

end Entry

/-- The members hold these fields in their order. -/
def Holds (entries : List (Entry α)) (members : List Member) : Prop :=
  List.Forall₂ Entry.IsHeldBy entries members

/-- The member has a name by which no field goes. -/
def IsForeign (entries : List (Entry α)) (member : Member) : Prop :=
  ∃ name, member.1 = some name ∧ ∀ entry ∈ entries, ¬ entry.Answers name

/-- The members are `entries` and any others that are none of the `known` fields, in any order. -/
def Mixes (known entries : List (Entry α)) (members : List Member) : Prop :=
  ∃ own extras, members.Perm (own ++ extras) ∧ Holds entries own ∧
    ∀ member ∈ extras, IsForeign known member

/-- The members as which the fields are written. -/
def membersOf (entries : List (Entry α)) : List (Text × Value) :=
  entries.map fun entry => (entry.name, entry.value)

/-- The object as which the fields are written. -/
def objectOf (entries : List (Entry α)) : Value :=
  .obj (membersOf entries)

/-- What is decoded from a text that is an object depends on the fields of the value only. Of the
objects, those that `Fits` says something about are decoded. -/
structure ToldByNames (decode : Decoder α) (Fits : Tree → Prop) (entries : List (Entry α)) (v : α) :
    Prop where
  /-- From all fields the value is decoded. -/
  whole : ∀ {text : Text} {members : List Member}, SpellsWhole text (.obj members true) →
    Fits (.obj members true) → Mixes entries entries members → decodeWhole decode text = .ok v
  /-- Without a field it is decoded with that field empty, or refused. -/
  left_out : ∀ (i : Nat) (h : i < entries.length) {text : Text} {members : List Member},
    SpellsWhole text (.obj members true) → Fits (.obj members true) →
    Mixes entries (entries.eraseIdx i) members →
    decodeWhole decode text = (entries[i]).outcomeWithout
  /-- With one more member that goes by the name of a field it is refused. -/
  repeated : ∀ entry ∈ entries, ∀ {text name : Text} {t : Tree} {members others : List Member},
    SpellsWhole text (.obj members true) → entry.Answers name →
    members.Perm ((some name, t) :: others) → Mixes entries entries others →
    ∃ fault, decodeWhole decode text = .error fault

/-! ### Members -/

theorem depth_objectOf (entries : List (Entry α)) :
    ∀ entry ∈ entries, entry.value.depth + 1 ≤ (objectOf entries).depth := by
  intro entry hentry
  rw [objectOf, Value.depth]
  refine Nat.succ_le_succ ?_
  induction entries with
  | nil => cases hentry
  | cons first entries ih =>
    rw [membersOf, List.map_cons, Value.depthOfMembers]
    rcases List.mem_cons.mp hentry with rfl | hentry
    · exact Nat.le_max_left _ _
    · exact Nat.le_trans (ih hentry) (Nat.le_max_right _ _)

theorem holds_objectOf (entries : List (Entry α)) :
    Holds entries (Tree.ofMembers (membersOf entries)) := by
  induction entries with
  | nil => exact .nil
  | cons entry entries ih => exact .cons ⟨⟨entry.name, rfl, .inl rfl⟩, rfl⟩ ih

theorem mixes_objectOf (entries : List (Entry α)) :
    Mixes entries entries (Tree.ofMembers (membersOf entries)) :=
  ⟨_, [], by rw [List.append_nil], holds_objectOf entries, fun _ h => by cases h⟩

/-- Each field that is held is among the members. -/
theorem Holds.exists_mem {entries : List (Entry α)} {members : List Member}
    (h : Holds entries members) {entry : Entry α} (hentry : entry ∈ entries) :
    ∃ name t, (some name, t) ∈ members ∧ entry.Answers name := by
  induction h with
  | nil => cases hentry
  | @cons first member entries members hfirst _ ih =>
    rcases List.mem_cons.mp hentry with rfl | hentry
    · obtain ⟨⟨name, hname, hanswers⟩, -⟩ := hfirst
      exact ⟨name, member.2, hname ▸ List.mem_cons_self, hanswers⟩
    · obtain ⟨name, t, hmem, hanswers⟩ := ih hentry
      exact ⟨name, t, List.mem_cons_of_mem _ hmem, hanswers⟩

/-- Each member that holds a field goes by a name of it. -/
theorem Holds.exists_answers {entries : List (Entry α)} {members : List Member}
    (h : Holds entries members) {member : Member} (hmember : member ∈ members) :
    ∃ entry ∈ entries, ∃ name, member.1 = some name ∧ entry.Answers name := by
  induction h with
  | nil => cases hmember
  | @cons first held entries members hfirst _ ih =>
    rcases List.mem_cons.mp hmember with rfl | hmember
    · exact ⟨first, List.mem_cons_self, hfirst.1⟩
    · obtain ⟨entry, hentry, hname⟩ := ih hmember
      exact ⟨entry, List.mem_cons_of_mem _ hentry, hname⟩

theorem exists_error_of_ne_ok {result : Except Fault α} (h : ∀ a, result ≠ .ok a) :
    ∃ fault, result = .error fault := by
  cases result with
  | error fault => exact ⟨fault, rfl⟩
  | ok a => exact absurd rfl (h a)

/-! ### Places of a draft -/

/-- A place of a draft and the field that is decoded into it. -/
structure Slot (δ α : Type) where
  /-- What the place holds. -/
  {β : Type}
  /-- What it holds now. -/
  get : δ → Option β
  /-- Put something into it. -/
  set : δ → β → δ
  /-- The field may be left out at the end of an array. -/
  optional : Bool := false
  /-- The decoder of the field. -/
  decode : Decoder β
  /-- What the field decodes to. -/
  content : β
  /-- The field. -/
  entry : Entry α
  /-- What is put into it is there. -/
  get_set : ∀ draft b, get (set draft b) = some b
  /-- The field is decoded if it is not nested too deep. -/
  reads : ∀ r : Reading, r.Allows entry.value.depth →
    decode r (Tree.ofValue entry.value) = .ok content

namespace Slot

/-- The field of a record that fills the place. -/
def field (slot : Slot δ α) : Field δ where
  name := slot.entry.name
  other := slot.entry.other
  optional := slot.optional
  isFilled := fun draft => (slot.get draft).isSome
  fill := fun r t draft => do return slot.set draft (← slot.decode r t)

/-- The draft with all these places filled. -/
def fillAll (slots : List (Slot δ α)) (draft : δ) : δ :=
  slots.foldl (fun draft slot => slot.set draft slot.content) draft

/-- The two places have nothing to do with each other, and their fields have no name in common. -/
structure Apart (slot other : Slot δ α) : Prop where
  /-- No name is that of both. -/
  names : ∀ name, slot.entry.Answers name → ¬ other.entry.Answers name
  /-- Filling this place leaves the other one. -/
  keeps : ∀ draft b, other.get (slot.set draft b) = other.get draft
  /-- Filling the other place leaves this one. -/
  kept : ∀ draft b, slot.get (other.set draft b) = slot.get draft
  /-- They may be filled the other way round. -/
  swap : ∀ draft b c, other.set (slot.set draft b) c = slot.set (other.set draft c) b

instance : Std.Symm (@Apart δ α) where
  symm _ _ h := ⟨fun name hother hslot => h.names name hslot hother, h.kept, h.keeps,
    fun draft b c => (h.swap draft c b).symm⟩

theorem answers_field (slot : Slot δ α) (name : Text) :
    slot.field.answers name = true ↔ slot.entry.Answers name := by
  simp [Field.answers, field, Entry.Answers]

theorem eq_set_of_fill {slot : Slot δ α} {r : Reading} {t : Tree} {draft filled : δ}
    (h : slot.field.fill r t draft = .ok filled) :
    ∃ b, slot.decode r t = .ok b ∧ slot.set draft b = filled := by
  obtain ⟨b, hb, h⟩ := bind_eq_ok h
  exact ⟨b, hb, Except.ok.inj h⟩

theorem fill_of_decode {slot : Slot δ α} {r : Reading} {t : Tree} {b : slot.β}
    (h : slot.decode r t = .ok b) (draft : δ) :
    slot.field.fill r t draft = .ok (slot.set draft b) := by
  show (slot.decode r t).bind _ = _
  rw [h]
  rfl

theorem Apart.field {slot other : Slot δ α} (h : slot.Apart other) :
    slot.field.Apart other.field where
  keeps hfill := by
    obtain ⟨b, -, rfl⟩ := eq_set_of_fill hfill
    exact congrArg Option.isSome (h.keeps _ b)
  kept hfill := by
    obtain ⟨b, -, rfl⟩ := eq_set_of_fill hfill
    exact congrArg Option.isSome (h.kept _ b)
  swap hfirst hboth := by
    obtain ⟨b, hb, rfl⟩ := eq_set_of_fill hfirst
    obtain ⟨c, hc, rfl⟩ := eq_set_of_fill hboth
    exact ⟨_, fill_of_decode hc _, by rw [fill_of_decode hb, h.swap]⟩

end Slot

/-! ### Records -/

/-- The record decodes a value into these places. -/
structure Record.Tells (record : Record δ α) (slots : List (Slot δ α)) (v : α) : Prop where
  /-- The fields of the record fill the places. -/
  fields : record.fields = slots.map Slot.field
  /-- The places are apart. -/
  apart : slots.Pairwise Slot.Apart
  /-- At first they are empty. -/
  blank : ∀ slot ∈ slots, slot.get record.blank = none
  /-- When all are filled the value is complete. -/
  build : record.build (Slot.fillAll slots record.blank) = .ok v
  /-- When one is left empty it is what comes of leaving its field out. -/
  build_eraseIdx : ∀ (i : Nat) (h : i < slots.length),
    record.build (Slot.fillAll (slots.eraseIdx i) record.blank) = (slots[i]).entry.outcomeWithout

namespace Record.Tells

variable {record : Record δ α} {slots : List (Slot δ α)} {v : α}

theorem eq_or_apart (h : record.Tells slots v) {slot other : Slot δ α} (hslot : slot ∈ slots)
    (hother : other ∈ slots) : slot = other ∨ slot.Apart other := by
  by_contra hne
  obtain ⟨hne, hapart⟩ := not_or.mp hne
  exact hapart (h.apart.forall hslot hother hne)

theorem isPlain (h : record.Tells slots v) : record.IsPlain where
  fills field hfield _ _ _ _ hfill := by
    rw [h.fields] at hfield
    obtain ⟨slot, -, rfl⟩ := List.mem_map.mp hfield
    obtain ⟨b, -, rfl⟩ := Slot.eq_set_of_fill hfill
    exact congrArg Option.isSome (slot.get_set _ b)
  apart field hfield other hother := by
    rw [h.fields] at hfield hother
    obtain ⟨slot, hslot, rfl⟩ := List.mem_map.mp hfield
    obtain ⟨second, hsecond, rfl⟩ := List.mem_map.mp hother
    rcases h.eq_or_apart hslot hsecond with rfl | hapart
    · exact .inl rfl
    · exact .inr hapart.field

/-- A name of a field finds that field. -/
theorem find?_of_answers (h : record.Tells slots v) {slot : Slot δ α} (hslot : slot ∈ slots)
    {name : Text} (hname : slot.entry.Answers name) :
    record.fields.find? (·.answers name) = some slot.field := by
  have hsome : (record.fields.find? (·.answers name)).isSome := by
    rw [List.find?_isSome, h.fields]
    exact ⟨slot.field, List.mem_map_of_mem hslot, (slot.answers_field name).mpr hname⟩
  obtain ⟨found, hfound⟩ := Option.isSome_iff_exists.mp hsome
  have hmem := List.mem_of_find?_eq_some hfound
  rw [h.fields] at hmem
  obtain ⟨other, hother, rfl⟩ := List.mem_map.mp hmem
  have hanswers := (other.answers_field name).mp
    (List.find?_some (p := fun field : Field δ => field.answers name) hfound)
  rcases h.eq_or_apart hslot hother with rfl | hapart
  · exact hfound
  · exact absurd hanswers (hapart.names name hname)

/-- A name that is no field's finds none. -/
theorem find?_foreign (h : record.Tells slots v) {name : Text}
    (hname : ∀ entry ∈ slots.map Slot.entry, ¬ entry.Answers name) :
    record.fields.find? (·.answers name) = none := by
  rw [List.find?_eq_none, h.fields]
  rintro _ hfield hanswers
  obtain ⟨slot, hslot, rfl⟩ := List.mem_map.mp hfield
  exact hname _ (List.mem_map_of_mem hslot) ((slot.answers_field name).mp hanswers)

/-- Members that hold fields fill their places, one after the other. -/
theorem fillMembers_of_holds (h : record.Tells slots v) {r : Reading} {given : List (Slot δ α)} :
    ∀ {own : List Member} {draft : δ}, given.Sublist slots →
      Holds (given.map Slot.entry) own → (∀ slot ∈ given, r.Allows slot.entry.value.depth) →
      (∀ slot ∈ given, slot.get draft = none) →
      fillMembers record.fields r own true draft = .ok (Slot.fillAll given draft) := by
  induction given with
  | nil =>
    intro own draft _ hown _ _
    cases hown
    rfl
  | cons slot given ih =>
    intro own draft hsub hown hdepth hfree
    obtain ⟨member, own, ⟨⟨name, hname, hanswers⟩, hvalue⟩, hrest, rfl⟩ :=
      List.forall₂_cons_left_iff.mp hown
    obtain ⟨_, t⟩ := member
    cases hname
    cases hvalue
    have hslot : slot ∈ slots := hsub.subset List.mem_cons_self
    have hempty : slot.field.isFilled draft = false :=
      congrArg Option.isSome (hfree slot List.mem_cons_self)
    have hfill := Slot.fill_of_decode (slot.reads r (hdepth slot List.mem_cons_self)) draft
    rw [fillMembers_cons, fillMember_of_find? (h.find?_of_answers hslot hanswers) hempty, hfill]
    refine ih ((List.sublist_cons_self slot given).trans hsub) hrest
      (fun s hs => hdepth s (List.mem_cons_of_mem _ hs)) ?_
    intro s hs
    have hapart : slot.Apart s := List.rel_of_pairwise_cons (h.apart.sublist hsub) hs
    rw [hapart.keeps]
    exact hfree s (List.mem_cons_of_mem _ hs)

/-- **From an object with some of the fields**, in any order and with any other members between
them, the draft with these fields is built. -/
theorem decode_of_mixes (h : record.Tells slots v) {r inner : Reading} (henter : r.enter = .ok inner)
    (hdepth : ∀ slot ∈ slots, inner.Allows slot.entry.value.depth) {given : List (Slot δ α)}
    (hsub : given.Sublist slots) {members : List Member}
    (hmembers : Mixes (slots.map Slot.entry) (given.map Slot.entry) members)
    (hwhole : ∀ member ∈ members, member.2.isWhole = true) :
    record.decode r (.obj members true) = record.build (Slot.fillAll given record.blank) := by
  obtain ⟨own, extras, hperm, hown, hextras⟩ := hmembers
  refine h.isPlain.decode_of_perm henter hperm ?_ (h.fillMembers_of_holds hsub hown
    (fun slot hslot => hdepth slot (hsub.subset hslot))
    fun slot hslot => h.blank slot (hsub.subset hslot))
  intro member hmember
  obtain ⟨name, hname, hforeign⟩ := hextras member hmember
  exact ⟨hwhole member (hperm.symm.subset (List.mem_append_right own hmember)), name, hname,
    h.find?_foreign hforeign⟩

/-- What was written is decoded. -/
theorem decode_objectOf (h : record.Tells slots v) {r : Reading}
    (hr : r.Allows (objectOf (slots.map Slot.entry)).depth) :
    record.decode r (Tree.ofValue (objectOf (slots.map Slot.entry))) = .ok v := by
  obtain ⟨inner, henter, hinner⟩ := hr.enter
  rw [← h.build]
  refine h.decode_of_mixes henter ?_ (List.Sublist.refl slots) (mixes_objectOf _) ?_
  · intro slot hslot
    exact hinner.mono (Nat.le_of_succ_le_succ
      (depth_objectOf _ slot.entry (List.mem_map_of_mem hslot)))
  · exact Tree.allMembersWhole_iff.mp
      (Tree.allMembersWhole_of_allSound (Tree.allMembersSound_ofMembers _))

/-- An object with a field twice is refused. -/
theorem decode_ne_ok_of_repeated (h : record.Tells slots v) {slot : Slot δ α} (hslot : slot ∈ slots)
    {name : Text} (hname : slot.entry.Answers name) {t : Tree} {members others : List Member}
    (hperm : members.Perm ((some name, t) :: others))
    (hothers : Mixes (slots.map Slot.entry) (slots.map Slot.entry) others) {r : Reading}
    {closed : Bool} (a : α) : record.decode r (.obj members closed) ≠ .ok a := by
  obtain ⟨own, extras, hmix, hown, -⟩ := hothers
  obtain ⟨second, u, hmem, hsecond⟩ := hown.exists_mem (List.mem_map_of_mem hslot)
  obtain ⟨before, after, hsplit⟩ :=
    List.append_of_mem (hmix.symm.subset (List.mem_append_left extras hmem))
  have htwice : members.Perm ((some name, t) :: (some second, u) :: (before ++ after)) := by
    refine hperm.trans (.cons _ ?_)
    rw [hsplit]
    exact List.perm_middle
  exact h.isPlain.decode_ne_ok_of_twice htwice (h.find?_of_answers hslot hname)
    (h.find?_of_answers hslot hsecond) a

/-- **A value of a record is told by its fields**, if none is nested too deep. -/
theorem toldByNames (h : record.Tells slots v)
    (hdepth : ∀ slot ∈ slots, slot.entry.value.depth < Reading.maxLevels) :
    ToldByNames record.decode (fun _ => True) (slots.map Slot.entry) v := by
  have hdecode : ∀ {given : List (Slot δ α)} {text : Text} {members : List Member},
      given.Sublist slots → SpellsWhole text (.obj members true) →
      Mixes (slots.map Slot.entry) (given.map Slot.entry) members →
      decodeWhole record.decode text = record.build (Slot.fillAll given record.blank) := by
    intro given text members hsub htext hmembers
    rw [decodeWhole_of_spells record.decode htext]
    have hallows : ∀ slot ∈ slots, (Reading.streamed 126).Allows slot.entry.value.depth :=
      fun slot hslot => Nat.le_of_lt_succ (hdepth slot hslot)
    refine h.decode_of_mixes rfl hallows hsub hmembers (Tree.allMembersWhole_iff.mp ?_)
    simpa only [Tree.isWhole, Bool.and_true] using htext.isWhole
  constructor
  · intro text members htext _ hmembers
    rw [hdecode (List.Sublist.refl slots) htext hmembers, h.build]
  · intro i hi text members htext _ hmembers
    rw [List.eraseIdx_map] at hmembers
    rw [hdecode (List.eraseIdx_sublist slots i) htext hmembers,
      h.build_eraseIdx i (by simpa using hi)]
    simp
  · intro entry hentry text name t members others htext hname hperm hothers
    obtain ⟨slot, hslot, rfl⟩ := List.mem_map.mp hentry
    rw [decodeWhole_of_spells record.decode htext]
    exact exists_error_of_ne_ok (h.decode_ne_ok_of_repeated hslot hname hperm hothers)

end Record.Tells

/-! ### Choices -/

/-- The tag of a choice as a field. -/
def Choice.tagEntry (choice : Choice α) (given : Text) : Entry α where
  name := choice.tag
  value := .str given

/-- The choice decodes a value by a record that the tag `given` names. -/
structure Choice.Tells (choice : Choice α) (given : Text) (record : Record δ α)
    (slots : List (Slot δ α)) (v : α) : Prop where
  /-- The tag names the record. -/
  named : choice.cases.lookup given = some record.decode
  /-- The record decodes the value. -/
  record : record.Tells slots v
  /-- No field of the record goes by the name of the tag. -/
  untagged : ∀ slot ∈ slots, ¬ slot.entry.Answers choice.tag

namespace Choice.Tells

variable {choice : Choice α} {given : Text} {record : Record δ α} {slots : List (Slot δ α)} {v : α}

theorem decodeTag (h : choice.Tells given record slots v) (r : Reading) :
    decodeTag choice.cases r (.str (some given)) = .ok record.decode := by
  rw [Json.decodeTag, namedValue, h.named]

/-- No member but the tag has its name. -/
theorem ne_tag_of_mem (h : choice.Tells given record slots v) {known : List (Entry α)}
    {filled : List (Slot δ α)} (hsub : filled.Sublist slots) {own extras : List Member}
    (hown : Holds (filled.map Slot.entry) own)
    (hextras : ∀ member ∈ extras, IsForeign (choice.tagEntry given :: known) member) :
    ∀ member ∈ own ++ extras, ∃ name, member.1 = some name ∧ name ≠ choice.tag := by
  intro member hmember
  rcases List.mem_append.mp hmember with hmember | hmember
  · obtain ⟨entry, hentry, name, hname, hanswers⟩ := hown.exists_answers hmember
    obtain ⟨slot, hslot, rfl⟩ := List.mem_map.mp hentry
    refine ⟨name, hname, ?_⟩
    rintro rfl
    exact h.untagged slot (hsub.subset hslot) hanswers
  · obtain ⟨name, hname, hforeign⟩ := hextras member hmember
    refine ⟨name, hname, ?_⟩
    rintro rfl
    exact hforeign _ List.mem_cons_self (.inl rfl)

/-- Behind the tag stand the fields of the record. -/
theorem exists_perm_of_mixes (h : choice.Tells given record slots v) {filled : List (Slot δ α)}
    (hsub : filled.Sublist slots) {members : List Member}
    (hmembers : Mixes (choice.tagEntry given :: slots.map Slot.entry)
      (choice.tagEntry given :: filled.map Slot.entry) members) :
    ∃ rest, members.Perm ((some choice.tag, .str (some given)) :: rest) ∧
      Mixes (slots.map Slot.entry) (filled.map Slot.entry) rest ∧
      ∀ member ∈ rest, ∃ name, member.1 = some name ∧ name ≠ choice.tag := by
  obtain ⟨own, extras, hperm, hown, hextras⟩ := hmembers
  obtain ⟨⟨tag, t⟩, own, ⟨⟨name, hname, hanswers⟩, hvalue⟩, hrest, rfl⟩ :=
    List.forall₂_cons_left_iff.mp hown
  cases hname
  cases hvalue
  obtain rfl : choice.tag = name := hanswers.resolve_right fun hother => by cases hother
  refine ⟨own ++ extras, hperm, ⟨own, extras, .refl _, hrest, ?_⟩, h.ne_tag_of_mem hsub hrest hextras⟩
  intro member hmember
  obtain ⟨name, hname, hforeign⟩ := hextras member hmember
  exact ⟨name, hname, fun entry hentry => hforeign entry (List.mem_cons_of_mem _ hentry)⟩

/-- **From an object with the tag and some of the fields**, in any order and with any other members
between them, the draft of the record with these fields is built. -/
theorem decode_of_mixes (h : choice.Tells given record slots v) {r inner : Reading}
    (henter : r.enter = .ok inner) {filled : List (Slot δ α)} (hsub : filled.Sublist slots)
    {members : List Member}
    (hmembers : Mixes (choice.tagEntry given :: slots.map Slot.entry)
      (choice.tagEntry given :: filled.map Slot.entry) members)
    (hsound : ∀ member ∈ members, member.2.IsSound ∧ inner.Allows member.2.depth) :
    choice.decode r (.obj members true) = record.build (Slot.fillAll filled record.blank) := by
  obtain ⟨rest, hperm, hrest, hnames⟩ := h.exists_perm_of_mixes hsub hmembers
  have hmem : ∀ member ∈ rest, member ∈ members := fun member hmember =>
    hperm.symm.subset (List.mem_cons_of_mem _ hmember)
  obtain ⟨others, hothers, hdecode⟩ := Choice.decode_of_perm henter hperm (h.decodeTag inner)
    fun member hmember => ⟨hnames member hmember, Tree.checkAll_of_isSound
      (hsound member (hmem member hmember)).1 (hsound member (hmem member hmember)).2⟩
  obtain ⟨own, extras, hsplit, hown, hextras⟩ := hrest
  rw [hdecode]
  have hallows : ∀ slot ∈ slots, Reading.held.Allows slot.entry.value.depth := fun _ _ => trivial
  refine h.record.decode_of_mixes rfl hallows hsub
    ⟨own, extras, hothers.trans hsplit, hown, hextras⟩ ?_
  intro member hmember
  exact Tree.isWhole_of_isSound (hsound member (hmem member (hothers.subset hmember))).1

/-- What was written is decoded. -/
theorem decode_objectOf (h : choice.Tells given record slots v) {r : Reading}
    (hr : r.Allows (objectOf (choice.tagEntry given :: slots.map Slot.entry)).depth) :
    choice.decode r
      (Tree.ofValue (objectOf (choice.tagEntry given :: slots.map Slot.entry))) = .ok v := by
  obtain ⟨inner, henter, hinner⟩ := hr.enter
  rw [← h.record.build]
  refine h.decode_of_mixes henter (List.Sublist.refl slots) (mixes_objectOf _) ?_
  intro member hmember
  have hsound := Tree.allMembersSound_iff.mp (Tree.allMembersSound_ofMembers _) member hmember
  refine ⟨hsound.2, hinner.mono ?_⟩
  rw [← Tree.depthOfMembers_ofMembers]
  exact Tree.depth_le_depthOfMembers hmember

/-- An object without the tag is refused for it. -/
theorem decode_of_untagged (h : choice.Tells given record slots v) {r inner : Reading}
    (henter : r.enter = .ok inner) {members : List Member}
    (hmembers : Mixes (choice.tagEntry given :: slots.map Slot.entry) (slots.map Slot.entry) members)
    (hsound : ∀ member ∈ members, member.2.IsSound ∧ inner.Allows member.2.depth) :
    choice.decode r (.obj members true) = .error (.missingField choice.tag) := by
  obtain ⟨own, extras, hperm, hown, hextras⟩ := hmembers
  refine Choice.decode_of_untagged henter fun member hmember => ⟨?_, ?_⟩
  · exact h.ne_tag_of_mem (List.Sublist.refl slots) hown hextras member (hperm.subset hmember)
  · exact Tree.checkAll_of_isSound (hsound member hmember).1 (hsound member hmember).2

/-- An object with the tag or a field twice is refused. -/
theorem decode_ne_ok_of_repeated (h : choice.Tells given record slots v) {entry : Entry α}
    (hentry : entry ∈ choice.tagEntry given :: slots.map Slot.entry) {name : Text}
    (hname : entry.Answers name) {t : Tree} {members others : List Member}
    (hperm : members.Perm ((some name, t) :: others))
    (hothers : Mixes (choice.tagEntry given :: slots.map Slot.entry)
      (choice.tagEntry given :: slots.map Slot.entry) others) {r : Reading} {closed : Bool} (a : α) :
    choice.decode r (.obj members closed) ≠ .ok a := by
  obtain ⟨rest, htag, hrest, hnames⟩ := h.exists_perm_of_mixes (List.Sublist.refl slots) hothers
  have hsplit := hperm.trans (htag.cons _)
  rcases List.mem_cons.mp hentry with rfl | hentry
  · -- the tag is there twice
    obtain rfl : choice.tag = name := hname.resolve_right fun hother => by cases hother
    exact Choice.decode_ne_ok_of_twice hsplit a
  · -- a field of the record is there twice
    obtain ⟨slot, hslot, rfl⟩ := List.mem_map.mp hentry
    refine Choice.decode_ne_ok_of_record (hsplit.trans (.swap _ _ _)) ?_ h.decodeTag ?_
    · intro member hmember heq
      rcases List.mem_cons.mp hmember with rfl | hmember
      · exact h.untagged slot hslot (Option.some.inj heq ▸ hname)
      · obtain ⟨other, hother, hne⟩ := hnames member hmember
        exact hne (Option.some.inj (hother.symm.trans heq))
    · intro members hmembers
      exact h.record.decode_ne_ok_of_repeated hslot hname hmembers hrest a

/-- **A value of a choice is told by its tag and its fields.** -/
theorem toldByNames (h : choice.Tells given record slots v) :
    ToldByNames choice.decode Tree.IsReadable (choice.tagEntry given :: slots.map Slot.entry) v := by
  have hmember : ∀ {members : List Member}, Tree.IsReadable (.obj members true) →
      ∀ member ∈ members, member.2.IsSound ∧ (Reading.streamed 126).Allows member.2.depth := by
    intro members hfits member hmember
    exact ⟨(Tree.allMembersSound_iff.mp hfits.1.1 member hmember).2,
      Nat.le_trans (Tree.depth_le_depthOfMembers hmember) (Nat.le_of_succ_le_succ hfits.2)⟩
  constructor
  · intro text members htext hfits hmembers
    rw [decodeWhole_of_spells choice.decode htext, ← h.record.build]
    exact h.decode_of_mixes rfl (List.Sublist.refl slots) hmembers (hmember hfits)
  · intro i hi text members htext hfits hmembers
    rw [decodeWhole_of_spells choice.decode htext]
    cases i with
    | zero => exact h.decode_of_untagged rfl hmembers (hmember hfits)
    | succ i =>
      rw [List.eraseIdx_cons_succ, List.eraseIdx_map] at hmembers
      rw [h.decode_of_mixes rfl (List.eraseIdx_sublist slots i) hmembers (hmember hfits),
        h.record.build_eraseIdx i (by simpa using hi)]
      simp
  · intro entry hentry text name t members others htext hname hperm hothers
    rw [decodeWhole_of_spells choice.decode htext]
    exact exists_error_of_ne_ok (h.decode_ne_ok_of_repeated hentry hname hperm hothers)

end Choice.Tells

end ScriptDesk.Json
