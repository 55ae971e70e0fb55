import ScriptDesk.Proofs.Json.Nesting

/-!
# Records and choices by their members

The members of an object are put into the draft of a record one by one (`Record.fillMember`). In a
plain record (`Record.IsPlain`) filling one field neither needs nor changes another one. Then the
order of the members makes no difference (`IsPlain.fillMembers_perm`), members that no field goes by
are passed over (`fillMembers_foreign`), and no field is filled twice
(`IsPlain.fillMembers_ne_ok_of_twice`).

A choice reads all members, takes out the one with the tag and hands the others to the record that
the tag names (`Choice.decode_of_perm`). There is one tag or the choice is refused
(`Choice.cases_of_decode`, `Choice.decode_of_untagged`).
-/

namespace ScriptDesk.Json

/-- A member of an object as it is read: the name, if it is a text, and the value. -/
abbrev Member := Option Text × Tree

theorem bind_eq_ok {ε α β : Type} {first : Except ε α} {next : α → Except ε β} {b : β}
    (h : first.bind next = .ok b) : ∃ a, first = .ok a ∧ next a = .ok b := by
  cases first with
  | error e => cases h
  | ok a => exact ⟨a, rfl, h⟩

/-! ### Fields -/

/-- Filling the one field neither needs nor changes the other. -/
structure Field.Apart (field other : Field δ) : Prop where
  /-- The other field is filled if it was. -/
  keeps : ∀ {r t draft filled}, field.fill r t draft = .ok filled →
    other.isFilled filled = other.isFilled draft
  /-- Filling the other one keeps this one. -/
  kept : ∀ {r t draft filled}, other.fill r t draft = .ok filled →
    field.isFilled filled = field.isFilled draft
  /-- The two may be filled the other way round. -/
  swap : ∀ {r t u draft first both}, field.fill r t draft = .ok first →
    other.fill r u first = .ok both →
    ∃ second, other.fill r u draft = .ok second ∧ field.fill r t second = .ok both

/-- The fields of the record have nothing to do with one another. -/
structure Record.IsPlain (record : Record δ α) : Prop where
  /-- A field that was filled is filled. -/
  fills : ∀ field ∈ record.fields, ∀ {r t draft filled}, field.fill r t draft = .ok filled →
    field.isFilled filled = true
  /-- Each field is apart from each other one. -/
  apart : ∀ field ∈ record.fields, ∀ other ∈ record.fields, field = other ∨ field.Apart other

namespace Record

/-- Put a member into a draft. -/
def fillMember (fields : List (Field δ)) (r : Reading) : Member → δ → Except Fault δ
  | (none, _), _ => .error .syntaxError
  | (some name, value), draft =>
    match fields.find? (·.answers name) with
    | none => if value.isWhole then .ok draft else .error .syntaxError
    | some field =>
      if field.isFilled draft then .error (.duplicateField field.name)
      else field.fill r value draft

theorem fillMembers_cons (fields : List (Field δ)) (r : Reading) (member : Member)
    (members : List Member) (closed : Bool) (draft : δ) :
    fillMembers fields r (member :: members) closed draft =
      (fillMember fields r member draft).bind (fillMembers fields r members closed) := by
  obtain ⟨name, value⟩ := member
  cases name with
  | none => rfl
  | some name =>
    rw [fillMembers, fillMember]
    cases fields.find? (·.answers name) with
    | none => cases value.isWhole <;> rfl
    | some field =>
      simp only
      cases field.isFilled draft <;> rfl

/-- What putting a member into a draft takes: no field goes by its name, or one does that is not
filled yet. -/
theorem fillMember_cases {fields : List (Field δ)} {r : Reading} {member : Member}
    {draft filled : δ} (h : fillMember fields r member draft = .ok filled) :
    ∃ name, member.1 = some name ∧
      ((fields.find? (·.answers name) = none ∧ member.2.isWhole = true ∧ filled = draft) ∨
        ∃ field ∈ fields, fields.find? (·.answers name) = some field ∧
          field.isFilled draft = false ∧ field.fill r member.2 draft = .ok filled) := by
  obtain ⟨name, value⟩ := member
  cases name with
  | none => cases h
  | some name =>
    refine ⟨name, rfl, ?_⟩
    rw [fillMember] at h
    split at h
    · rename_i hfind
      split at h
      · rename_i hwhole
        cases h
        exact .inl ⟨hfind, hwhole, rfl⟩
      · cases h
    · rename_i field hfind
      split at h
      · cases h
      · rename_i hfree
        exact .inr ⟨field, List.mem_of_find?_eq_some hfind, hfind, by simpa using hfree, h⟩

theorem fillMember_of_find? {fields : List (Field δ)} {r : Reading} {name : Text} {value : Tree}
    {field : Field δ} {draft : δ} (hfind : fields.find? (·.answers name) = some field)
    (hfree : field.isFilled draft = false) :
    fillMember fields r (some name, value) draft = field.fill r value draft := by
  rw [fillMember, hfind]
  exact if_neg (by simp [hfree])

/-- A member that no field goes by is passed over. -/
theorem fillMember_foreign {fields : List (Field δ)} {name : Text} {value : Tree}
    (hfind : fields.find? (·.answers name) = none) (hwhole : value.isWhole = true) (r : Reading)
    (draft : δ) : fillMember fields r (some name, value) draft = .ok draft := by
  rw [fillMember, hfind]
  exact if_pos hwhole

/-- Members that no field goes by are passed over. -/
theorem fillMembers_foreign {fields : List (Field δ)} {extras : List Member} (r : Reading)
    (h : ∀ member ∈ extras, member.2.isWhole = true ∧
      ∃ name, member.1 = some name ∧ fields.find? (·.answers name) = none)
    (members : List Member) (draft : δ) :
    fillMembers fields r (extras ++ members) true draft =
      fillMembers fields r members true draft := by
  induction extras with
  | nil => rfl
  | cons member extras ih =>
    obtain ⟨name, value⟩ := member
    obtain ⟨hwhole, _, rfl, hfind⟩ := h _ List.mem_cons_self
    rw [List.cons_append, fillMembers_cons, fillMember_foreign hfind hwhole]
    exact ih fun member hmember => h member (List.mem_cons_of_mem _ hmember)

variable {record : Record δ α}

/-- Two members may be put into a draft the other way round. -/
theorem IsPlain.fillMember_swap (h : record.IsPlain) {r : Reading} {a b : Member}
    {draft first both : δ} (ha : fillMember record.fields r a draft = .ok first)
    (hb : fillMember record.fields r b first = .ok both) :
    ∃ second, fillMember record.fields r b draft = .ok second ∧
      fillMember record.fields r a second = .ok both := by
  obtain ⟨nameA, valueA⟩ := a
  obtain ⟨nameB, valueB⟩ := b
  obtain ⟨nameA, rfl, ⟨hfindA, hwholeA, rfl⟩ | ⟨field, hfield, hfindA, hfreeA, hfillA⟩⟩ :=
    fillMember_cases ha
  · exact ⟨both, hb, fillMember_foreign hfindA hwholeA r both⟩
  · obtain ⟨nameB, rfl, ⟨hfindB, hwholeB, rfl⟩ | ⟨other, hother, hfindB, hfreeB, hfillB⟩⟩ :=
      fillMember_cases hb
    · exact ⟨draft, fillMember_foreign hfindB hwholeB r draft, ha⟩
    · rcases h.apart field hfield other hother with rfl | hapart
      · -- the field was filled by the first member
        rw [h.fills field hfield hfillA] at hfreeB
        cases hfreeB
      · obtain ⟨second, hsecond, hboth⟩ := hapart.swap hfillA hfillB
        rw [hapart.keeps hfillA] at hfreeB
        rw [← hapart.kept hsecond] at hfreeA
        exact ⟨second, (fillMember_of_find? hfindB hfreeB).trans hsecond,
          (fillMember_of_find? hfindA hfreeA).trans hboth⟩

/-- **The order of the members makes no difference.** -/
theorem IsPlain.fillMembers_perm (h : record.IsPlain) {r : Reading} {members permuted : List Member}
    {closed : Bool} (hperm : members.Perm permuted) :
    ∀ {draft filled : δ}, fillMembers record.fields r members closed draft = .ok filled →
      fillMembers record.fields r permuted closed draft = .ok filled := by
  induction hperm with
  | nil => exact id
  | cons member hperm ih =>
    intro draft filled hfill
    rw [fillMembers_cons] at hfill ⊢
    obtain ⟨first, hfirst, hrest⟩ := bind_eq_ok hfill
    rw [hfirst]
    exact ih hrest
  | swap a b members =>
    intro draft filled hfill
    rw [fillMembers_cons] at hfill
    obtain ⟨first, hfirst, hrest⟩ := bind_eq_ok hfill
    rw [fillMembers_cons] at hrest
    obtain ⟨both, hboth, hrest⟩ := bind_eq_ok hrest
    obtain ⟨second, hsecond, hboth⟩ := h.fillMember_swap hfirst hboth
    rw [fillMembers_cons, hsecond, Except.bind, fillMembers_cons, hboth]
    exact hrest
  | trans _ _ ih ih' => exact fun hfill => ih' (ih hfill)

/-- A draft in which two members go by the same field does not come about. -/
theorem IsPlain.fillMembers_ne_ok_of_twice (h : record.IsPlain) {r : Reading}
    {members rest : List Member} {closed : Bool} {name other : Text} {value value' : Tree}
    {field : Field δ} (hperm : members.Perm ((some name, value) :: (some other, value') :: rest))
    (hname : record.fields.find? (·.answers name) = some field)
    (hother : record.fields.find? (·.answers other) = some field) (draft filled : δ) :
    fillMembers record.fields r members closed draft ≠ .ok filled := by
  intro hfill
  have hfill := h.fillMembers_perm hperm hfill
  rw [fillMembers_cons] at hfill
  obtain ⟨first, hfirst, hrest⟩ := bind_eq_ok hfill
  rw [fillMembers_cons] at hrest
  obtain ⟨both, hboth, -⟩ := bind_eq_ok hrest
  obtain ⟨_, hsame, ⟨hnone, -⟩ | ⟨found, hmem, hfound, -, hfilled⟩⟩ := fillMember_cases hfirst
  · cases hsame
    rw [hname] at hnone
    cases hnone
  · cases hsame
    rw [hname] at hfound
    cases hfound
    have hfilled := h.fills field hmem hfilled
    rw [fillMember, hother] at hboth
    simp only [hfilled, if_true] at hboth
    cases hboth

/-- **A record is decoded from its own members**, in whatever order they stand and whatever other
members stand between them. -/
theorem IsPlain.decode_of_perm (h : record.IsPlain) {r inner : Reading}
    (henter : r.enter = .ok inner) {members own extras : List Member}
    (hperm : members.Perm (own ++ extras))
    (hextras : ∀ member ∈ extras, member.2.isWhole = true ∧
      ∃ name, member.1 = some name ∧ record.fields.find? (·.answers name) = none)
    {filled : δ} (hown : fillMembers record.fields inner own true record.blank = .ok filled) :
    record.decode r (.obj members true) = record.build filled := by
  have hfill : fillMembers record.fields inner members true record.blank = .ok filled := by
    refine h.fillMembers_perm (hperm.trans List.perm_append_comm).symm ?_
    rw [fillMembers_foreign inner hextras]
    exact hown
  rw [decode, henter]
  show (fillMembers record.fields inner members true record.blank).bind record.build = _
  rw [hfill]
  rfl

/-- A record in which a field is there twice is refused. -/
theorem IsPlain.decode_ne_ok_of_twice (h : record.IsPlain) {r : Reading}
    {members rest : List Member} {closed : Bool} {name other : Text} {value value' : Tree}
    {field : Field δ} (hperm : members.Perm ((some name, value) :: (some other, value') :: rest))
    (hname : record.fields.find? (·.answers name) = some field)
    (hother : record.fields.find? (·.answers other) = some field) (a : α) :
    record.decode r (.obj members closed) ≠ .ok a := by
  intro hdecode
  obtain ⟨inner, -, hdecode⟩ := bind_eq_ok hdecode
  obtain ⟨filled, hfill, -⟩ := bind_eq_ok hdecode
  exact h.fillMembers_ne_ok_of_twice hperm hname hother _ filled hfill

end Record

/-! ### Choices -/

namespace Choice

variable {choice : Choice α} {r : Reading}

/-- A member besides the tag that can be read in full. -/
def IsRest (choice : Choice α) (r : Reading) (member : Member) : Prop :=
  (∃ name, member.1 = some name ∧ name ≠ choice.tag) ∧ member.2.checkAll r = .ok ()

theorem splitMembers_cons_rest {member : Member} (h : choice.IsRest r member)
    (members : List Member) (chosen : Option (Decoder α)) :
    choice.splitMembers r (member :: members) true chosen =
      (choice.splitMembers r members true chosen).map fun (chosen, others) =>
        (chosen, member :: others) := by
  obtain ⟨name, value⟩ := member
  obtain ⟨⟨name, rfl, hname⟩, hcheck⟩ := h
  rw [splitMembers, if_neg hname, hcheck]
  cases choice.splitMembers r members true chosen with
  | error fault => rfl
  | ok split => rfl

/-- Without a tag all members are the rest. -/
theorem splitMembers_of_rest {members : List Member} (h : ∀ member ∈ members, choice.IsRest r member)
    (chosen : Option (Decoder α)) :
    choice.splitMembers r members true chosen = .ok (chosen, members) := by
  induction members with
  | nil => rfl
  | cons member members ih =>
    rw [splitMembers_cons_rest (h member List.mem_cons_self),
      ih fun other hother => h other (List.mem_cons_of_mem _ hother)]
    rfl

/-- The tag is taken out, wherever it stands. -/
theorem splitMembers_of_tag {before after : List Member} {t : Tree} {decoder : Decoder α}
    (htag : decodeTag choice.cases r t = .ok decoder)
    (hbefore : ∀ member ∈ before, choice.IsRest r member)
    (hafter : ∀ member ∈ after, choice.IsRest r member) :
    choice.splitMembers r (before ++ (some choice.tag, t) :: after) true none =
      .ok (some decoder, before ++ after) := by
  induction before with
  | nil =>
    rw [List.nil_append, splitMembers, if_pos rfl, htag]
    exact splitMembers_of_rest hafter (some decoder)
  | cons member before ih =>
    rw [List.cons_append, splitMembers_cons_rest (hbefore member List.mem_cons_self),
      ih fun other hother => hbefore other (List.mem_cons_of_mem _ hother)]
    rfl

/-- **A choice is decoded by its tag**, wherever that stands: the record that it names gets the
other members. -/
theorem decode_of_perm {inner : Reading} (henter : r.enter = .ok inner)
    {members rest : List Member} {t : Tree} {decoder : Decoder α}
    (hperm : members.Perm ((some choice.tag, t) :: rest))
    (htag : decodeTag choice.cases inner t = .ok decoder)
    (hrest : ∀ member ∈ rest, choice.IsRest inner member) :
    ∃ others, others.Perm rest ∧
      choice.decode r (.obj members true) = decoder .held (.obj others true) := by
  obtain ⟨before, after, rfl⟩ := List.append_of_mem (hperm.symm.subset List.mem_cons_self)
  have hothers : (before ++ after).Perm rest := (List.perm_middle.symm.trans hperm).cons_inv
  refine ⟨before ++ after, hothers, ?_⟩
  rw [decode, henter]
  show (choice.splitMembers inner _ true none).bind _ = _
  rw [splitMembers_of_tag htag]
  · rfl
  · exact fun member hmember => hrest member (hothers.subset (List.mem_append_left _ hmember))
  · exact fun member hmember => hrest member (hothers.subset (List.mem_append_right _ hmember))

/-- Without a tag a choice is refused for it. -/
theorem decode_of_untagged {inner : Reading} (henter : r.enter = .ok inner) {members : List Member}
    (h : ∀ member ∈ members, choice.IsRest inner member) :
    choice.decode r (.obj members true) = .error (.missingField choice.tag) := by
  rw [decode, henter]
  show (choice.splitMembers inner _ true none).bind _ = _
  rw [splitMembers_of_rest h]
  rfl

/-- What splitting off the tag takes: there is none, or one in one place. -/
theorem split_of_splitMembers {closed : Bool} {members : List Member} :
    ∀ {chosen result : Option (Decoder α)} {others : List Member},
      choice.splitMembers r members closed chosen = .ok (result, others) →
        (result = chosen ∧ others = members ∧ ∀ member ∈ members, member.1 ≠ some choice.tag) ∨
          (chosen = none ∧ ∃ before t after decoder,
            members = before ++ (some choice.tag, t) :: after ∧ others = before ++ after ∧
              (∀ member ∈ others, member.1 ≠ some choice.tag) ∧
              decodeTag choice.cases r t = .ok decoder ∧ result = some decoder) := by
  induction members with
  | nil =>
    intro chosen result others h
    rw [splitMembers] at h
    split at h
    · cases h
      exact .inl ⟨rfl, rfl, fun _ hmember => by cases hmember⟩
    · cases h
  | cons member members ih =>
    obtain ⟨name, value⟩ := member
    intro chosen result others h
    cases name with
    | none => cases h
    | some name =>
      rw [splitMembers] at h
      split at h
      · rename_i hname
        subst hname
        split at h
        · cases h
        · rename_i hfree
          obtain ⟨decoder, hdecoder, h⟩ := bind_eq_ok h
          rcases ih h with ⟨rfl, rfl, hrest⟩ | ⟨hnone, -⟩
          · exact .inr ⟨by simpa using hfree, [], value, others, decoder, rfl, rfl, hrest,
              hdecoder, rfl⟩
          · cases hnone
      · rename_i hname
        have hname : some name ≠ some choice.tag := fun heq => hname (Option.some.inj heq)
        obtain ⟨_, -, h⟩ := bind_eq_ok h
        obtain ⟨⟨found, rest⟩, hsplit, h⟩ := bind_eq_ok h
        cases h
        rcases ih hsplit with ⟨hresult, rfl, hrest⟩ |
          ⟨hnone, before, t, after, decoder, rfl, rfl, hrest, hdecoder, hresult⟩
        · exact .inl ⟨hresult, rfl, List.forall_mem_cons.mpr ⟨hname, hrest⟩⟩
        · exact .inr ⟨hnone, (some name, value) :: before, t, after, decoder, rfl, rfl,
            List.forall_mem_cons.mpr ⟨hname, hrest⟩, hdecoder, hresult⟩

/-- A choice that is decoded has one tag, and the record that it names is decoded from the other
members. -/
theorem cases_of_decode {members : List Member} {closed : Bool} {a : α}
    (h : choice.decode r (.obj members closed) = .ok a) :
    ∃ inner before t after decoder, members = before ++ (some choice.tag, t) :: after ∧
      (∀ member ∈ before ++ after, member.1 ≠ some choice.tag) ∧
      decodeTag choice.cases inner t = .ok decoder ∧
      decoder .held (.obj (before ++ after) true) = .ok a := by
  obtain ⟨inner, -, h⟩ := bind_eq_ok h
  obtain ⟨⟨result, others⟩, hsplit, h⟩ := bind_eq_ok h
  rcases split_of_splitMembers hsplit with ⟨rfl, -⟩ |
    ⟨-, before, t, after, decoder, hmembers, rfl, hrest, htag, rfl⟩
  · cases h
  · exact ⟨inner, before, t, after, decoder, hmembers, hrest, htag, h⟩

/-- A choice with two tags is refused. -/
theorem decode_ne_ok_of_twice {members rest : List Member} {closed : Bool} {t t' : Tree}
    (hperm : members.Perm ((some choice.tag, t) :: (some choice.tag, t') :: rest)) (a : α) :
    choice.decode r (.obj members closed) ≠ .ok a := by
  intro h
  obtain ⟨_, before, u, after, _, rfl, hrest, -⟩ := cases_of_decode h
  have hothers := (List.perm_middle.symm.trans hperm).map Prod.fst
  have hmem : some choice.tag ∈ (before ++ after).map Prod.fst :=
    (List.Perm.cons_inv hothers).symm.subset List.mem_cons_self
  obtain ⟨member, hmember, hname⟩ := List.mem_map.mp hmem
  exact hrest member hmember hname

/-- A choice whose record is refused is refused. -/
theorem decode_ne_ok_of_record {members rest : List Member} {closed : Bool} {t : Tree}
    {decoder : Decoder α} (hperm : members.Perm ((some choice.tag, t) :: rest))
    (hrest : ∀ member ∈ rest, member.1 ≠ some choice.tag)
    (htag : ∀ r, decodeTag choice.cases r t = .ok decoder) {a : α}
    (hrecord : ∀ others, others.Perm rest → decoder .held (.obj others true) ≠ .ok a) :
    choice.decode r (.obj members closed) ≠ .ok a := by
  intro h
  obtain ⟨inner, before, u, after, found, rfl, hothers, hfound, h⟩ := cases_of_decode h
  -- the one tag is the given one
  have hu : (some choice.tag, u) = ((some choice.tag, t) : Member) := by
    rcases List.mem_cons.mp (hperm.subset (List.mem_append_right _ List.mem_cons_self)) with heq | hmem
    · exact heq
    · exact absurd rfl (hrest _ hmem)
  cases hu
  rw [htag] at hfound
  cases hfound
  exact hrecord _ (List.perm_middle.symm.trans hperm).cons_inv h

end Choice

end ScriptDesk.Json
