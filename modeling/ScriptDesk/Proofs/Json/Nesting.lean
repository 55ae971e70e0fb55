import ScriptDesk.Proofs.Json.ReadBack

/-!
# What can be read in full

A tree is read in full (`Tree.checkAll`) if it is sound and nested no deeper than the reading allows
(`checkAll_of_isSound`). The tree of a value is sound and as deep as the value, and it holds the
value again if the members of each object are sorted by name (`toValue_ofValue`).
-/

namespace ScriptDesk.Json

/-! ### Depth -/

/-- The reading allows containers to be nested so deep. -/
def Reading.Allows : Reading → (depth : Nat) → Prop
  | .streamed levels, depth => depth ≤ levels
  | .held, _ => True

/-- Going into an array or object leaves one level less. -/
theorem Reading.Allows.enter {r : Reading} {depth : Nat} (h : r.Allows (depth + 1)) :
    ∃ inner, r.enter = .ok inner ∧ inner.Allows depth := by
  cases r with
  | held => exact ⟨.held, rfl, trivial⟩
  | streamed levels =>
    cases levels with
    | zero => exact absurd h (Nat.not_succ_le_zero depth)
    | succ levels => exact ⟨.streamed levels, rfl, Nat.le_of_succ_le_succ h⟩

theorem Reading.Allows.mono {r : Reading} {depth smaller : Nat} (h : r.Allows depth)
    (hle : smaller ≤ depth) : r.Allows smaller := by
  cases r with
  | held => exact trivial
  | streamed levels => exact Nat.le_trans hle h

namespace Value

mutual

/-- How deep arrays and objects are nested. -/
def depth : Value → Nat
  | .arr items => depthOfItems items + 1
  | .obj members => depthOfMembers members + 1
  | .null | .bool _ | .num _ | .str _ => 0

/-- The greatest depth of the items. -/
def depthOfItems : List Value → Nat
  | [] => 0
  | item :: items => max (depth item) (depthOfItems items)

/-- The greatest depth of the values of the members. -/
def depthOfMembers : List (Text × Value) → Nat
  | [] => 0
  | (_, value) :: members => max (depth value) (depthOfMembers members)

end

mutual

/-- The members of each object are sorted by name, and no two have the same name. -/
def IsSorted : Value → Prop
  | .arr items => AllSorted items
  | .obj members => (members.map Prod.fst).Pairwise (· < ·) ∧ AllMembersSorted members
  | .null | .bool _ | .num _ | .str _ => True

/-- Each item is sorted. -/
def AllSorted : List Value → Prop
  | [] => True
  | item :: items => IsSorted item ∧ AllSorted items

/-- The value of each member is sorted. -/
def AllMembersSorted : List (Text × Value) → Prop
  | [] => True
  | (_, value) :: members => IsSorted value ∧ AllMembersSorted members

end

end Value

namespace Tree

mutual

/-- How deep arrays and objects are nested. -/
def depth : Tree → Nat
  | .arr items _ => depthOfItems items + 1
  | .obj members _ => depthOfMembers members + 1
  | .null | .bool _ | .num _ | .str _ | .misnamed _ | .broken => 0

/-- The greatest depth of the items. -/
def depthOfItems : List Tree → Nat
  | [] => 0
  | item :: items => max (depth item) (depthOfItems items)

/-- The greatest depth of the values of the members. -/
def depthOfMembers : List (Option Text × Tree) → Nat
  | [] => 0
  | (_, value) :: members => max (depth value) (depthOfMembers members)

end

theorem depth_le_depthOfMembers {members : List (Option Text × Tree)}
    {member : Option Text × Tree} (h : member ∈ members) :
    member.2.depth ≤ depthOfMembers members := by
  induction members with
  | nil => cases h
  | cons first rest ih =>
    obtain ⟨name, value⟩ := first
    simp only [depthOfMembers]
    rcases List.mem_cons.mp h with rfl | h
    · exact Nat.le_max_left _ _
    · exact Nat.le_trans (ih h) (Nat.le_max_right _ _)

/-! ### Soundness -/

mutual

/-- The tree is that of a whole JSON value in which every number, string and name has a value. -/
def IsSound : Tree → Prop
  | .null | .bool _ => True
  | .num value => value.isSome
  | .str value => value.isSome
  | .arr items closed => AllSound items ∧ closed = true
  | .obj members closed => AllMembersSound members ∧ closed = true
  | .misnamed _ | .broken => False

/-- Each item is sound. -/
def AllSound : List Tree → Prop
  | [] => True
  | item :: items => IsSound item ∧ AllSound items

/-- Each member has a name and a sound value. -/
def AllMembersSound : List (Option Text × Tree) → Prop
  | [] => True
  | (name, value) :: members => name.isSome ∧ IsSound value ∧ AllMembersSound members

end

/-- Everything in the tree can be read in full: all numbers, strings and names have values, and it
is nested less than 128 levels deep. -/
def IsReadable (t : Tree) : Prop :=
  t.IsSound ∧ t.depth ≤ Reading.maxLevels

theorem allMembersWhole_iff {members : List (Option Text × Tree)} :
    allMembersWhole members = true ↔ ∀ member ∈ members, member.2.isWhole = true := by
  induction members with
  | nil => simp [allMembersWhole]
  | cons member members ih => simp [allMembersWhole, ih]

theorem allMembersSound_iff {members : List (Option Text × Tree)} :
    AllMembersSound members ↔ ∀ member ∈ members, member.1.isSome ∧ member.2.IsSound := by
  induction members with
  | nil => simp [AllMembersSound]
  | cons member members ih => simp [AllMembersSound, ih, and_assoc]

mutual

/-- A sound tree is that of a whole value. -/
theorem isWhole_of_isSound : ∀ {t : Tree}, t.IsSound → t.isWhole = true
  | .null, _ | .bool _, _ | .num _, _ | .str _, _ => rfl
  | .arr _ _, h => by rw [isWhole, allWhole_of_allSound h.1, h.2, Bool.and_true]
  | .obj _ _, h => by rw [isWhole, allMembersWhole_of_allSound h.1, h.2, Bool.and_true]

theorem allWhole_of_allSound : ∀ {items : List Tree}, AllSound items → allWhole items = true
  | [], _ => rfl
  | _ :: _, h => by rw [allWhole, isWhole_of_isSound h.1, allWhole_of_allSound h.2, Bool.and_true]

theorem allMembersWhole_of_allSound : ∀ {members : List (Option Text × Tree)},
    AllMembersSound members → allMembersWhole members = true
  | [], _ => rfl
  | (_, _) :: _, h => by
    rw [allMembersWhole, isWhole_of_isSound h.2.1, allMembersWhole_of_allSound h.2.2,
      Bool.and_true]

end

mutual

/-- **A sound tree is read in full** if it is not nested too deep. -/
theorem checkAll_of_isSound : ∀ {t : Tree} {r : Reading}, t.IsSound → r.Allows t.depth →
    t.checkAll r = .ok ()
  | .null, _, _, _ | .bool _, _, _, _ | .num (some _), _, _, _ | .str (some _), _, _, _ => by
    simp only [checkAll]
  | .arr items closed, r, h, hr => by
    obtain ⟨inner, henter, hinner⟩ := hr.enter
    simp only [checkAll, henter]
    exact checkItems_of_allSound h hinner
  | .obj members closed, r, h, hr => by
    obtain ⟨inner, henter, hinner⟩ := hr.enter
    simp only [checkAll, henter]
    exact checkMembers_of_allSound h hinner

theorem checkItems_of_allSound : ∀ {items : List Tree} {closed : Bool} {r : Reading},
    AllSound items ∧ closed = true → r.Allows (depthOfItems items) →
    checkItems r items closed = .ok ()
  | [], _, _, h, _ => by simp only [checkItems, h.2, if_true]
  | item :: items, closed, r, h, hr => by
    rw [checkItems, checkAll_of_isSound h.1.1 (hr.mono (Nat.le_max_left _ _))]
    exact checkItems_of_allSound ⟨h.1.2, h.2⟩ (hr.mono (Nat.le_max_right _ _))

theorem checkMembers_of_allSound : ∀ {members : List (Option Text × Tree)} {closed : Bool}
    {r : Reading}, AllMembersSound members ∧ closed = true → r.Allows (depthOfMembers members) →
    checkMembers r members closed = .ok ()
  | [], _, _, h, _ => by simp only [checkMembers, h.2, if_true]
  | (some _, value) :: members, closed, r, h, hr => by
    rw [checkMembers, checkAll_of_isSound h.1.2.1 (hr.mono (Nat.le_max_left _ _))]
    exact checkMembers_of_allSound ⟨h.1.2.2, h.2⟩ (hr.mono (Nat.le_max_right _ _))

end

/-! ### Trees of values -/

mutual

theorem isSound_ofValue : ∀ v : Value, (ofValue v).IsSound
  | .null | .bool _ => trivial
  | .num _ | .str _ => rfl
  | .arr items => ⟨allSound_ofItems items, rfl⟩
  | .obj members => ⟨allMembersSound_ofMembers members, rfl⟩

theorem allSound_ofItems : ∀ items : List Value, AllSound (ofItems items)
  | [] => trivial
  | item :: items => ⟨isSound_ofValue item, allSound_ofItems items⟩

theorem allMembersSound_ofMembers : ∀ members : List (Text × Value),
    AllMembersSound (ofMembers members)
  | [] => trivial
  | (_, value) :: members => ⟨rfl, isSound_ofValue value, allMembersSound_ofMembers members⟩

end

mutual

theorem depth_ofValue : ∀ v : Value, (ofValue v).depth = v.depth
  | .null | .bool _ | .num _ | .str _ => rfl
  | .arr items => congrArg (· + 1) (depthOfItems_ofItems items)
  | .obj members => congrArg (· + 1) (depthOfMembers_ofMembers members)

theorem depthOfItems_ofItems : ∀ items : List Value,
    depthOfItems (ofItems items) = Value.depthOfItems items
  | [] => rfl
  | item :: items => by
    simp only [ofItems, depthOfItems, Value.depthOfItems, depth_ofValue item,
      depthOfItems_ofItems items]

theorem depthOfMembers_ofMembers : ∀ members : List (Text × Value),
    depthOfMembers (ofMembers members) = Value.depthOfMembers members
  | [] => rfl
  | (name, value) :: members => by
    simp only [ofMembers, depthOfMembers, Value.depthOfMembers, depth_ofValue value,
      depthOfMembers_ofMembers members]

end

/-- A member whose name comes after all others is put at the end. -/
theorem insert_of_lt {name : Text} {value : Value} {members : List (Text × Value)}
    (h : ∀ other ∈ members.map Prod.fst, other < name) :
    Value.insert name value members = members ++ [(name, value)] := by
  induction members with
  | nil => rfl
  | cons member members ih =>
    obtain ⟨other, old⟩ := member
    have hlt : other < name := h other (by simp)
    have hne : name ≠ other := by
      rintro rfl
      exact List.lt_irrefl _ hlt
    rw [Value.insert, if_neg hne, if_neg (List.lt_asymm hlt),
      ih fun name hname => h name (List.mem_cons_of_mem _ hname)]
    rfl

mutual

/-- The tree of a sorted value holds that value. -/
theorem toValue_ofValue : ∀ {v : Value}, v.IsSorted → (ofValue v).toValue = v
  | .null, _ | .bool _, _ | .num _, _ | .str _, _ => rfl
  | .arr items, h => congrArg Value.arr (toValues_ofItems h)
  | .obj members, h =>
    congrArg Value.obj (toMembers_ofMembers h.1 h.2 (fun _ hname => by cases hname))

theorem toValues_ofItems : ∀ {items : List Value}, Value.AllSorted items →
    toValues (ofItems items) = items
  | [], _ => rfl
  | item :: items, h => by
    rw [ofItems, toValues, toValue_ofValue h.1, toValues_ofItems h.2]

/-- Members are put behind those whose names come before theirs. -/
theorem toMembers_ofMembers : ∀ {members sofar : List (Text × Value)},
    (members.map Prod.fst).Pairwise (· < ·) → Value.AllMembersSorted members →
    (∀ before ∈ sofar.map Prod.fst, ∀ name ∈ members.map Prod.fst, before < name) →
    toMembers (ofMembers members) sofar = sofar ++ members
  | [], sofar, _, _, _ => (List.append_nil sofar).symm
  | (name, value) :: members, sofar, hnames, h, hsofar => by
    obtain ⟨hfirst, hnames⟩ := List.pairwise_cons.mp hnames
    have hinsert : Value.insert name value sofar = sofar ++ [(name, value)] :=
      insert_of_lt fun before hbefore => hsofar before hbefore name (by simp)
    rw [ofMembers, toMembers, Option.getD_some, toValue_ofValue h.1, hinsert,
      toMembers_ofMembers hnames h.2 ?_, List.append_assoc]
    · rfl
    · intro before hbefore later hlater
      rw [List.map_append, List.mem_append] at hbefore
      rcases hbefore with hbefore | hbefore
      · exact hsofar before hbefore later (List.mem_cons_of_mem _ hlater)
      · rw [List.mem_singleton.mp hbefore]
        exact hfirst later hlater

end

end Tree

end ScriptDesk.Json
