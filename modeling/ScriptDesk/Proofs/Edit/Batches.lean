import ScriptDesk.Proofs.Edit.Encoded

/-!
# What a batch of changes does

One change replaces what stands between its two places and keeps what stands in front of them and
behind. If it cannot, the reason is told by its start, then by its end, and only then by the order
of the two (`changed_applyChange`). A batch takes one change after the other, each with the buffer
the ones before it left, up to the first that cannot be made (`applyFrom_eq_iff`). So a batch may be
cut into two that are applied one after the other, but for the counting of the changes, which begins
anew with the second (`applyFrom_append`, `applyFrom_add`).
-/

namespace ScriptDesk

open Text

/-- The error of the same change with `n` changes more in front of it. -/
def EditError.shift (n : Nat) : EditError → EditError
  | .lineOutOfRange index line => .lineOutOfRange (n + index) line
  | .characterOutOfRange index line character => .characterOutOfRange (n + index) line character
  | .invertedSpan index => .invertedSpan (n + index)

theorem EditError.shift_ofMisplaced (n index : Nat) (position : Position) (e : Misplaced) :
    (EditError.ofMisplaced index position e).shift n = .ofMisplaced (n + index) position e := by
  cases e <;> rfl

namespace Buffer

/-! ### What a change does -/

/-- Why a position is not found: the buffer does not have its line, or the line does not have its
character. -/
inductive Misses (buffer : Text) (position : Position) : Misplaced → Prop
  /-- There are not so many line feeds. -/
  | line (h : buffer.count '\n' < position.line.toNat) : Misses buffer position .line
  /-- There is the line, but it does not have so many characters. -/
  | character (hline : position.line.toNat ≤ buffer.count '\n')
      (h : lineWidth buffer position.line.toNat < position.character.toNat) :
      Misses buffer position .character

/-- What a change makes of a buffer, if it is the one with the given index. -/
inductive Changed (index : Nat) (change : Change) : Text → Except EditError Text → Prop
  /-- The new text stands in place of what was between the start and the end. -/
  | replaced {front middle rest : Text}
      (hstart : IsAt change.start.address front (middle ++ rest))
      (hstop : IsAt change.stop.address (front ++ middle) rest) :
      Changed index change (front ++ middle ++ rest) (.ok (front ++ change.newText ++ rest))
  /-- The start is missing, wherever the end may be. -/
  | start {buffer : Text} {e : Misplaced} (h : Misses buffer change.start e) :
      Changed index change buffer (.error (.ofMisplaced index change.start e))
  /-- There is the start, but the end is missing. -/
  | stop {front rest : Text} {e : Misplaced} (hstart : IsAt change.start.address front rest)
      (h : Misses (front ++ rest) change.stop e) :
      Changed index change (front ++ rest) (.error (.ofMisplaced index change.stop e))
  /-- There are both, but the end is in front of the start. -/
  | inverted {front middle rest : Text} (hmiddle : middle ≠ [])
      (hstop : IsAt change.stop.address front (middle ++ rest))
      (hstart : IsAt change.start.address (front ++ middle) rest) :
      Changed index change (front ++ middle ++ rest) (.error (.invertedSpan index))

/-- What changes make of a buffer one after the other, if the first has the given index. -/
inductive ChangedAll : (index : Nat) → List Change → Text → Except EditError Text → Prop
  /-- Without a change the buffer stays as it is. -/
  | nil (index : Nat) (buffer : Text) : ChangedAll index [] buffer (.ok buffer)
  /-- The others change what the first has left. -/
  | cons {index : Nat} {change : Change} {changes : List Change} {buffer edited : Text}
      {result : Except EditError Text} (hfirst : Changed index change buffer (.ok edited))
      (hothers : ChangedAll (index + 1) changes edited result) :
      ChangedAll index (change :: changes) buffer result
  /-- A change that cannot be made is the last. -/
  | stopped {index : Nat} {change : Change} {changes : List Change} {buffer : Text} {e : EditError}
      (h : Changed index change buffer (.error e)) :
      ChangedAll index (change :: changes) buffer (.error e)

theorem offset?_eq_error_iff {buffer : Text} {position : Position} {e : Misplaced} :
    offset? buffer position = .error e ↔ Misses buffer position e := by
  have hanswers := offsetAt?_answers buffer position.line.toNat position.character.toNat
  rw [← offset?_eq] at hanswers
  constructor
  · intro h
    rw [h] at hanswers
    cases e with
    | line => exact .line hanswers
    | character => exact .character hanswers.1 hanswers.2
  · intro h
    cases hlook : offset? buffer position with
    | ok n =>
      rw [hlook] at hanswers
      cases h with
      | line h => exact absurd hanswers.1 (Nat.not_le.mpr h)
      | character _ h => exact absurd hanswers.2 (Nat.not_le.mpr h)
    | error e' =>
      rw [hlook] at hanswers
      cases e' <;> cases h <;> first | rfl | omega

/-! ### One change -/

theorem replace_append (front middle rest newText : Text) :
    replace (front ++ middle ++ rest) front.length (front ++ middle).length newText =
      front ++ newText ++ rest := by
  rw [replace, List.drop_left' rfl, List.append_assoc front middle rest, List.take_left' rfl]

theorem changed_applyChange (index : Nat) (buffer : Text) (change : Change) :
    Changed index change buffer (applyChange index buffer change) := by
  cases hstart : offset? buffer change.start with
  | error e =>
    rw [applyChange_of_start hstart]
    exact .start (offset?_eq_error_iff.mp hstart)
  | ok m =>
    obtain ⟨front, rest, rfl, rfl, hfront⟩ := offset?_eq_ok_iff.mp hstart
    cases hstop : offset? (front ++ rest) change.stop with
    | error e =>
      rw [applyChange_of_stop hstart hstop]
      exact .stop hfront (offset?_eq_error_iff.mp hstop)
    | ok n =>
      rw [applyChange_of_ok hstart hstop]
      obtain ⟨front', rest', heq, rfl, hfront'⟩ := offset?_eq_ok_iff.mp hstop
      rcases front_cases heq with ⟨middle, rfl, rfl⟩ | ⟨hlt, middle, rfl, rfl⟩
      · rw [if_neg (by simp), ← List.append_assoc, replace_append]
        exact .replaced hfront hfront'
      · rw [if_pos hlt]
        refine .inverted ?_ hfront' hfront
        rintro rfl
        simp at hlt

theorem Changed.applyChange_eq {index : Nat} {change : Change} {buffer : Text}
    {result : Except EditError Text} (h : Changed index change buffer result) :
    applyChange index buffer change = result := by
  cases h with
  | @replaced front middle rest hstart hstop =>
    have hfound : offset? (front ++ middle ++ rest) change.start = .ok front.length :=
      offset?_eq_ok_iff.mpr ⟨front, middle ++ rest, List.append_assoc .., rfl, hstart⟩
    have hfound' : offset? (front ++ middle ++ rest) change.stop = .ok (front ++ middle).length :=
      offset?_eq_ok_iff.mpr ⟨front ++ middle, rest, rfl, rfl, hstop⟩
    rw [applyChange_of_ok hfound hfound', if_neg (by simp), replace_append]
  | start h => exact applyChange_of_start (offset?_eq_error_iff.mpr h) index
  | @stop front rest e hstart h =>
    have hfound : offset? (front ++ rest) change.start = .ok front.length :=
      offset?_eq_ok_iff.mpr ⟨front, rest, rfl, rfl, hstart⟩
    exact applyChange_of_stop hfound (offset?_eq_error_iff.mpr h) index
  | @inverted front middle rest hmiddle hstop hstart =>
    have hfound : offset? (front ++ middle ++ rest) change.start = .ok (front ++ middle).length :=
      offset?_eq_ok_iff.mpr ⟨front ++ middle, rest, rfl, rfl, hstart⟩
    have hfound' : offset? (front ++ middle ++ rest) change.stop = .ok front.length :=
      offset?_eq_ok_iff.mpr ⟨front, middle ++ rest, List.append_assoc .., rfl, hstop⟩
    rw [applyChange_of_ok hfound hfound', if_pos (by simp [List.length_pos_iff.mpr hmiddle])]

/-! ### A batch -/

theorem changedAll_applyFrom (index : Nat) (buffer : Text) (changes : List Change) :
    ChangedAll index changes buffer (applyFrom index buffer changes) := by
  induction changes generalizing index buffer with
  | nil => exact .nil index buffer
  | cons change changes ih =>
    have hfirst := changed_applyChange index buffer change
    rw [applyFrom]
    cases happly : applyChange index buffer change with
    | error e => exact .stopped (happly ▸ hfirst)
    | ok edited => exact .cons (happly ▸ hfirst) (ih (index + 1) edited)

theorem ChangedAll.applyFrom_eq {index : Nat} {changes : List Change} {buffer : Text}
    {result : Except EditError Text} (h : ChangedAll index changes buffer result) :
    applyFrom index buffer changes = result := by
  induction h with
  | nil => rfl
  | cons hfirst _ ih =>
    rw [applyFrom, hfirst.applyChange_eq]
    exact ih
  | stopped h =>
    rw [applyFrom, h.applyChange_eq]
    rfl

theorem applyFrom_eq_iff {index : Nat} {changes : List Change} {buffer : Text}
    {result : Except EditError Text} :
    applyFrom index buffer changes = result ↔ ChangedAll index changes buffer result :=
  ⟨fun h => h ▸ changedAll_applyFrom index buffer changes, ChangedAll.applyFrom_eq⟩

/-! ### Two batches one after the other -/

theorem applyFrom_append (index : Nat) (buffer : Text) (first second : List Change) :
    applyFrom index buffer (first ++ second) =
      (applyFrom index buffer first).bind fun edited =>
        applyFrom (index + first.length) edited second := by
  induction first generalizing index buffer with
  | nil => rfl
  | cons change first ih =>
    rw [List.cons_append, applyFrom, applyFrom]
    cases applyChange index buffer change with
    | error e => rfl
    | ok edited =>
      have hcount : index + (change :: first).length = index + 1 + first.length := by
        rw [List.length_cons]
        omega
      rw [hcount]
      exact ih (index + 1) edited

theorem applyChange_add (n index : Nat) (buffer : Text) (change : Change) :
    applyChange (n + index) buffer change =
      (applyChange index buffer change).mapError (.shift n) := by
  cases hstart : offset? buffer change.start with
  | error e =>
    rw [applyChange_of_start hstart, applyChange_of_start hstart]
    exact congrArg Except.error (EditError.shift_ofMisplaced n index change.start e).symm
  | ok m =>
    cases hstop : offset? buffer change.stop with
    | error e =>
      rw [applyChange_of_stop hstart hstop, applyChange_of_stop hstart hstop]
      exact congrArg Except.error (EditError.shift_ofMisplaced n index change.stop e).symm
    | ok k =>
      rw [applyChange_of_ok hstart hstop, applyChange_of_ok hstart hstop]
      split <;> rfl

/-- The index of the first change only counts in the errors. -/
theorem applyFrom_add (n index : Nat) (buffer : Text) (changes : List Change) :
    applyFrom (n + index) buffer changes =
      (applyFrom index buffer changes).mapError (.shift n) := by
  induction changes generalizing index buffer with
  | nil => rfl
  | cons change changes ih =>
    rw [applyFrom, applyFrom, applyChange_add]
    cases applyChange index buffer change with
    | error e => rfl
    | ok edited => exact ih (index + 1) edited

/-- The error of a batch is the one of the first change that cannot be made. -/
theorem ChangedAll.exists_first {index : Nat} {changes : List Change} {buffer : Text}
    {e : EditError} (h : ChangedAll index changes buffer (.error e)) :
    ∃ done change later edited, changes = done ++ change :: later ∧
      ChangedAll index done buffer (.ok edited) ∧
        Changed (index + done.length) change edited (.error e) := by
  generalize hresult : (.error e : Except EditError Text) = result at h
  induction h with
  | nil => cases hresult
  | @cons index change changes buffer edited result hfirst _ ih =>
    obtain ⟨done, failing, later, left, rfl, hdone, hfailing⟩ := ih hresult
    refine ⟨change :: done, failing, later, left, rfl, .cons hfirst hdone, ?_⟩
    rwa [List.length_cons, Nat.add_comm done.length, ← Nat.add_assoc]
  | @stopped index change changes buffer e' h =>
    cases hresult
    exact ⟨[], change, changes, buffer, rfl, .nil index buffer, h⟩

theorem apply_eq_error_iff {buffer : Text} {changes : List Change} {e : EditError} :
    apply buffer changes = .error e ↔
      ∃ done change later edited, changes = done ++ change :: later ∧
        apply buffer done = .ok edited ∧ Changed done.length change edited (.error e) := by
  constructor
  · intro h
    obtain ⟨done, change, later, edited, heq, hdone, hchange⟩ :=
      (applyFrom_eq_iff.mp h).exists_first
    rw [Nat.zero_add] at hchange
    exact ⟨done, change, later, edited, heq, hdone.applyFrom_eq, hchange⟩
  · rintro ⟨done, change, later, edited, rfl, hdone, hchange⟩
    rw [apply] at hdone ⊢
    rw [applyFrom_append, hdone, Nat.zero_add]
    exact (ChangedAll.stopped hchange).applyFrom_eq

/-- **What a batch of changes does.** In place, among bytes, it does what it does to the buffer.
There each change in turn is looked up in what the changes before it left, until one cannot be made.
Cut into two, a batch is the first part and then the second, the errors of which count the changes
of the first. -/
theorem applies_in_turn (buffer : Text) :
    (∀ changes, Encoded.applyFrom 0 (toBytes buffer) changes =
      some ((apply buffer changes).map toBytes)) ∧
    (∀ changes result, apply buffer changes = result ↔ ChangedAll 0 changes buffer result) ∧
    (∀ first second, apply buffer (first ++ second) =
      (apply buffer first).bind fun edited =>
        (apply edited second).mapError (.shift first.length)) ∧
    ∀ changes e, apply buffer changes = .error e ↔
      ∃ done change later edited, changes = done ++ change :: later ∧
        apply buffer done = .ok edited ∧ Changed done.length change edited (.error e) := by
  refine ⟨Encoded.applyFrom_toBytes 0 buffer, fun changes result => applyFrom_eq_iff,
    fun first second => ?_, fun changes e => apply_eq_error_iff⟩
  have hshift : ∀ edited, applyFrom (0 + first.length) edited second =
      (applyFrom 0 edited second).mapError (.shift first.length) := by
    intro edited
    rw [Nat.zero_add]
    exact applyFrom_add first.length 0 edited second
  simp only [apply, applyFrom_append, hshift]

/-- The first change puts a carriage return in front of the line feed, where it belongs to the end
of the line; so the second one does not find the character behind it. -/
example :
    apply "ab\nc".toList [⟨⟨0, 2⟩, ⟨0, 2⟩, ['\r']⟩, ⟨⟨0, 3⟩, ⟨0, 3⟩, []⟩] =
      .error (.characterOutOfRange 1 0 3) := by rfl

end Buffer

end ScriptDesk
