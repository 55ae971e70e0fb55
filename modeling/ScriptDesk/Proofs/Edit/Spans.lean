import Mathlib.Data.List.Chain
import ScriptDesk.Proofs.Edit.Batches

/-!
# Changes that run backwards

The positions of a change are looked up in what the changes before it left. If each change ends in
front of the place where the one before it starts, this makes no difference, since what stands in
front of a change keeps its positions (`offset?_of_front`). A new text that begins with a line feed
can make a carriage return in front of it part of the end of a line. Then there is no position
between the two any more, but no other change ends there. So all spans can be looked up in the
buffer as it was at first and be replaced at once (`apply_backwards`).
-/

namespace ScriptDesk.Buffer

open Text

/-- A span of a buffer, given by how many characters are in front of its ends, and the text that
takes its place. -/
structure Span where
  /-- Where the span starts. -/
  start : Nat
  /-- Where it stops. -/
  stop : Nat
  /-- The text that takes its place. -/
  newText : Text
  deriving DecidableEq, Repr

/-- The character behind a place is in the span. -/
def Span.covers (span : Span) (place : Nat) : Bool :=
  span.start ≤ place && place < span.stop

/-- The new texts of the spans that start at a place. -/
def placedAt (spans : List Span) (place : Nat) : Text :=
  (spans.filter fun span => span.start == place).flatMap (·.newText)

/-- The text behind a place with all spans replaced at once: each new text stands where its span
starts, the characters in a span are gone, and all others are kept. -/
def replaceFrom (spans : List Span) : (place : Nat) → Text → Text
  | place, [] => placedAt spans place
  | place, c :: rest =>
    placedAt spans place ++ (if spans.any (·.covers place) then [] else [c]) ++
      replaceFrom spans (place + 1) rest

/-- The buffer with all spans replaced at once. -/
def replaceSpans (spans : List Span) (buffer : Text) : Text :=
  replaceFrom spans 0 buffer

/-- The span of a change whose positions are found in the buffer. -/
def spanIn (buffer : Text) (change : Change) : Span where
  start := (offset? buffer change.start).toOption.getD 0
  stop := (offset? buffer change.stop).toOption.getD 0
  newText := change.newText

/-! ### Replacing at once -/

theorem placedAt_eq_nil {spans : List Span} {place : Nat}
    (h : ∀ span ∈ spans, span.start ≠ place) : placedAt spans place = [] := by
  have hnone : spans.filter (fun span => span.start == place) = [] := by
    simpa [List.filter_eq_nil_iff] using h
  simp [placedAt, hnone]

theorem placedAt_cons_self {span : Span} {spans : List Span}
    (h : ∀ other ∈ spans, other.start ≠ span.start) :
    placedAt (span :: spans) span.start = span.newText := by
  have hnone := placedAt_eq_nil h
  simp only [placedAt] at hnone ⊢
  simp [hnone]

theorem placedAt_cons_of_ne {span : Span} {place : Nat} (h : span.start ≠ place)
    (spans : List Span) : placedAt (span :: spans) place = placedAt spans place := by
  simp [placedAt, h]

/-- Behind all spans the text stays as it is. -/
theorem replaceFrom_of_behind {spans : List Span} {place : Nat}
    (h : ∀ span ∈ spans, span.start < place ∧ span.stop ≤ place) (text : Text) :
    replaceFrom spans place text = text := by
  induction text generalizing place with
  | nil => exact placedAt_eq_nil fun span hspan => (h span hspan).1.ne
  | cons c rest ih =>
    have hplaced : placedAt spans place = [] :=
      placedAt_eq_nil fun span hspan => (h span hspan).1.ne
    have hcovers : spans.any (·.covers place) = false := by
      simp only [List.any_eq_false, Span.covers, Bool.and_eq_true, decide_eq_true_eq]
      intro span hspan hin
      have := h span hspan
      omega
    have hrest : replaceFrom spans (place + 1) rest = rest := by
      refine ih fun span hspan => ?_
      have := h span hspan
      omega
    simp [replaceFrom, hplaced, hcovers, hrest]

/-- What is left of a span, once its new text is placed, goes. -/
theorem replaceFrom_inside {span : Span} {spans : List Span} {place : Nat} {middle : Text}
    (hstart : span.start < place) (hstop : span.stop = place + middle.length)
    (h : ∀ other ∈ spans, other.start < place ∧ other.stop ≤ place) (rest : Text) :
    replaceFrom (span :: spans) place (middle ++ rest) = rest := by
  induction middle generalizing place with
  | nil =>
    refine replaceFrom_of_behind ?_ rest
    simpa [hstart, hstop] using h
  | cons c middle ih =>
    rw [List.length_cons] at hstop
    have hplaced : placedAt (span :: spans) place = [] := by
      rw [placedAt_cons_of_ne hstart.ne]
      exact placedAt_eq_nil fun other hother => (h other hother).1.ne
    have hcovers : span.covers place = true := by
      simp only [Span.covers, Bool.and_eq_true, decide_eq_true_eq]
      omega
    have hrest : replaceFrom (span :: spans) (place + 1) (middle ++ rest) = rest := by
      refine ih (by omega) (by omega) fun other hother => ?_
      have := h other hother
      omega
    simp [replaceFrom, hplaced, hcovers, hrest]

/-- Behind the other spans, at the start of a span, its new text takes the place of what is in
it. -/
theorem replaceFrom_start {span : Span} {spans : List Span} {middle : Text}
    (hstop : span.stop = span.start + middle.length)
    (h : ∀ other ∈ spans, other.start < span.start ∧ other.stop ≤ span.start) (rest : Text) :
    replaceFrom (span :: spans) span.start (middle ++ rest) = span.newText ++ rest := by
  have hplaced : placedAt (span :: spans) span.start = span.newText :=
    placedAt_cons_self fun other hother => (h other hother).1.ne
  have hlater : ∀ other ∈ spans, other.start < span.start + 1 ∧ other.stop ≤ span.start + 1 := by
    intro other hother
    have := h other hother
    omega
  cases middle with
  | cons c middle =>
    rw [List.length_cons] at hstop
    have hcovers : span.covers span.start = true := by simp [Span.covers, hstop]
    have hrest : replaceFrom (span :: spans) (span.start + 1) (middle ++ rest) = rest :=
      replaceFrom_inside (Nat.lt_succ_self span.start) (by omega) hlater rest
    simp [replaceFrom, hplaced, hcovers, hrest]
  | nil =>
    rw [List.length_nil, Nat.add_zero] at hstop
    cases rest with
    | nil => simp [replaceFrom, hplaced]
    | cons c rest =>
      have hcovers : (span :: spans).any (·.covers span.start) = false := by
        simp only [List.any_eq_false, Span.covers, Bool.and_eq_true, decide_eq_true_eq]
        intro other hother hin
        rcases List.mem_cons.mp hother with rfl | hother
        · omega
        · have := h other hother
          omega
      have hrest : replaceFrom (span :: spans) (span.start + 1) rest = rest := by
        refine replaceFrom_of_behind ?_ rest
        simpa [hstop] using hlater
      rw [List.nil_append, replaceFrom, hplaced, hcovers, hrest, List.append_assoc]
      rfl

/-- To replace a span at once with others that all end in front of it is to replace it first. -/
theorem replaceFrom_cons {span : Span} {spans : List Span} {place : Nat} {front middle : Text}
    (hstart : span.start = place + front.length) (hstop : span.stop = span.start + middle.length)
    (h : ∀ other ∈ spans, other.start < span.start ∧ other.stop < span.start) (rest : Text) :
    replaceFrom (span :: spans) place (front ++ middle ++ rest) =
      replaceFrom spans place (front ++ span.newText ++ rest) := by
  induction front generalizing place with
  | nil =>
    obtain rfl : span.start = place := hstart
    have hbehind : ∀ other ∈ spans, other.start < span.start ∧ other.stop ≤ span.start :=
      fun other hother => ⟨(h other hother).1, (h other hother).2.le⟩
    rw [List.nil_append, List.nil_append, replaceFrom_start hstop hbehind,
      replaceFrom_of_behind hbehind]
  | cons c front ih =>
    rw [List.length_cons] at hstart
    have hplaced : placedAt (span :: spans) place = placedAt spans place :=
      placedAt_cons_of_ne (by omega) spans
    have hcovers : span.covers place = false := by
      simp only [Span.covers, Bool.and_eq_false_iff, decide_eq_false_iff_not]
      omega
    have hrest : replaceFrom (span :: spans) (place + 1) (front ++ middle ++ rest) =
        replaceFrom spans (place + 1) (front ++ span.newText ++ rest) :=
      ih (by omega)
    simp only [List.append_assoc] at hrest
    simp [replaceFrom, hplaced, hcovers, hrest]

/-! ### Positions in front of a change -/

/-- A position is found where it was, whatever is done to the text behind the character that
follows it. -/
theorem offset?_of_front {front rest : Text} {position : Position} {n : Nat}
    (h : offset? (front ++ rest) position = .ok n) (hlt : n < front.length) (other : Text) :
    offset? (front ++ other) position = .ok n := by
  obtain ⟨before, behind, heq, rfl, haddress, hwhole⟩ := offset?_eq_ok_iff.mp h
  rcases front_cases heq with ⟨middle, rfl, -⟩ | ⟨-, middle, rfl, rfl⟩
  · rw [List.length_append] at hlt
    omega
  · refine offset?_eq_ok_iff.mpr ⟨before, middle ++ other, by simp, rfl, haddress, ?_⟩
    obtain ⟨c, middle, rfl⟩ : ∃ c more, middle = c :: more := by
      refine List.exists_cons_of_ne_nil ?_
      rintro rfl
      simp at hlt
    simpa [IsInLineEnd] using hwhole

/-- Both positions of a change are found in the buffer. -/
structure IsFound (buffer : Text) (change : Change) : Prop where
  /-- The start is found. -/
  start : ∃ n, offset? buffer change.start = .ok n
  /-- The end is found. -/
  stop : ∃ n, offset? buffer change.stop = .ok n

theorem IsFound.start_eq {buffer : Text} {change : Change} (h : IsFound buffer change) :
    offset? buffer change.start = .ok (spanIn buffer change).start := by
  obtain ⟨n, hn⟩ := h.start
  simp [spanIn, hn, Except.toOption]

theorem IsFound.stop_eq {buffer : Text} {change : Change} (h : IsFound buffer change) :
    offset? buffer change.stop = .ok (spanIn buffer change).stop := by
  obtain ⟨n, hn⟩ := h.stop
  simp [spanIn, hn, Except.toOption]

/-- A change that is found in the front of a buffer has the same span whatever stands behind. -/
theorem IsFound.of_front {front rest : Text} {change : Change} (h : IsFound (front ++ rest) change)
    (hstart : (spanIn (front ++ rest) change).start < front.length)
    (hstop : (spanIn (front ++ rest) change).stop < front.length) (other : Text) :
    IsFound (front ++ other) change ∧
      spanIn (front ++ other) change = spanIn (front ++ rest) change := by
  have hstart := offset?_of_front h.start_eq hstart other
  have hstop := offset?_of_front h.stop_eq hstop other
  refine ⟨⟨⟨_, hstart⟩, _, hstop⟩, ?_⟩
  rw [spanIn, hstart, hstop]
  rfl

/-- A change puts its new text in place of what is in its span. -/
theorem IsFound.exists_replaced {buffer : Text} {change : Change} (h : IsFound buffer change)
    (hspan : (spanIn buffer change).start ≤ (spanIn buffer change).stop) (index : Nat) :
    ∃ front middle rest, buffer = front ++ middle ++ rest ∧
      (spanIn buffer change).start = front.length ∧
      (spanIn buffer change).stop = (spanIn buffer change).start + middle.length ∧
        applyChange index buffer change = .ok (front ++ change.newText ++ rest) := by
  have hstart := h.start_eq
  have hstop := h.stop_eq
  generalize spanIn buffer change = span at *
  obtain ⟨front, behind, rfl, hfront, -⟩ := offset?_eq_ok_iff.mp hstart
  obtain ⟨front', rest, heq, hfront', -⟩ := offset?_eq_ok_iff.mp hstop
  rcases front_cases heq with ⟨middle, rfl, rfl⟩ | ⟨hlt, -⟩
  · refine ⟨front, middle, rest, (List.append_assoc ..).symm, hfront.symm, ?_, ?_⟩
    · simp [← hfront', ← hfront]
    · rw [applyChange_of_ok hstart hstop, if_neg (by omega), ← hfront, ← hfront',
        ← List.append_assoc, replace_append]
  · omega

/-! ### Batches -/

/-- Spans that run backwards without touching. -/
structure RunsBackwards (spans : List Span) : Prop where
  /-- No span stops before it starts. -/
  ordered : ∀ span ∈ spans, span.start ≤ span.stop
  /-- Each span stops in front of the place where those before it start. -/
  apart : spans.Pairwise fun upper lower => lower.stop < upper.start

theorem RunsBackwards.tail {span : Span} {spans : List Span} (h : RunsBackwards (span :: spans)) :
    RunsBackwards spans :=
  ⟨fun other hother => h.ordered other (List.mem_cons_of_mem span hother), h.apart.of_cons⟩

theorem RunsBackwards.behind {span : Span} {spans : List Span} (h : RunsBackwards (span :: spans)) :
    ∀ other ∈ spans, other.start < span.start ∧ other.stop < span.start := by
  intro other hother
  have hstop := (List.pairwise_cons.mp h.apart).1 other hother
  have hstart := h.ordered other (List.mem_cons_of_mem span hother)
  omega

/-- Changes whose spans run backwards are made one after the other as if at once. -/
theorem applyFrom_of_runsBackwards {buffer : Text} {changes : List Change}
    (hfound : ∀ change ∈ changes, IsFound buffer change)
    (h : RunsBackwards (changes.map (spanIn buffer))) (index : Nat) :
    applyFrom index buffer changes =
      .ok (replaceSpans (changes.map (spanIn buffer)) buffer) := by
  induction changes generalizing buffer index with
  | nil => exact congrArg Except.ok (replaceFrom_of_behind (by simp) buffer).symm
  | cons change changes ih =>
    obtain ⟨hchange, hothers⟩ := List.forall_mem_cons.mp hfound
    rw [List.map_cons] at h
    have hbehind := h.behind
    obtain ⟨front, middle, rest, heq, hstart, hstop, happly⟩ :=
      hchange.exists_replaced (h.ordered _ List.mem_cons_self) index
    -- the other changes have their spans in the front, which stays
    have hkept : ∀ other ∈ changes, IsFound (front ++ change.newText ++ rest) other ∧
        spanIn (front ++ change.newText ++ rest) other = spanIn buffer other := by
      intro other hother
      obtain ⟨hstart', hstop'⟩ := hbehind _ (List.mem_map_of_mem hother)
      have hfound' := hothers other hother
      rw [hstart] at hstart' hstop'
      rw [heq, List.append_assoc] at hfound' hstart' hstop' ⊢
      rw [List.append_assoc]
      exact hfound'.of_front hstart' hstop' _
    have hmap : changes.map (spanIn (front ++ change.newText ++ rest)) =
        changes.map (spanIn buffer) :=
      List.map_congr_left fun other hother => (hkept other hother).2
    have hedited := ih (fun other hother => (hkept other hother).1) (hmap ▸ h.tail) (index + 1)
    have hreplace : replaceSpans (spanIn buffer change :: changes.map (spanIn buffer)) buffer =
        replaceSpans (changes.map (spanIn buffer)) (front ++ change.newText ++ rest) := by
      have hplace : (spanIn buffer change).start = 0 + front.length := by simpa using hstart
      have hfirst := replaceFrom_cons hplace hstop hbehind rest
      rwa [← heq] at hfirst
    rw [applyFrom, happly, List.map_cons, hreplace, ← hmap]
    exact hedited

/-- Positions that are found are in the order of their places. -/
theorem compare_eq_lt_iff_of_offset? {buffer : Text} {a b : Position} {m n : Nat}
    (ha : offset? buffer a = .ok m) (hb : offset? buffer b = .ok n) :
    a.compare b = .lt ↔ m < n := by
  obtain ⟨front, rest, rfl, rfl, hat⟩ := offset?_eq_ok_iff.mp ha
  obtain ⟨front', rest', heq, rfl, hat'⟩ := offset?_eq_ok_iff.mp hb
  rw [Position.compare_eq_lt_iff, ← hat.address_eq, ← hat'.address_eq, address_lt_iff heq]

/-- The lower span ends, not before it starts, in front of the upper one. -/
def Span.IsAbove (upper lower : Span) : Prop :=
  lower.start ≤ lower.stop ∧ lower.stop < upper.start

/-- What is above a span is above all that it is above of. -/
instance : Trans Span.IsAbove Span.IsAbove Span.IsAbove where
  trans hupper hlower := by
    simp only [Span.IsAbove] at hupper hlower ⊢
    omega

/-- Changes whose positions run backwards have spans that do. It is enough that each ends in front
of the one directly before it. -/
theorem runsBackwards_of_compare {buffer : Text} {changes : List Change}
    (hfound : ∀ change ∈ changes, IsFound buffer change)
    (hordered : ∀ change ∈ changes, change.stop.compare change.start ≠ .lt)
    (hapart : changes.IsChain fun upper lower => lower.stop.compare upper.start = .lt) :
    RunsBackwards (changes.map (spanIn buffer)) := by
  have hspan : ∀ change ∈ changes,
      (spanIn buffer change).start ≤ (spanIn buffer change).stop := by
    intro change hchange
    have hfound := hfound change hchange
    have hnot := hordered change hchange
    rw [Ne, compare_eq_lt_iff_of_offset? hfound.stop_eq hfound.start_eq] at hnot
    exact Nat.le_of_not_lt hnot
  have hchain : (changes.map (spanIn buffer)).IsChain Span.IsAbove := by
    rw [List.isChain_map]
    refine hapart.imp_of_mem_imp fun upper lower hupper hlower hlt => ⟨hspan lower hlower, ?_⟩
    exact (compare_eq_lt_iff_of_offset? (hfound lower hlower).stop_eq
      (hfound upper hupper).start_eq).mp hlt
  constructor
  · simpa using hspan
  · exact hchain.pairwise.imp fun hapart => hapart.2

/-- **A batch that runs backwards.** If all positions of a batch are found in the buffer, no change
ends before it starts, and each change ends in front of the place where the one before it starts,
then the batch is applied, and it replaces all these spans of the buffer at once. So it does among
the bytes of the buffer. -/
theorem apply_backwards {buffer : Text} {changes : List Change}
    (hfound : ∀ change ∈ changes, IsFound buffer change)
    (hordered : ∀ change ∈ changes, change.stop.compare change.start ≠ .lt)
    (hapart : changes.IsChain fun upper lower => lower.stop.compare upper.start = .lt) :
    apply buffer changes = .ok (replaceSpans (changes.map (spanIn buffer)) buffer) ∧
    Encoded.applyFrom 0 (toBytes buffer) changes =
      some (.ok (toBytes (replaceSpans (changes.map (spanIn buffer)) buffer))) := by
  have happly := applyFrom_of_runsBackwards hfound
    (runsBackwards_of_compare hfound hordered hapart) 0
  refine ⟨happly, ?_⟩
  rw [Encoded.applyFrom_toBytes, happly]
  rfl

/-- The first change puts a line feed behind a carriage return, which then belongs to the end of its
line. The second one ends in front of the carriage return, where its positions are found all the
same. -/
theorem apply_backwards_feed :
    let changes : List Change := [⟨⟨0, 2⟩, ⟨0, 3⟩, "\nx".toList⟩, ⟨⟨0, 0⟩, ⟨0, 1⟩, "é\r\n".toList⟩]
    (∀ change ∈ changes, IsFound "a\rb".toList change) ∧
    (∀ change ∈ changes, change.stop.compare change.start ≠ .lt) ∧
    (changes.IsChain fun upper lower => lower.stop.compare upper.start = .lt) ∧
    apply "a\rb".toList changes = .ok "é\r\n\r\nx".toList := by
  intro changes
  have hfound : ∀ change ∈ changes, IsFound "a\rb".toList change := by
    simp only [changes, List.forall_mem_cons]
    exact ⟨⟨⟨2, rfl⟩, 3, rfl⟩, ⟨⟨0, rfl⟩, 1, rfl⟩, by simp⟩
  have hordered : ∀ change ∈ changes, change.stop.compare change.start ≠ .lt := by decide
  have hapart : changes.IsChain fun upper lower => lower.stop.compare upper.start = .lt := by
    simp only [changes, List.isChain_pair]
    decide
  refine ⟨hfound, hordered, hapart, ?_⟩
  rw [(apply_backwards hfound hordered hapart).1]
  rfl

/-- A change that touches the one before it may lose its place: here it ends directly behind the
carriage return. -/
example :
    apply "a\rb".toList [⟨⟨0, 2⟩, ⟨0, 3⟩, "\nx".toList⟩, ⟨⟨0, 0⟩, ⟨0, 2⟩, []⟩] =
      .error (.characterOutOfRange 1 0 2) := by rfl

end ScriptDesk.Buffer
