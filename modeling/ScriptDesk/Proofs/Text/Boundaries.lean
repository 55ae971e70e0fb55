import ScriptDesk.Proofs.Text.Bytes
import ScriptDesk.Text.Shown

/-!
# Where characters begin among bytes

In UTF-8 the bytes that carry on a character are told from those that begin one. So the places at
which a text may be cut can be found in its bytes alone: they are the places behind the beginnings
of the text (`isBoundary_toBytes_iff`). The first bytes of characters stand where the characters
stand (`starts_toBytes`), and a byte below 128 is a character of its own
(`eq_of_mem_utf8EncodeChar`).
-/

namespace ScriptDesk

open EncodingFault

/-! ### One character -/

/-- A character is a byte that begins it and bytes that carry it on. -/
theorem exists_utf8EncodeChar_eq (c : Char) :
    ∃ first more, String.utf8EncodeChar c = first :: more ∧ isContinuation first = false ∧
      ∀ b ∈ more, isContinuation b = true := by
  have hnone : ∀ b ∈ ([] : Bytes), isContinuation b = true := by simp
  have hbegins : ∀ n : Nat, n < 128 ∨ 192 ≤ n → n < 256 →
      isContinuation (UInt8.ofNat n) = false := by
    intro n hn hbyte
    simp only [isContinuation, Bool.and_eq_false_iff, decide_eq_false_iff_not,
      UInt8.le_iff_toNat_le, UInt8.toNat_ofNat', Nat.not_le]
    rcases hn with hn | hn
    · refine .inl (?_ : _ < 128)
      omega
    · refine .inr (?_ : 191 < _)
      omega
  rw [String.utf8EncodeChar]
  split
  · exact ⟨_, _, rfl, hbegins _ (by omega) (by omega), hnone⟩
  split
  · refine ⟨_, _, rfl, hbegins _ (by omega) (by omega), ?_⟩
    simp only [List.forall_mem_cons]
    exact ⟨isContinuation_ofNat _, hnone⟩
  split
  · refine ⟨_, _, rfl, hbegins _ (by omega) (by omega), ?_⟩
    simp only [List.forall_mem_cons]
    exact ⟨isContinuation_ofNat _, isContinuation_ofNat _, hnone⟩
  · refine ⟨_, _, rfl, hbegins _ (by omega) (by omega), ?_⟩
    simp only [List.forall_mem_cons]
    exact ⟨isContinuation_ofNat _, isContinuation_ofNat _, isContinuation_ofNat _, hnone⟩

namespace Bytes

/-! ### Boundaries -/

/-- The bytes may be cut behind the first `n` of them: they end there or a character begins. -/
def isBoundary (bytes : Bytes) (n : Nat) : Bool :=
  match bytes[n]? with
  | some b => !isContinuation b
  | none => n == bytes.length

theorem isBoundary_append (front rest : Bytes) (n : Nat) :
    isBoundary (front ++ rest) (front.length + n) = isBoundary rest n := by
  unfold isBoundary
  rw [List.getElem?_append_right (Nat.le_add_right _ _), Nat.add_sub_cancel_left,
    List.length_append]
  cases rest[n]? with
  | some b => rfl
  | none =>
    apply Bool.eq_iff_iff.mpr
    simp

/-- The places where characters begin, the bytes being counted from `index` on. -/
def starts : (index : Nat) → Bytes → List Nat
  | _, [] => []
  | index, b :: rest =>
    if isContinuation b then starts (index + 1) rest else index :: starts (index + 1) rest

theorem starts_append (front rest : Bytes) (index : Nat) :
    starts index (front ++ rest) = starts index front ++ starts (index + front.length) rest := by
  induction front generalizing index with
  | nil => rfl
  | cons b front ih =>
    have harith : index + 1 + front.length = index + (b :: front).length := by
      simp only [List.length_cons]
      omega
    by_cases hb : isContinuation b = true <;> simp [starts, hb, ih, harith]

theorem starts_of_continuation {bytes : Bytes} (h : ∀ b ∈ bytes, isContinuation b = true)
    (index : Nat) : starts index bytes = [] := by
  induction bytes generalizing index with
  | nil => rfl
  | cons b rest ih =>
    obtain ⟨hb, hrest⟩ := List.forall_mem_cons.mp h
    simp [starts, hb, ih hrest]

end Bytes

namespace Text

theorem toBytes_cons (c : Char) (text : Text) :
    toBytes (c :: text) = String.utf8EncodeChar c ++ toBytes text := rfl

/-- The boundaries of the bytes of a text are the places behind its beginnings. -/
theorem isBoundary_toBytes_iff {text : Text} {n : Nat} :
    (toBytes text).isBoundary n = true ↔
      ∃ front rest, text = front ++ rest ∧ (toBytes front).length = n := by
  induction text generalizing n with
  | nil =>
    simp only [toBytes_nil, List.nil_eq_append_iff]
    constructor
    · intro h
      have hn : n = 0 := by simpa [Bytes.isBoundary] using h
      exact ⟨[], [], ⟨rfl, rfl⟩, hn.symm⟩
    · rintro ⟨front, rest, ⟨rfl, rfl⟩, rfl⟩
      rfl
  | cons c text ih =>
    obtain ⟨first, more, hc, hfirst, hmore⟩ := exists_utf8EncodeChar_eq c
    rcases Nat.lt_or_ge n (String.utf8EncodeChar c).length with hn | hn
    · -- within the character only the place in front of it is a boundary
      cases n with
      | zero =>
        refine ⟨fun _ => ⟨[], c :: text, rfl, rfl⟩, fun _ => ?_⟩
        simp [Bytes.isBoundary, toBytes_cons, hc, hfirst]
      | succ n =>
        have hget : (toBytes (c :: text))[n + 1]? = more[n]? := by
          rw [toBytes_cons, List.getElem?_append_left hn, hc]
          rfl
        rw [hc, List.length_cons, Nat.succ_lt_succ_iff] at hn
        have hnot : (toBytes (c :: text)).isBoundary (n + 1) = false := by
          simp [Bytes.isBoundary, hget, List.getElem?_eq_getElem hn, hmore]
        rw [hnot]
        refine ⟨fun h => Bool.noConfusion h, ?_⟩
        rintro ⟨front, rest, heq, hlength⟩
        cases front with
        | nil => simp at hlength
        | cons d front =>
          obtain ⟨rfl, -⟩ := List.cons.inj heq
          rw [toBytes_cons, List.length_append, hc, List.length_cons] at hlength
          omega
    · obtain ⟨k, rfl⟩ := Nat.exists_eq_add_of_le hn
      rw [toBytes_cons, Bytes.isBoundary_append, ih]
      constructor
      · rintro ⟨front, rest, rfl, rfl⟩
        exact ⟨c :: front, rest, rfl, by rw [toBytes_cons, List.length_append]⟩
      · rintro ⟨front, rest, heq, hlength⟩
        cases front with
        | nil => rw [hc] at hlength; simp at hlength; omega
        | cons d front =>
          obtain ⟨rfl, rfl⟩ := List.cons.inj heq
          rw [toBytes_cons, List.length_append] at hlength
          exact ⟨front, rest, rfl, by omega⟩

theorem isBoundary_toBytes_append (front rest : Text) :
    (toBytes (front ++ rest)).isBoundary (toBytes front).length = true :=
  isBoundary_toBytes_iff.mpr ⟨front, rest, rfl, rfl⟩

/-- The characters of a text begin behind the bytes of those in front of them. -/
theorem starts_toBytes (text : Text) (index : Nat) :
    Bytes.starts index (toBytes text) =
      (List.range text.length).map fun k => index + (toBytes (text.take k)).length := by
  induction text generalizing index with
  | nil => rfl
  | cons c text ih =>
    obtain ⟨first, more, hc, hfirst, hmore⟩ := exists_utf8EncodeChar_eq c
    have hone : Bytes.starts index (String.utf8EncodeChar c) = [index] := by
      simp [hc, Bytes.starts, hfirst, Bytes.starts_of_continuation hmore]
    rw [toBytes_cons, Bytes.starts_append, hone, ih, List.length_cons, List.range_succ_eq_map,
      List.map_cons, List.map_map, List.singleton_append]
    simp [toBytes_cons, Nat.add_assoc]

/-- A longer beginning of a text has more bytes. -/
theorem length_toBytes_lt {front more : Text} (h : more ≠ []) :
    (toBytes front).length < (toBytes (front ++ more)).length := by
  obtain ⟨c, more, rfl⟩ := List.exists_cons_of_ne_nil h
  obtain ⟨first, others, hc, -⟩ := exists_utf8EncodeChar_eq c
  rw [toBytes_append, toBytes_cons, hc, List.length_append, List.cons_append, List.length_cons]
  omega

/-- Of two places in a text either the first is not behind the second, or it is. -/
theorem front_cases {front front' rest rest' : Text} (h : front ++ rest = front' ++ rest') :
    (∃ middle, front' = front ++ middle ∧ rest = middle ++ rest') ∨
      front'.length < front.length ∧
        ∃ middle, front = front' ++ middle ∧ rest' = middle ++ rest := by
  rcases List.append_eq_append_iff.mp h with hmiddle | ⟨middle, rfl, rfl⟩
  · exact .inl hmiddle
  · by_cases hmiddle : middle = []
    · exact .inl ⟨[], by simp [hmiddle], by simp [hmiddle]⟩
    · refine .inr ⟨?_, middle, rfl, rfl⟩
      have := List.length_pos_iff.mpr hmiddle
      rw [List.length_append]
      omega

/-- Places are in the same order among the characters and among the bytes. -/
theorem length_toBytes_lt_iff {front front' rest rest' : Text}
    (h : front ++ rest = front' ++ rest') :
    (toBytes front).length < (toBytes front').length ↔ front.length < front'.length := by
  rcases front_cases h.symm with ⟨middle, rfl, -⟩ | ⟨hlt, middle, rfl, -⟩
  · simp only [toBytes_append, List.length_append]
    omega
  · have hne : middle ≠ [] := by
      rintro rfl
      simp at hlt
    simp [length_toBytes_lt hne, List.length_pos_iff.mpr hne, -toBytes_append]

/-! ### Characters of one byte -/

theorem head?_toBytes_eq_some_iff {d : Char} (hd : d.toNat < 128) {text : Text} :
    (toBytes text).head? = some (UInt8.ofNat d.toNat) ↔ text.head? = some d := by
  cases text with
  | nil => simp
  | cons c text =>
    obtain ⟨first, more, hc, -⟩ := exists_utf8EncodeChar_eq c
    constructor
    · intro h
      have hfirst : first = UInt8.ofNat d.toNat := by simpa [toBytes_cons, hc] using h
      have hmem : UInt8.ofNat d.toNat ∈ String.utf8EncodeChar c := by simp [hc, hfirst]
      rw [eq_of_mem_utf8EncodeChar hd hmem]
      rfl
    · intro h
      obtain rfl : c = d := by simpa using h
      simp [toBytes_cons, utf8EncodeChar_of_lt hd]

theorem getLast?_toBytes_eq_some_iff {d : Char} (hd : d.toNat < 128) {text : Text} :
    (toBytes text).getLast? = some (UInt8.ofNat d.toNat) ↔ text.getLast? = some d := by
  rcases List.eq_nil_or_concat text with rfl | ⟨front, c, rfl⟩
  · simp
  · obtain ⟨first, more, hc, -⟩ := exists_utf8EncodeChar_eq c
    have hbytes : toBytes (front.concat c) = toBytes front ++ String.utf8EncodeChar c := by
      rw [List.concat_eq_append, toBytes_append]
      simp [toBytes]
    constructor
    · intro h
      have hmem : UInt8.ofNat d.toNat ∈ String.utf8EncodeChar c := by
        rw [hbytes, List.getLast?_append, hc, List.getLast?_cons, Option.some_or,
          ← List.getLast?_cons, ← hc] at h
        exact List.mem_of_getLast? h
      rw [eq_of_mem_utf8EncodeChar hd hmem]
      simp
    · intro h
      obtain rfl : c = d := by simpa using h
      rw [hbytes, utf8EncodeChar_of_lt hd, List.getLast?_append]
      rfl

end Text

end ScriptDesk
