import ScriptDesk.Text.Bytes

/-!
# Bytes that are shown as text

What people are shown is text, also where it stands for bytes that need not be any. Then each fault
of the bytes shows as one replacement character. A character of a text has no fault
(`behindFirst_utf8EncodeChar`), so a text is shown as it is (`shown_toBytes`).
-/

namespace ScriptDesk

namespace EncodingFault

theorem width_ofNat {n : Nat} (h : n < 256) :
    width (UInt8.ofNat n) =
      if n < 128 then 1 else if n < 194 then 0 else if n < 224 then 2 else if n < 240 then 3
      else if n < 245 then 4 else 0 := by
  simp only [width, UInt8.lt_iff_toNat_lt, UInt8.toNat_ofNat', Nat.mod_eq_of_lt h]
  rfl

theorem isContinuation_ofNat (n : Nat) : isContinuation (UInt8.ofNat (n % 64 + 128)) = true := by
  simp only [isContinuation, Bool.and_eq_true, decide_eq_true_eq, UInt8.le_iff_toNat_le,
    UInt8.toNat_ofNat']
  constructor
  · change 128 ≤ _
    omega
  · change _ ≤ 191
    omega

/-- The byte may be the second one behind this first one. -/
def carriesOn (first second : UInt8) : Bool :=
  (secondRange first).1 ≤ second && second ≤ (secondRange first).2

theorem carriesOn_ofNat {n m : Nat} (hn : n < 256) (hm : m < 256)
    (hlow : 128 ≤ m ∧ (n = 224 → 160 ≤ m) ∧ (n = 240 → 144 ≤ m))
    (hhigh : m ≤ 191 ∧ (n = 237 → m ≤ 159) ∧ (n = 244 → m ≤ 143)) :
    carriesOn (UInt8.ofNat n) (UInt8.ofNat m) = true := by
  have hof : ∀ k : Nat, k < 256 → (UInt8.ofNat n = UInt8.ofNat k ↔ n = k) := by
    intro k hk
    rw [← UInt8.toNat_inj, UInt8.toNat_ofNat', UInt8.toNat_ofNat', Nat.mod_eq_of_lt hn,
      Nat.mod_eq_of_lt hk]
  have hrange : secondRange (UInt8.ofNat n) =
      if n = 224 then (0xA0, 0xBF) else if n = 237 then (0x80, 0x9F)
      else if n = 240 then (0x90, 0xBF) else if n = 244 then (0x80, 0x8F) else (0x80, 0xBF) := by
    simp only [← hof 224 (by decide), ← hof 237 (by decide), ← hof 240 (by decide),
      ← hof 244 (by decide)]
    rfl
  simp only [carriesOn, hrange, Bool.and_eq_true, decide_eq_true_eq, UInt8.le_iff_toNat_le,
    UInt8.toNat_ofNat', Nat.mod_eq_of_lt hm]
  split
  · change 160 ≤ m ∧ m ≤ 191
    omega
  split
  · change 128 ≤ m ∧ m ≤ 159
    omega
  split
  · change 144 ≤ m ∧ m ≤ 191
    omega
  split
  · change 128 ≤ m ∧ m ≤ 143
    omega
  · change 128 ≤ m ∧ m ≤ 191
    omega

theorem inCharacter_append {more : Bytes} (h : ∀ b ∈ more, isContinuation b = true)
    (index met : Nat) (rest : Bytes) : inCharacter index met more.length (more ++ rest) = none := by
  induction more generalizing met with
  | nil => cases rest <;> rfl
  | cons b more ih =>
    obtain ⟨hb, hmore⟩ := List.forall_mem_cons.mp h
    rw [List.length_cons, List.cons_append, inCharacter, if_pos hb, ih hmore]

theorem behindFirst_append {first second : UInt8} {more : Bytes}
    (hwidth : width first = more.length + 2) (hsecond : carriesOn first second = true)
    (hmore : ∀ b ∈ more, isContinuation b = true) (index : Nat) (rest : Bytes) :
    behindFirst index first (second :: more ++ rest) = none := by
  rw [carriesOn] at hsecond
  simp only [behindFirst, hwidth, List.cons_append, hsecond, if_true, Nat.add_sub_cancel]
  exact inCharacter_append hmore index 2 rest

/-- A character has no fault. -/
theorem behindFirst_utf8EncodeChar (index : Nat) (c : Char) :
    ∃ first more, String.utf8EncodeChar c = first :: more ∧ width first = more.length + 1 ∧
      ∀ rest, behindFirst index first (more ++ rest) = none := by
  have hvalid := c.valid
  rw [UInt32.isValidChar, Nat.isValidChar] at hvalid
  rw [String.utf8EncodeChar]
  generalize c.val.toNat = v at hvalid
  have hnone : ∀ b ∈ ([] : Bytes), isContinuation b = true := by simp
  split
  · have hwidth : width (UInt8.ofNat v) = 1 := by
      rw [width_ofNat (by omega), if_pos (by omega)]
    exact ⟨_, _, rfl, hwidth, fun rest => by simp [behindFirst, hwidth]⟩
  split
  · have hwidth : width (UInt8.ofNat (v / 64 % 32 + 192)) = 2 := by
      rw [width_ofNat (by omega), if_neg (by omega), if_neg (by omega), if_pos (by omega)]
    refine ⟨_, _, rfl, hwidth, behindFirst_append hwidth ?_ hnone index⟩
    exact carriesOn_ofNat (by omega) (by omega) (by omega) (by omega)
  split
  · have hwidth : width (UInt8.ofNat (v / 4096 % 16 + 224)) = 3 := by
      rw [width_ofNat (by omega), if_neg (by omega), if_neg (by omega), if_neg (by omega),
        if_pos (by omega)]
    refine ⟨_, _, rfl, hwidth, behindFirst_append hwidth ?_ ?_ index⟩
    · exact carriesOn_ofNat (by omega) (by omega) (by omega) (by omega)
    · simpa using isContinuation_ofNat v
  · have hwidth : width (UInt8.ofNat (v / 262144 % 8 + 240)) = 4 := by
      rw [width_ofNat (by omega), if_neg (by omega), if_neg (by omega), if_neg (by omega),
        if_neg (by omega), if_pos (by omega)]
    refine ⟨_, _, rfl, hwidth, behindFirst_append hwidth ?_ ?_ index⟩
    · exact carriesOn_ofNat (by omega) (by omega) (by omega) (by omega)
    · simp only [List.forall_mem_cons]
      exact ⟨isContinuation_ofNat _, isContinuation_ofNat _, hnone⟩

end EncodingFault

namespace Bytes

/-- The character that is shown for bytes that are no text. -/
def replacement : Char := '\ufffd'

/-- The bytes as text, the first `skip` of them aside. -/
def shownFrom : (skip : Nat) → Bytes → Text
  | _, [] => []
  | skip + 1, _ :: rest => shownFrom skip rest
  | 0, first :: rest =>
    match EncodingFault.behindFirst 0 first rest with
    | some (.invalid length _) => replacement :: shownFrom (length - 1) rest
    | some (.incomplete _) => [replacement]
    | none =>
      let width := EncodingFault.width first
      (Text.ofBytes? ((first :: rest).take width)).getD [] ++ shownFrom (width - 1) rest

/-- The bytes as text, with a replacement character for each fault. -/
def shown (bytes : Bytes) : Text :=
  shownFrom 0 bytes

theorem shownFrom_append (more rest : Bytes) :
    shownFrom more.length (more ++ rest) = shownFrom 0 rest := by
  induction more with
  | nil => rfl
  | cons b more ih => exact ih

/-- **A text is shown as it is.** -/
theorem shown_toBytes (text : Text) : shown text.toBytes = text := by
  unfold shown
  induction text with
  | nil => rfl
  | cons c text ih =>
    obtain ⟨first, more, hc, hwidth, hfault⟩ := EncodingFault.behindFirst_utf8EncodeChar 0 c
    have hbytes : Text.toBytes (c :: text) = first :: (more ++ Text.toBytes text) := by
      rw [Text.toBytes, List.flatMap_cons, hc]
      rfl
    have hread : Text.ofBytes? (first :: more) = some [c] := by
      rw [← hc, ← Text.ofBytes?_toBytes [c], Text.toBytes, List.flatMap_singleton]
    have htake : (first :: (more ++ Text.toBytes text)).take (EncodingFault.width first) =
        first :: more := by
      rw [hwidth, List.take_succ_cons, List.take_left]
    rw [hbytes, shownFrom, hfault]
    simp only [htake, hread]
    rw [hwidth, Nat.add_sub_cancel, shownFrom_append, ih]
    rfl

/-- A byte that no character begins with, and the first bytes of one that is not complete. -/
example : shown [0x61, 0xFF, 0x2F, 0xE2, 0x82] = "a\ufffd/\ufffd".toList := by decide

end Bytes

end ScriptDesk
