import ScriptDesk.Proofs.Text.Lines
import ScriptDesk.Script.Identity

/-!
# Spelling identities

The lower-case groups in which an identity is written are one of the spellings that are read, and
they denote the identity (`ofText?_text`). Their characters are hexadecimal digits and hyphens, so
they have neither blanks nor line ends (`mem_text`).
-/

namespace ScriptDesk

/-- A lower-case hexadecimal digit. -/
def IsHexDigit (c : Char) : Prop :=
  ∃ n < 16, c = hexDigit n

theorem isHexDigit_of_mem_hexNumeral {count n : Nat} {c : Char}
    (h : c ∈ Text.hexNumeral count n) : IsHexDigit c := by
  induction count generalizing n with
  | zero => simp [Text.hexNumeral] at h
  | succ count ih =>
    rw [Text.hexNumeral, List.mem_append, List.mem_singleton] at h
    rcases h with h | rfl
    · exact ih h
    · exact ⟨n % 16, Nat.mod_lt n (by decide), rfl⟩

theorem IsHexDigit.ne_hyphen {c : Char} (h : IsHexDigit c) : c ≠ '-' := by
  obtain ⟨n, hn, rfl⟩ := h
  have all : ∀ n, n < 16 → hexDigit n ≠ '-' := by decide
  exact all n hn

namespace ScriptId

variable (id : ScriptId)

/-- The digits of an identity. -/
def digits : Text :=
  Text.hexNumeral 32 id.bits.toNat

/-- The groups in which an identity is written. -/
def groups : List Text :=
  [id.digits.take 8, (id.digits.drop 8).take 4, (id.digits.drop 12).take 4,
    (id.digits.drop 16).take 4, id.digits.drop 20]

@[simp] theorem length_digits : id.digits.length = 32 := Text.length_hexNumeral 32 _

theorem text_eq_join : id.text = Text.join ['-'] id.groups := by
  simp [text, groups, digits, Text.join]

theorem flatten_groups : id.groups.flatten = id.digits := by
  have hdrop : ∀ i n, (id.digits.drop i).take n ++ id.digits.drop (i + n) = id.digits.drop i :=
    fun i n => by rw [← List.drop_drop, List.take_append_drop]
  have hflat : id.groups.flatten = id.digits.take 8 ++ ((id.digits.drop 8).take 4 ++
      ((id.digits.drop 12).take 4 ++ ((id.digits.drop 16).take 4 ++ id.digits.drop 20))) := by
    simp [groups]
  rw [hflat, hdrop 16 4, hdrop 12 4, hdrop 8 4, List.take_append_drop]

theorem map_length_groups : id.groups.map List.length = groupLengths := by
  simp [groups, groupLengths]

theorem isHexDigit_of_mem_groups {group : Text} (h : group ∈ id.groups) {c : Char}
    (hc : c ∈ group) : IsHexDigit c := by
  have hmem : c ∈ id.digits := by
    rw [← flatten_groups]
    exact List.mem_flatten.mpr ⟨group, h, hc⟩
  exact isHexDigit_of_mem_hexNumeral hmem

theorem hyphen_not_mem_groups {group : Text} (h : group ∈ id.groups) : '-' ∉ group :=
  fun hc => (id.isHexDigit_of_mem_groups h hc).ne_hyphen rfl

theorem cutAt_text : id.text.cutAt '-' = id.groups := by
  have h : ∀ group ∈ id.groups, '-' ∉ group := fun _ => id.hyphen_not_mem_groups
  rw [text_eq_join]
  simp only [groups, List.mem_cons, List.not_mem_nil, or_false, forall_eq_or_imp, forall_eq] at h ⊢
  obtain ⟨h1, h2, h3, h4, h5⟩ := h
  simp only [Text.join, List.append_assoc, List.singleton_append]
  rw [Text.cutAt_append h1, Text.cutAt_append h2, Text.cutAt_append h3, Text.cutAt_append h4,
    Text.cutAt_of_not_mem h5]

/-- **What is written is read back.** -/
theorem ofText?_text : ofText? id.text = some id := by
  have hlength : id.text.length ≠ 32 := by
    rw [text_eq_join]
    simp [groups, Text.join]
  have hbare : ofDigits? id.text = none := by rw [ofDigits?, if_neg hlength]
  have hdigits : ofDigits? id.digits = some id := by
    have hbits : id.bits.toNat < Nat.pow 16 32 := id.bits.isLt
    have hread : Text.ofHex? id.digits = some id.bits.toNat := Text.ofHex?_hexNumeral hbits
    rw [ofDigits?, if_pos id.length_digits, hread, Option.map_some, BitVec.ofNat_toNat,
      BitVec.setWidth_eq]
  have hgroups : ofGroups? id.text = some id := by
    rw [ofGroups?, cutAt_text, if_pos id.map_length_groups, flatten_groups, hdigits]
  rw [ofText?, hbare, hgroups]
  rfl

theorem mem_text {c : Char} (h : c ∈ id.text) : c = '-' ∨ IsHexDigit c := by
  rw [text_eq_join] at h
  rcases Text.mem_of_mem_join h with hhyphen | ⟨group, hgroup, hc⟩
  · exact .inl (List.mem_singleton.mp hhyphen)
  · exact .inr (id.isHexDigit_of_mem_groups hgroup hc)

theorem length_text : id.text.length = 36 := by
  rw [text_eq_join]
  simp [groups, Text.join]

/-- Neither blanks nor line ends nor a byte order mark are in a written identity. -/
theorem isBlank_of_mem_text {c : Char} (h : c ∈ id.text) : isBlank c = false ∧ c.toNat < 128 := by
  rcases id.mem_text h with rfl | ⟨n, hn, rfl⟩
  · decide
  · have all : ∀ n, n < 16 → isBlank (hexDigit n) = false ∧ (hexDigit n).toNat < 128 := by decide
    exact all n hn

theorem trim_text : id.text.trim = id.text :=
  Text.trim_of_forall fun _ hc => (id.isBlank_of_mem_text hc).1

theorem not_mem_text_of_isBlank {c : Char} (h : isBlank c = true) : c ∉ id.text :=
  fun hc => by simp [(id.isBlank_of_mem_text hc).1] at h

end ScriptId

end ScriptDesk
