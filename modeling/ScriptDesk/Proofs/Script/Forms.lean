import Mathlib.Data.List.Basic
import Mathlib.Data.List.Flatten
import Mathlib.Data.List.Induction
import ScriptDesk.Proofs.Script.Spelling

/-!
# The spellings of an identity

An identity can be spelled in four ways, and its letters may be of either case. In lower case there
are just four texts (`ScriptId.spellings`), and a text is read as the identity if and only if it is
one of them in lower case (`ScriptId.ofText?_eq_some_iff`). Reading takes digits one by one and cuts
at hyphens; neither is disturbed by putting letters in lower case (`hexValue?_toLower`,
`cutAt_lowerAscii`).
-/

namespace ScriptDesk

/-! ### Letters of either case -/

theorem toLower_of_le {c : Char} (h : 128 ≤ c.toNat) : c.toLower = c := by
  delta Char.toLower
  rw [dif_neg]
  intro hupper
  have hle : c.toNat ≤ 90 := hupper.2
  omega

theorem hexValue?_of_le {c : Char} (h : 128 ≤ c.toNat) : hexValue? c = none := by
  have hnot : ∀ last : Char, last.toNat < 128 → ¬ c ≤ last := by
    intro last hlast hle
    have : c.toNat ≤ last.toNat := hle
    omega
  simp [hexValue?, hnot]

/-- What holds of the first 128 characters can be seen from their numbers. -/
theorem of_forall_lt {P : Char → Prop} (h : ∀ n, n < 128 → P (Char.ofNat n)) {c : Char}
    (hc : c.toNat < 128) : P c := by
  simpa using h c.toNat hc

/-- The case of a digit does not matter for its value. -/
theorem hexValue?_toLower (c : Char) : hexValue? c.toLower = hexValue? c := by
  by_cases hc : c.toNat < 128
  · exact of_forall_lt (P := fun c => hexValue? c.toLower = hexValue? c) (by decide) hc
  · rw [toLower_of_le (Nat.le_of_not_lt hc)]

/-- A digit has a value if in lower case it is the digit of that. -/
theorem hexValue?_eq_some_iff {c : Char} {d : Nat} :
    hexValue? c = some d ↔ d < 16 ∧ c.toLower = hexDigit d := by
  constructor
  · intro h
    by_cases hc : c.toNat < 128
    · exact of_forall_lt (P := fun c => ∀ d ∈ hexValue? c, d < 16 ∧ c.toLower = hexDigit d)
        (by decide) hc d h
    · rw [hexValue?_of_le (Nat.le_of_not_lt hc)] at h
      cases h
  · rintro ⟨hd, hc⟩
    rw [← hexValue?_toLower, hc, hexValue?_hexDigit hd]

/-- A character that only comes from itself when letters are put in lower case. -/
def IsCaseless (mark : Char) : Prop :=
  ∀ c : Char, c.toLower = mark ↔ c = mark

theorem isCaseless_of_forall {mark : Char}
    (h : ∀ n, n < 128 → ((Char.ofNat n).toLower = mark ↔ Char.ofNat n = mark)) :
    IsCaseless mark := by
  intro c
  by_cases hc : c.toNat < 128
  · exact of_forall_lt (P := fun c => c.toLower = mark ↔ c = mark) h hc
  · rw [toLower_of_le (Nat.le_of_not_lt hc)]

namespace Text

@[simp] theorem length_lowerAscii (text : Text) : (lowerAscii text).length = text.length :=
  List.length_map ..

@[simp] theorem lowerAscii_nil : lowerAscii [] = [] := rfl

@[simp] theorem lowerAscii_append (a b : Text) : lowerAscii (a ++ b) = lowerAscii a ++ lowerAscii b :=
  List.map_append

@[simp] theorem lowerAscii_cons (c : Char) (text : Text) :
    lowerAscii (c :: text) = c.toLower :: lowerAscii text := rfl

theorem ofHexFrom?_lowerAscii (n : Nat) (digits : Text) :
    ofHexFrom? n (lowerAscii digits) = ofHexFrom? n digits := by
  induction digits generalizing n with
  | nil => rfl
  | cons c digits ih => simp [ofHexFrom?, hexValue?_toLower, ih]

theorem ofHex?_lowerAscii (digits : Text) : ofHex? (lowerAscii digits) = ofHex? digits :=
  ofHexFrom?_lowerAscii 0 digits

/-- Digits with a value are the numeral of the value in lower case. -/
theorem lowerAscii_of_ofHex? {digits : Text} {n : Nat} (h : ofHex? digits = some n) :
    lowerAscii digits = hexNumeral digits.length n ∧ n < Nat.pow 16 digits.length := by
  induction digits using List.reverseRecOn generalizing n with
  | nil =>
    obtain rfl : 0 = n := Option.some.inj h
    decide
  | append_singleton digits c ih =>
    rw [ofHex?, ofHexFrom?_append, Option.bind_eq_some_iff] at h
    obtain ⟨m, hm, h⟩ := h
    obtain ⟨d, hd, h⟩ := Option.bind_eq_some_iff.mp h
    obtain rfl : m * 16 + d = n := Option.some.inj h
    obtain ⟨hdigits, hlt⟩ := ih hm
    obtain ⟨hd, hc⟩ := hexValue?_eq_some_iff.mp hd
    have hdiv : (m * 16 + d) / 16 = m := by omega
    have hmod : (m * 16 + d) % 16 = d := by omega
    constructor
    · simp [hexNumeral, hdigits, hdiv, hmod, hc]
    · rw [List.length_append, List.length_singleton]
      have hpow : Nat.pow 16 (digits.length + 1) = Nat.pow 16 digits.length * 16 := rfl
      omega

theorem cutAt_lowerAscii {mark : Char} (h : IsCaseless mark) (text : Text) :
    cutAt mark (lowerAscii text) = (cutAt mark text).map lowerAscii := by
  have hmem : ∀ line : Text, mark ∉ line → mark ∉ lowerAscii line := by
    intro line hline hmem
    obtain ⟨c, hc, hlower⟩ := List.mem_map.mp hmem
    exact hline ((h c).mp hlower ▸ hc)
  induction text using cut_induction mark with
  | last line hline => rw [cutAt_of_not_mem hline, cutAt_of_not_mem (hmem line hline)]; rfl
  | more line rest hline ih =>
    have hmark : mark.toLower = mark := (h mark).mpr rfl
    rw [lowerAscii_append, lowerAscii_cons, hmark, cutAt_append hline, cutAt_append (hmem line hline),
      ih, List.map_cons]

end Text

namespace ScriptId

/-! ### The four spellings -/

variable {id : ScriptId} {text : Text}

/-- The ways to spell an identity, in lower case: its digits, its groups, these in braces, and these
behind the mark of a name. -/
def spellings (id : ScriptId) : List Text :=
  [id.digits, id.text, '\x7b' :: (id.text ++ ['\x7d']), urnMark ++ id.text]

theorem ofDigits?_eq_some_iff : ofDigits? text = some id ↔ Text.lowerAscii text = id.digits := by
  constructor
  · intro h
    rw [ofDigits?] at h
    split at h
    · rename_i hlength
      obtain ⟨n, hn, rfl⟩ := Option.map_eq_some_iff.mp h
      obtain ⟨hdigits, hlt⟩ := Text.lowerAscii_of_ofHex? hn
      rw [hlength] at hdigits hlt
      have hbits : (BitVec.ofNat 128 n).toNat = n :=
        (BitVec.toNat_ofNat ..).trans (Nat.mod_eq_of_lt hlt)
      rw [hdigits, digits, hbits]
    · cases h
  · intro h
    have hlength : text.length = 32 := by rw [← Text.length_lowerAscii, h, length_digits]
    have hbits : id.bits.toNat < Nat.pow 16 32 := id.bits.isLt
    have hdigits : Text.ofHex? id.digits = some id.bits.toNat := Text.ofHex?_hexNumeral hbits
    have hread : Text.ofHex? text = some id.bits.toNat := by
      rw [← Text.ofHex?_lowerAscii, h, hdigits]
    rw [ofDigits?, if_pos hlength, hread, Option.map_some, BitVec.ofNat_toNat, BitVec.setWidth_eq]

theorem isCaseless_hyphen : IsCaseless '-' := isCaseless_of_forall (by decide)

theorem ofGroups?_eq_some_iff : ofGroups? text = some id ↔ Text.lowerAscii text = id.text := by
  have hcut := Text.cutAt_lowerAscii isCaseless_hyphen text
  have hlower : ∀ groups : List Text,
      (groups.map Text.lowerAscii).flatten = Text.lowerAscii groups.flatten :=
    fun groups => List.map_flatten.symm
  have hlengths : ∀ groups : List Text,
      (groups.map Text.lowerAscii).map List.length = groups.map List.length := by
    intro groups
    simp
  constructor
  · intro h
    rw [ofGroups?] at h
    split at h
    · rename_i hgroups
      have hdigits := ofDigits?_eq_some_iff.mp h
      have hsame : (text.cutAt '-').map Text.lowerAscii = id.groups := by
        rw [List.eq_iff_flatten_eq, hlower, hlengths, hdigits, flatten_groups, hgroups,
          map_length_groups]
        exact ⟨rfl, rfl⟩
      rw [← Text.join_cutAt '-' (Text.lowerAscii text), hcut, hsame, text_eq_join]
    · cases h
  · intro h
    rw [h, cutAt_text] at hcut
    have hgroups : (text.cutAt '-').map List.length = groupLengths := by
      rw [← hlengths, ← hcut, map_length_groups]
    rw [ofGroups?, if_pos hgroups, ofDigits?_eq_some_iff, ← hlower, ← hcut, flatten_groups]

theorem inBraces?_eq_some_iff {inner : Text} :
    inBraces? text = some inner ↔ text = '\x7b' :: (inner ++ ['\x7d']) := by
  constructor
  · intro h
    unfold inBraces? at h
    split at h
    · rename_i rest
      split at h
      · rename_i hlast
        obtain rfl := Option.some.inj h
        rw [List.dropLast_append_getLast? _ hlast]
      · cases h
    · cases h
  · rintro rfl
    simp [inBraces?]

theorem inBraces?_bind_eq_some_iff : (inBraces? text).bind ofGroups? = some id ↔
    Text.lowerAscii text = '\x7b' :: (id.text ++ ['\x7d']) := by
  have hopen : IsCaseless '\x7b' := isCaseless_of_forall (by decide)
  have hclose : IsCaseless '\x7d' := isCaseless_of_forall (by decide)
  rw [Option.bind_eq_some_iff]
  constructor
  · rintro ⟨inner, hinner, hid⟩
    rw [inBraces?_eq_some_iff.mp hinner, ← ofGroups?_eq_some_iff.mp hid]
    simp [(hopen _).mpr, (hclose _).mpr]
  · intro h
    obtain ⟨first, rest, rfl, hfirst, hrest⟩ := List.map_eq_cons_iff.mp h
    obtain ⟨inner, ending, rfl, hinner, hending⟩ := List.map_eq_append_iff.mp hrest
    obtain ⟨last, rfl, hlast⟩ := List.map_eq_singleton_iff.mp hending
    rw [(hopen first).mp hfirst, (hclose last).mp hlast]
    exact ⟨inner, inBraces?_eq_some_iff.mpr rfl, ofGroups?_eq_some_iff.mpr hinner⟩

theorem behindUrn?_bind_eq_some_iff : (behindUrn? text).bind ofGroups? = some id ↔
    Text.lowerAscii text = urnMark ++ id.text := by
  constructor
  · intro h
    obtain ⟨rest, hrest, hid⟩ := Option.bind_eq_some_iff.mp h
    rw [behindUrn?] at hrest
    split at hrest
    · rename_i hmark
      obtain rfl := Option.some.inj hrest
      rw [← hmark, ← ofGroups?_eq_some_iff.mp hid, ← Text.lowerAscii_append,
        List.take_append_drop]
    · cases hrest
  · intro h
    obtain ⟨mark, rest, rfl, hmark, hrest⟩ := List.map_eq_append_iff.mp h
    have hlength : mark.length = urnMark.length := by rw [← hmark, List.length_map]
    have htake : Text.lowerAscii ((mark ++ rest).take urnMark.length) = urnMark := by
      rw [← hlength, List.take_left' rfl]
      exact hmark
    rw [behindUrn?, if_pos htake, ← hlength, List.drop_left' rfl]
    exact ofGroups?_eq_some_iff.mpr hrest

/-- A text spells an identity if in lower case it is one of the four spellings. They have different
lengths, so there is only one to try. -/
theorem ofText?_eq_some_iff : ofText? text = some id ↔ Text.lowerAscii text ∈ id.spellings := by
  have hdigits : ∀ {other}, ofDigits? text = some other → text.length = 32 := by
    intro other h
    rw [← Text.length_lowerAscii, ofDigits?_eq_some_iff.mp h, length_digits]
  have hgroups : ∀ {other}, ofGroups? text = some other → text.length = 36 := by
    intro other h
    rw [← Text.length_lowerAscii, ofGroups?_eq_some_iff.mp h, length_text]
  have hbraces : ∀ {other}, (inBraces? text).bind ofGroups? = some other → text.length = 38 := by
    intro other h
    rw [← Text.length_lowerAscii, inBraces?_bind_eq_some_iff.mp h]
    simp [length_text]
  have hurn : ∀ {other}, (behindUrn? text).bind ofGroups? = some other → text.length = 45 := by
    intro other h
    rw [← Text.length_lowerAscii, behindUrn?_bind_eq_some_iff.mp h, List.length_append, length_text]
    rfl
  simp only [spellings, List.mem_cons, List.not_mem_nil, or_false, ← ofDigits?_eq_some_iff,
    ← ofGroups?_eq_some_iff, ← inBraces?_bind_eq_some_iff, ← behindUrn?_bind_eq_some_iff]
  simp only [ofText?, Option.orElse_eq_orElse, Option.orElse_eq_or, Option.or_eq_some_iff]
  constructor
  · rintro (h | ⟨-, h | ⟨-, h | ⟨-, h⟩⟩⟩) <;> simp [h]
  · -- of spellings with different lengths only one can be there
    have hnone : ∀ {read : Option ScriptId} {length : Nat},
        (∀ {other}, read = some other → text.length = length) → text.length ≠ length →
          read = none := by
      intro read length hread hne
      exact Option.eq_none_iff_forall_ne_some.mpr fun other h => hne (hread h)
    rintro (h | h | h | h)
    · exact .inl h
    · have hlength := hgroups h
      exact .inr ⟨hnone hdigits (by omega), .inl h⟩
    · have hlength := hbraces h
      exact .inr ⟨hnone hdigits (by omega), .inr ⟨hnone hgroups (by omega), .inl h⟩⟩
    · have hlength := hurn h
      exact .inr ⟨hnone hdigits (by omega), .inr ⟨hnone hgroups (by omega),
        .inr ⟨hnone hbraces (by omega), h⟩⟩⟩

end ScriptId

end ScriptDesk
