import ScriptDesk.Text.Shown

/-!
# What paths are spelled in

A path need not be text: to the system it is a sequence of bytes. So paths, and the disk on which
they lead somewhere, are given for units of any kind (`PathUnit`). Characters are such units, and
with them all paths are text; bytes are, too, and with them there are all paths. What is text has
the same spelling for both, and people are shown a path as text in any case.
-/

namespace ScriptDesk

/-- Units in which paths are spelled. -/
class PathUnit (α : Type) where
  /-- The unit that stands for an ASCII character. -/
  ascii : Char → α
  /-- The bytes that a path has for the system. -/
  bytes : Text α → Bytes
  /-- How a text is spelled in a path. -/
  spell : Text → Text α
  /-- The text that is spelled so, if there is one. -/
  read? : Text α → Option Text
  /-- How a path is shown to people. -/
  shown : Text α → Text
  bytes_append (front rest : Text α) : bytes (front ++ rest) = bytes front ++ bytes rest
  spell_append (front rest : Text) : spell (front ++ rest) = spell front ++ spell rest
  spell_ascii {c : Char} (h : c.toNat < 128) : spell [c] = [ascii c]
  /-- An ASCII character is in no other one. -/
  mem_of_ascii_mem {c : Char} (h : c.toNat < 128) {text : Text} : ascii c ∈ spell text → c ∈ text
  read?_eq_some_iff {path : Text α} {text : Text} : read? path = some text ↔ spell text = path
  /-- A text is shown as it is. -/
  shown_spell (text : Text) : shown (spell text) = text

namespace PathUnit

instance : PathUnit Char where
  ascii c := c
  bytes := Text.toBytes
  spell text := text
  read? := some
  shown text := text
  bytes_append := Text.toBytes_append
  spell_append _ _ := rfl
  spell_ascii _ := rfl
  mem_of_ascii_mem _ _ h := h
  read?_eq_some_iff := by simp [eq_comm]
  shown_spell _ := rfl

instance : PathUnit UInt8 where
  ascii c := UInt8.ofNat c.toNat
  bytes path := path
  spell := Text.toBytes
  read? := Text.ofBytes?
  shown := Bytes.shown
  bytes_append _ _ := rfl
  spell_append := Text.toBytes_append
  spell_ascii h := by rw [Text.toBytes, List.flatMap_singleton, Text.utf8EncodeChar_of_lt h]
  mem_of_ascii_mem h text hmem := by
    obtain ⟨c, hc, hbyte⟩ := List.mem_flatMap.mp hmem
    exact Text.eq_of_mem_utf8EncodeChar h hbyte ▸ hc
  read?_eq_some_iff := Text.ofBytes?_eq_some_iff
  shown_spell := Bytes.shown_toBytes

@[simp] theorem ascii_char (c : Char) : (ascii c : Char) = c := rfl

@[simp] theorem bytes_char (path : Text) : bytes path = path.toBytes := rfl

@[simp] theorem spell_char (text : Text) : (spell text : Text) = text := rfl

@[simp] theorem shown_char (path : Text) : shown path = path := rfl

variable {α : Type} [PathUnit α]

/-- The unit between the parts of a path. -/
abbrev slash : α := ascii '/'

/-- The unit that parts, if single, count for nothing, and in front of the ending of a name. -/
abbrev dot : α := ascii '.'

/-- The unit that no path has. -/
abbrev nul : α := ascii '\x00'

/-- Different texts are spelled differently. -/
theorem spell_injective : Function.Injective (spell : Text → Text α) := by
  intro a b h
  exact Option.some.inj ((read?_eq_some_iff.mpr h).symm.trans (read?_eq_some_iff.mpr rfl))

/-- So are different marks. -/
theorem ascii_ne {c d : Char} (hc : c.toNat < 128) (hd : d.toNat < 128) (hne : c ≠ d) :
    (ascii c : α) ≠ ascii d := by
  intro h
  have hspell : (spell [c] : Text α) = spell [d] := by rw [spell_ascii hc, spell_ascii hd, h]
  exact hne (List.head_eq_of_cons_eq (spell_injective hspell))

theorem dot_ne_slash : (dot : α) ≠ slash :=
  ascii_ne (by decide) (by decide) (by decide)

@[simp] theorem spell_nil : (spell [] : Text α) = [] := by
  have h := spell_append (α := α) [] []
  exact List.self_eq_append_right.mp h

/-- A text of ASCII characters is spelled character by character. -/
theorem spell_of_forall_ascii {text : Text} (h : ∀ c ∈ text, c.toNat < 128) :
    (spell text : Text α) = text.map ascii := by
  induction text with
  | nil => exact spell_nil
  | cons c text ih =>
    obtain ⟨hc, htext⟩ := List.forall_mem_cons.mp h
    rw [← List.singleton_append, spell_append, spell_ascii hc, ih htext]
    rfl

/-- An ASCII character in a text is spelled as a unit of its own. -/
theorem spell_append_cons {c : Char} (h : c.toNat < 128) (front rest : Text) :
    (spell (front ++ c :: rest) : Text α) = spell front ++ ascii c :: spell rest := by
  rw [spell_append, ← List.singleton_append, spell_append, spell_ascii h, List.singleton_append]

theorem ascii_mem_spell_iff {c : Char} (h : c.toNat < 128) {text : Text} :
    (ascii c : α) ∈ spell text ↔ c ∈ text := by
  constructor
  · exact mem_of_ascii_mem h
  · intro hmem
    obtain ⟨front, rest, rfl⟩ := List.append_of_mem hmem
    rw [spell_append_cons h]
    exact List.mem_append_right _ List.mem_cons_self

end PathUnit

end ScriptDesk
