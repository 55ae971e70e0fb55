import ScriptDesk.Text.Basic

/-!
# Text as bytes

Files and input streams hold bytes; text is written to them in UTF-8. Reading is the inverse of
writing (`ofBytes?_eq_some_iff`) and refuses every other byte sequence.
-/

namespace ScriptDesk

/-- A sequence of bytes. -/
abbrev Bytes := Text UInt8

namespace Text

/-- The text in UTF-8. -/
def toBytes (text : Text) : Bytes :=
  text.flatMap String.utf8EncodeChar

/-- The text that the bytes encode in UTF-8, if they encode one. -/
def ofBytes? (bytes : Bytes) : Option Text :=
  bytes.toByteArray.utf8Decode?.map Array.toList

@[simp] theorem toBytes_nil : toBytes [] = [] := rfl

@[simp] theorem toBytes_append (a b : Text) : toBytes (a ++ b) = toBytes a ++ toBytes b := by
  simp [toBytes]

/-- A byte below 128 stands for itself only. -/
theorem eq_of_mem_utf8EncodeChar {c d : Char} (hd : d.toNat < 128)
    (h : UInt8.ofNat d.toNat ∈ String.utf8EncodeChar c) : c = d := by
  have hbyte : ∀ n : Nat, UInt8.ofNat d.toNat = UInt8.ofNat n → n % 256 = d.toNat := by
    intro n hn
    have := congrArg UInt8.toNat hn
    simp only [UInt8.toNat_ofNat'] at this
    omega
  have hvalue : c.toNat = d.toNat := by
    change c.val.toNat = _
    rw [String.utf8EncodeChar] at h
    split at h
    · have := hbyte _ (List.mem_singleton.mp h)
      omega
    split at h
    · simp only [List.mem_cons, List.not_mem_nil, or_false] at h
      rcases h with h | h <;> have hmod := hbyte _ h <;> omega
    split at h
    · simp only [List.mem_cons, List.not_mem_nil, or_false] at h
      rcases h with h | h | h <;> have hmod := hbyte _ h <;> omega
    · simp only [List.mem_cons, List.not_mem_nil, or_false] at h
      rcases h with h | h | h | h <;> have hmod := hbyte _ h <;> omega
  exact Char.ext (UInt32.toNat_inj.mp hvalue)

theorem utf8EncodeChar_of_lt {c : Char} (h : c.toNat < 128) :
    String.utf8EncodeChar c = [UInt8.ofNat c.toNat] := by
  rw [String.utf8EncodeChar]
  exact if_pos (Nat.le_of_lt_succ h)

/-- What is written is read back. -/
@[simp] theorem ofBytes?_toBytes (text : Text) : ofBytes? (toBytes text) = some text := by
  have h : (toBytes text).toByteArray = text.utf8Encode := rfl
  simp [ofBytes?, h]

/-- Bytes are read as the text that they are written for. -/
theorem ofBytes?_eq_some_iff {bytes : Bytes} {text : Text} :
    ofBytes? bytes = some text ↔ toBytes text = bytes := by
  constructor
  · intro h
    obtain ⟨chars, hchars, rfl⟩ := Option.map_eq_some_iff.mp h
    have hsome : bytes.toByteArray.utf8Decode?.isSome := by rw [hchars, Option.isSome_some]
    have hencode := ByteArray.utf8Encode_get_utf8Decode? (b := bytes.toByteArray) (h := hsome)
    simp only [hchars, Option.get_some] at hencode
    have := congrArg (fun b : ByteArray => b.data.toList) hencode
    simpa [List.utf8Encode, toBytes] using this
  · rintro rfl
    exact ofBytes?_toBytes text

end Text

namespace Bytes

/-- The byte that ends a line. -/
def lineFeed : UInt8 := 10

/-- The bytes cut behind each line feed. -/
def pieces (bytes : Bytes) : List Bytes :=
  bytes.cutAfter lineFeed

end Bytes

/-- The first place at which bytes are not UTF-8; `index` counts the bytes before it. -/
inductive EncodingFault where
  /-- The `length` bytes from there start no character. -/
  | invalid (length index : Nat)
  /-- The bytes end within a character. -/
  | incomplete (index : Nat)
  deriving DecidableEq, Repr

namespace EncodingFault

/-- The byte carries on a character. -/
def isContinuation (b : UInt8) : Bool :=
  0x80 ≤ b && b ≤ 0xBF

/-- The range of the second byte of a character of three or four bytes, given the first one. -/
def secondRange (first : UInt8) : UInt8 × UInt8 :=
  if first = 0xE0 then (0xA0, 0xBF)
  else if first = 0xED then (0x80, 0x9F)
  else if first = 0xF0 then (0x90, 0xBF)
  else if first = 0xF4 then (0x80, 0x8F)
  else (0x80, 0xBF)

/-- How many bytes a character has that starts with this one; zero if none does. -/
def width (first : UInt8) : Nat :=
  if first < 0x80 then 1
  else if first < 0xC2 then 0
  else if first < 0xE0 then 2
  else if first < 0xF0 then 3
  else if first < 0xF5 then 4
  else 0

/-- Check the `left` last bytes of a character that starts at `index` and of which `met` bytes were
met; nothing if the character is complete. -/
def inCharacter (index : Nat) : (met left : Nat) → Bytes → Option EncodingFault
  | _, 0, _ => none
  | _, _ + 1, [] => some (.incomplete index)
  | met, left + 1, b :: rest =>
    if isContinuation b then inCharacter index (met + 1) left rest
    else some (.invalid met index)

/-- Check the bytes behind the first one of a character that starts at `index`. -/
def behindFirst (index : Nat) (first : UInt8) (rest : Bytes) : Option EncodingFault :=
  match width first, rest with
  | 0, _ => some (.invalid 1 index)
  | 1, _ => none
  | _, [] => some (.incomplete index)
  | n, second :: rest =>
    let (low, high) := secondRange first
    if low ≤ second && second ≤ high then inCharacter index 2 (n - 2) rest
    else some (.invalid 1 index)

/-- The first fault from `index` on, `skip` bytes of a character that was checked before aside. -/
def findFrom : (index skip : Nat) → Bytes → Option EncodingFault
  | _, _, [] => none
  | index, skip + 1, _ :: rest => findFrom (index + 1) skip rest
  | index, 0, first :: rest =>
    match behindFirst index first rest with
    | some fault => some fault
    | none => findFrom (index + 1) (width first - 1) rest

/-- The first fault of the bytes. -/
def find? (bytes : Bytes) : Option EncodingFault :=
  findFrom 0 0 bytes

/-- The wording of a fault. -/
def message : EncodingFault → Text
  | .invalid length index =>
    "invalid utf-8 sequence of ".toList ++ Text.ofNat length ++ " bytes from index ".toList ++
      Text.ofNat index
  | .incomplete index => "incomplete utf-8 byte sequence from index ".toList ++ Text.ofNat index

end EncodingFault

end ScriptDesk
