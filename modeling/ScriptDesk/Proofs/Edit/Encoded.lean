import ScriptDesk.Proofs.Edit.Addresses

/-!
# Editing a buffer in place

A buffer can also be kept in UTF-8 and be changed where it is. A position is then found by walking
over bytes, and bytes of a range are replaced by others. Bytes may be cut between characters only,
and a range must not end before it starts. Where that fails the editor itself is at fault, which is
no answer at all (`none`).

On the bytes of a buffer this never happens. What is cut out of the bytes of a text is what the
text is cut into (`slice?_toBytes`), so each step of the walk finds in the bytes what the buffer
has there (`lineStart?_toBytes`, `offset?_toBytes`). That tells which places positions lead to among
the bytes (`positions_address_places`). And whatever changes are applied, the bytes are in the end
those of the buffer with the changes applied (`applyFrom_toBytes`).
-/

namespace ScriptDesk.Encoded

open Text Buffer

/-! ### Cutting bytes -/

/-- The bytes from a place on. -/
def from? (bytes : Bytes) (start : Nat) : Option Bytes :=
  if bytes.isBoundary start then some (bytes.drop start) else none

/-- The place `start` is not behind the place `stop`, and the bytes may be cut at both. -/
def isRange (bytes : Bytes) (start stop : Nat) : Bool :=
  start ≤ stop && bytes.isBoundary start && bytes.isBoundary stop

/-- The bytes of a range. -/
def slice? (bytes : Bytes) (start stop : Nat) : Option Bytes :=
  if isRange bytes start stop then some ((bytes.take stop).drop start) else none

/-- The bytes with those of a range replaced. -/
def replaceRange? (bytes : Bytes) (start stop : Nat) (newBytes : Bytes) : Option Bytes :=
  if isRange bytes start stop then some (bytes.take start ++ newBytes ++ bytes.drop stop) else none

/-- The line without the carriage return at its end, if there is one. -/
def withoutReturn (line : Bytes) : Bytes :=
  if line.getLast? = some Bytes.carriageReturn then line.dropLast else line

/-! ### Walking over bytes -/

/-- Where the line begins that is so many lines further than the place `start`, if there is one. -/
def lineStart? (bytes : Bytes) : (lines start : Nat) → Option (Option Nat)
  | 0, start => some (some start)
  | lines + 1, start => do
    match (← from? bytes start).findIdx? (· == Bytes.lineFeed) with
    | some feed => lineStart? bytes lines (start + feed + 1)
    | none => some none

/-- Where the character with a number is in the line that begins at `start`. -/
def offsetInLine? (bytes : Bytes) (start character : Nat) : Option (Except Misplaced Nat) := do
  let feed := (← from? bytes start).findIdx? (· == Bytes.lineFeed)
  let stop := feed.elim bytes.length (start + ·)
  let line := withoutReturn (← slice? bytes start stop)
  let starts := line.starts 0
  match starts[character]? with
  | some index => some (.ok (start + index))
  | none =>
    if character = starts.length then some (.ok (start + line.length)) else some (.error .character)

/-- Where a position is. -/
def offset? (bytes : Bytes) (position : Position) : Option (Except Misplaced Nat) := do
  match ← lineStart? bytes position.line.toNat 0 with
  | some start => offsetInLine? bytes start position.character.toNat
  | none => some (.error .line)

/-- Apply the change with the given index. -/
def applyChange (index : Nat) (bytes : Bytes) (change : Change) :
    Option (Except EditError Bytes) := do
  match ← offset? bytes change.start with
  | .error e => some (.error (.ofMisplaced index change.start e))
  | .ok start =>
    match ← offset? bytes change.stop with
    | .error e => some (.error (.ofMisplaced index change.stop e))
    | .ok stop =>
      if stop < start then some (.error (.invertedSpan index))
      else (replaceRange? bytes start stop change.newText.toBytes).map .ok

/-- Apply changes one after the other, the first of which has the given index. -/
def applyFrom (index : Nat) (bytes : Bytes) : List Change → Option (Except EditError Bytes)
  | [] => some (.ok bytes)
  | change :: changes => do
    match ← applyChange index bytes change with
    | .ok bytes => applyFrom (index + 1) bytes changes
    | .error e => some (.error e)

/-! ### What is cut out of the bytes of a text -/

theorem from?_toBytes (front rest : Text) :
    from? (toBytes (front ++ rest)) (toBytes front).length = some (toBytes rest) := by
  rw [from?, if_pos (isBoundary_toBytes_append front rest), toBytes_append, List.drop_left' rfl]

theorem isRange_toBytes (front middle rest : Text) :
    isRange (toBytes (front ++ middle ++ rest)) (toBytes front).length
      (toBytes (front ++ middle)).length = true := by
  have hstart := isBoundary_toBytes_append front (middle ++ rest)
  rw [← List.append_assoc] at hstart
  have hstop := isBoundary_toBytes_append (front ++ middle) rest
  have hle : (toBytes front).length ≤ (toBytes (front ++ middle)).length := by simp
  rw [isRange, hstart, hstop, decide_eq_true hle]
  rfl

theorem slice?_toBytes (front middle rest : Text) :
    slice? (toBytes (front ++ middle ++ rest)) (toBytes front).length
      (toBytes (front ++ middle)).length = some (toBytes middle) := by
  rw [slice?, if_pos (isRange_toBytes front middle rest), toBytes_append (front ++ middle),
    List.take_left' rfl, toBytes_append, List.drop_left' rfl]

theorem replaceRange?_toBytes (front middle rest newText : Text) :
    replaceRange? (toBytes (front ++ middle ++ rest)) (toBytes front).length
        (toBytes (front ++ middle)).length newText.toBytes =
      some (toBytes (front ++ newText ++ rest)) := by
  have htake : (toBytes (front ++ middle ++ rest)).take (toBytes front).length = toBytes front := by
    rw [List.append_assoc, toBytes_append, List.take_left' rfl]
  rw [replaceRange?, if_pos (isRange_toBytes front middle rest), htake,
    toBytes_append (front ++ middle), List.drop_left' rfl, toBytes_append, toBytes_append]

/-- The bytes of the line feed are found where the text has its first line feed. -/
theorem findIdx?_toBytes {line tail : Text} (h : '\n' ∉ line)
    (htail : tail = [] ∨ tail.head? = some '\n') :
    (toBytes (line ++ tail)).findIdx? (· == Bytes.lineFeed) =
      if tail = [] then none else some (toBytes line).length := by
  have hline : (toBytes line).findIdx? (· == Bytes.lineFeed) = none := by
    rw [List.findIdx?_eq_none_iff]
    intro b hb
    refine beq_false_of_ne ?_
    rintro rfl
    exact h (feed_mem_toBytes.mp hb)
  rw [toBytes_append, List.findIdx?_append, hline]
  cases tail with
  | nil => simp
  | cons c tail =>
    obtain rfl : c = '\n' := by simpa using htail
    have hfeed : (toBytes ('\n' :: tail)).findIdx? (· == Bytes.lineFeed) = some 0 := rfl
    simp [hfeed]

theorem withoutReturn_toBytes (line : Text) :
    withoutReturn (toBytes line) = toBytes (Text.withoutReturn line) := by
  have hreturn : (toBytes line).getLast? = some Bytes.carriageReturn ↔
      line.getLast? = some '\r' :=
    getLast?_toBytes_eq_some_iff (d := '\r') (by decide)
  rcases List.eq_nil_or_concat line with rfl | ⟨front, c, rfl⟩
  · rfl
  · rw [List.concat_eq_append] at hreturn ⊢
    by_cases hc : c = '\r'
    · subst hc
      rw [withoutReturn, if_pos (hreturn.mpr (by simp)), withoutReturn_append_return,
        toBytes_append]
      exact List.dropLast_concat
    · have hnot : (front ++ [c]).getLast? ≠ some '\r' := by simpa using hc
      rw [withoutReturn, if_neg (hreturn.not.mpr hnot), Text.withoutReturn, dropLast?, if_neg hnot]
      rfl

/-! ### What the walk finds -/

/-- The walk finds a line where the text has it. -/
theorem lineStart?_toBytes (lines : Nat) (front rest : Text) :
    lineStart? (toBytes (front ++ rest)) lines (toBytes front).length =
      some ((Buffer.lineStart? lines rest).map fun n =>
        (toBytes (front ++ rest.take n)).length) := by
  induction lines generalizing front rest with
  | zero => simp [lineStart?, Buffer.lineStart?]
  | succ lines ih =>
    obtain ⟨line, tail, hline, htail, rfl⟩ := exists_first_line rest
    rw [lineStart?, from?_toBytes, Option.bind_eq_bind, Option.bind_some,
      findIdx?_toBytes hline htail]
    cases tail with
    | nil =>
      rw [List.append_nil, Buffer.lineStart?_of_not_mem hline]
      rfl
    | cons c tail =>
      obtain rfl : c = '\n' := by simpa using htail
      have hnext : (toBytes front).length + (toBytes line).length + 1 =
          (toBytes (front ++ (line ++ ['\n']))).length := by
        have hfeed : (toBytes ['\n']).length = 1 := rfl
        simp only [toBytes_append, List.length_append, hfeed, Nat.add_assoc]
      have hsplit : front ++ (line ++ '\n' :: tail) = front ++ (line ++ ['\n']) ++ tail := by simp
      simp only [List.cons_ne_nil, if_false, hnext]
      rw [hsplit, ih, Buffer.lineStart?_line hline, Option.map_map]
      congr 2
      funext n
      have htake : (line ++ '\n' :: tail).take (line.length + 1 + n) =
          line ++ ['\n'] ++ tail.take n := by
        have hall : (line ++ ['\n']).take (line.length + 1 + n) = line ++ ['\n'] := by
          refine List.take_of_length_le ?_
          simp only [List.length_append, List.length_singleton]
          omega
        rw [List.append_cons line '\n' tail, List.take_append, hall]
        simp
      simp only [Function.comp, htake, List.append_assoc]

/-- In a line the walk finds the character with a number where the line has it. -/
theorem offsetInLine?_toBytes (front rest : Text) (character : Nat) :
    offsetInLine? (toBytes (front ++ rest)) (toBytes front).length character =
      some (if character ≤ lineLength rest then
        .ok (toBytes (front ++ rest.take character)).length else .error .character) := by
  obtain ⟨line, tail, hline, htail, rfl⟩ := exists_first_line rest
  -- the line ends at its line feed or with the buffer
  have hstop : (if tail = [] then none else some (toBytes line).length).elim
      (toBytes (front ++ (line ++ tail))).length ((toBytes front).length + ·) =
        (toBytes (front ++ line)).length := by
    by_cases htail : tail = []
    · simp [htail]
    · simp [htail]
  have hslice := slice?_toBytes front line tail
  rw [List.append_assoc] at hslice
  simp only [offsetInLine?, from?_toBytes, Option.bind_eq_bind, Option.bind_some,
    findIdx?_toBytes hline htail, hstop, hslice, withoutReturn_toBytes, starts_toBytes,
    List.length_map, List.length_range, lineLength_eq hline htail]
  have htake : ∀ n ≤ (Text.withoutReturn line).length,
      (line ++ tail).take n = (Text.withoutReturn line).take n := by
    intro n hn
    obtain ⟨more, hmore⟩ := withoutReturn_prefix line
    have hfront : (Text.withoutReturn line ++ (more ++ tail)).take n =
        (Text.withoutReturn line).take n := List.take_append_of_le_length hn
    rwa [← List.append_assoc, hmore] at hfront
  rcases Nat.lt_trichotomy character (Text.withoutReturn line).length with hlt | heq | hgt
  · have hget : (List.range (Text.withoutReturn line).length)[character]? = some character := by
      simp [hlt]
    simp only [List.getElem?_map, hget, Option.map_some, if_pos hlt.le, htake character hlt.le,
      toBytes_append, List.length_append, Nat.zero_add]
  · have hget : (List.range (Text.withoutReturn line).length)[character]? = none := by
      simp [heq]
    have hall : (line ++ tail).take character = Text.withoutReturn line := by
      rw [htake character heq.le, List.take_of_length_le heq.ge]
    simp only [List.getElem?_map, hget, Option.map_none, if_pos heq, if_pos heq.le, hall,
      toBytes_append, List.length_append]
  · have hget : (List.range (Text.withoutReturn line).length)[character]? = none := by
      simp [hgt.le]
    simp only [List.getElem?_map, hget, Option.map_none, if_neg hgt.ne', if_neg hgt.not_ge]

/-- A position is found behind the bytes of the text in front of it. -/
theorem offset?_toBytes (buffer : Text) (position : Position) :
    offset? (toBytes buffer) position = some (byteOffset? buffer position) := by
  have hstart := lineStart?_toBytes position.line.toNat [] buffer
  simp only [List.nil_append, toBytes_nil, List.length_nil] at hstart
  rw [offset?, hstart, byteOffset?, Buffer.offset?]
  cases hline : Buffer.lineStart? position.line.toNat buffer with
  | none => rfl
  | some n =>
    have hfound := offsetInLine?_toBytes (buffer.take n) (buffer.drop n) position.character.toNat
    rw [List.take_append_drop] at hfound
    simp only [Option.map_some, Option.bind_eq_bind, Option.bind_some, hfound]
    by_cases hc : position.character.toNat ≤ lineLength (buffer.drop n)
    · simp only [if_pos hc, Except.map, List.take_add]
    · simp only [if_neg hc, Except.map]

/-- How positions address the places of a buffer among its bytes. -/
structure AddressesPlaces (buffer : Text) : Prop where
  /-- To look up a position among the bytes is to look it up in the buffer, and it never fails on
  the way. -/
  in_bytes : ∀ position, offset? (toBytes buffer) position = some (byteOffset? buffer position)
  /-- It is found if there are as many line feeds as its line says, and as many characters in that
  line, its end aside. -/
  found_iff : ∀ position, (∃ n, byteOffset? buffer position = .ok n) ↔
    position.line.toNat ≤ buffer.count '\n' ∧
      position.character.toNat ≤ lineWidth buffer position.line.toNat
  /-- Otherwise the line is missing. -/
  no_line_iff : ∀ position, byteOffset? buffer position = .error .line ↔
    buffer.count '\n' < position.line.toNat
  /-- Or else it is the character. -/
  no_character_iff : ∀ position, byteOffset? buffer position = .error .character ↔
    position.line.toNat ≤ buffer.count '\n' ∧
      lineWidth buffer position.line.toNat < position.character.toNat
  /-- Positions are in the order of the places where they are found. -/
  lt_iff : ∀ a b m n, byteOffset? buffer a = .ok m → byteOffset? buffer b = .ok n →
    (a.compare b = .lt ↔ m < n)
  /-- These are the boundaries of characters outside line ends, as far as 32 bits are enough to
  number line and character. -/
  place_iff : ∀ n, (∃ position, byteOffset? buffer position = .ok n) ↔
    (toBytes buffer).isBoundary n = true ∧ ¬ (toBytes buffer).IsInLineEnd n ∧
      ∀ front, toBytes front = (toBytes buffer).take n → IsNumbered front
  /-- They are always enough in a buffer with fewer than 2³² characters. -/
  place_iff_of_short : buffer.length < UInt32.size →
    ∀ n, (∃ position, byteOffset? buffer position = .ok n) ↔
      (toBytes buffer).isBoundary n = true ∧ ¬ (toBytes buffer).IsInLineEnd n
  /-- A change whose positions are found is refused if it ends before it starts, and only then. -/
  inverted_iff : ∀ index change m n, byteOffset? buffer change.start = .ok m →
    byteOffset? buffer change.stop = .ok n →
      (Buffer.applyChange index buffer change = .error (.invertedSpan index) ↔
        change.stop.compare change.start = .lt)

/-- A position is found, or it is told what is missing. -/
theorem byteOffset?_answers (buffer : Text) (position : Position) :
    ((∃ n, byteOffset? buffer position = .ok n) ↔
      position.line.toNat ≤ buffer.count '\n' ∧
        position.character.toNat ≤ lineWidth buffer position.line.toNat) ∧
    (byteOffset? buffer position = .error .line ↔ buffer.count '\n' < position.line.toNat) ∧
    (byteOffset? buffer position = .error .character ↔
      position.line.toNat ≤ buffer.count '\n' ∧
        lineWidth buffer position.line.toNat < position.character.toNat) := by
  have hanswers := offsetAt?_answers buffer position.line.toNat position.character.toNat
  rw [← offset?_eq] at hanswers
  rw [byteOffset?]
  cases hlook : Buffer.offset? buffer position with
  | ok n =>
    rw [hlook] at hanswers
    simp [Except.map, hanswers]
  | error e =>
    rw [hlook] at hanswers
    cases e with
    | line => simp [Except.map, hanswers, Nat.not_le.mpr hanswers]
    | character => simp [Except.map, hanswers]

/-- **How positions address a buffer**: in order, and at the boundaries of characters that are not
inside a line end. -/
theorem positions_address_places (buffer : Text) : AddressesPlaces buffer where
  in_bytes := offset?_toBytes buffer
  found_iff position := (byteOffset?_answers buffer position).1
  no_line_iff position := (byteOffset?_answers buffer position).2.1
  no_character_iff position := (byteOffset?_answers buffer position).2.2
  lt_iff _ _ _ _ := compare_eq_lt_iff
  place_iff _ := exists_byteOffset?_iff_isBoundary
  place_iff_of_short hlength n := by
    rw [exists_byteOffset?_iff_isBoundary]
    refine and_congr_right fun hboundary => and_iff_left_of_imp fun _ front hfront => ?_
    obtain ⟨other, rest, rfl, rfl⟩ := isBoundary_toBytes_iff.mp hboundary
    rw [toBytes_append, List.take_left' rfl] at hfront
    exact isNumbered_of_length_lt (toBytes_injective hfront ▸ hlength)
  inverted_iff index _ _ _ hstart hstop := applyChange_eq_invertedSpan_iff hstart hstop index

/-! ### Changing bytes -/

/-- One change of the bytes of a buffer leaves the bytes of the changed buffer. -/
theorem applyChange_toBytes (index : Nat) (buffer : Text) (change : Change) :
    applyChange index (toBytes buffer) change =
      some ((Buffer.applyChange index buffer change).map toBytes) := by
  rw [applyChange, offset?_toBytes, offset?_toBytes]
  cases hstart : Buffer.offset? buffer change.start with
  | error e =>
    rw [byteOffset?_eq_error_iff.mpr hstart, Buffer.applyChange_of_start hstart]
    rfl
  | ok m =>
    cases hstop : Buffer.offset? buffer change.stop with
    | error e =>
      rw [byteOffset?_eq_error_iff.mpr hstop, byteOffset?, hstart,
        Buffer.applyChange_of_stop hstart hstop]
      rfl
    | ok n =>
      rw [Buffer.applyChange_of_ok hstart hstop]
      obtain ⟨front, rest, rfl, rfl, -⟩ := offset?_eq_ok_iff.mp hstart
      obtain ⟨front', rest', heq, rfl, -⟩ := offset?_eq_ok_iff.mp hstop
      have htake : (front ++ rest).take front'.length = front' := by rw [heq, List.take_left' rfl]
      rw [byteOffset?, byteOffset?, hstart, hstop]
      simp only [Except.map, Option.bind_eq_bind, Option.bind_some, List.take_left' rfl, htake]
      have hbytes := length_toBytes_lt_iff heq.symm
      rcases front_cases heq with ⟨middle, rfl, rfl⟩ | ⟨hlt, -⟩
      · have hlength : ¬ (front ++ middle).length < front.length := by simp
        have hreplace := replaceRange?_toBytes front middle rest' change.newText
        rw [List.append_assoc front middle rest'] at hreplace
        rw [if_neg (hbytes.not.mpr hlength), if_neg hlength, hreplace]
        simp [Buffer.replace]
      · rw [if_pos (hbytes.mpr hlt), if_pos hlt]

/-- Whatever changes are applied to the bytes of a buffer, every place where they are cut lies
between characters, and they are in the end the bytes of the buffer with the changes applied. -/
theorem applyFrom_toBytes (index : Nat) (buffer : Text) (changes : List Change) :
    applyFrom index (toBytes buffer) changes =
      some ((Buffer.applyFrom index buffer changes).map toBytes) := by
  induction changes generalizing index buffer with
  | nil => rfl
  | cons change changes ih =>
    rw [applyFrom, Buffer.applyFrom, applyChange_toBytes]
    cases Buffer.applyChange index buffer change with
    | error e => rfl
    | ok edited => exact ih (index + 1) edited

end ScriptDesk.Encoded
