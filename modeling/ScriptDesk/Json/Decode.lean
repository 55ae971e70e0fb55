import ScriptDesk.Json.Fault
import ScriptDesk.Json.Reader
import ScriptDesk.Json.Value
import ScriptDesk.Text.Quoted

/-!
# Decoding JSON text

A decoder takes a tree and gives a value or the first fault met in reading order. Records
(`Record`) are objects with named fields or arrays of these fields in their order; enumerations are
names; a tagged choice is a record whose tag, wherever it stands, says which record it is.

There are two ways in which a tree is read (`Reading`). `streamed`: the text is decoded while it is
read, so a fault in its shape may come before a breach of the syntax further on, and containers may
be nested only so deep. `held`: the text was read in full before (`Tree.checkAll`), as the fields of
a tagged choice are, so it is known to be sound.
-/

namespace ScriptDesk.Json

/-- The way in which a tree is read. -/
inductive Reading where
  /-- Decoded while it is read; so many more levels of nesting are allowed. -/
  | streamed (levels : Nat)
  /-- Read in full before. -/
  | held
  deriving DecidableEq, Repr

namespace Reading

/-- How deep containers may be nested. -/
def maxLevels : Nat := 127

/-- Go into an array or object. -/
def enter : Reading → Except Fault Reading
  | .streamed 0 => .error .syntaxError
  | .streamed (levels + 1) => .ok (.streamed levels)
  | .held => .ok .held

end Reading

namespace Tree

/-- How a value is named in a message. -/
def shown? : Tree → Option Text
  | .null => some "null".toList
  | .bool true => some "boolean `true`".toList
  | .bool false => some "boolean `false`".toList
  | .num (some (.int n)) => some ("integer ".toList ++ Fault.ticked (Text.ofInt n))
  | .num (some (.float x)) =>
    some ("floating point ".toList ++ Fault.ticked (Number.float x).written)
  | .str (some text) => some ("string ".toList ++ text.quoted)
  | .arr _ _ => some "sequence".toList
  | .obj _ _ | .misnamed _ => some "map".toList
  | .num none | .str none | .broken => none

/-- The fault of meeting this value where another type was expected. -/
def mismatch (t : Tree) (expected : Text) : Fault :=
  match t.shown? with
  | some found => .invalidType found expected
  | none => .syntaxError

mutual

/-- Read a value in full, whatever it is. -/
def checkAll : Reading → Tree → Except Fault Unit
  | _, .null | _, .bool _ | _, .num (some _) | _, .str (some _) => .ok ()
  | _, .num none | _, .str none | _, .broken | _, .misnamed _ => .error .syntaxError
  | r, .arr items closed => do checkItems (← r.enter) items closed
  | r, .obj members closed => do checkMembers (← r.enter) members closed

/-- Read all items of an array. -/
def checkItems : Reading → List Tree → Bool → Except Fault Unit
  | _, [], closed => if closed then .ok () else .error .syntaxError
  | r, item :: items, closed => do
    checkAll r item
    checkItems r items closed

/-- Read all members of an object. -/
def checkMembers : Reading → List (Option Text × Tree) → Bool → Except Fault Unit
  | _, [], closed => if closed then .ok () else .error .syntaxError
  | _, (none, _) :: _, _ => .error .syntaxError
  | r, (some _, value) :: members, closed => do
    checkAll r value
    checkMembers r members closed

end

mutual

/-- The value that a sound tree holds, the members of each object sorted by name; of members with
the same name the last one stays. -/
def toValue : Tree → Value
  | .null => .null
  | .bool b => .bool b
  | .num n => .num (n.getD (.int 0))
  | .str text => .str (text.getD [])
  | .arr items _ => .arr (toValues items)
  | .obj members _ => .obj (toMembers members [])
  | .misnamed _ | .broken => .null

/-- The values of the items. -/
def toValues : List Tree → List Value
  | [] => []
  | item :: items => toValue item :: toValues items

/-- The members put into `sofar`. -/
def toMembers : List (Option Text × Tree) → List (Text × Value) → List (Text × Value)
  | [], sofar => sofar
  | (name, value) :: members, sofar =>
    toMembers members (Value.insert (name.getD []) (toValue value) sofar)

end

end Tree

/-- A decoder of values of a type. -/
abbrev Decoder (α : Type) := Reading → Tree → Except Fault α

/-- A string. -/
def decodeText : Decoder Text
  | _, .str (some text) => .ok text
  | _, t => .error (t.mismatch "a string".toList)

/-- A string or `null`. -/
def decodeText? : Decoder (Option Text)
  | _, .null => .ok none
  | r, t => (decodeText r t).map some

/-- A whole number of 32 bits. -/
def decodeWord : Decoder UInt32
  | _, .num (some (.int n)) =>
    if 0 ≤ n ∧ n < 4294967296 then .ok (UInt32.ofNat n.toNat)
    else .error (.invalidValue ("integer ".toList ++ Fault.ticked (Text.ofInt n)) "u32".toList)
  | _, t => .error (t.mismatch "u32".toList)

/-- Nothing: `null`, or in text that was read before also an empty object. -/
def decodeUnit : Decoder Unit
  | _, .null => .ok ()
  | .held, .obj [] _ => .ok ()
  | _, t => .error (t.mismatch "unit".toList)

/-- Any value. -/
def decodeValue : Decoder Value
  | r, t => (t.checkAll r).map fun _ => t.toValue

/-- Decode all items of an array. -/
def decodeItems (item : Decoder α) (r : Reading) : List Tree → Bool → Except Fault (List α)
  | [], closed => if closed then .ok [] else .error .syntaxError
  | t :: ts, closed => do
    let first ← item r t
    let others ← decodeItems item r ts closed
    return first :: others

/-- An array of values of one type. -/
def decodeList (item : Decoder α) : Decoder (List α)
  | r, .arr items closed => do decodeItems item (← r.enter) items closed
  | _, t => .error (t.mismatch "a sequence".toList)

/-! ## Names -/

/-- The value that a name stands for. -/
def namedValue (names : List (Text × α)) (given : Text) : Except Fault α :=
  match names.lookup given with
  | some value => .ok value
  | none => .error (.unknownVariant given (names.map Prod.fst))

/-- A value given by its name: a string, or an object with that name and nothing as its only
member. -/
def decodeNamed (names : List (Text × α)) : Decoder α
  | _, .str (some given) => namedValue names given
  | .streamed levels, .obj members closed => do
    let r ← (Reading.streamed levels).enter
    match members with
    | (some given, value) :: others => do
      let chosen ← namedValue names given
      decodeUnit r value
      if others.isEmpty && closed then return chosen else throw .syntaxError
    | _ => throw .syntaxError
  | .streamed levels, .misnamed name => do
    let _ ← (Reading.streamed levels).enter
    throw (name.mismatch "variant identifier".toList)
  | .streamed _, _ => .error .syntaxError
  | .held, .obj members _ =>
    match members with
    | [(some given, value)] => do
      let chosen ← namedValue names given
      decodeUnit .held value
      return chosen
    | _ => .error (.invalidValue "map".toList "map with a single key".toList)
  | .held, t => .error (t.mismatch "string or map".toList)

/-! ## Records -/

/-- One field of a record: how it is called, whether it may be left out at the end of an array, and
how it is put into a draft `δ` of the record. -/
structure Field (δ : Type) where
  /-- The field's name. -/
  name : Text
  /-- Another name for it. -/
  other : Option Text := none
  /-- It has a value of its own when it is left out. -/
  optional : Bool := false
  /-- The draft has the field already. -/
  isFilled : δ → Bool
  /-- Decode the field into the draft. -/
  fill : Reading → Tree → δ → Except Fault δ

/-- A record of type `α` with named fields, collected in a draft `δ`. -/
structure Record (δ α : Type) where
  /-- How the record is called in messages. -/
  title : Text
  /-- The fields in their order. -/
  fields : List (Field δ)
  /-- The draft without any field. -/
  blank : δ
  /-- The record of a draft, or the first field that is missing. -/
  build : δ → Except Fault α

/-- A field that has to be there. -/
def required (name : Text) : Option α → Except Fault α
  | some value => .ok value
  | none => .error (.missingField name)

/-- A number of elements in words. -/
def elements (count : Nat) : Text :=
  if count = 1 then "1 element".toList else Text.ofNat count ++ " elements".toList

namespace Field

/-- The field goes by this name. -/
def answers (field : Field δ) (name : Text) : Bool :=
  field.name == name || field.other == some name

end Field

namespace Record

/-- Fill a draft from the members of an object; members without a field are passed over. -/
def fillMembers (fields : List (Field δ)) (r : Reading) :
    List (Option Text × Tree) → Bool → δ → Except Fault δ
  | [], closed, draft => if closed then .ok draft else .error .syntaxError
  | (none, _) :: _, _, _ => .error .syntaxError
  | (some name, value) :: members, closed, draft =>
    match fields.find? (·.answers name) with
    | none =>
      if value.isWhole then fillMembers fields r members closed draft else .error .syntaxError
    | some field =>
      if field.isFilled draft then .error (.duplicateField field.name)
      else do fillMembers fields r members closed (← field.fill r value draft)

/-- Fill a draft from the items of an array, one for each field in order. -/
def fillItems (record : Record δ α) (r : Reading) :
    (count : Nat) → List (Field δ) → List Tree → Bool → δ → Except Fault δ
  | _, [], [], closed, draft => if closed then .ok draft else .error .syntaxError
  | count, [], items, _, _ =>
    match r with
    | .streamed _ => .error .syntaxError
    | .held =>
      .error (.invalidLength (count + items.length) (elements count ++ " in sequence".toList))
  | count, field :: fields, item :: items, closed, draft => do
    fillItems record r (count + 1) fields items closed (← field.fill r item draft)
  | count, field :: fields, [], closed, draft =>
    if !closed then .error .syntaxError
    else if field.optional then fillItems record r count fields [] closed draft
    else
      .error (.invalidLength count
        (record.title ++ " with ".toList ++ elements record.fields.length))

/-- Decode a record. -/
def decode (record : Record δ α) : Decoder α
  | r, .obj members closed => do
    let r ← r.enter
    record.build (← fillMembers record.fields r members closed record.blank)
  | r, .arr items closed => do
    let r ← r.enter
    record.build (← record.fillItems r 0 record.fields items closed record.blank)
  | r, .misnamed _ => do
    let _ ← r.enter
    throw .syntaxError
  | _, t => .error (t.mismatch record.title)

end Record

/-! ## Tagged choices -/

/-- The tag of a choice: one of the names, or in text that was read before also its number. -/
def decodeTag (names : List (Text × α)) : Decoder α
  | _, .str (some given) => namedValue names given
  | .held, .num (some (.int (.ofNat n))) =>
    match names[n]? with
    | some (_, value) => .ok value
    | none =>
      .error (.invalidValue ("integer ".toList ++ Fault.ticked (Text.ofNat n))
        ("variant index 0 <= i < ".toList ++ Text.ofNat names.length))
  | _, t => .error (t.mismatch "variant identifier".toList)

/-- A choice between records, made by a tag. -/
structure Choice (α : Type) where
  /-- How the choice is called in messages. -/
  title : Text
  /-- The name of the field that holds the tag. -/
  tag : Text
  /-- The tags with the decoders of the rest. -/
  cases : List (Text × Decoder α)

namespace Choice

/-- Read the members of an object in full and take the tag out of them. -/
def splitMembers (choice : Choice α) (r : Reading) :
    List (Option Text × Tree) → Bool → Option (Decoder α) →
      Except Fault (Option (Decoder α) × List (Option Text × Tree))
  | [], closed, chosen => if closed then .ok (chosen, []) else .error .syntaxError
  | (none, _) :: _, _, _ => .error .syntaxError
  | (some name, value) :: members, closed, chosen =>
    if name = choice.tag then
      if chosen.isSome then .error (.duplicateField choice.tag)
      else do
        let decoder ← decodeTag choice.cases r value
        splitMembers choice r members closed (some decoder)
    else do
      value.checkAll r
      let (chosen, others) ← splitMembers choice r members closed chosen
      return (chosen, (some name, value) :: others)

/-- Decode a choice: find the tag, read everything else in full, then decode that. -/
def decode (choice : Choice α) : Decoder α
  | r, .obj members closed => do
    let r ← r.enter
    match ← choice.splitMembers r members closed none with
    | (some decoder, others) => decoder .held (.obj others true)
    | (none, _) => throw (.missingField choice.tag)
  | r, .arr items closed => do
    let r ← r.enter
    match items with
    | [] => throw (if closed then .missingField choice.tag else .syntaxError)
    | tag :: others => do
      let decoder ← decodeTag choice.cases r tag
      Tree.checkItems r others closed
      decoder .held (.arr others true)
  | r, .misnamed _ => do
    let _ ← r.enter
    throw .syntaxError
  | _, t => .error (t.mismatch ("internally tagged enum ".toList ++ choice.title))

end Choice

/-! ## Whole texts -/

/-- Decode a text that holds one value with nothing but blanks around it. -/
def decodeWhole (decoder : Decoder α) (text : Text) : Except Fault α := do
  let (tree, rest) := Tree.ofText text
  let value ← decoder (.streamed Reading.maxLevels) tree
  match rest with
  | some rest => if (skipGap rest).isEmpty then return value else throw .syntaxError
  | none => throw .syntaxError

end ScriptDesk.Json
