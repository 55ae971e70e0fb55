import ScriptDesk.Edit.Change

/-!
# Responses of the code service about files

The code service reports that a file was opened, that its buffer was modified by a batch of changes,
or that it was renamed.
-/

namespace ScriptDesk

/-- The kinds of response. -/
inductive Modification where
  /-- A buffer was changed. -/
  | modified
  /-- A file was opened. -/
  | opened
  /-- A file was renamed. -/
  | renamed
  deriving DecidableEq, Repr, Inhabited

namespace Modification

/-- The name of a kind. -/
def name : Modification → Text
  | .modified => "Modified".toList
  | .opened => "Opened".toList
  | .renamed => "Renamed".toList

/-- The names of all kinds. -/
def names : List (Text × Modification) :=
  [modified, opened, renamed].map fun kind => (kind.name, kind)

/-- Decode a kind from JSON. -/
def decode : Json.Decoder Modification :=
  Json.decodeNamed names

/-- The kind as JSON. -/
def toJson (kind : Modification) : Json.Value :=
  .str kind.name

end Modification

/-- A report about one file. -/
inductive Response where
  /-- The changes were applied to the buffer of the file. -/
  | modified (fileName buffer : Text) (changes : List Change)
  /-- The file was opened. -/
  | opened (fileName : Text)
  /-- The file has a new name. -/
  | renamed (fileName newFileName : Text)
  deriving DecidableEq, Repr, Inhabited

namespace Response

/-- The file that the response is about. -/
def fileName : Response → Text
  | .modified name _ _ | .opened name | .renamed name _ => name

/-- The kind of the response. -/
def kind : Response → Modification
  | .modified .. => .modified
  | .opened _ => .opened
  | .renamed .. => .renamed

/-- A response as far as it is decoded. -/
structure Draft where
  /-- The name of the file. -/
  fileName : Option Text := none
  /-- Its buffer. -/
  buffer : Option Text := none
  /-- The changes. -/
  changes : Option (List Change) := none
  /-- Its new name. -/
  newFileName : Option Text := none

/-- The field with the name of the file. -/
def fileNameField : Json.Field Draft where
  name := "fileName".toList
  isFilled := fun draft => draft.fileName.isSome
  fill := fun r t draft => do return { draft with fileName := some (← Json.decodeText r t) }

/-- The fields of a modification. -/
def modifiedRecord : Json.Record Draft Response where
  title := "struct variant FileOperationResponse::Modified".toList
  fields :=
    [fileNameField,
     { name := "buffer".toList
       isFilled := fun draft => draft.buffer.isSome
       fill := fun r t draft => do return { draft with buffer := some (← Json.decodeText r t) } },
     { name := "changes".toList
       optional := true
       isFilled := fun draft => draft.changes.isSome
       fill := fun r t draft => do
         return { draft with changes := some (← Json.decodeList Change.decode r t) } }]
  blank := {}
  build := fun draft => do
    let fileName ← Json.required "fileName".toList draft.fileName
    let buffer ← Json.required "buffer".toList draft.buffer
    return .modified fileName buffer (draft.changes.getD [])

/-- The fields of an opening. -/
def openedRecord : Json.Record Draft Response where
  title := "struct variant FileOperationResponse::Opened".toList
  fields := [fileNameField]
  blank := {}
  build := fun draft => do
    let fileName ← Json.required "fileName".toList draft.fileName
    return .opened fileName

/-- The fields of a renaming. -/
def renamedRecord : Json.Record Draft Response where
  title := "struct variant FileOperationResponse::Renamed".toList
  fields :=
    [fileNameField,
     { name := "newFileName".toList
       isFilled := fun draft => draft.newFileName.isSome
       fill := fun r t draft => do
         return { draft with newFileName := some (← Json.decodeText r t) } }]
  blank := {}
  build := fun draft => do
    let fileName ← Json.required "fileName".toList draft.fileName
    let newFileName ← Json.required "newFileName".toList draft.newFileName
    return .renamed fileName newFileName

/-- The choice between the three responses. -/
def choice : Json.Choice Response where
  title := "FileOperationResponse".toList
  tag := "modificationType".toList
  cases :=
    [(Modification.modified.name, modifiedRecord.decode),
     (Modification.opened.name, openedRecord.decode),
     (Modification.renamed.name, renamedRecord.decode)]

/-- Decode a response from JSON. -/
def decode : Json.Decoder Response :=
  choice.decode

/-- The response as JSON. -/
def toJson (response : Response) : Json.Value :=
  let tag := ("modificationType".toList, response.kind.toJson)
  match response with
  | .modified fileName buffer changes =>
    .obj [tag, ("fileName".toList, .str fileName), ("buffer".toList, .str buffer),
      ("changes".toList, .arr (changes.map Change.toJson))]
  | .opened fileName => .obj [tag, ("fileName".toList, .str fileName)]
  | .renamed fileName newFileName =>
    .obj [tag, ("fileName".toList, .str fileName), ("newFileName".toList, .str newFileName)]

end Response

end ScriptDesk
