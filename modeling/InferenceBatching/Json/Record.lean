import InferenceBatching.Json.Codec

namespace InferenceBatching.Json

/-!
# Records

A record is described by its fields in order. It is read from an object, whose
keys may come in any order and may be unknown, or from a list of its field
values, of which optional ones may be left out at the end. It is written as an
object with all its fields in order.

A list with more values than the record has fields is no text of the record at
all, while as a tree it is a value of another form.
-/

/-- A field of a record: its name, its other names, and how its value is read and written. -/
structure Field (Record : Type) where
  name : String
  aliases : List String
  isRequired : Bool
  read : List Char → Reading (Record → Record)
  ofTree : Tree → Except ReadFault (Record → Record)
  write : Record → List Char

namespace Field

variable {Record Value : Type}

/-- A field of a record given by how its value is taken out and put in. -/
def make
    (name : String)
    (aliases : List String)
    (isRequired : Bool)
    (codec : Codec Value)
    (take : Record → Value)
    (put : Record → Value → Record) :
    Field Record where
  name := name
  aliases := aliases
  isRequired := isRequired
  read := fun text =>
    (codec.read text).map (fun (value, rest) => (fun record => put record value, rest))
  ofTree := fun tree => (codec.ofTree tree).map (fun value record => put record value)
  write := fun record => codec.write (take record)

/-- A field that has to be given. -/
def required
    (name : String)
    (codec : Codec Value)
    (take : Record → Value)
    (put : Record → Value → Record) :
    Field Record :=
  make name [] true codec take put

/-- A field that may be left out. -/
def optional
    (name : String)
    (codec : Codec Value)
    (take : Record → Value)
    (put : Record → Value → Record) :
    Field Record :=
  make name [] false codec take put

/-- The field under another name as well. -/
def orNamed
    (field : Field Record)
    (name : String) :
    Field Record :=
  { field with aliases := field.aliases ++ [name] }

/-- Whether a key names the field. -/
def answersTo
    (field : Field Record)
    (key : String) :
    Bool :=
  field.name = key || field.aliases.contains key

end Field

/-- A record while it is read, with the names of the fields read so far. -/
structure Draft (Record : Type) where
  record : Record
  given : List String

namespace Draft

variable {Record : Type}

/-- The draft after a field has been read. -/
def fill
    (draft : Draft Record)
    (field : Field Record)
    (change : Record → Record) :
    Draft Record where
  record := change draft.record
  given := field.name :: draft.given

/-- The record, if every field that has to be given has been given. -/
def finish
    (draft : Draft Record)
    (fields : List (Field Record)) :
    Except ReadFault Record :=
  if fields.all (fun field => !field.isRequired || draft.given.contains field.name) then
    .ok draft.record
  else
    .error .mismatched

end Draft

namespace Codec

variable {Record : Type}

/-- Read one field into a draft. -/
def readField
    (field : Field Record)
    (draft : Draft Record)
    (text : List Char) :
    Reading (Draft Record) :=
  (field.read text).map (fun (change, rest) => (draft.fill field change, rest))

/--
Read one entry of an object into a draft, from behind the opening quote of its
key. A field must not be given twice; an unknown key has its value skipped.
-/
def readRecordEntry
    (fields : List (Field Record))
    (draft : Draft Record)
    (text : List Char) :
    Reading (Draft Record) :=
  match readText text with
  | .error fault => .error fault
  | .ok (key, rest) =>
      match fields.find? (fun field => field.answersTo key) with
      | none => ((skipColon rest).bind skipValue).map (draft, ·)
      | some field =>
          if draft.given.contains field.name then
            .error .mismatched
          else
            match skipColon rest with
            | .error fault => .error fault
            | .ok start => readField field draft start

/-- Read field values in order into a draft, up to the end of the list. -/
def readPositions
    (isFirst : Bool)
    (draft : Draft Record)
    (text : List Char) :
    List (Field Record) →
    Reading (Draft Record)
  | [] =>
      match skipBlanks text with
      | [] => .error .truncated
      | ']' :: rest => .ok (draft, rest)
      | _ => .error .malformed
  | field :: fields =>
      match nextElement isFirst text with
      | .error fault => .error fault
      | .ok (.finished rest) => .ok (draft, rest)
      | .ok (.another start) =>
          match readField field draft start with
          | .error fault => .error fault
          | .ok (filled, rest) => readPositions false filled rest fields

/-- Read a record in either form into a draft. -/
def readDraft
    (fields : List (Field Record))
    (blank : Record)
    (text : List Char) :
    Reading (Draft Record) :=
  let draft : Draft Record := { record := blank, given := [] }
  match skipBlanks text with
  | '{' :: rest => readObject (readRecordEntry fields) draft rest
  | '[' :: rest => readPositions true draft rest fields
  | other => .error (unexpectedFault other)

/-- Fill a field with its value in a tree. -/
def fieldOfTree
    (field : Field Record)
    (draft : Draft Record)
    (tree : Tree) :
    Except ReadFault (Draft Record) :=
  (field.ofTree tree).map (draft.fill field ·)

/-- Take one entry of an object into a draft; a field must not be given twice. -/
def entryOfTree
    (fields : List (Field Record))
    (draft : Draft Record)
    (entry : String × Tree) :
    Except ReadFault (Draft Record) :=
  match fields.find? (fun field => field.answersTo entry.1) with
  | none => .ok draft
  | some field =>
      if draft.given.contains field.name then
        .error .mismatched
      else
        fieldOfTree field draft entry.2

/-- Take field values in order into a draft. -/
def positionsOfTree
    (draft : Draft Record) :
    List (Field Record) →
    List Tree →
    Except ReadFault (Draft Record)
  | _, [] => .ok draft
  | [], _ :: _ => .error .mismatched
  | field :: fields, item :: items =>
      match fieldOfTree field draft item with
      | .error fault => .error fault
      | .ok filled => positionsOfTree filled fields items

/-- Take a record in either form into a draft. -/
def draftOfTree
    (fields : List (Field Record))
    (blank : Record)
    (tree : Tree) :
    Except ReadFault (Draft Record) :=
  let draft : Draft Record := { record := blank, given := [] }
  match tree with
  | .object entries => entries.foldlM (entryOfTree fields) draft
  | .list items => positionsOfTree draft fields items
  | _ => .error .mismatched

/-- Records with the given fields, which have their values in `blank` when left out. -/
def record
    (fields : List (Field Record))
    (blank : Record) :
    Codec Record where
  read := fun text =>
    match readDraft fields blank text with
    | .error fault => .error fault
    | .ok (draft, rest) => (draft.finish fields).map (·, rest)
  ofTree := fun tree => (draftOfTree fields blank tree).bind (Draft.finish · fields)
  write := fun value =>
    writeObject (fields.map (fun field => (field.name, field.write value)))

end Codec

end InferenceBatching.Json
