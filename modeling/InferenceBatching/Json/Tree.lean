import InferenceBatching.Directory
import InferenceBatching.Json.Items
import InferenceBatching.Json.Number

namespace InferenceBatching.Json

/-!
# JSON values

A tree holds the value of a whole JSON text. It is read where the kind of the
value is not known beforehand. An object is kept by its keys, so the order in
which they stood in the text is lost, and of equal keys the last one counts.
-/

/-- A value of any kind; the entries of an object are in ascending order of their keys. -/
inductive Tree where
  | null
  | boolean (value : Bool)
  | number (value : Number)
  | text (value : String)
  | list (items : List Tree)
  | object (entries : List (String × Tree))
  deriving Repr

/-- Read one entry of an object from behind the opening quote of its key. -/
def readMember
    (item : List Char → Reading Tree)
    (entries : Directory String Tree)
    (text : List Char) :
    Reading (Directory String Tree) :=
  match readText text with
  | .error fault => .error fault
  | .ok (key, rest) =>
      match (skipColon rest).bind item with
      | .error fault => .error fault
      | .ok (value, behind) => .ok (entries.insert key value, behind)

/--
Read a value. Neither can lists and objects be nested deeper nor can one have
more items than there are characters, so the length of the text and one more is
fuel enough for both.
-/
def readTree :
    Nat →
    List Char →
    Reading Tree
  | 0, _ => .error .truncated
  | fuel + 1, text =>
      match skipBlanks text with
      | [] => .error .truncated
      | 'n' :: rest => (skipWord ['u', 'l', 'l'] rest).map (.null, ·)
      | 't' :: rest => (skipWord ['r', 'u', 'e'] rest).map (.boolean true, ·)
      | 'f' :: rest => (skipWord ['a', 'l', 's', 'e'] rest).map (.boolean false, ·)
      | '"' :: rest => (readText rest).map (fun (value, behind) => (.text value, behind))
      | '[' :: rest =>
          (readElements (readTree fuel) fuel [] rest).map
            (fun (items, behind) => (.list items, behind))
      | '{' :: rest =>
          (readEntries (readMember (readTree fuel)) fuel true .empty rest).map
            (fun (directory, behind) => (.object directory.entries, behind))
      | char :: rest =>
          if startsNumber char then
            (readNumber (char :: rest)).map (fun (value, behind) => (.number value, behind))
          else
            .error .malformed

namespace Tree

/-- The value of a whole text. -/
def ofText
    (text : String) :
    Except ReadFault Tree :=
  whole (readTree (text.length + 1) text.toList)

/-- The value under a key of an object. -/
def find?
    (tree : Tree)
    (key : String) :
    Option Tree :=
  match tree with
  | .object entries => Directory.lookUp key entries
  | _ => none

end Tree

end InferenceBatching.Json
