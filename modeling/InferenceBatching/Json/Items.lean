import InferenceBatching.Json.Text

namespace InferenceBatching.Json

/-!
# Items of lists and objects

The elements of a list and the entries of an object are read one after the
other, with any reader for a single one, up to the closing mark. Written items
stand between commas without blanks.
-/

/-- Read the elements of a list after those given in reverse. -/
def readElements
    {Value : Type}
    (element : List Char → Reading Value) :
    Nat →
    List Value →
    List Char →
    Reading (List Value)
  | 0, _, _ => .error .truncated
  | fuel + 1, reversed, text =>
      match nextElement reversed.isEmpty text with
      | .error fault => .error fault
      | .ok (.finished rest) => .ok (reversed.reverse, rest)
      | .ok (.another start) =>
          match element start with
          | .error fault => .error fault
          | .ok (value, rest) => readElements element fuel (value :: reversed) rest

/-- Read a list from behind its bracket; every element takes some of the text. -/
def readList
    {Value : Type}
    (element : List Char → Reading Value)
    (text : List Char) :
    Reading (List Value) :=
  readElements element (text.length + 1) [] text

/-- Read the entries of an object, one by one, into a state. -/
def readEntries
    {State : Type}
    (entry : State → List Char → Reading State) :
    Nat →
    Bool →
    State →
    List Char →
    Reading State
  | 0, _, _, _ => .error .truncated
  | fuel + 1, isFirst, state, text =>
      match nextKey isFirst text with
      | .error fault => .error fault
      | .ok (.finished rest) => .ok (state, rest)
      | .ok (.another key) =>
          match entry state key with
          | .error fault => .error fault
          | .ok (changed, rest) => readEntries entry fuel false changed rest

/-- Read an object from behind its brace; every entry takes some of the text. -/
def readObject
    {State : Type}
    (entry : State → List Char → Reading State)
    (state : State)
    (text : List Char) :
    Reading State :=
  readEntries entry (text.length + 1) true state text

/-- Written items with commas between them. -/
def separated :
    List (List Char) →
    List Char
  | [] => []
  | [item] => item
  | item :: items => item ++ ',' :: separated items

/-- The written form of a list, given its written elements. -/
def writeList
    (elements : List (List Char)) :
    List Char :=
  '[' :: (separated elements ++ [']'])

/-- The written form of an object, given its written keys and values in order. -/
def writeObject
    (entries : List (String × List Char)) :
    List Char :=
  '\x7b' :: (separated (entries.map (fun entry => writeText entry.1 ++ ':' :: entry.2)) ++
    ['\x7d'])

end InferenceBatching.Json
