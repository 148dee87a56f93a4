import InferenceBatching.Json.Skip
import InferenceBatching.Json.Tree

namespace InferenceBatching.Json

/-!
# Codecs

A codec pairs the readers of a kind of value with its writer. Codecs of lists,
optional values, named constants and maps are built from the codecs of their
parts, so reading and writing follow the same description. Writing leaves no
blanks between tokens.

A value is read from text or from a tree. Text is judged from left to right, and
its first fault counts. A tree is well formed already, so only a value of another
kind than asked for can be wrong with it, or a key that has to be a number.
-/

/-- Readers, of text that may start at blanks and of trees, with the writer of the same values. -/
structure Codec (Value : Type) where
  read : List Char → Reading Value
  ofTree : Tree → Except ReadFault Value
  write : Value → List Char

namespace Codec

variable {Value : Type}

/-- The value of a whole text. -/
def decode
    (codec : Codec Value)
    (text : String) :
    Except ReadFault Value :=
  whole (codec.read text.toList)

/-- The text of a value. -/
def encode
    (codec : Codec Value)
    (value : Value) :
    String :=
  String.ofList (codec.write value)

/-- Strings. -/
def text : Codec String where
  read := fun text =>
    match skipBlanks text with
    | '"' :: rest => readText rest
    | other => .error (unexpectedFault other)
  ofTree := fun tree =>
    match tree with
    | .text value => .ok value
    | _ => .error .mismatched
  write := writeText

/-- Switches. -/
def boolean : Codec Bool where
  read := fun text =>
    match skipBlanks text with
    | 't' :: rest => (skipWord ['r', 'u', 'e'] rest).map (true, ·)
    | 'f' :: rest => (skipWord ['a', 'l', 's', 'e'] rest).map (false, ·)
    | other => .error (unexpectedFault other)
  ofTree := fun tree =>
    match tree with
    | .boolean value => .ok value
    | _ => .error .mismatched
  write := fun value =>
    if value then ['t', 'r', 'u', 'e'] else ['f', 'a', 'l', 's', 'e']

/-- Read an integer that lies within bounds, the upper one excluded. -/
def readBounded
    (lower upper : Int)
    (text : List Char) :
    Reading Int :=
  match readNumber text with
  | .error fault => .error fault
  | .ok (number, rest) => (number.within lower upper).map (·, rest)

/-- The integer that a tree is, within bounds of which the upper one is excluded. -/
def boundedOfTree
    (lower upper : Int) :
    Tree →
    Except ReadFault Int
  | .number number => number.within lower upper
  | _ => .error .mismatched

/-- Whether a text goes on with a number. -/
def atNumber :
    List Char →
    Bool
  | [] => false
  | char :: _ => startsNumber char

/-- Natural numbers below a limit. -/
def natural
    (limit : Nat) :
    Codec Nat where
  read := fun text =>
    let start := skipBlanks text
    if atNumber start then
      (readBounded 0 limit start).map (fun (value, rest) => (value.toNat, rest))
    else
      .error (unexpectedFault start)
  ofTree := fun tree => (boundedOfTree 0 limit tree).map Int.toNat
  write := writeNatural

/-- Sizes and durations, which fit into 64 bits. -/
def size : Codec Nat :=
  natural (2 ^ 64)

/-- Levels, which fit into 32 bits. -/
def level : Codec Nat :=
  natural (2 ^ 32)

/-- Integers that fit into 64 bits with their sign. -/
def signed : Codec Int where
  read := fun text =>
    let start := skipBlanks text
    if atNumber start then
      readBounded (-(2 ^ 63)) (2 ^ 63) start
    else
      .error (unexpectedFault start)
  ofTree := boundedOfTree (-(2 ^ 63)) (2 ^ 63)
  write := writeInteger

/-- Lists of values of one kind. -/
def list
    (item : Codec Value) :
    Codec (List Value) where
  read := fun text =>
    match skipBlanks text with
    | '[' :: rest => readList item.read rest
    | other => .error (unexpectedFault other)
  ofTree := fun tree =>
    match tree with
    | .list items => items.mapM item.ofTree
    | _ => .error .mismatched
  write := fun values => writeList (values.map item.write)

/-- Values that may be missing, written as `null` then. -/
def optional
    (item : Codec Value) :
    Codec (Option Value) where
  read := fun text =>
    match skipBlanks text with
    | 'n' :: rest => (skipWord ['u', 'l', 'l'] rest).map (none, ·)
    | other => (item.read other).map (fun (value, rest) => (some value, rest))
  ofTree := fun tree =>
    match tree with
    | .null => .ok none
    | other => (item.ofTree other).map some
  write := fun value? =>
    match value? with
    | none => ['n', 'u', 'l', 'l']
    | some value => item.write value

/-- The constant with a name. -/
def constantNamed
    (constants : List (String × Value))
    (name : String) :
    Except ReadFault Value :=
  match Directory.lookUp name constants with
  | none => .error .mismatched
  | some value => .ok value

/-- Read the name of a constant from behind its opening quote. -/
def readConstant
    (constants : List (String × Value))
    (text : List Char) :
    Reading Value :=
  match readText text with
  | .error fault => .error fault
  | .ok (name, rest) => (constantNamed constants name).map (·, rest)

/-- Read `null` and the end of the object it is the only value of. -/
def readUnitEnd
    (text : List Char) :
    Except ReadFault (List Char) :=
  match skipBlanks text with
  | 'n' :: rest =>
      match skipWord ['u', 'l', 'l'] rest with
      | .error fault => .error fault
      | .ok behind =>
          match skipBlanks behind with
          | [] => .error .truncated
          | '}' :: after => .ok after
          | _ => .error .malformed
  | other => .error (unexpectedFault other)

/-- Read a constant written as the only key of an object, from behind the brace. -/
def readWrapped
    (constants : List (String × Value))
    (text : List Char) :
    Reading Value :=
  match skipBlanks text with
  | [] => .error .truncated
  | '"' :: name =>
      match readConstant constants name with
      | .error fault => .error fault
      | .ok (value, rest) => ((skipColon rest).bind readUnitEnd).map (value, ·)
  | _ => .error .malformed

/--
Named constants. A constant is written as its name, and read either so or as an
object with the name for its only key and `null` for the value.
-/
def constant
    (constants : List (String × Value))
    (name : Value → String) :
    Codec Value where
  read := fun text =>
    match skipBlanks text with
    | [] => .error .truncated
    | '"' :: rest => readConstant constants rest
    | '{' :: rest => readWrapped constants rest
    | _ => .error .malformed
  ofTree := fun tree =>
    match tree with
    | .text name => constantNamed constants name
    | .object [(name, .null)] => constantNamed constants name
    | _ => .error .mismatched
  write := fun value => writeText (name value)

/-- Read a number used as a key from behind the opening quote, up to its colon. -/
def readNumericKey
    (limit : Nat)
    (text : List Char) :
    Reading Nat :=
  if atNumber text then
    match readBounded 0 limit text with
    | .error fault => .error fault
    | .ok (value, '"' :: rest) => (skipColon rest).map (value.toNat, ·)
    | .ok _ => .error .malformed
  else
    .error .malformed

/-- Read one entry of a map with numeric keys; a repeated key replaces the earlier one. -/
def readNumericEntry
    (limit : Nat)
    (item : List Char → Reading Value)
    (directory : Directory Nat Value)
    (text : List Char) :
    Reading (Directory Nat Value) :=
  match readNumericKey limit text with
  | .error fault => .error fault
  | .ok (key, rest) =>
      match item rest with
      | .error fault => .error fault
      | .ok (value, behind) => .ok (directory.insert key value, behind)

/-- The number that a key is as a whole. -/
def numericKey
    (limit : Nat)
    (key : String) :
    Except ReadFault Nat :=
  if atNumber key.toList then
    match readBounded 0 limit key.toList with
    | .error fault => .error fault
    | .ok (value, []) => .ok value.toNat
    | .ok _ => .error .malformed
  else
    .error .malformed

/-- Put an entry of a tree into a map with numeric keys. -/
def insertNumeric
    (limit : Nat)
    (item : Tree → Except ReadFault Value)
    (directory : Directory Nat Value)
    (entry : String × Tree) :
    Except ReadFault (Directory Nat Value) := do
  let key ← numericKey limit entry.1
  let value ← item entry.2
  return directory.insert key value

/-- Maps with natural numbers below a limit for keys, written in ascending order. -/
def numericMap
    (limit : Nat)
    (item : Codec Value) :
    Codec (Directory Nat Value) where
  read := fun text =>
    match skipBlanks text with
    | '{' :: rest => readObject (readNumericEntry limit item.read) .empty rest
    | other => .error (unexpectedFault other)
  ofTree := fun tree =>
    match tree with
    | .object entries => entries.foldlM (insertNumeric limit item.ofTree) .empty
    | _ => .error .mismatched
  write := fun directory =>
    writeObject (directory.entries.map (fun entry => (toString entry.1, item.write entry.2)))

end Codec

end InferenceBatching.Json
