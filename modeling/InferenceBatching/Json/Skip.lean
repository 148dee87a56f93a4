import InferenceBatching.Json.Number
import InferenceBatching.Json.Text

namespace InferenceBatching.Json

/-!
# Values that are not wanted

The value under an unknown key only has to be well formed. `skipValue` goes past
it with a list of the lists and objects it is in, so nesting has no limit.
`unexpectedFault` is the cause to report for a value of the wrong kind: a simple
value has to be well formed first, while a list or an object is wrong at once.
-/

/-- What a skipped value stands in. -/
inductive Enclosure where
  | list
  | object
  deriving Repr, DecidableEq

/-- What comes next while values are skipped. -/
inductive SkipState where
  | value
  | key
  | more
  | opened
  deriving Repr, DecidableEq

/-- Go past a value that is neither a list nor an object. -/
def skipSimple
    (text : List Char) :
    Except ReadFault (List Char) :=
  match text with
  | [] => .error .truncated
  | 'n' :: rest => skipWord ['u', 'l', 'l'] rest
  | 't' :: rest => skipWord ['r', 'u', 'e'] rest
  | 'f' :: rest => skipWord ['a', 'l', 's', 'e'] rest
  | '"' :: rest => skipText rest
  | char :: rest =>
      if startsNumber char then
        skipNumber (char :: rest)
      else
        .error .malformed

/-- The mark that ends an enclosure. -/
def Enclosure.closing :
    Enclosure →
    Char
  | .list => ']'
  | .object => '}'

/-- Where an item of an enclosure starts. -/
def Enclosure.item :
    Enclosure →
    SkipState
  | .list => .value
  | .object => .key

/--
Go on skipping. Every round goes past at least one character or turns from
`opened` to an item, so twice the length of the text is fuel enough.
-/
def skipFrom :
    Nat →
    SkipState →
    List Enclosure →
    List Char →
    Except ReadFault (List Char)
  | 0, _, _, _ => .error .truncated
  | fuel + 1, state, enclosures, text =>
      match state, enclosures with
      | .value, _ =>
          match skipBlanks text with
          | '[' :: rest => skipFrom fuel .opened (.list :: enclosures) rest
          | '{' :: rest => skipFrom fuel .opened (.object :: enclosures) rest
          | simple =>
              match skipSimple simple with
              | .error fault => .error fault
              | .ok rest => skipFrom fuel .more enclosures rest
      | .key, _ =>
          match skipBlanks text with
          | [] => .error .truncated
          | '"' :: rest =>
              match (skipText rest).bind skipColon with
              | .error fault => .error fault
              | .ok behind => skipFrom fuel .value enclosures behind
          | _ => .error .malformed
      | .more, [] => .ok text
      | .more, enclosure :: outer =>
          match skipBlanks text with
          | [] => .error .truncated
          | char :: rest =>
              if char = ',' then
                skipFrom fuel enclosure.item (enclosure :: outer) rest
              else if char = enclosure.closing then
                skipFrom fuel .more outer rest
              else
                .error .malformed
      | .opened, [] => .ok text
      | .opened, enclosure :: outer =>
          match skipBlanks text with
          | [] => .error .truncated
          | char :: rest =>
              if char = enclosure.closing then
                skipFrom fuel .more outer rest
              else
                skipFrom fuel enclosure.item (enclosure :: outer) (char :: rest)

/-- Go past one value of any kind. -/
def skipValue
    (text : List Char) :
    Except ReadFault (List Char) :=
  skipFrom (2 * text.length + 2) .value [] text

/-- The fault of a simple value where one of another kind is wanted. -/
def unexpectedSimple
    {Value : Type}
    (read : Except ReadFault Value) :
    ReadFault :=
  match read with
  | .error fault => fault
  | .ok _ => .mismatched

/-- The fault of a value, given from its first character on, of an unwanted kind. -/
def unexpectedFault
    (text : List Char) :
    ReadFault :=
  match text with
  | [] => .truncated
  | '[' :: _ => .mismatched
  | '{' :: _ => .mismatched
  | 'n' :: rest => unexpectedSimple (skipWord ['u', 'l', 'l'] rest)
  | 't' :: rest => unexpectedSimple (skipWord ['r', 'u', 'e'] rest)
  | 'f' :: rest => unexpectedSimple (skipWord ['a', 'l', 's', 'e'] rest)
  | '"' :: rest => unexpectedSimple (readText rest)
  | char :: rest =>
      if startsNumber char then
        unexpectedSimple (readNumber (char :: rest))
      else
        .malformed

end InferenceBatching.Json
