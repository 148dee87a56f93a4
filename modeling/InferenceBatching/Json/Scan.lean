import InferenceBatching.Instances

namespace InferenceBatching.Json

/-!
# Scanning JSON text

Text is read from left to right as a list of characters, and every reader
returns what is left. A reader stops at the first character that rules the text
out, with one of three causes: the text is no JSON, it ends too early, or it is
JSON of another form than asked for.
-/

/-- Why a text could not be read. -/
inductive ReadFault where
  | malformed
  | truncated
  | mismatched
  deriving Repr, DecidableEq

/-- A value read from the start of a text, with the rest of the text. -/
abbrev Reading (Value : Type) := Except ReadFault (Value × List Char)

/-- Whether a character may stand between tokens. -/
def isBlank
    (char : Char) :
    Bool :=
  char = ' ' || char = '\n' || char = '\t' || char = '\r'

/-- The text from its first token on. -/
def skipBlanks
    (text : List Char) :
    List Char :=
  text.dropWhile isBlank

/-- Go past a fixed word. -/
def skipWord :
    List Char →
    List Char →
    Except ReadFault (List Char)
  | [], text => .ok text
  | _ :: _, [] => .error .truncated
  | expected :: word, char :: text =>
      if expected = char then
        skipWord word text
      else
        .error .malformed

/-- Go past the colon behind a key. -/
def skipColon
    (text : List Char) :
    Except ReadFault (List Char) :=
  match skipBlanks text with
  | [] => .error .truncated
  | ':' :: rest => .ok rest
  | _ => .error .malformed

/-- The value of a text read as a whole: only blanks may be left. -/
def whole
    {Value : Type}
    (reading : Reading Value) :
    Except ReadFault Value :=
  match reading with
  | .error fault => .error fault
  | .ok (value, rest) =>
      if (skipBlanks rest).isEmpty then
        .ok value
      else
        .error .malformed

/-- What follows within a list or an object: its end, or one more item. -/
inductive Continuation where
  | finished (rest : List Char)
  | another (text : List Char)
  deriving Repr, DecidableEq

/-- Look for the next element of a list. -/
def nextElement
    (isFirst : Bool)
    (text : List Char) :
    Except ReadFault Continuation :=
  match skipBlanks text with
  | [] => .error .truncated
  | char :: rest =>
      if char = ']' then
        .ok (.finished rest)
      else if isFirst then
        .ok (.another (char :: rest))
      else if char = ',' then
        match skipBlanks rest with
        | [] => .error .truncated
        | ']' :: _ => .error .malformed
        | more => .ok (.another more)
      else
        .error .malformed

/-- Look for the next key of an object, and go past its opening quote. -/
def nextKey
    (isFirst : Bool)
    (text : List Char) :
    Except ReadFault Continuation :=
  match skipBlanks text with
  | [] => .error .truncated
  | char :: rest =>
      if char = '}' then
        .ok (.finished rest)
      else if isFirst then
        if char = '"' then .ok (.another rest) else .error .malformed
      else if char = ',' then
        match skipBlanks rest with
        | [] => .error .truncated
        | '"' :: key => .ok (.another key)
        | _ => .error .malformed
      else
        .error .malformed

end InferenceBatching.Json
