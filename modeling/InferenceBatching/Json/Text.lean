import InferenceBatching.Json.Scan

namespace InferenceBatching.Json

/-!
# JSON strings

Readers start behind the opening quote and go past the closing one. An escaped
UTF-16 unit needs four more bytes of text; a leading surrogate has to be followed
at once by an escaped trailing one. `skipText` goes past a string nobody wants,
and does not ask whether surrogates are paired.
-/

/-- The value of a hexadecimal digit. -/
def hexDigit?
    (char : Char) :
    Option Nat :=
  if '0' ≤ char && char ≤ '9' then
    some (char.toNat - '0'.toNat)
  else if 'a' ≤ char && char ≤ 'f' then
    some (char.toNat - 'a'.toNat + 10)
  else if 'A' ≤ char && char ≤ 'F' then
    some (char.toNat - 'A'.toNat + 10)
  else
    none

/-- The UTF-16 unit written with four hexadecimal digits. -/
def unit?
    (first second third fourth : Char) :
    Option Nat := do
  let high ← hexDigit? first
  let upper ← hexDigit? second
  let lower ← hexDigit? third
  let low ← hexDigit? fourth
  return ((high * 16 + upper) * 16 + lower) * 16 + low

/-- Whether a unit is the first half of a surrogate pair. -/
def isLeading
    (unit : Nat) :
    Bool :=
  0xD800 ≤ unit && unit ≤ 0xDBFF

/-- Whether a unit is the second half of a surrogate pair. -/
def isTrailing
    (unit : Nat) :
    Bool :=
  0xDC00 ≤ unit && unit ≤ 0xDFFF

/-- The character that a surrogate pair stands for. -/
def pairedChar
    (leading trailing : Nat) :
    Char :=
  Char.ofNat (0x10000 + (leading - 0xD800) * 0x400 + (trailing - 0xDC00))

/-- The character that a one-letter escape stands for. -/
def escapedChar?
    (mark : Char) :
    Option Char :=
  match mark with
  | '"' => some '"'
  | '\\' => some '\\'
  | '/' => some '/'
  | 'b' => some '\x08'
  | 'f' => some '\x0c'
  | 'n' => some '\n'
  | 'r' => some '\r'
  | 't' => some '\t'
  | _ => none

/-- Whether a character must not stand in a string by itself. -/
def isControl
    (char : Char) :
    Bool :=
  char.toNat < 0x20

/-- What is wrong with a text that is not four hexadecimal digits: too short comes first. -/
def unitFault
    (text : List Char) :
    ReadFault :=
  if ((text.take 4).map Char.utf8Size).sum < 4 then
    .truncated
  else
    .malformed

/-- What is wrong with a text that is not an escaped unit, where one has to follow. -/
def pairFault :
    List Char →
    ReadFault
  | [] => .truncated
  | ['\\'] => .truncated
  | '\\' :: 'u' :: rest => unitFault rest
  | _ => .malformed

/-- Read the rest of a string whose characters so far are given in reverse. -/
def readChars
    (reversed : List Char) :
    List Char →
    Reading String
  | [] => .error .truncated
  | char :: rest =>
      if char = '"' then
        .ok (String.ofList reversed.reverse, rest)
      else if char = '\\' then
        match rest with
        | [] => .error .truncated
        | 'u' :: first :: second :: third :: fourth :: behind =>
            match unit? first second third fourth with
            | none => .error .malformed
            | some unit =>
                if isTrailing unit then
                  .error .malformed
                else if isLeading unit then
                  match behind with
                  | '\\' :: 'u' :: first :: second :: third :: fourth :: behind =>
                      match unit? first second third fourth with
                      | none => .error .malformed
                      | some trailing =>
                          if isTrailing trailing then
                            readChars (pairedChar unit trailing :: reversed) behind
                          else
                            .error .malformed
                  | behind => .error (pairFault behind)
                else
                  readChars (Char.ofNat unit :: reversed) behind
        | 'u' :: short => .error (unitFault short)
        | mark :: behind =>
            match escapedChar? mark with
            | none => .error .malformed
            | some escaped => readChars (escaped :: reversed) behind
      else if isControl char then
        .error .malformed
      else
        readChars (char :: reversed) rest

/-- Read a string from behind its opening quote. -/
def readText
    (text : List Char) :
    Reading String :=
  readChars [] text

/-- Go past a string from behind its opening quote. -/
def skipText :
    List Char →
    Except ReadFault (List Char)
  | [] => .error .truncated
  | char :: rest =>
      if char = '"' then
        .ok rest
      else if char = '\\' then
        match rest with
        | [] => .error .truncated
        | 'u' :: first :: second :: third :: fourth :: behind =>
            if (unit? first second third fourth).isSome then
              skipText behind
            else
              .error .malformed
        | 'u' :: short => .error (unitFault short)
        | mark :: behind =>
            if (escapedChar? mark).isSome then
              skipText behind
            else
              .error .malformed
      else if isControl char then
        .error .malformed
      else
        skipText rest

/-- A hexadecimal digit in lower case. -/
def hexChar
    (digit : Nat) :
    Char :=
  Nat.digitChar digit

/-- How a character is written within a string. -/
def writeChar
    (char : Char) :
    List Char :=
  if char = '"' then
    ['\\', '"']
  else if char = '\\' then
    ['\\', '\\']
  else if char = '\x08' then
    ['\\', 'b']
  else if char = '\x0c' then
    ['\\', 'f']
  else if char = '\n' then
    ['\\', 'n']
  else if char = '\r' then
    ['\\', 'r']
  else if char = '\t' then
    ['\\', 't']
  else if isControl char then
    ['\\', 'u', '0', '0', hexChar (char.toNat / 16), hexChar (char.toNat % 16)]
  else
    [char]

/-- A string between quotes. -/
def writeText
    (text : String) :
    List Char :=
  '"' :: (text.toList.flatMap writeChar ++ ['"'])

end InferenceBatching.Json
