import InferenceBatching.Text.Hidden

namespace InferenceBatching.Text

/-!
# Quoted text

Text that is shown in the description of a value stands between double quotes.
Quotes and backslashes are escaped by a backslash, the common controls by a
letter, and any other character that does not show by its code point.
-/

/-- A code point in hexadecimal between braces. -/
def escapedCode
    (char : Char) :
    List Char :=
  ['\\', 'u', '\x7b'] ++ Nat.toDigits 16 char.toNat ++ ['\x7d']

/-- How a character is shown within quotes. -/
def quotedChar
    (char : Char) :
    List Char :=
  match char with
  | '\x00' => ['\\', '0']
  | '\t' => ['\\', 't']
  | '\r' => ['\\', 'r']
  | '\n' => ['\\', 'n']
  | '"' => ['\\', '"']
  | '\\' => ['\\', '\\']
  | other => if isHidden other then escapedCode other else [other]

/-- Text between quotes. -/
def quoted
    (text : String) :
    String :=
  String.ofList ('"' :: (text.toList.flatMap quotedChar ++ ['"']))

end InferenceBatching.Text
