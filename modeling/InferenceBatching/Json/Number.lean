import InferenceBatching.Json.Scan
import InferenceBatching.Number.Rounding

namespace InferenceBatching.Json

/-!
# JSON numbers

A number is an integer when it is written without a point and without an
exponent and fits into 64 bits, unsigned or signed. Every other number is real;
minus zero is real as well. Only integers are ever used, so a real number is read
without its value, but one that double precision cannot hold is refused.

The significand of a real number is collected in 64 bits. Whole digits that no
longer fit raise the exponent instead; from the first digit behind the point
that does not fit on, the rest of the fraction is dropped.
-/

/-- A number as far as its value is needed. -/
inductive Number where
  | integer (value : Int)
  | real
  deriving Repr, DecidableEq

/-- The value of an integer that lies within bounds, the upper one excluded. -/
def Number.within
    (lower upper : Int) :
    Number →
    Except ReadFault Int
  | .real => .error .mismatched
  | .integer value =>
      if lower ≤ value && value < upper then
        .ok value
      else
        .error .mismatched

/-- The bound that a significand stays under. -/
def significandLimit : Nat :=
  2 ^ 64

/-- The value of a decimal digit. -/
def digitValue
    (char : Char) :
    Nat :=
  char.toNat - '0'.toNat

/-- A significand and the power of ten it counts. -/
structure Significand where
  value : Nat
  exponent : Int
  deriving Repr, DecidableEq

namespace Significand

/-- Append a whole digit. Once a digit does not fit, none of the later ones is kept. -/
def appendWhole
    (significand : Significand)
    (digit : Char) :
    Significand :=
  let extended := significand.value * 10 + digitValue digit
  if 0 < significand.exponent || significandLimit ≤ extended then
    { significand with exponent := significand.exponent + 1 }
  else
    { significand with value := extended }

/-- The significand of whole digits. -/
def ofWhole
    (digits : List Char) :
    Significand :=
  digits.foldl appendWhole { value := 0, exponent := 0 }

/-- Append the digits behind the point, up to the first that does not fit. -/
def appendFraction
    (significand : Significand) :
    List Char →
    Significand
  | [] => significand
  | digit :: digits =>
      let extended := significand.value * 10 + digitValue digit
      if significandLimit ≤ extended then
        significand
      else
        appendFraction { value := extended, exponent := significand.exponent - 1 } digits

/-- The largest power of ten that double precision holds. -/
def maxTenPower : Nat :=
  308

/-- Whether the number is too large for double precision. -/
def overflows
    (significand : Significand) :
    Bool :=
  significand.value ≠ 0 && 0 ≤ significand.exponent &&
    ((maxTenPower : Int) < significand.exponent ||
      Number.doubleLimit ≤
        Number.roundBits Number.doublePrecision
          (Number.roundBits Number.doublePrecision significand.value *
            Number.roundBits Number.doublePrecision (10 ^ significand.exponent.toNat)))

end Significand

/-- The number read when a real one ends. -/
def readReal
    (significand : Significand)
    (rest : List Char) :
    Reading Number :=
  if significand.overflows then
    .error .malformed
  else
    .ok (.real, rest)

/-- The number read when one without point and exponent ends. -/
def readWhole
    (negative : Bool)
    (significand : Significand)
    (rest : List Char) :
    Reading Number :=
  if 0 < significand.exponent then
    readReal significand rest
  else if !negative then
    .ok (.integer significand.value, rest)
  else if 0 < significand.value && significand.value ≤ 2 ^ 63 then
    .ok (.integer (-(significand.value : Int)), rest)
  else
    readReal significand rest

/-- The value of decimal digits. -/
def decimalValue
    (digits : List Char) :
    Nat :=
  digits.foldl (fun value digit => value * 10 + digitValue digit) 0

/-- Read a number from behind its exponent mark. -/
def readExponent
    (significand : Significand)
    (text : List Char) :
    Reading Number :=
  let (negative, unsigned) :=
    match text with
    | '-' :: rest => (true, rest)
    | '+' :: rest => (false, rest)
    | _ => (false, text)
  let digits := unsigned.takeWhile Char.isDigit
  let rest := unsigned.dropWhile Char.isDigit
  if digits.isEmpty then
    if rest.isEmpty then .error .truncated else .error .malformed
  else
    let power : Int := decimalValue digits
    let shift := if negative then -power else power
    readReal { significand with exponent := significand.exponent + shift } rest

/-- Read a number from behind its point. -/
def readFraction
    (significand : Significand)
    (text : List Char) :
    Reading Number :=
  let digits := text.takeWhile Char.isDigit
  let rest := text.dropWhile Char.isDigit
  if digits.isEmpty then
    if rest.isEmpty then .error .truncated else .error .malformed
  else
    let extended := significand.appendFraction digits
    match rest with
    | 'e' :: behind => readExponent extended behind
    | 'E' :: behind => readExponent extended behind
    | _ => readReal extended rest

/-- Whether the whole digits of a number start with a zero that others follow. -/
def hasLeadingZero :
    List Char →
    Bool
  | '0' :: _ :: _ => true
  | _ => false

/-- Read a number from behind its sign. -/
def readUnsigned
    (negative : Bool)
    (text : List Char) :
    Reading Number :=
  let digits := text.takeWhile Char.isDigit
  let rest := text.dropWhile Char.isDigit
  if digits.isEmpty then
    if rest.isEmpty then .error .truncated else .error .malformed
  else if hasLeadingZero digits then
    .error .malformed
  else
    let significand := Significand.ofWhole digits
    match rest with
    | '.' :: behind => readFraction significand behind
    | 'e' :: behind => readExponent significand behind
    | 'E' :: behind => readExponent significand behind
    | _ => readWhole negative significand rest

/-- Read a number. -/
def readNumber :
    List Char →
    Reading Number
  | '-' :: rest => readUnsigned true rest
  | text => readUnsigned false text

/-- Whether a number starts with this character. -/
def startsNumber
    (char : Char) :
    Bool :=
  char = '-' || char.isDigit

/-- Go past at least one digit. -/
def skipDigits
    (text : List Char) :
    Except ReadFault (List Char) :=
  match text with
  | [] => .error .malformed
  | char :: rest =>
      if char.isDigit then
        .ok (rest.dropWhile Char.isDigit)
      else
        .error .malformed

/-- Go past an exponent, if there is one. -/
def skipExponent
    (text : List Char) :
    Except ReadFault (List Char) :=
  match text with
  | [] => .ok []
  | char :: rest =>
      if char = 'e' || char = 'E' then
        match rest with
        | '+' :: behind => skipDigits behind
        | '-' :: behind => skipDigits behind
        | _ => skipDigits rest
      else
        .ok text

/-- Go past a number nobody wants. However large, it only has to be well formed. -/
def skipNumber
    (text : List Char) :
    Except ReadFault (List Char) :=
  let unsigned :=
    match text with
    | '-' :: rest => rest
    | _ => text
  if hasLeadingZero (unsigned.takeWhile Char.isDigit) then
    .error .malformed
  else
    match skipDigits unsigned with
    | .error fault => .error fault
    | .ok ('.' :: behind) => (skipDigits behind).bind skipExponent
    | .ok rest => skipExponent rest

/-- A natural number in decimal. -/
def writeNatural
    (value : Nat) :
    List Char :=
  Nat.toDigits 10 value

/-- An integer in decimal. -/
def writeInteger
    (value : Int) :
    List Char :=
  if value < 0 then
    '-' :: writeNatural value.natAbs
  else
    writeNatural value.natAbs

end InferenceBatching.Json
