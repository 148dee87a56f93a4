import InferenceBatching.Number.Rounding

namespace InferenceBatching.Number

/-!
# Decimal text with a fixed number of places

Averages are written with a point and a fixed number of digits behind it, the
last of which is rounded to nearest with ties to the even digit.
-/

/-- How many digits stand behind the point of an average. -/
def averagePlaces : Nat :=
  6

/-- A natural number in decimal, filled with zeros on the left to a width. -/
def padded
    (width : Nat)
    (value : Nat) :
    List Char :=
  let digits := Nat.toDigits 10 value
  List.replicate (width - digits.length) '0' ++ digits

/-- A ratio in decimal with a fixed number of places behind the point. -/
def Ratio.fixedText
    (places : Nat)
    (ratio : Ratio) :
    String :=
  let units := roundQuotient (ratio.numerator * 10 ^ places) ratio.denominator
  String.ofList
    (Nat.toDigits 10 (units / 10 ^ places) ++
      '.' :: padded places (units % 10 ^ places))

/--
The average of a total over a count, computed in double precision: the total
and the count are rounded first and their quotient after that. No count at all
averages to zero.
-/
def average
    (total : Nat)
    (count : Nat) :
    Ratio :=
  if count = 0 then
    { numerator := 0, denominator := 1 }
  else
    let exact : Ratio :=
      { numerator := roundBits doublePrecision total
        denominator := roundBits doublePrecision count }
    exact.toDouble

end InferenceBatching.Number
