import Broadphase.Decimal.Shortest

/-! # Reading numbers

A number is written as an optional sign, digits with an optional point among them or at their ends,
and an optional exponent.  The words for infinity and for no number are known in any case of their
letters.  The number that is read is the one nearest to what is written. -/

namespace Broadphase

namespace Decimal

/-- The value of a row of digits. -/
def ofDigits (cs : List Char) : Nat := cs.foldl (fun n c => 10 * n + (c.toNat - '0'.toNat)) 0

/-- A row of one or more digits. -/
def readDigits? (cs : List Char) : Option Nat :=
  if cs.isEmpty || !cs.all Char.isDigit then none else some (ofDigits cs)

/-- What follows the digits: nothing or an exponent. -/
def readExponent? : List Char → Option Int
  | [] => some 0
  | c :: cs =>
    if c = 'e' || c = 'E' then
      match cs with
      | '-' :: ds => (readDigits? ds).map fun n => -(n : Int)
      | '+' :: ds => (readDigits? ds).map fun n => (n : Int)
      | ds => (readDigits? ds).map fun n => (n : Int)
    else none

/-- The digits behind a point, and what follows them. -/
def splitFraction : List Char → List Char × List Char
  | '.' :: cs => (cs.takeWhile Char.isDigit, cs.dropWhile Char.isDigit)
  | cs => ([], cs)

/-- A decimal without sign. -/
def read? (cs : List Char) : Option Decimal :=
  let whole := cs.takeWhile Char.isDigit
  let (fraction, rest) := splitFraction (cs.dropWhile Char.isDigit)
  if whole.isEmpty && fraction.isEmpty then none
  else
    (readExponent? rest).map fun e =>
      { significand := ofDigits (whole ++ fraction), exponent := e - fraction.length }

/-- The number nearest to a decimal.  Decimals far beyond the range of numbers are not computed. -/
def toFloat (d : Decimal) : Float :=
  if d.significand = 0 then 0
  else if 310 < d.point then 1 / 0
  else if d.point < -330 then 0
  else Float.ofScientific d.significand (d.exponent < 0) d.exponent.natAbs

end Decimal

namespace Numeral

/-- A word for a special value, or a decimal, behind the sign. -/
def readMagnitude? (cs : List Char) : Option Float :=
  let word := String.ofList (cs.map Char.toLower)
  if word = "inf" || word = "infinity" then some (1 / 0)
  else if word = "nan" then some (0 / 0)
  else (Decimal.read? cs).map Decimal.toFloat

/-- The number that a text stands for. -/
def readFloat? (text : String) : Option Float :=
  match text.toList with
  | '-' :: cs => (readMagnitude? cs).map fun x => -x
  | '+' :: cs => readMagnitude? cs
  | cs => readMagnitude? cs

end Numeral

end Broadphase
