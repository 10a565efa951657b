import Broadphase.Decimal.Shortest

/-! # Written forms of numbers

A `Layout` says how a numeral is written: up to which size in positional notation, whether a
whole number keeps a fraction, and how an exponent and the special values are spelled.  Two
layouts are in use: `Layout.message` for numbers inside messages and `Layout.document` for
numbers inside documents.

`fixed` writes a number with a fixed number of decimal places; a half goes to the even
neighbour. -/

namespace Broadphase

/-- The decisions that turn a numeral into text. -/
structure Layout where
  /-- Which of two equally near shortest numerals is written. -/
  tie : Tie
  /-- Whether a numeral whose decimal point stands here is written positionally. -/
  positional : Int → Bool
  /-- What follows the digits of a whole number. -/
  wholeMark : String
  /-- The sign of an exponent that is not negative. -/
  exponentPlus : String
  notANumber : String
  infinity : String
  negativeInfinity : String

namespace Layout

/-- Numbers in messages are always positional, a whole number is written without a fraction, and a
tie goes up. -/
def message : Layout where
  tie := .up
  positional := fun _ => true
  wholeMark := ""
  exponentPlus := ""
  notANumber := "NaN"
  infinity := "inf"
  negativeInfinity := "-inf"

/-- Numbers in documents are positional from `1e-5` up to `1e16`, a whole number keeps one decimal
place, an exponent always has its sign, and a tie goes to the even digit.  A document has no word
for the special values except the null word. -/
def document : Layout where
  tie := .even
  positional := fun p => -4 ≤ p && p ≤ 16
  wholeMark := ".0"
  exponentPlus := "+"
  notANumber := "null"
  infinity := "null"
  negativeInfinity := "null"

/-- A run of zeros. -/
def zeros (n : Nat) : String := String.ofList (List.replicate n '0')

/-- The decimal in positional notation. -/
def writePositional (l : Layout) (d : Decimal) : String :=
  let ds := d.digits
  if d.significand = 0 then "0" ++ l.wholeMark
  else if 0 ≤ d.exponent then String.ofList ds ++ zeros d.exponent.toNat ++ l.wholeMark
  else if d.point ≤ 0 then "0." ++ zeros (-d.point).toNat ++ String.ofList ds
  else String.ofList (ds.take d.point.toNat) ++ "." ++ String.ofList (ds.drop d.point.toNat)

/-- The decimal with one digit before the point and an exponent. -/
def writeExponent (l : Layout) (d : Decimal) : String :=
  let ds := d.digits
  let mantissa := match ds with
    | [] => "0"
    | [c] => c.toString
    | c :: r => c.toString ++ "." ++ String.ofList r
  let e := d.point - 1
  mantissa ++ "e" ++ (if e < 0 then "-" else l.exponentPlus) ++ toString e.natAbs

/-- The text of a numeral. -/
def write (l : Layout) : Numeral → String
  | .notANumber => l.notANumber
  | .infinite negative => if negative then l.negativeInfinity else l.infinity
  | .finite negative d =>
    (if negative then "-" else "") ++
      (if d.significand = 0 || l.positional d.point then l.writePositional d
       else l.writeExponent d)

/-- The text of a number: the fewest digits that read back as the number. -/
def text (l : Layout) (x : Float) : String := l.write (Numeral.ofFloat l.tie x)

end Layout

namespace Decimal

/-- The quotient rounded to the nearest natural; a half goes to the even neighbour. -/
def roundDiv (num den : Nat) : Nat :=
  let q := num / den
  let r := num % den
  if 2 * r < den then q else if den < 2 * r then q + 1 else q + q % 2

/-- `n` thousandths and the like: the last `places` digits stand behind the point. -/
def writePlaces (places n : Nat) : String :=
  let ds := Nat.toDigits 10 n
  let ds := List.replicate (places + 1 - ds.length) '0' ++ ds
  String.ofList (ds.take (ds.length - places)) ++ "." ++ String.ofList (ds.drop (ds.length - places))

/-- The number with exactly `places` decimal places, for `places > 0`. -/
def fixed (places : Nat) (x : Float) : String :=
  let sign := fun (s : Float.Model.UnpackedFloat.Sign) => if Numeral.isNegative s then "-" else ""
  match x.toModel.unpack with
  | .notANumber => "NaN"
  | .infinity s => sign s ++ "inf"
  | .zero s => sign s ++ writePlaces places 0
  | .finite s m e _ =>
    sign s ++ writePlaces places
      (roundDiv (m * Nat.pow 2 e.toNat * Nat.pow 10 places) (Nat.pow 2 (-e).toNat))

end Decimal

end Broadphase
