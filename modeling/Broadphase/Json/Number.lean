import Broadphase.Json.Scan

/-! # Numbers in JSON texts

The digits of a number are gathered in a 64-bit significand for as long as they fit.  Of the digits
that do not fit, those before the decimal point raise the exponent and those behind it are dropped.
The significand is then scaled by one multiplication or division by a power of ten, so the last
bit of the result need not be the nearest one. -/

namespace Broadphase

/-- A number as it was written: an integer of up to 64 bits, or anything else. -/
inductive JsonNumber where
  | int (n : Int)
  | real (x : Float)

namespace JsonNumber

/-- The largest significand. -/
def maxSignificand : Nat := UInt64.size - 1

/-- The largest exponent that is read as a number. -/
def maxExponent : Nat := Nat.pow 2 31 - 1

/-- The largest power of ten that is a finite number. -/
def maxPower : Nat := 308

/-- A power of ten. -/
def power (k : Nat) : Float := Float.ofScientific 1 false k

/-- The value `f * 10 ^ e`.  A very small exponent is worked off in steps of `maxPower`. -/
def scale (f : Float) (e : Int) : Except JsonError Float :=
  if e.natAbs ≤ maxPower then
    if 0 ≤ e then
      let x := f * power e.natAbs
      if x.isInf then .error (.malformed .numberRange) else .ok x
    else .ok (f / power e.natAbs)
  else if f == 0 then .ok f
  else if 0 ≤ e then .error (.malformed .numberRange)
  else scale (f / power maxPower) (e + maxPower)
termination_by (-e).toNat
decreasing_by
  simp only [maxPower] at *
  omega

/-- Gives a number its sign. -/
def signed (negative : Bool) (x : Float) : Float := if negative then -x else x

/-- The value of a significand with sign and exponent. -/
def ofParts (negative : Bool) (significand : Nat) (e : Int) : Except JsonError JsonNumber := do
  let x ← scale (Float.ofNat significand) e
  return .real (signed negative x)

/-- Takes the digits before the point into the significand and counts those that do not fit. -/
def wholeDigits (significand : Nat) : Bytes → Nat × Nat × Bytes
  | [] => (significand, 0, [])
  | b :: bs =>
    if Byte.isDigit b then
      if significand * 10 + Byte.digit b ≤ maxSignificand then
        wholeDigits (significand * 10 + Byte.digit b) bs
      else (significand, 1 + (bs.takeWhile Byte.isDigit).length, bs.dropWhile Byte.isDigit)
    else (significand, 0, b :: bs)

/-- Takes the digits behind the point into the significand, counts them, and drops those that do not
fit. -/
def fractionDigits (significand places : Nat) : Bytes → Nat × Nat × Bytes
  | [] => (significand, places, [])
  | b :: bs =>
    if Byte.isDigit b then
      if significand * 10 + Byte.digit b ≤ maxSignificand then
        fractionDigits (significand * 10 + Byte.digit b) (places + 1) bs
      else (significand, places, bs.dropWhile Byte.isDigit)
    else (significand, places, b :: bs)

/-- The exponent that the digits name, unless it is too large. -/
def exponentDigits (e : Nat) : Bytes → Option Nat × Bytes
  | [] => (some e, [])
  | b :: bs =>
    if Byte.isDigit b then
      if e * 10 + Byte.digit b ≤ maxExponent then exponentDigits (e * 10 + Byte.digit b) bs
      else (none, bs.dropWhile Byte.isDigit)
    else (some e, b :: bs)

/-- The sign of an exponent. -/
def exponentSign : Bytes → Bool × Bytes
  | [] => (false, [])
  | b :: bs =>
    if b = Byte.minus then (true, bs) else if b = Byte.plus then (false, bs) else (false, b :: bs)

/-- Reads the exponent behind its mark and finishes the number. -/
def readExponent (negative : Bool) (significand : Nat) (e : Int) : Reader JsonNumber := fun input =>
  let (down, input) := exponentSign input
  match input with
  | [] => .error (.ended .value)
  | b :: bs =>
    if Byte.isDigit b then
      match exponentDigits (Byte.digit b) bs with
      | (some k, rest) => do
        return (← ofParts negative significand (if down then e - k else e + k), rest)
      | (none, rest) =>
        if significand ≠ 0 ∧ ¬ down then .error (.malformed .numberRange)
        else .ok (.real (signed negative 0), rest)
    else .error (.malformed .number)

/-- Reads what follows the digits behind the point. -/
def afterFraction (negative : Bool) (significand : Nat) (e : Int) : Reader JsonNumber
  | [] => do return (← ofParts negative significand e, [])
  | b :: bs =>
    if Byte.isExponentMark b then readExponent negative significand e bs
    else do return (← ofParts negative significand e, b :: bs)

/-- Reads the digits behind the point, of which there must be one. -/
def readFraction (negative : Bool) (significand : Nat) (e : Int) : Reader JsonNumber
  | [] => .error (.ended .value)
  | b :: bs =>
    if Byte.isDigit b then
      let (significand, places, rest) := fractionDigits significand 0 (b :: bs)
      afterFraction negative significand (e - places) rest
    else .error (.malformed .number)

/-- A number without point and exponent.  The negative zero and numbers below the signed 64-bit range
are no integers. -/
def ofWhole (negative : Bool) (significand : Nat) : JsonNumber :=
  if negative then
    if significand = 0 ∨ Nat.pow 2 63 < significand then .real (-(Float.ofNat significand))
    else .int (-significand)
  else .int significand

/-- Reads what follows the digits before the point; `dropped` of those did not fit. -/
def afterWhole (negative : Bool) (significand dropped : Nat) : Reader JsonNumber := fun input =>
  let whole := if dropped = 0 then .ok (ofWhole negative significand)
    else ofParts negative significand dropped
  match input with
  | [] => do return (← whole, [])
  | b :: bs =>
    if b = Byte.dot then readFraction negative significand dropped bs
    else if Byte.isExponentMark b then readExponent negative significand dropped bs
    else do return (← whole, b :: bs)

/-- Reads a number behind its sign.  A leading zero stands alone. -/
def read (negative : Bool) : Reader JsonNumber
  | [] => .error (.ended .value)
  | b :: bs =>
    if b = Byte.zero then
      if (bs.takeWhile Byte.isDigit).isEmpty then afterWhole negative 0 0 bs
      else .error (.malformed .number)
    else if Byte.isDigit b then
      let (significand, dropped, rest) := wholeDigits (Byte.digit b) bs
      afterWhole negative significand dropped rest
    else .error (.malformed .number)

/-- The number as a value in the wrong place. -/
def found : JsonNumber → JsonFound
  | int n => .integer n
  | real x => .real x

end JsonNumber

end Broadphase
