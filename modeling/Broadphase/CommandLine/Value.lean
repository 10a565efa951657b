import Broadphase.Decimal.Reader

/-! # Values of options

Integers are read digit by digit, and the first digit that is wrong or does not fit decides about
the error. -/

namespace Broadphase.CommandLine

/-- The causes for which the value of an option is refused. -/
inductive ValueError where
  | emptyInteger
  | digit
  | tooLarge
  | tooSmall
  | outside (value low high : Int)
  | emptyNumber
  | number
  /-- An empty path counts as no value at all. -/
  | noPath
deriving DecidableEq, Repr

/-- The wording of a refused value. -/
def ValueError.message : ValueError → String
  | emptyInteger => "cannot parse integer from empty string"
  | digit => "invalid digit found in string"
  | tooLarge => "number too large to fit in target type"
  | tooSmall => "number too small to fit in target type"
  | outside value low high => s!"{value} is not in {low}..={high}"
  | emptyNumber => "cannot parse float from empty string"
  | number => "invalid float literal"
  | noPath => "no path"

namespace Value

/-- Appends digits to `n` for as long as the result is at most `limit`. -/
def appendDigits (limit : Nat) (overflow : ValueError) (n : Nat) : List Char → Except ValueError Nat
  | [] => .ok n
  | c :: cs =>
    if c.isDigit then
      let n := 10 * n + (c.toNat - '0'.toNat)
      if n ≤ limit then appendDigits limit overflow n cs else .error overflow
    else .error .digit

/-- One or more digits. -/
def digits (limit : Nat) (overflow : ValueError) (cs : List Char) : Except ValueError Nat :=
  if cs.isEmpty then .error .digit else appendDigits limit overflow 0 cs

/-- An unsigned 64-bit integer. -/
def word64 (text : String) : Except ValueError UInt64 :=
  match text.toList with
  | [] => .error .emptyInteger
  | '+' :: cs => do return (← digits (UInt64.size - 1) .tooLarge cs).toUInt64
  | cs => do return (← digits (UInt64.size - 1) .tooLarge cs).toUInt64

/-- A signed 64-bit integer. -/
def signed64 (text : String) : Except ValueError Int :=
  match text.toList with
  | [] => .error .emptyInteger
  | '-' :: cs => do return -((← digits (Nat.pow 2 63) .tooSmall cs) : Int)
  | '+' :: cs => do return ((← digits (Nat.pow 2 63 - 1) .tooLarge cs) : Int)
  | cs => do return ((← digits (Nat.pow 2 63 - 1) .tooLarge cs) : Int)

/-- An unsigned 32-bit integer: a signed 64-bit one in the range. -/
def word32 (text : String) : Except ValueError UInt32 := do
  let n ← signed64 text
  if 0 ≤ n ∧ n < UInt32.size then return n.toNat.toUInt32
  else throw (.outside n 0 (UInt32.size - 1))

/-- A number. -/
def float (text : String) : Except ValueError Float :=
  if text.isEmpty then .error .emptyNumber
  else
    match Numeral.readFloat? text with
    | some x => .ok x
    | none => .error .number

/-- A path. -/
def path (text : String) : Except ValueError String :=
  if text.isEmpty then .error .noPath else .ok text

end Value

end Broadphase.CommandLine
