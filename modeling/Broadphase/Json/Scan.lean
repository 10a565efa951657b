import Broadphase.Json.Error

/-! # Reading JSON from the front of a text

A JSON text is a list of bytes that need not be valid UTF-8.  A `Reader` takes a value from the front
of a text and returns it with the rest.  This module reads blanks, words and strings. -/

namespace Broadphase

/-- A text as it is stored. -/
abbrev Bytes := List UInt8

/-- Takes a value from the front of a text and returns it with the rest. -/
abbrev Reader (α : Type) := Bytes → Except JsonError (α × Bytes)

namespace Byte

def quote : UInt8 := 0x22
def plus : UInt8 := 0x2b
def comma : UInt8 := 0x2c
def minus : UInt8 := 0x2d
def dot : UInt8 := 0x2e
def slash : UInt8 := 0x2f
def zero : UInt8 := 0x30
def nine : UInt8 := 0x39
def colon : UInt8 := 0x3a
def openBracket : UInt8 := 0x5b
def backslash : UInt8 := 0x5c
def closeBracket : UInt8 := 0x5d
def openBrace : UInt8 := 0x7b
def closeBrace : UInt8 := 0x7d

/-- The byte of an ASCII character. -/
def ofChar (c : Char) : UInt8 := c.toNat.toUInt8

/-- Blanks, tabs and ends of lines. -/
def isBlank (b : UInt8) : Bool := b = 0x20 || b = 0x0a || b = 0x09 || b = 0x0d

/-- Decimal digits. -/
def isDigit (b : UInt8) : Bool := zero ≤ b && b ≤ nine

/-- The value of a decimal digit. -/
def digit (b : UInt8) : Nat := b.toNat - zero.toNat

/-- The letter that begins a decimal exponent, in either case. -/
def isExponentMark (b : UInt8) : Bool := b = ofChar 'e' || b = ofChar 'E'

/-- The value of a hexadecimal digit in either case. -/
def hex? (b : UInt8) : Option Nat :=
  if isDigit b then some (digit b)
  else if ofChar 'a' ≤ b && b ≤ ofChar 'f' then some (b.toNat - 87)
  else if ofChar 'A' ≤ b && b ≤ ofChar 'F' then some (b.toNat - 55)
  else none

end Byte

namespace Json

/-- Leaves out the blanks at the front. -/
def skipBlank (input : Bytes) : Bytes := input.dropWhile Byte.isBlank

/-- The letters that follow the first letter of a word such as `true`. -/
def wordRest (s : String) : Bytes := s.toList.tail.map Byte.ofChar

/-- Reads the given letters. -/
def letters : Bytes → Reader Unit
  | [], rest => .ok ((), rest)
  | _ :: _, [] => .error (.ended .value)
  | c :: cs, b :: bs => if b = c then letters cs bs else .error (.malformed .expectedWord)

/-- The first byte of a value. -/
def valueStart (input : Bytes) : Except JsonError (UInt8 × Bytes) :=
  match skipBlank input with
  | [] => .error (.ended .value)
  | b :: bs => .ok (b, bs)

/-! ### Strings -/

/-- Where in a string the reader stands. -/
inductive StringState where
  | plain
  /-- After a backslash. -/
  | escaped
  /-- Within an escape by code point: the high surrogate before it, the number of digits that are
  still to come, and the value so far unless a byte was no digit. -/
  | hex (lead? : Option Nat) (left : Nat) (value? : Option Nat)
  /-- After a high surrogate. -/
  | halfPair (lead : Nat)
  /-- After a high surrogate and a backslash. -/
  | halfPairEscaped (lead : Nat)

/-- What one more byte does to a string: it ends the string, or the reader goes on. -/
inductive StringStep where
  | closed
  | more (state : StringState) (content : Bytes)

/-- The character that an escape of one letter stands for. -/
def simpleEscape? (b : UInt8) : Option UInt8 :=
  if b = Byte.quote || b = Byte.backslash || b = Byte.slash then some b
  else if b = Byte.ofChar 'b' then some 0x08
  else if b = Byte.ofChar 'f' then some 0x0c
  else if b = Byte.ofChar 'n' then some 0x0a
  else if b = Byte.ofChar 'r' then some 0x0d
  else if b = Byte.ofChar 't' then some 0x09
  else none

/-- Puts a code point in front of content that is kept in reverse. -/
def pushCodePoint (n : Nat) (content : Bytes) : Bytes :=
  (String.utf8EncodeChar (Char.ofNat n)).reverse ++ content

/-- Whether a UTF-16 unit is the first half of a pair. -/
def isHighSurrogate (n : Nat) : Bool := 0xd800 ≤ n && n ≤ 0xdbff

/-- Whether a UTF-16 unit is the second half of a pair. -/
def isLowSurrogate (n : Nat) : Bool := 0xdc00 ≤ n && n ≤ 0xdfff

/-- A complete escape by code point.  Halves of a pair must come together and in order. -/
def finishHex (lead? : Option Nat) (n : Nat) (content : Bytes) : Except JsonError StringStep :=
  match lead? with
  | none =>
    if isLowSurrogate n then .error (.malformed .loneSurrogate)
    else if isHighSurrogate n then .ok (.more (.halfPair n) content)
    else .ok (.more .plain (pushCodePoint n content))
  | some lead =>
    if isLowSurrogate n then
      .ok (.more .plain (pushCodePoint ((lead - 0xd800) * 0x400 + (n - 0xdc00) + 0x10000) content))
    else .error (.malformed .loneSurrogate)

/-- Reads one byte of a string.  The content is kept in reverse. -/
def stringStep (content : Bytes) (b : UInt8) : StringState → Except JsonError StringStep
  | .plain =>
    if b = Byte.quote then .ok .closed
    else if b = Byte.backslash then .ok (.more .escaped content)
    else if b < 0x20 then .error (.malformed .controlCharacter)
    else .ok (.more .plain (b :: content))
  | .escaped =>
    match simpleEscape? b with
    | some c => .ok (.more .plain (c :: content))
    | none =>
      if b = Byte.ofChar 'u' then .ok (.more (.hex none 4 (some 0)) content)
      else .error (.malformed .escape)
  | .hex lead? left value? =>
    let value? := do return (← value?) * 16 + (← Byte.hex? b)
    if 1 < left then .ok (.more (.hex lead? (left - 1) value?) content)
    else
      match value? with
      | some n => finishHex lead? n content
      | none => .error (.malformed .escape)
  | .halfPair lead =>
    if b = Byte.backslash then .ok (.more (.halfPairEscaped lead) content)
    else .error (.malformed .endOfHexEscape)
  | .halfPairEscaped lead =>
    if b = Byte.ofChar 'u' then .ok (.more (.hex (some lead) 4 (some 0)) content)
    else .error (.malformed .endOfHexEscape)

/-- Reads the content of a string up to its closing quote. -/
def stringContent (state : StringState) (content : Bytes) : Reader Bytes
  | [] => .error (.ended .string)
  | b :: bs =>
    match stringStep content b state with
    | .error e => .error e
    | .ok .closed => .ok (content.reverse, bs)
    | .ok (.more state content) => stringContent state content bs

/-- Reads a string behind its opening quote.  Its content must be valid UTF-8. -/
def string (input : Bytes) : Except JsonError (String × Bytes) := do
  let (content, rest) ← stringContent .plain [] input
  match String.fromUTF8? ⟨content.toArray⟩ with
  | some s => return (s, rest)
  | none => throw (.malformed .codePoint)

end Json

end Broadphase
