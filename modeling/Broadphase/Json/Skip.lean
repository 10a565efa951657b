import Broadphase.Json.Scan

/-! # Skipping a value

A value under an unknown key is passed over without being kept.  It must be JSON, but its numbers may
have any size, its strings may hold any bytes and any surrogates, and it may be nested to any
depth.  One byte is looked at after another; the open lists and objects are kept on a stack. -/

namespace Broadphase.Json

/-- An open list or object. -/
inductive Frame where
  | list
  | object
deriving DecidableEq, Repr

/-- Where in a value the reader stands. -/
inductive SkipState where
  /-- Before a value. -/
  | value
  /-- Behind an opening bracket or brace. -/
  | opened
  /-- Behind a value inside a list or an object. -/
  | after
  /-- Before a key that must come. -/
  | key
  /-- Behind a key. -/
  | colon
  /-- Within a word: the letters to come. -/
  | word (letters : Bytes)
  /-- Within a string, which may be a key. -/
  | string (isKey : Bool)
  | escaped (isKey : Bool)
  /-- Within an escape by code point: the digits to come, and whether all were digits so far. -/
  | hex (isKey : Bool) (left : Nat) (good : Bool)
  /-- Behind the sign of a number. -/
  | sign
  /-- Behind a leading zero. -/
  | leadingZero
  | whole
  /-- Behind a decimal point. -/
  | point
  | fraction
  /-- Behind the mark of an exponent. -/
  | exponentMark
  /-- Behind the sign of an exponent. -/
  | exponentSign
  | exponent
deriving DecidableEq, Repr

/-- What one byte does to a value that is skipped. -/
inductive SkipStep where
  /-- The value ended before this byte. -/
  | endedBefore
  /-- The value ended with this byte. -/
  | endedWith
  | more (state : SkipState) (stack : List Frame)

/-- A complete value ends the skipping or lies inside a list or an object. -/
def completed (stack : List Frame) : SkipStep :=
  if stack.isEmpty then .endedWith else .more .after stack

/-- The first byte of a value. -/
def beginValue (stack : List Frame) (b : UInt8) : Except JsonError SkipStep :=
  if b = Byte.ofChar 'n' then .ok (.more (.word (wordRest "null")) stack)
  else if b = Byte.ofChar 't' then .ok (.more (.word (wordRest "true")) stack)
  else if b = Byte.ofChar 'f' then .ok (.more (.word (wordRest "false")) stack)
  else if b = Byte.minus then .ok (.more .sign stack)
  else if b = Byte.zero then .ok (.more .leadingZero stack)
  else if Byte.isDigit b then .ok (.more .whole stack)
  else if b = Byte.quote then .ok (.more (.string false) stack)
  else if b = Byte.openBracket then .ok (.more .opened (.list :: stack))
  else if b = Byte.openBrace then .ok (.more .opened (.object :: stack))
  else .error (.malformed .expectedValue)

/-- A byte where a key must stand. -/
def beginKey (stack : List Frame) (b : UInt8) : Except JsonError SkipStep :=
  if b = Byte.quote then .ok (.more (.string true) stack) else .error (.malformed .keyNotString)

/-- A byte behind a value inside the topmost list or object. -/
def afterValue (stack : List Frame) (b : UInt8) : Except JsonError SkipStep :=
  match stack with
  | [] => .ok .endedBefore
  | .list :: outer =>
    if b = Byte.comma then .ok (.more .value stack)
    else if b = Byte.closeBracket then .ok (completed outer)
    else .error (.malformed .expectedCommaOrBracket)
  | .object :: outer =>
    if b = Byte.comma then .ok (.more .key stack)
    else if b = Byte.closeBrace then .ok (completed outer)
    else .error (.malformed .expectedCommaOrBrace)

/-- A byte behind a number: it ends the number and belongs to what follows. -/
def afterNumber (stack : List Frame) (b : UInt8) : Except JsonError SkipStep :=
  if stack.isEmpty then .ok .endedBefore
  else if Byte.isBlank b then .ok (.more .after stack)
  else afterValue stack b

/-- The state behind a string. -/
def afterString (stack : List Frame) (isKey : Bool) : SkipStep :=
  if isKey then .more .colon stack else completed stack

/-- Looks at one byte. -/
def skipStep (stack : List Frame) (b : UInt8) : SkipState → Except JsonError SkipStep
  | .value => if Byte.isBlank b then .ok (.more .value stack) else beginValue stack b
  | .opened =>
    if Byte.isBlank b then .ok (.more .opened stack)
    else
      match stack with
      | .list :: outer =>
        if b = Byte.closeBracket then .ok (completed outer) else beginValue stack b
      | .object :: outer =>
        if b = Byte.closeBrace then .ok (completed outer) else beginKey stack b
      | [] => beginValue stack b
  | .after => if Byte.isBlank b then .ok (.more .after stack) else afterValue stack b
  | .key => if Byte.isBlank b then .ok (.more .key stack) else beginKey stack b
  | .colon =>
    if Byte.isBlank b then .ok (.more .colon stack)
    else if b = Byte.colon then .ok (.more .value stack)
    else .error (.malformed .expectedColon)
  | .word [] => afterNumber stack b
  | .word (c :: cs) =>
    if b = c then .ok (if cs.isEmpty then completed stack else .more (.word cs) stack)
    else .error (.malformed .expectedWord)
  | .string isKey =>
    if b = Byte.quote then .ok (afterString stack isKey)
    else if b = Byte.backslash then .ok (.more (.escaped isKey) stack)
    else if b < 0x20 then .error (.malformed .controlCharacter)
    else .ok (.more (.string isKey) stack)
  | .escaped isKey =>
    if (simpleEscape? b).isSome then .ok (.more (.string isKey) stack)
    else if b = Byte.ofChar 'u' then .ok (.more (.hex isKey 4 true) stack)
    else .error (.malformed .escape)
  | .hex isKey left good =>
    let good := good && (Byte.hex? b).isSome
    if 1 < left then .ok (.more (.hex isKey (left - 1) good) stack)
    else if good then .ok (.more (.string isKey) stack)
    else .error (.malformed .escape)
  | .sign =>
    if b = Byte.zero then .ok (.more .leadingZero stack)
    else if Byte.isDigit b then .ok (.more .whole stack)
    else .error (.malformed .number)
  | .leadingZero =>
    if Byte.isDigit b then .error (.malformed .number)
    else if b = Byte.dot then .ok (.more .point stack)
    else if Byte.isExponentMark b then .ok (.more .exponentMark stack)
    else afterNumber stack b
  | .whole =>
    if Byte.isDigit b then .ok (.more .whole stack)
    else if b = Byte.dot then .ok (.more .point stack)
    else if Byte.isExponentMark b then .ok (.more .exponentMark stack)
    else afterNumber stack b
  | .point =>
    if Byte.isDigit b then .ok (.more .fraction stack) else .error (.malformed .number)
  | .fraction =>
    if Byte.isDigit b then .ok (.more .fraction stack)
    else if Byte.isExponentMark b then .ok (.more .exponentMark stack)
    else afterNumber stack b
  | .exponentMark =>
    if b = Byte.plus || b = Byte.minus then .ok (.more .exponentSign stack)
    else if Byte.isDigit b then .ok (.more .exponent stack)
    else .error (.malformed .number)
  | .exponentSign =>
    if Byte.isDigit b then .ok (.more .exponent stack) else .error (.malformed .number)
  | .exponent =>
    if Byte.isDigit b then .ok (.more .exponent stack) else afterNumber stack b

/-- The part that is not complete when the text ends inside a list or an object. -/
def openPart : List Frame → JsonPart
  | [] => .value
  | .list :: _ => .list
  | .object :: _ => .object

/-- What the end of the text does to a value that is skipped. -/
def skipEnd (stack : List Frame) : SkipState → Except JsonError Unit
  | .value | .word _ => .error (.ended .value)
  | .opened | .after => .error (.ended (openPart stack))
  | .key | .colon => .error (.ended .object)
  | .string _ | .escaped _ | .hex .. => .error (.ended .string)
  | .sign | .point | .exponentMark | .exponentSign => .error (.malformed .number)
  | .leadingZero | .whole | .fraction | .exponent =>
    if stack.isEmpty then .ok () else .error (.ended (openPart stack))

/-- Passes over the bytes of a value and returns the rest. -/
def skipFrom (state : SkipState) (stack : List Frame) : Bytes → Except JsonError Bytes
  | [] => do
    skipEnd stack state
    return []
  | b :: bs =>
    match skipStep stack b state with
    | .error e => .error e
    | .ok .endedBefore => .ok (b :: bs)
    | .ok .endedWith => .ok bs
    | .ok (.more state stack) => skipFrom state stack bs

/-- Passes over one value. -/
def skipValue (input : Bytes) : Except JsonError Bytes := skipFrom .value [] input

end Broadphase.Json
