import Broadphase.Geometry.Error
import Broadphase.Text.Quoted

/-! # Why a JSON text is refused

A text is refused because it ends too early (`ended`), because it is no JSON (`malformed`), or because
its value is not what was asked for (all other causes). -/

namespace Broadphase

/-- What was not complete when a text ended. -/
inductive JsonPart where
  | value
  | object
  | list
  | string
deriving DecidableEq, Repr

/-- How a text breaks the rules of JSON. -/
inductive JsonFault where
  | expectedColon
  | expectedCommaOrBrace
  | expectedCommaOrBracket
  | expectedWord
  | expectedValue
  | escape
  | number
  | numberRange
  | codePoint
  | controlCharacter
  | keyNotString
  | loneSurrogate
  | endOfHexEscape
  | trailingComma
  | trailingCharacters
deriving DecidableEq, Repr

/-- A value that stands where another kind of value was asked for. -/
inductive JsonFound where
  | null
  | bool (b : Bool)
  | integer (n : Int)
  | real (x : Float)
  | str (s : String)
  | sequence
  | map
deriving DecidableEq, Repr

/-- The causes for which a JSON text is refused. -/
inductive JsonError where
  | ended (part : JsonPart)
  | malformed (fault : JsonFault)
  /-- A value of another kind stands where `expected` was asked for. -/
  | wrongKind (found : JsonFound) (expected : String)
  /-- A value of the right kind is out of range for `expected`. -/
  | outOfRange (found : JsonFound) (expected : String)
  /-- A list has only `length` items. -/
  | tooShort (length : Nat) (expected : String)
  | missingField (name : String)
  | duplicateField (name : String)
  /-- The value was read but makes no geometric sense. -/
  | refused (cause : GeometryError)
deriving DecidableEq, Repr

/-- Incomplete texts, texts that are no JSON, and JSON that does not fit. -/
inductive JsonErrorKind where
  | ended
  | malformed
  | unfit
deriving DecidableEq, Repr

namespace JsonError

/-- The kind of a cause. -/
def kind : JsonError → JsonErrorKind
  | ended _ => .ended
  | malformed _ => .malformed
  | _ => .unfit

/-- The wording of an unfinished part. -/
def partName : JsonPart → String
  | .value => "a value"
  | .object => "an object"
  | .list => "a list"
  | .string => "a string"

/-- The wording of a broken rule. -/
def faultText : JsonFault → String
  | .expectedColon => "expected `:`"
  | .expectedCommaOrBrace => "expected `,` or `\x7d`"
  | .expectedCommaOrBracket => "expected `,` or `]`"
  | .expectedWord => "expected ident"
  | .expectedValue => "expected value"
  | .escape => "invalid escape"
  | .number => "invalid number"
  | .numberRange => "number out of range"
  | .codePoint => "invalid unicode code point"
  | .controlCharacter => "control character (\\u0000-\\u001F) found while parsing a string"
  | .keyNotString => "key must be a string"
  | .loneSurrogate => "lone leading surrogate in hex escape"
  | .endOfHexEscape => "unexpected end of hex escape"
  | .trailingComma => "trailing comma"
  | .trailingCharacters => "trailing characters"

/-- The wording of a value in the wrong place. -/
def foundText : JsonFound → String
  | .null => "null"
  | .bool b => "boolean `" ++ (if b then "true" else "false") ++ "`"
  | .integer n => s!"integer `{n}`"
  | .real x => "floating point `" ++ Layout.document.text x ++ "`"
  | .str s => "string " ++ Text.quoted s
  | .sequence => "sequence"
  | .map => "map"

/-- The wording of a refused text. -/
def message : JsonError → String
  | ended part => "EOF while parsing " ++ partName part
  | malformed fault => faultText fault
  | wrongKind found expected => s!"invalid type: {foundText found}, expected {expected}"
  | outOfRange found expected => s!"invalid value: {foundText found}, expected {expected}"
  | tooShort length expected => s!"invalid length {length}, expected {expected}"
  | missingField name => s!"missing field `{name}`"
  | duplicateField name => s!"duplicate field `{name}`"
  | refused cause => cause.message

end JsonError

end Broadphase
