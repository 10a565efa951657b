import Broadphase.Decimal.Layout

/-! # JSON documents and how they are written

A document is written on one line by `Json.compact` and with two blanks of indentation by
`Json.pretty`.  A number that is not finite is written as the null word. -/

namespace Broadphase

/-- A JSON document.  The fields of an object keep their order. -/
inductive Json where
  | null
  | bool (b : Bool)
  | nat (n : Nat)
  | real (x : Float)
  | str (s : String)
  | arr (items : List Json)
  | obj (fields : List (String × Json))

namespace Json

/-- A hexadecimal digit in lower case. -/
def hexDigit (n : Nat) : Char := if n < 10 then Char.ofNat (48 + n) else Char.ofNat (87 + n)

/-- A character inside a string.  Quotes, backslashes and control characters are escaped. -/
def escape (c : Char) : String :=
  if c = '"' then "\\\""
  else if c = '\\' then "\\\\"
  else if c.toNat = 8 then "\\b"
  else if c.toNat = 9 then "\\t"
  else if c.toNat = 10 then "\\n"
  else if c.toNat = 12 then "\\f"
  else if c.toNat = 13 then "\\r"
  else if c.toNat < 32 then
    "\\u00" ++ (hexDigit (c.toNat / 16)).toString ++ (hexDigit (c.toNat % 16)).toString
  else c.toString

/-- A string between quotes. -/
def quote (s : String) : String := "\"" ++ String.join (s.toList.map escape) ++ "\""

/-- A document that is neither an array nor an object. -/
def scalar : Json → String
  | null => "null"
  | bool b => if b then "true" else "false"
  | nat n => toString n
  | real x => Layout.document.text x
  | str s => quote s
  | arr _ => ""
  | obj _ => ""

mutual

/-- The document on one line. -/
def compact : Json → String
  | arr items => "[" ++ compactItems items ++ "]"
  | obj fields => "\x7b" ++ compactFields fields ++ "\x7d"
  | j => j.scalar

/-- The items of an array, divided by commas. -/
def compactItems : List Json → String
  | [] => ""
  | [j] => j.compact
  | j :: js => j.compact ++ "," ++ compactItems js

/-- The fields of an object, divided by commas. -/
def compactFields : List (String × Json) → String
  | [] => ""
  | [(k, j)] => quote k ++ ":" ++ j.compact
  | (k, j) :: fs => quote k ++ ":" ++ j.compact ++ "," ++ compactFields fs

end

/-- The beginning of a line at a depth. -/
def newLine (depth : Nat) : String := "\n" ++ String.join (List.replicate depth "  ")

mutual

/-- The document with every item and field on a line of its own. -/
def prettyAt (depth : Nat) : Json → String
  | arr [] => "[]"
  | arr items => "[" ++ prettyItems (depth + 1) items ++ newLine depth ++ "]"
  | obj [] => "\x7b\x7d"
  | obj fields => "\x7b" ++ prettyFields (depth + 1) fields ++ newLine depth ++ "\x7d"
  | j => j.scalar

/-- The items of an array, one on a line. -/
def prettyItems (depth : Nat) : List Json → String
  | [] => ""
  | [j] => newLine depth ++ j.prettyAt depth
  | j :: js => newLine depth ++ j.prettyAt depth ++ "," ++ prettyItems depth js

/-- The fields of an object, one on a line. -/
def prettyFields (depth : Nat) : List (String × Json) → String
  | [] => ""
  | [(k, j)] => newLine depth ++ quote k ++ ": " ++ j.prettyAt depth
  | (k, j) :: fs => newLine depth ++ quote k ++ ": " ++ j.prettyAt depth ++ "," ++ prettyFields depth fs

end

/-- The document with every item and field on a line of its own. -/
def pretty (j : Json) : String := j.prettyAt 0

end Json

end Broadphase
