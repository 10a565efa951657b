import Broadphase.Text.Invisible

/-! # Texts in quotes

A text is shown between quotes so that the reader can see every character of it.  Quotes and
backslashes are escaped, and so are all characters that cannot be seen on their own. -/

namespace Broadphase.Text

/-- A character by its code point in hexadecimal. -/
def codePoint (c : Char) : String :=
  "\\u\x7b" ++ String.ofList (Nat.toDigits 16 c.toNat) ++ "\x7d"

/-- A character as it is shown between quotes. -/
def shown (c : Char) : String :=
  if c = '"' then "\\\""
  else if c = '\\' then "\\\\"
  else if c = '\t' then "\\t"
  else if c = '\n' then "\\n"
  else if c = '\r' then "\\r"
  else if c.toNat = 0 then "\\0"
  else if isInvisible c then codePoint c
  else c.toString

/-- The text between quotes. -/
def quoted (s : String) : String := "\"" ++ String.join (s.toList.map shown) ++ "\""

end Broadphase.Text
