/-! # Plain text

A text that comes from outside can hold characters that steer a terminal: controls, and sequences that
begin with an escape character.  `plain` leaves them out and keeps what a reader would see, with the
blanks, tabs and line ends between. -/

namespace Broadphase.Text

/-- The character that begins a sequence. -/
def escapeChar : Char := Char.ofNat 0x1b

/-- The part of a sequence in which a character stands. -/
inductive SequencePart where
  /-- Outside all sequences. -/
  | outside
  /-- Behind the escape character. -/
  | escape
  /-- Behind further marks that follow the escape character. -/
  | escapeMarks
  /-- In a control sequence, up to its letter. -/
  | control
  /-- In a command with a text, up to the bell. -/
  | command
  /-- At the start of a string for a device. -/
  | deviceStart
  /-- In the numbers of a string for a device. -/
  | deviceNumbers
  /-- In the marks of a string for a device. -/
  | deviceMarks
  /-- In the text of a string. -/
  | string
deriving DecidableEq, Repr

namespace SequencePart

/-- Whether the code of a character lies between two bounds, both included. -/
def within (lo hi : Nat) (c : Char) : Bool := lo ≤ c.toNat && c.toNat ≤ hi

/-- Whether a character cancels any sequence. -/
def cancels (c : Char) : Bool := c.toNat = 0x18 || c.toNat = 0x1a

/-- Whether the byte that ends a string is one of the bytes of a character. -/
def endsString (c : Char) : Bool := c.toString.toUTF8.toList.contains 0x9c

/-- The part in which the character after `c` stands. -/
def next (part : SequencePart) (c : Char) : SequencePart :=
  if c = escapeChar then .escape
  else if cancels c then .outside
  else
    match part with
    | outside => .outside
    | escape =>
      if c = '[' then .control
      else if c = ']' then .command
      else if c = 'P' then .deviceStart
      else if c = 'X' || c = '^' || c = '_' then .string
      else if within 0x20 0x2f c then .escapeMarks
      else if within 0x30 0x7e c then .outside
      else .escape
    | escapeMarks => if within 0x30 0x7e c then .outside else .escapeMarks
    | control => if within 0x40 0x7e c then .outside else .control
    | command => if c.toNat = 7 then .outside else .command
    | deviceStart =>
      if within 0x20 0x2f c then .deviceMarks
      else if within 0x30 0x3f c then .deviceNumbers
      else if within 0x40 0x7e c then .string
      else .deviceStart
    | deviceNumbers =>
      if within 0x20 0x2f c then .deviceMarks
      else if within 0x3c 0x7e c then .string
      else .deviceNumbers
    | deviceMarks => if within 0x30 0x7e c then .string else .deviceMarks
    | string => if endsString c then .outside else .string

/-- Whether a character is a tab or ends a line or page. -/
def isSpacing (c : Char) : Bool :=
  c.toNat = 0x09 || c.toNat = 0x0a || c.toNat = 0x0c || c.toNat = 0x0d

/-- Whether a character is shown where it stands. -/
def shows (part : SequencePart) (c : Char) : Bool :=
  match part with
  | outside => isSpacing c || 0x20 ≤ c.toNat && c.toNat ≠ 0x7f
  | escape | escapeMarks | control => isSpacing c
  | _ => false

end SequencePart

/-- The place of a character in a text with sequences.  Spacing inside a sequence opens a gap, in which
text is shown up to the next control character; the sequence goes on behind it. -/
structure SequencePlace where
  part : SequencePart := .outside
  inGap : Bool := false
deriving DecidableEq, Repr

namespace SequencePlace

/-- Whether a character is shown at a place. -/
def shows (place : SequencePlace) (c : Char) : Bool :=
  if place.inGap then SequencePart.outside.shows c else place.part.shows c

/-- The place behind a character.  A gap that meets a character beyond the ASCII ones ends its
sequence. -/
def next (place : SequencePlace) (c : Char) : SequencePlace :=
  if place.inGap && place.shows c then
    { place with part := if c.toNat < 0x80 then place.part else .outside }
  else { part := place.part.next c, inGap := place.shows c }

end SequencePlace

/-- The characters that are shown, from a place on. -/
def plainFrom (place : SequencePlace) : List Char → List Char
  | [] => []
  | c :: cs =>
    if place.shows c then c :: plainFrom (place.next c) cs else plainFrom (place.next c) cs

/-- A text without what steers a terminal. -/
def plain (s : String) : String := String.ofList (plainFrom {} s.toList)

end Broadphase.Text
