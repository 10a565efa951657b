import Broadphase.Json.Number
import Broadphase.Json.Skip
import Broadphase.Json.Value

/-! # Records in JSON

A `Schema` lists the fields of a record, how each is written and how each is read.  A record is written
as an object with its fields in order.  It is read from such an object, with the fields in any order
and unknown ones among them, or from a list of the fields' values.

A text is read from front to back, and the first thing that is wrong with it is reported, be it that
it is no JSON or that a value has the wrong kind. -/

namespace Broadphase

namespace Json

/-- The error for a value of the wrong kind that begins with `b`.  A value that is no JSON is reported
as such. -/
def wrongKind (expected : String) (b : UInt8) (bs : Bytes) : JsonError :=
  let report {α : Type} (read : Except JsonError (α × Bytes)) (found : α → JsonFound) : JsonError :=
    match read with
    | .ok (a, _) => .wrongKind (found a) expected
    | .error e => e
  if b = Byte.ofChar 'n' then report (letters (wordRest "null") bs) fun _ => .null
  else if b = Byte.ofChar 't' then report (letters (wordRest "true") bs) fun _ => .bool true
  else if b = Byte.ofChar 'f' then report (letters (wordRest "false") bs) fun _ => .bool false
  else if b = Byte.minus then report (JsonNumber.read true bs) JsonNumber.found
  else if Byte.isDigit b then report (JsonNumber.read false (b :: bs)) JsonNumber.found
  else if b = Byte.quote then report (string bs) .str
  else if b = Byte.openBracket then .wrongKind .sequence expected
  else if b = Byte.openBrace then .wrongKind .map expected
  else .malformed .expectedValue

/-- Reads a number and passes it on. -/
def number {α : Type} (expected : String) (accept : JsonNumber → Except JsonError α) : Reader α :=
  fun input => do
    let (b, bs) ← valueStart input
    if b = Byte.minus then
      let (n, rest) ← JsonNumber.read true bs
      return (← accept n, rest)
    else if Byte.isDigit b then
      let (n, rest) ← JsonNumber.read false (b :: bs)
      return (← accept n, rest)
    else throw (wrongKind expected b bs)

/-- Reads a natural number below `2 ^ bits`. -/
def natBelow (bits : Nat) (expected : String) : Reader Nat :=
  number expected fun
    | .int n =>
      if 0 ≤ n ∧ n < Nat.pow 2 bits then .ok n.toNat else .error (.outOfRange (.integer n) expected)
    | .real x => .error (.wrongKind (.real x) expected)

/-- Reads a 64-bit word. -/
def word64 (expected : String) : Reader UInt64 := fun input => do
  let (n, rest) ← natBelow 64 expected input
  return (n.toUInt64, rest)

/-- Reads a 32-bit word. -/
def word32 (expected : String) : Reader UInt32 := fun input => do
  let (n, rest) ← natBelow 32 expected input
  return (n.toUInt32, rest)

/-- Reads a number of any form as a binary64 number. -/
def float : Reader Float :=
  number "f64" fun
    | .int n => .ok (Float.ofInt n)
    | .real x => .ok x

/-- Reads a truth value. -/
def flag : Reader Bool := fun input => do
  let (b, bs) ← valueStart input
  if b = Byte.ofChar 't' then
    let (_, rest) ← letters (wordRest "true") bs
    return (true, rest)
  else if b = Byte.ofChar 'f' then
    let (_, rest) ← letters (wordRest "false") bs
    return (false, rest)
  else throw (wrongKind "a boolean" b bs)

/-- Reads a value or the null word. -/
def optional {α : Type} (read : Reader α) : Reader (Option α) := fun input =>
  let present := do
    let (a, rest) ← read input
    return (some a, rest)
  match skipBlank input with
  | [] => present
  | b :: bs =>
    if b = Byte.ofChar 'n' then do
      let (_, rest) ← letters (wordRest "null") bs
      return (none, rest)
    else present

/-- Goes to the next item of a list; there is none before the closing bracket. -/
def nextItem (first : Bool) (input : Bytes) : Except JsonError (Option Bytes) :=
  match skipBlank input with
  | [] => .error (.ended .list)
  | b :: bs =>
    if b = Byte.closeBracket then .ok none
    else if first then .ok (some (b :: bs))
    else if b = Byte.comma then
      match skipBlank bs with
      | [] => .error (.ended .value)
      | c :: cs =>
        if c = Byte.closeBracket then .error (.malformed .trailingComma) else .ok (some (c :: cs))
    else .error (.malformed .expectedCommaOrBracket)

/-- Reads the closing bracket of a list. -/
def endList (input : Bytes) : Except JsonError Bytes :=
  match skipBlank input with
  | [] => .error (.ended .list)
  | b :: bs =>
    if b = Byte.closeBracket then .ok bs
    else if b = Byte.comma ∧ (skipBlank bs).head? = some Byte.closeBracket then
      .error (.malformed .trailingComma)
    else .error (.malformed .trailingCharacters)

/-- What stands at the next place of an object: a key, or the closing brace with the rest behind it. -/
inductive NextKey where
  | closed (rest : Bytes)
  /-- The text behind the opening quote of the key. -/
  | key (rest : Bytes)

/-- Goes to the next key of an object. -/
def nextKey (first : Bool) (input : Bytes) : Except JsonError NextKey :=
  match skipBlank input with
  | [] => .error (.ended .object)
  | b :: bs =>
    if b = Byte.closeBrace then .ok (.closed bs)
    else if first then
      if b = Byte.quote then .ok (.key bs) else .error (.malformed .keyNotString)
    else if b = Byte.comma then
      match skipBlank bs with
      | [] => .error (.ended .value)
      | c :: cs =>
        if c = Byte.quote then .ok (.key cs)
        else if c = Byte.closeBrace then .error (.malformed .trailingComma)
        else .error (.malformed .keyNotString)
    else .error (.malformed .expectedCommaOrBrace)

/-- Reads the colon behind a key. -/
def afterKey (input : Bytes) : Except JsonError Bytes :=
  match skipBlank input with
  | [] => .error (.ended .object)
  | b :: bs => if b = Byte.colon then .ok bs else .error (.malformed .expectedColon)

/-- Reads a text that holds one value and nothing else. -/
def whole {α : Type} (read : Reader α) (input : Bytes) : Except JsonError α := do
  let (a, rest) ← read input
  if (skipBlank rest).isEmpty then return a else throw (.malformed .trailingCharacters)

end Json

/-- A field of a record `ρ`: its name, how its values are written and read, and where it is in the
record. -/
structure Field (ρ : Type) where
  name : String
  Value : Type
  encode : Value → Json
  decode : Reader Value
  get : ρ → Value
  set : ρ → Value → ρ

/-- The fields of a record `ρ`. -/
structure Schema (ρ : Type) where
  /-- The name under which messages know the record. -/
  name : String
  /-- The values of the fields that are not read. -/
  blank : ρ
  /-- Whether every field must be there. -/
  complete : Bool
  fields : List (Field ρ)

namespace Field

variable {ρ : Type}

/-- The field of a record as a document. -/
def write (f : Field ρ) (v : ρ) : Json := f.encode (f.get v)

/-- Reads the field into a record. -/
def read (f : Field ρ) (v : ρ) : Reader ρ := fun input => do
  let (a, rest) ← f.decode input
  return (f.set v a, rest)

/-- A field that holds a binary64 number. -/
def float (name : String) (get : ρ → Float) (set : ρ → Float → ρ) : Field ρ :=
  ⟨name, Float, .real, Json.float, get, set⟩

/-- A field that holds a 64-bit word, known to messages as `kind`. -/
def word64 (name kind : String) (get : ρ → UInt64) (set : ρ → UInt64 → ρ) : Field ρ :=
  ⟨name, UInt64, fun n => .nat n.toNat, Json.word64 kind, get, set⟩

/-- A field that holds a 32-bit word. -/
def word32 (name kind : String) (get : ρ → UInt32) (set : ρ → UInt32 → ρ) : Field ρ :=
  ⟨name, UInt32, fun n => .nat n.toNat, Json.word32 kind, get, set⟩

/-- A field that holds a truth value. -/
def flag (name : String) (get : ρ → Bool) (set : ρ → Bool → ρ) : Field ρ :=
  ⟨name, Bool, .bool, Json.flag, get, set⟩

/-- A field that holds a binary64 number or nothing. -/
def optionalFloat (name : String) (get : ρ → Option Float) (set : ρ → Option Float → ρ) : Field ρ :=
  ⟨name, Option Float, fun | some x => .real x | none => .null, Json.optional Json.float, get, set⟩

end Field

namespace Schema

variable {ρ : Type}

/-- The record as a document. -/
def write (s : Schema ρ) (v : ρ) : Json := .obj (s.fields.map fun f => (f.name, f.write v))

/-- What a wrong value is compared with. -/
def kind (s : Schema ρ) : String := "struct " ++ s.name

/-- Reads the values of the given fields in order; `index` of them have been read. -/
def readItems (s : Schema ρ) : List (Field ρ) → Nat → ρ → Reader ρ
  | [], _, v, input => do return (v, ← Json.endList input)
  | f :: fs, index, v, input => do
    match ← Json.nextItem (index == 0) input with
    | some rest =>
      let (v, rest) ← f.read v rest
      s.readItems fs (index + 1) v rest
    | none =>
      if s.complete then
        throw (.tooShort index s!"{s.kind} with {s.fields.length} elements")
      else return (v, ← Json.endList input)

/-- The first field that is not among the given names. -/
def missing? (s : Schema ρ) (seen : List String) : Option String :=
  (s.fields.map (·.name)).find? fun n => !seen.contains n

/-- Reads the members of an object.  Every member takes at least one byte, so as many steps as
there are bytes suffice. -/
def readMembers (s : Schema ρ) : Nat → List String → Bool → ρ → Reader ρ
  | 0, _, _, _, _ => .error (.ended .object)
  | steps + 1, seen, first, v, input => do
    match ← Json.nextKey first input with
    | .closed rest =>
      match if s.complete then s.missing? seen else none with
      | some name => throw (.missingField name)
      | none => return (v, rest)
    | .key rest =>
      let (key, rest) ← Json.string rest
      match s.fields.find? (·.name == key) with
      | some f =>
        if seen.contains key then throw (.duplicateField key)
        let (v, rest) ← f.read v (← Json.afterKey rest)
        s.readMembers steps (key :: seen) false v rest
      | none =>
        let rest ← Json.skipValue (← Json.afterKey rest)
        s.readMembers steps seen false v rest

/-- Reads a record from an object or from a list. -/
def read (s : Schema ρ) : Reader ρ := fun input => do
  let (b, bs) ← Json.valueStart input
  if b = Byte.openBracket then s.readItems s.fields 0 s.blank bs
  else if b = Byte.openBrace then s.readMembers (bs.length + 1) [] true s.blank bs
  else throw (Json.wrongKind s.kind b bs)

/-- A field that holds a record of its own. -/
def asField {σ : Type} (s : Schema σ) (name : String) (get : ρ → σ) (set : ρ → σ → ρ) : Field ρ :=
  ⟨name, σ, s.write, s.read, get, set⟩

end Schema

end Broadphase
