import SqlBuilder.Calendar
import SqlBuilder.Json.Writer
import SqlBuilder.Text.Utf8

set_option autoImplicit false

/-! # Bind values

The scalars that are handed to the executor beside the SQL text, one for each placeholder, with the
two texts that a value has: a literal for logs and a JSON document. -/

namespace SqlBuilder

/-! ## UUIDs -/

/-- A universally unique identifier. -/
structure Uuid where
  value : BitVec 128
deriving DecidableEq, Repr

namespace Uuid

/-- Thirty-two lower-case digits in groups of 8, 4, 4, 4 and 12. -/
def text (u : Uuid) : String :=
  let digits := Text.hexDigits 32 u.value.toNat
  let group (start count : Nat) : List Char := (digits.drop start).take count
  String.ofList (group 0 8 ++ '-' :: group 8 4 ++ '-' :: group 12 4 ++ '-' :: group 16 4
    ++ '-' :: group 20 12)

/-- Reads an identifier written in hexadecimal digits of either case; hyphens are passed over. -/
def ofText? (s : String) : Option Uuid :=
  let digits := s.toList.filter (· != '-')
  if digits.length = 32 then
    (Text.readHex? digits).map fun n => ⟨BitVec.ofNat 128 n⟩
  else
    none

end Uuid

/-! ## Scalars -/

/-- A scalar value. -/
inductive Value where
  | null
  | bool (b : Bool)
  | int (n : Int64)
  | uint (n : UInt64)
  | float (x : Binary64)
  | text (s : String)
  | bytes (content : List UInt8)
  | date (d : Date)
  | dateTime (t : DateTime)
  /-- A point in time, in UTC. -/
  | timestamp (t : DateTime)
  | uuid (u : Uuid)
  | json (document : Json)

namespace Value

/-- Equality of values. Values of different kinds differ; doubles, also inside documents, are equal
as numbers. -/
def same : Value → Value → Bool
  | null, null => true
  | bool a, bool b => a == b
  | int a, int b => a == b
  | uint a, uint b => a == b
  | float a, float b => a.same b
  | text a, text b => a == b
  | bytes a, bytes b => a == b
  | date a, date b => a == b
  | dateTime a, dateTime b => a == b
  | timestamp a, timestamp b => a == b
  | uuid a, uuid b => a == b
  | json a, json b => a.same b
  | _, _ => false

/-- Whether a value is null. -/
def isNull : Value → Bool
  | null => true
  | _ => false

/-- The text of a text value. -/
def text? : Value → Option String
  | text s => some s
  | _ => none

/-- The number of an integer value, if it fits into a signed word. -/
def int? : Value → Option Int64
  | int n => some n
  | uint n => if n.toNat < 0x8000000000000000 then some (Int64.ofNat n.toNat) else none
  | _ => none

/-- What kind of value it is, in words. -/
def describe : Value → String
  | null => "NULL"
  | bool _ => "a boolean"
  | int _ | uint _ | float _ => "a number"
  | text _ => "a string"
  | bytes _ => "a byte string"
  | date _ | dateTime _ | timestamp _ => "a date"
  | uuid _ => "a uuid"
  | json _ => "a JSON document"

end Value

/-! ## Debug literals

How a value is shown in SQL that is meant for logs: its plain text in double quotes. The texts are
made safe for the quotes around them, not for a database. -/

/-- A double in positional notation, in as few digits as tell it apart. Of two equally near decimals
the greater is shown. -/
def Binary64.plainText (x : Binary64) : String :=
  let sign := if x.isNegative then "-" else ""
  if x.isNaN then "NaN"
  else if x.isInfinite then sign ++ "inf"
  else
    match (Decimal.shortest .up x).positional with
    | (whole, []) => sign ++ String.ofList whole
    | (whole, fraction) => sign ++ String.ofList (whole ++ '.' :: fraction)

/-- How a character is written inside a literal: quotes of both kinds and backslashes after a
backslash, NUL as a backslash and a zero. -/
def slashedChar (c : Char) : List Char :=
  if c = '\x27' ∨ c = '"' ∨ c = '\\' then ['\\', c]
  else if c = '\x00' then ['\\', '0']
  else [c]

namespace Value

/-- The text of a value without quotes. Bytes are read as UTF-8. -/
def plainText : Value → String
  | null => "NULL"
  | bool b => if b then "1" else "0"
  | int n => n.toInt.repr
  | uint n => n.toNat.repr
  | float x => x.plainText
  | text s => s
  | bytes content => Text.readUtf8 content
  | date d => d.text
  | dateTime t => t.plainText
  | timestamp t => t.plainText
  | uuid u => u.text
  | json document => document.text

/-- The value as it is shown in debug SQL: a literal in double quotes, and the bare word for
null. -/
def debugLiteral (v : Value) : String :=
  if v.isNull then "NULL"
  else String.ofList ('"' :: (v.plainText.toList.flatMap slashedChar ++ ['"']))

end Value

/-! ## Values as JSON

The JSON document of a value carries no mark of its kind, so several kinds share one document, and
reading takes the first kind that fits. -/

namespace Value

/-- A byte as a document. -/
def byteDocument (b : UInt8) : Json :=
  .integer (.ofUInt64 b.toUInt64)

/-- The document of a value. What is not a finite number becomes null. -/
def toJson : Value → Json
  | null => .null
  | bool b => .bool b
  | int n => .integer (.ofInt64 n)
  | uint n => .integer (.ofUInt64 n)
  | float x => if x.isFinite then .real x else .null
  | text s => .string s
  | bytes content => .array (content.map byteDocument)
  | date d => .string d.text
  | dateTime t => .string t.isoText
  | timestamp t => .string (t.isoText ++ "Z")
  | uuid u => .string u.text
  | json document => document

/-- The byte that an item of an array stands for. -/
def byte? : Json.Tree → Option UInt8
  | .integer n => if 0 ≤ n.value ∧ n.value < 256 then some (UInt8.ofNat n.value.toNat) else none
  | _ => none

/-- The integer value of a document's number: signed if it fits. -/
def ofWord (n : WordInteger) : Value :=
  if n.value < 0x8000000000000000 then .int (Int64.ofInt n.value)
  else .uint (UInt64.ofNat n.value.toNat)

/-- The value of a document: a string is text, an array of numbers below 256 is a row of bytes,
and other arrays and all objects stay documents. -/
def ofJson (document : Json) : Value :=
  match document.tree with
  | .null => .null
  | .bool b => .bool b
  | .integer n => ofWord n
  | .real x => .float x
  | .string s => .text s
  | .array items =>
    match items.mapM byte? with
    | some content => .bytes content
    | none => .json document
  | .object _ => .json document

end Value

end SqlBuilder
