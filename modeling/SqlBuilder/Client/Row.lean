import SqlBuilder.Json.Reader
import SqlBuilder.Json.Writer
import SqlBuilder.Value

set_option autoImplicit false

/-! # Results

What an executor returns: rows, or a number. Both have a JSON text. A row is read from the form of a
text, because members of a row that have no meaning for it are passed over, however they look. -/

namespace SqlBuilder

/-- A row of a result: column names with their values, in the order of the select list. -/
structure Row where
  columns : List (String × Value) := []

namespace Row

/-- The row with one more column. -/
def push (row : Row) (name : String) (value : Value) : Row :=
  { columns := row.columns ++ [(name, value)] }

/-- The value of the first column with a name. -/
def get? (row : Row) (name : String) : Option Value :=
  row.columns.lookup name

/-- The value of the first column. -/
def first? (row : Row) : Option Value :=
  row.columns.head?.map (·.2)

/-- How many columns there are. -/
def size (row : Row) : Nat :=
  row.columns.length

/-- A column as a document. -/
def columnJson (column : String × Value) : Json :=
  .array [.string column.1, column.2.toJson]

/-- The document of a row. -/
def toJson (row : Row) : Json :=
  .object [("columns", .array (row.columns.map columnJson))]

end Row

/-- What an executor returns. -/
inductive QueryOutput where
  | rows (all : List Row)
  /-- How many rows were affected, or the number of the inserted row. -/
  | count (n : UInt64)

/-- The document of what an executor returns. -/
def QueryOutput.toJson : QueryOutput → Json
  | rows all => .object [("Rows", .array (all.map Row.toJson))]
  | count n => .object [("Count", .integer (.ofUInt64 n))]

/-! ## Reading

Each reader is given how deep arrays and objects may lie in each other from here on. -/

/-- All results, or none if one is missing. -/
def readAll {α : Type} (read : Json.Form → Option α) : List Json.Form → Option (List α)
  | [] => some []
  | form :: rest =>
    match read form with
    | none => none
    | some a => (readAll read rest).map (a :: ·)

/-- Reads the items of an array by a reader of items. -/
def readArray {α : Type} (read : Nat → Json.Form → Option α) : Nat → Json.Form → Option (List α)
  | depth + 1, .array items => readAll (read depth) items
  | _, _ => none

namespace Row

/-- Reads a column: an array of its name and its value. -/
def readColumn : Nat → Json.Form → Option (String × Value)
  | depth + 1, .array [.string name, value] => do
    let name ← Json.stringOfUnits? name
    let value ← Json.ofForm? depth value
    return (name, Value.ofJson value)
  | _, _ => none

/-- Reads the columns from the members of an object, given those that were found before. The member
must occur, and only once. -/
def readMembers (depth : Nat) (found : Option (List (String × Value))) :
    List (List Json.StringUnit × Json.Form) → Option (List (String × Value))
  | [] => found
  | (key, value) :: rest => do
    let key ← Json.stringOfUnits? key
    if key = "columns" then
      match found with
      | some _ => none
      | none =>
        let columns ← readArray readColumn depth value
        readMembers depth (some columns) rest
    else
      readMembers depth found rest

/-- Reads a row: an object with a member for the columns, or an array of nothing but the
columns. -/
def read : Nat → Json.Form → Option Row
  | depth + 1, .object members => (readMembers depth none members).map Row.mk
  | depth + 1, .array [columns] => (readArray readColumn depth columns).map Row.mk
  | _, _ => none

/-- Reads a row from a text. -/
def ofText? (s : String) : Option Row := do
  let form ← Json.Form.ofText? s.toList
  read Json.greatestDepth form

end Row

namespace QueryOutput

/-- Reads a count: an integer that fits into an unsigned word. -/
def readCount (form : Json.Form) : Option UInt64 :=
  match Json.meaning? 0 form with
  | some (.integer n) => if 0 ≤ n.value then some (UInt64.ofNat n.value.toNat) else none
  | _ => none

/-- Reads what an executor returns: an object with one member that names the kind. -/
def read : Nat → Json.Form → Option QueryOutput
  | depth + 1, .object [(key, value)] => do
    let key ← Json.stringOfUnits? key
    if key = "Rows" then
      (readArray Row.read depth value).map rows
    else if key = "Count" then
      (readCount value).map count
    else
      none
  | _, _ => none

/-- Reads what an executor returns from a text. -/
def ofText? (s : String) : Option QueryOutput := do
  let form ← Json.Form.ofText? s.toList
  read Json.greatestDepth form

end QueryOutput

end SqlBuilder
