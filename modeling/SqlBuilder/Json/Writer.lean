import SqlBuilder.Decimal.Shortest
import SqlBuilder.Json
import SqlBuilder.Text

set_option autoImplicit false

/-! # Writing JSON

The compact text of a document: no blanks, and in strings only what must be escaped is. -/

namespace SqlBuilder.Json

/-- How a character is written inside a string: quotes and backslashes after a backslash, the
control characters by their letter or in hexadecimal, all others as they are. -/
def escapedChar (c : Char) : List Char :=
  if c = '"' then ['\\', '"']
  else if c = '\\' then ['\\', '\\']
  else if c = '\x08' then ['\\', 'b']
  else if c = '\t' then ['\\', 't']
  else if c = '\n' then ['\\', 'n']
  else if c = '\x0c' then ['\\', 'f']
  else if c = '\r' then ['\\', 'r']
  else if c.toNat < 0x20 then '\\' :: 'u' :: Text.hexDigits 4 c.toNat
  else [c]

/-- A string in its quotes. -/
def writeString (s : String) : List Char :=
  '"' :: (s.toList.flatMap escapedChar ++ ['"'])

/-- An integer in decimal digits. -/
def writeInt (n : Int) : List Char :=
  if n < 0 then '-' :: Nat.toDigits 10 n.natAbs else Nat.toDigits 10 n.natAbs

/-- The absolute value of a finite double. The numbers whose leading digit lies between five places
after the point and sixteen before it are written without an exponent, and always with a
fraction. -/
def writeMagnitude (x : Binary64) : List Char :=
  let d := Decimal.shortest .even x
  if -5 ≤ d.magnitude ∧ d.magnitude < 16 then
    match d.positional with
    | (whole, []) => whole ++ ['.', '0']
    | (whole, fraction) => whole ++ '.' :: fraction
  else
    d.scientific

/-- A double: the shortest decimal that is read back as it. What is not finite has no JSON text and
is written as null. -/
def writeReal (x : Binary64) : List Char :=
  if x.isFinite then
    if x.isNegative then '-' :: writeMagnitude x else writeMagnitude x
  else
    ['n', 'u', 'l', 'l']

mutual

/-- The compact text of a tree. -/
def Tree.write : Tree → List Char
  | .null => ['n', 'u', 'l', 'l']
  | .bool true => ['t', 'r', 'u', 'e']
  | .bool false => ['f', 'a', 'l', 's', 'e']
  | .integer n => writeInt n.value
  | .real x => writeReal x
  | .string s => writeString s
  | .array items => '[' :: (writeItems items ++ [']'])
  | .object members => '{' :: (writeMembers members ++ ['}'])

/-- The items of an array with commas between them. -/
def writeItems : List Tree → List Char
  | [] => []
  | [item] => item.write
  | item :: next :: rest => item.write ++ ',' :: writeItems (next :: rest)

/-- The members of an object with commas between them. -/
def writeMembers : List (String × Tree) → List Char
  | [] => []
  | [(key, value)] => writeString key ++ ':' :: value.write
  | (key, value) :: next :: rest =>
    writeString key ++ ':' :: (value.write ++ ',' :: writeMembers (next :: rest))

end

/-- The compact text of a document. -/
def text (document : Json) : String :=
  String.ofList document.tree.write

end SqlBuilder.Json
