import SqlBuilder.Text

set_option autoImplicit false

/-! # Identifiers

Names of tables, columns and aliases are written into the SQL text and never bound as parameters,
so each is quoted: a quoted name stands between two delimiters, a delimiter inside it is doubled,
and the character NUL, which no quoted name can hold, is left out. A dotted name is a sequence of
quoted names, and may end in a bare wildcard. A text such as `t.c as x` is read as a chain of
dotted names. -/

namespace SqlBuilder

/-- The character around quoted names. -/
def delimiter : Char := '\x60'

/-- How a character is written inside a quoted name. -/
def quotedChar (c : Char) : List Char :=
  if c = delimiter then [delimiter, delimiter]
  else if c = '\x00' then []
  else [c]

/-- The characters of a quoted name. -/
def quoteChars (name : List Char) : List Char :=
  delimiter :: (name.flatMap quotedChar ++ [delimiter])

/-- A name in its delimiters. -/
def quote (name : String) : String :=
  String.ofList (quoteChars name.toList)

/-- A part of a dotted name. -/
inductive IdentifierPart where
  /-- A name, which is quoted. -/
  | name (text : String)
  /-- The bare `*`. -/
  | wildcard
deriving DecidableEq, Repr

/-- A name that may be qualified by others, as in schema, table and column. -/
structure Identifier where
  parts : List IdentifierPart
deriving DecidableEq, Repr

/-- The SQL text of one part. -/
def IdentifierPart.toSql : IdentifierPart → String
  | name text => quote text
  | wildcard => "*"

namespace Identifier

/-- The names between the dots. -/
def names (s : List Char) : List IdentifierPart :=
  (Text.pieces '.' s).map fun piece => .name (String.ofList piece)

/-- Reads a dotted name. A text that ends in `.*`, blanks after it aside, ends in the wildcard; in
any other text every character belongs to a name. -/
def ofChars (s : List Char) : Identifier :=
  match Text.dropEnding? ['.', '*'] (Text.trimEnd s) with
  | some qualifier => ⟨names qualifier ++ [.wildcard]⟩
  | none => ⟨names s⟩

/-- Reads a dotted name from a string. -/
def ofString (s : String) : Identifier :=
  ofChars s.toList

/-- The SQL text: the parts with dots between them. -/
def toSql (identifier : Identifier) : String :=
  ".".intercalate (identifier.parts.map IdentifierPart.toSql)

/-- The mark between a name and its alias. -/
def aliasMark : List Char := [' ', 'a', 's', ' ']

/-- The chain of names that a text spells, cutting at most `cuts` times in a row. -/
def chainWithin : Nat → List Char → List Identifier
  | 0, s => [ofChars s]
  | cuts + 1, s =>
    match Text.cut? aliasMark s with
    | none => [ofChars s]
    | some (base, label) =>
      chainWithin cuts (Text.trim base) ++ chainWithin cuts (Text.trim label)

/-- The chain of names that a text spells: the text is cut at the first ` as `, and both halves,
trimmed, are read in the same way. Every cut shortens the text, so its length bounds the cuts. -/
def chain (s : List Char) : List Identifier :=
  chainWithin s.length s

end Identifier

/-- The SQL text of a name that may carry dots and aliases. -/
def escape (name : String) : String :=
  " as ".intercalate ((Identifier.chain name.toList).map Identifier.toSql)

end SqlBuilder
