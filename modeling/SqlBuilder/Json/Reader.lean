import SqlBuilder.Json
import SqlBuilder.Text

set_option autoImplicit false

/-! # Reading JSON

A text is read in two steps. The first finds the form of the text by the strict grammar: `Form` keeps
digits, escapes, and repeated keys as they are written. The second gives the form its meaning, and
refuses numbers that are too large, halves of surrogate pairs, and nesting that is too deep. The
parts of a text that a reader passes over need a form but no meaning. -/

namespace SqlBuilder.Json

/-! ## The form of a text -/

/-- A number as it is written; the digits are given by their values. -/
structure Numeral where
  negative : Bool
  whole : List Nat
  fraction : List Nat
  exponent : Option (Bool × List Nat)

/-- An element of a string as it is written: a character, or a sixteen-bit code. -/
inductive StringUnit where
  | char (c : Char)
  | code (n : Nat)

/-- A JSON text as it is written. -/
inductive Form where
  | null
  | bool (b : Bool)
  | number (n : Numeral)
  | string (units : List StringUnit)
  | array (items : List Form)
  | object (members : List (List StringUnit × Form))

/-- Whether a character may stand between the parts of a text. -/
def isGap (c : Char) : Bool :=
  c == ' ' || c == '\n' || c == '\t' || c == '\r'

/-- The text after its leading gap. -/
def skipGap (s : List Char) : List Char :=
  s.dropWhile isGap

/-- The value of a decimal digit. -/
def digit? (c : Char) : Option Nat :=
  if c.isDigit then some (c.toNat - 0x30) else none

/-- The leading decimal digits and the text after them. -/
def takeDigits : List Char → List Nat × List Char
  | [] => ([], [])
  | c :: rest =>
    match digit? c with
    | none => ([], c :: rest)
    | some d =>
      let more := takeDigits rest
      (d :: more.1, more.2)

/-- One digit or more. -/
def readDigits (s : List Char) : Option (List Nat × List Char) :=
  match takeDigits s with
  | ([], _) => none
  | (digits, rest) => some (digits, rest)

/-- The digits before the point. No zero stands in front of others. -/
def readWhole (s : List Char) : Option (List Nat × List Char) :=
  match readDigits s with
  | some (0 :: _ :: _, _) => none
  | other => other

/-- The digits after the point, if there is one. -/
def readFraction : List Char → Option (List Nat × List Char)
  | '.' :: rest => readDigits rest
  | s => some ([], s)

/-- The exponent after its mark: whether it is negative, and its digits. -/
def readExponentDigits : List Char → Option ((Bool × List Nat) × List Char)
  | '+' :: rest => (readDigits rest).map fun r => ((false, r.1), r.2)
  | '-' :: rest => (readDigits rest).map fun r => ((true, r.1), r.2)
  | s => (readDigits s).map fun r => ((false, r.1), r.2)

/-- The exponent, if there is one. -/
def readExponent : List Char → Option (Option (Bool × List Nat) × List Char)
  | 'e' :: rest => (readExponentDigits rest).map fun r => (some r.1, r.2)
  | 'E' :: rest => (readExponentDigits rest).map fun r => (some r.1, r.2)
  | s => some (none, s)

/-- A number after its sign. -/
def readUnsigned (negative : Bool) (s : List Char) : Option (Numeral × List Char) := do
  let (whole, s) ← readWhole s
  let (fraction, s) ← readFraction s
  let (exponent, s) ← readExponent s
  return (⟨negative, whole, fraction, exponent⟩, s)

/-- A number. -/
def readNumeral : List Char → Option (Numeral × List Char)
  | '-' :: rest => readUnsigned true rest
  | s => readUnsigned false s

/-- The character that a letter after a backslash stands for. -/
def escapeLetter? (c : Char) : Option Char :=
  if c = '"' then some '"'
  else if c = '\\' then some '\\'
  else if c = '/' then some '/'
  else if c = 'b' then some '\x08'
  else if c = 'f' then some '\x0c'
  else if c = 'n' then some '\n'
  else if c = 'r' then some '\r'
  else if c = 't' then some '\t'
  else none

/-- A string after its opening quote. Control characters must be escaped. -/
def readUnits : List Char → Option (List StringUnit × List Char)
  | [] => none
  | '"' :: rest => some ([], rest)
  | '\\' :: 'u' :: a :: b :: c :: d :: rest => do
    let code ← Text.readHex? [a, b, c, d]
    let (units, s) ← readUnits rest
    return (.code code :: units, s)
  | '\\' :: c :: rest => do
    let char ← escapeLetter? c
    let (units, s) ← readUnits rest
    return (.char char :: units, s)
  | c :: rest =>
    if c.toNat < 0x20 || c = '\\' then
      none
    else do
      let (units, s) ← readUnits rest
      return (.char c :: units, s)

/-- A key and the colon after it. -/
def readKey (s : List Char) : Option (List StringUnit × List Char) :=
  match skipGap s with
  | '"' :: rest => do
    let (key, s) ← readUnits rest
    match skipGap s with
    | ':' :: s => return (key, s)
    | _ => none
  | _ => none

mutual

/-- A value, after an optional gap. Every reader calls the next with one step less. -/
def readForm : Nat → List Char → Option (Form × List Char)
  | 0, _ => none
  | steps + 1, s =>
    match skipGap s with
    | 'n' :: 'u' :: 'l' :: 'l' :: rest => some (.null, rest)
    | 't' :: 'r' :: 'u' :: 'e' :: rest => some (.bool true, rest)
    | 'f' :: 'a' :: 'l' :: 's' :: 'e' :: rest => some (.bool false, rest)
    | '"' :: rest => (readUnits rest).map fun r => (.string r.1, r.2)
    | '[' :: rest =>
      match skipGap rest with
      | ']' :: after => some (.array [], after)
      | items => (readItems steps items).map fun r => (.array r.1, r.2)
    | '{' :: rest =>
      match skipGap rest with
      | '}' :: after => some (.object [], after)
      | members => (readMembers steps members).map fun r => (.object r.1, r.2)
    | number => (readNumeral number).map fun r => (.number r.1, r.2)

/-- The items of an array that has some, and the bracket after them. -/
def readItems : Nat → List Char → Option (List Form × List Char)
  | 0, _ => none
  | steps + 1, s => do
    let (item, s) ← readForm steps s
    match skipGap s with
    | ',' :: s =>
      let (items, s) ← readItems steps s
      return (item :: items, s)
    | ']' :: s => return ([item], s)
    | _ => none

/-- The members of an object that has some, and the brace after them. -/
def readMembers : Nat → List Char → Option (List (List StringUnit × Form) × List Char)
  | 0, _ => none
  | steps + 1, s => do
    let (key, s) ← readKey s
    let (value, s) ← readForm steps s
    match skipGap s with
    | ',' :: s =>
      let (members, s) ← readMembers steps s
      return ((key, value) :: members, s)
    | '}' :: s => return ([(key, value)], s)
    | _ => none

end

/-- The form of a whole text. Between two characters of the text at most two readers call each
other, so twice its length bounds the steps. -/
def Form.ofText? (s : List Char) : Option Form :=
  match readForm (2 * s.length + 2) s with
  | some (form, rest) => if (skipGap rest).isEmpty then some form else none
  | none => none

/-! ## The meaning of a form -/

/-- The characters of a string. A code beyond the first sixteen bits is written as two, the first
from the lower and the second from the upper half of the surrogates; a surrogate alone means
nothing. -/
def meaningOfUnits : List StringUnit → Option (List Char)
  | [] => some []
  | .char c :: rest => (meaningOfUnits rest).map (c :: ·)
  | .code a :: .code b :: rest =>
    if 0xD800 ≤ a ∧ a < 0xDC00 then
      if 0xDC00 ≤ b ∧ b < 0xE000 then
        (meaningOfUnits rest).map
          (Char.ofNat (0x10000 + (a - 0xD800) * 0x400 + (b - 0xDC00)) :: ·)
      else
        none
    else if 0xDC00 ≤ a ∧ a < 0xE000 then
      none
    else
      (meaningOfUnits (.code b :: rest)).map (Char.ofNat a :: ·)
  | .code a :: rest =>
    if 0xD800 ≤ a ∧ a < 0xE000 then none
    else (meaningOfUnits rest).map (Char.ofNat a :: ·)

/-- The string that the units of a form spell. -/
def stringOfUnits? (units : List StringUnit) : Option String :=
  (meaningOfUnits units).map String.ofList

/-- The number that a row of decimal digits spells. -/
def ofDigits (digits : List Nat) : Nat :=
  digits.foldl (fun n d => n * 10 + d) 0

/-- Takes in digits, the leading one first, as long as the number so far stays below `2 ^ 64`.
Gives the number, and how many digits were taken in and how many were left. -/
def accumulate (n : Nat) : List Nat → Nat × Nat × Nat
  | [] => (n, 0, 0)
  | d :: rest =>
    if n * 10 + d < 0x10000000000000000 then
      let more := accumulate (n * 10 + d) rest
      (more.1, more.2.1 + 1, more.2.2)
    else
      (n, 0, rest.length + 1)

/-- The power of ten as a double. -/
def powerOfTen (n : Nat) : Binary64 :=
  Binary64.ofFraction false (Nat.pow 10 n) 1

/-- The greatest power of ten among the finite doubles. -/
def greatestPower : Nat := 308

/-- Divides by the greatest power of ten, at most `n` times, as long as the number is not zero. -/
def divideDown : Nat → Binary64 → Binary64
  | 0, x => x
  | n + 1, x => if x.isZero then x else divideDown n (x.scaleDown (powerOfTen greatestPower))

/-- A significand below `2 ^ 64` times a power of ten, as a double. The significand is rounded
first, and every product or quotient is rounded again. There is no value if a product is too
large. -/
def scaled? (negative : Bool) (significand : Nat) (exponent : Int) : Option Binary64 :=
  let x := Binary64.ofFraction negative significand 1
  if 0 ≤ exponent then
    if exponent.toNat ≤ greatestPower then
      let product := x.scaleUp (powerOfTen exponent.toNat)
      if product.isInfinite then none else some product
    else if x.isZero then
      some x
    else
      none
  else
    let places := (-exponent).toNat
    let rounds := (places - 1) / greatestPower
    some ((divideDown rounds x).scaleDown (powerOfTen (places - rounds * greatestPower)))

/-- The exponent that a numeral states. -/
def Numeral.statedExponent (n : Numeral) : Int :=
  match n.exponent with
  | none => 0
  | some (negative, digits) => if negative then -(ofDigits digits : Int) else ofDigits digits

/-- Whether a numeral has neither fraction nor exponent. -/
def Numeral.isWhole (n : Numeral) : Bool :=
  n.fraction.isEmpty && n.exponent.isNone

/-- The number that a numeral spells. A whole number that fits into 64 bits is an integer, but for
negative zero, which is a double. For any other number as many leading digits count as fit into 64
bits; a digit before the point that is left out counts as a zero. -/
def Numeral.meaning? (n : Numeral) : Option Tree :=
  let (whole, _, skipped) := accumulate 0 n.whole
  if n.isWhole && skipped = 0 then
    if n.negative then
      if whole = 0 || 0x8000000000000000 < whole then
        some (.real (Binary64.ofFraction true whole 1))
      else
        (WordInteger.ofInt? (-(whole : Int))).map .integer
    else
      (WordInteger.ofInt? whole).map .integer
  else
    let (significand, taken, _) := accumulate whole n.fraction
    (scaled? n.negative significand (skipped - taken + n.statedExponent)).map .real

/-- How deep arrays and objects may lie in each other. -/
def greatestDepth : Nat := 127

mutual

/-- The tree that a form spells, if arrays and objects lie at most `depth` deep in it. -/
def meaning? : Nat → Form → Option Tree
  | _, .null => some .null
  | _, .bool b => some (.bool b)
  | _, .number n => n.meaning?
  | _, .string units => (stringOfUnits? units).map .string
  | 0, .array _ => none
  | 0, .object _ => none
  | depth + 1, .array items => (meaningOfItems? depth items).map .array
  | depth + 1, .object members =>
    (meaningOfMembers? depth members).map fun members => .object (sortMembers members)

/-- The trees that several forms spell. -/
def meaningOfItems? : Nat → List Form → Option (List Tree)
  | _, [] => some []
  | depth, item :: rest => do
    let item ← meaning? depth item
    let rest ← meaningOfItems? depth rest
    return item :: rest

/-- The members that the members of a form spell, in the order of the text. -/
def meaningOfMembers? : Nat → List (List StringUnit × Form) → Option (List (String × Tree))
  | _, [] => some []
  | depth, (key, value) :: rest => do
    let key ← stringOfUnits? key
    let value ← meaning? depth value
    let rest ← meaningOfMembers? depth rest
    return (key, value) :: rest

end

/-! ## Whatever a form means has its keys in order -/

theorem ordered_number {numeral : Numeral} {tree : Tree}
    (meant : numeral.meaning? = some tree) : tree.Throughout Tree.KeysAscending := by
  have integer {n : Option WordInteger} (meant : n.map .integer = some tree) :
      tree.Throughout Tree.KeysAscending := by
    obtain ⟨n, -, rfl⟩ := Option.map_eq_some_iff.1 meant
    exact trivial
  have real {x : Option Binary64} (meant : x.map .real = some tree) :
      tree.Throughout Tree.KeysAscending := by
    obtain ⟨x, -, rfl⟩ := Option.map_eq_some_iff.1 meant
    exact trivial
  simp only [Numeral.meaning?] at meant
  split at meant
  · split at meant
    · split at meant
      · cases meant
        exact trivial
      · exact integer meant
    · exact integer meant
  · exact real meant

mutual

theorem ordered_meaning : ∀ (n : Nat) (form : Form) (tree : Tree),
    meaning? n form = some tree → tree.Throughout Tree.KeysAscending
  | _, .null, tree, meant => by
      cases meant
      exact trivial
  | _, .bool b, tree, meant => by
      cases meant
      exact trivial
  | _, .number numeral, tree, meant => by
      rw [meaning?] at meant
      exact ordered_number meant
  | _, .string units, tree, meant => by
      rw [meaning?] at meant
      obtain ⟨s, -, rfl⟩ := Option.map_eq_some_iff.1 meant
      exact trivial
  | 0, .array items, tree, meant => by cases meant
  | 0, .object members, tree, meant => by cases meant
  | n + 1, .array items, tree, meant => by
      rw [meaning?] at meant
      obtain ⟨trees, inner, rfl⟩ := Option.map_eq_some_iff.1 meant
      exact ⟨trivial, ordered_meaningOfItems n items trees inner⟩
  | n + 1, .object members, tree, meant => by
      rw [meaning?] at meant
      obtain ⟨given, inner, rfl⟩ := Option.map_eq_some_iff.1 meant
      exact throughout_sortMembers (ordered_meaningOfMembers n members given inner)

theorem ordered_meaningOfItems : ∀ (n : Nat) (forms : List Form) (items : List Tree),
    meaningOfItems? n forms = some items → ThroughoutItems Tree.KeysAscending items
  | n, [], items, meant => by
      rw [meaningOfItems?] at meant
      cases meant
      exact trivial
  | n, form :: forms, items, meant => by
      simp only [meaningOfItems?, Option.bind_eq_bind, Option.bind_eq_some_iff] at meant
      obtain ⟨item, first, rest, others, same⟩ := meant
      cases same
      exact ⟨ordered_meaning n form item first, ordered_meaningOfItems n forms rest others⟩

theorem ordered_meaningOfMembers : ∀ (n : Nat) (forms : List (List StringUnit × Form))
    (members : List (String × Tree)),
    meaningOfMembers? n forms = some members → ThroughoutMembers Tree.KeysAscending members
  | n, [], members, meant => by
      rw [meaningOfMembers?] at meant
      cases meant
      exact trivial
  | n, (key, form) :: forms, members, meant => by
      simp only [meaningOfMembers?, Option.bind_eq_bind, Option.bind_eq_some_iff] at meant
      obtain ⟨name, -, value, first, rest, others, same⟩ := meant
      cases same
      exact ⟨ordered_meaning n form value first, ordered_meaningOfMembers n forms rest others⟩

end

/-- The document that a form spells, if arrays and objects lie at most `depth` deep in it. -/
def ofForm? (depth : Nat) (form : Form) : Option Json :=
  match meant : meaning? depth form with
  | some tree => some ⟨tree, ordered_meaning depth form tree meant⟩
  | none => none

theorem ofForm?_eq_some {depth : Nat} {form : Form} {document : Json}
    (meant : meaning? depth form = some document.tree) : ofForm? depth form = some document := by
  unfold ofForm?
  split
  · rename_i tree read
    rw [meant] at read
    exact congrArg some (Json.ext (Option.some.inj read).symm)
  · rename_i read
    rw [meant] at read
    cases read

/-- Reads a document. -/
def ofText? (s : String) : Option Json := do
  let form ← Form.ofText? s.toList
  ofForm? greatestDepth form

end SqlBuilder.Json
