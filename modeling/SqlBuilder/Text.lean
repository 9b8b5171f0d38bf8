set_option autoImplicit false

/-! # Texts

Trimming a text of its blanks, cutting it at every occurrence of one character, at the first
occurrence of a mark and at a known ending, and reading and writing hexadecimal digits. -/

namespace SqlBuilder.Text

/-! ## Blank characters

The characters with the Unicode property White_Space. Names, aliases and environment values are
trimmed by this class; it is wider than the ASCII blanks, and it leaves out the zero-width
characters. -/

/-- The code points with the property White_Space, as closed ranges in ascending order. -/
def blankRanges : List (Nat × Nat) :=
  [(0x09, 0x0D), (0x20, 0x20), (0x85, 0x85), (0xA0, 0xA0), (0x1680, 0x1680), (0x2000, 0x200A),
    (0x2028, 0x2029), (0x202F, 0x202F), (0x205F, 0x205F), (0x3000, 0x3000)]

/-- Whether a character is blank. -/
def isBlank (c : Char) : Bool :=
  blankRanges.any fun range => range.1 ≤ c.toNat && c.toNat ≤ range.2

/-- A text without its leading blanks. -/
def trimStart (s : List Char) : List Char :=
  s.dropWhile isBlank

/-- A text without its trailing blanks. -/
def trimEnd (s : List Char) : List Char :=
  (s.reverse.dropWhile isBlank).reverse

/-- A text without its leading and trailing blanks. -/
def trim (s : List Char) : List Char :=
  trimEnd (trimStart s)

/-! ## Splitting -/

/-- The pieces between the occurrences of `d`: always one piece more than there are occurrences. -/
def pieces (d : Char) : List Char → List (List Char)
  | [] => [[]]
  | c :: rest =>
    if c = d then
      [] :: pieces d rest
    else
      match pieces d rest with
      | [] => [[c]]
      | p :: ps => (c :: p) :: ps

/-- The text before and the text after the first occurrence of a non-empty mark. -/
def cut? (mark : List Char) : List Char → Option (List Char × List Char)
  | [] => none
  | c :: rest =>
    if mark.isPrefixOf (c :: rest) then
      some ([], (c :: rest).drop mark.length)
    else
      (cut? mark rest).map fun halves => (c :: halves.1, halves.2)

/-- The text before a given ending. -/
def dropEnding? (ending s : List Char) : Option (List Char) :=
  if ending.isSuffixOf s then some (s.take (s.length - ending.length)) else none

theorem pieces_ne_nil (d : Char) (s : List Char) : pieces d s ≠ [] := by
  cases s with
  | nil => simp [pieces]
  | cons c rest =>
    simp only [pieces]
    split
    · simp
    · split <;> simp

/-! ## Hexadecimal digits -/

/-- The value of a hexadecimal digit in either case. -/
def hexValue? (c : Char) : Option Nat :=
  let n := c.toNat
  if 0x30 ≤ n ∧ n ≤ 0x39 then some (n - 0x30)
  else if 0x41 ≤ n ∧ n ≤ 0x46 then some (n - 0x37)
  else if 0x61 ≤ n ∧ n ≤ 0x66 then some (n - 0x57)
  else none

/-- The lower-case hexadecimal digit of a number below sixteen. -/
def hexDigit (n : Nat) : Char :=
  if n < 10 then Char.ofNat (0x30 + n) else Char.ofNat (0x57 + n)

/-- The last `count` hexadecimal digits of a number, the leading one first. -/
def hexDigits : Nat → Nat → List Char
  | 0, _ => []
  | count + 1, n => hexDigits count (n / 16) ++ [hexDigit (n % 16)]

/-- The number that hexadecimal digits spell after the digits of `n`. -/
def readHexFrom (n : Nat) : List Char → Option Nat
  | [] => some n
  | c :: rest =>
    match hexValue? c with
    | some digit => readHexFrom (n * 16 + digit) rest
    | none => none

/-- The number that hexadecimal digits spell. -/
def readHex? (digits : List Char) : Option Nat :=
  readHexFrom 0 digits

end SqlBuilder.Text
