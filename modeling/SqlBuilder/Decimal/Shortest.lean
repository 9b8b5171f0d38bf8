import SqlBuilder.Decimal.Binary64

set_option autoImplicit false

/-! # The shortest decimal of a double

Among the decimals that are read back as a given double, the one with the fewest digits, and of
several with equally few the nearest to the double. The reals that round to a double form an
interval; the decimals with one more digit each are the points of ever finer grids, and the first
grid with a point in the interval gives the answer. On a grid only the two neighbours of the double
can be nearest. -/

namespace SqlBuilder

/-- The decimal `digits * 10 ^ exponent`. -/
structure Decimal where
  digits : Nat
  exponent : Int
deriving DecidableEq, Repr

/-- Which of two equally near decimals is taken. -/
inductive Tie where
  /-- The one whose last digit is even. -/
  | even
  /-- The greater one. -/
  | up
deriving DecidableEq, Repr

namespace Decimal

/-- How many decimal digits a number has; zero has one. -/
def width (n : Nat) : Nat :=
  (Nat.toDigits 10 n).length

/-- The same decimal with the trailing zeros of its digits, at most `n` of them, moved into the
exponent. -/
def stripZeros : Nat → Decimal → Decimal
  | 0, d => d
  | n + 1, d => if d.digits % 10 = 0 then stripZeros n ⟨d.digits / 10, d.exponent + 1⟩ else d

/-- Compares `a * 10 ^ i` with `num / den`. -/
def compareFraction (a : Nat) (i : Int) (num den : Nat) : Ordering :=
  compare (a * Nat.pow 10 i.toNat * den) (num * Nat.pow 10 (-i).toNat)

/-- Whether a decimal is read back as the absolute value of `x`: whether it lies between the
midpoints to the two neighbours of `x`. The midpoints themselves belong to the even significand, and
below a power of two the neighbour is only half as far away. -/
def readsBack (x : Binary64) (a : Nat) (i : Int) : Bool :=
  let m := x.significand
  let below := if x.fractionField = 0 && 1 < x.exponentField then 4 * m - 1 else 4 * m - 2
  let above := 4 * m + 2
  let scale := Nat.pow 2 x.exponent.toNat
  let den := 4 * x.denominator
  let low := compareFraction a i (below * scale) den
  let high := compareFraction a i (above * scale) den
  let closed := m % 2 == 0
  (low == .gt || (closed && low == .eq)) && (high == .lt || (closed && high == .eq))

/-- The exponent of the leading digit of a positive fraction: the greatest `k` with
`10 ^ k ≤ num / den`. -/
def leadingDigit (num den : Nat) : Int :=
  if den ≤ num then
    (width (num / den) : Int) - 1
  else
    -(width ((den + num - 1) / num - 1) : Int)

/-- The point nearest to `x` on the grid of the multiples of `10 ^ i`, if it is read back as
`x`. -/
def onGrid? (tie : Tie) (x : Binary64) (i : Int) : Option Nat :=
  let num := x.numerator * Nat.pow 10 (-i).toNat
  let den := x.denominator * Nat.pow 10 i.toNat
  let a := num / den
  match readsBack x a i, readsBack x (a + 1) i with
  | false, false => none
  | true, false => some a
  | false, true => some (a + 1)
  | true, true =>
    match compare (2 * num) ((2 * a + 1) * den) with
    | .lt => some a
    | .gt => some (a + 1)
    | .eq =>
      match tie with
      | .up => some (a + 1)
      | .even => if a % 2 = 0 then some a else some (a + 1)

/-- The first of the grids `10 ^ i`, `10 ^ (i - 1)`, …, at most `n` of them, with a point that is
read back as `x`. If there were none, the exact value is the answer. -/
def firstGrid (tie : Tie) (x : Binary64) : Nat → Int → Decimal
  | 0, _ =>
    let places := (-x.exponent).toNat
    ⟨x.numerator * Nat.pow 5 places, -(places : Int)⟩
  | n + 1, i =>
    match onGrid? tie x i with
    | some a => ⟨a, i⟩
    | none => firstGrid tie x n (i - 1)

/-- The shortest decimal that is read back as the absolute value of a finite double. Seventeen
digits tell all doubles apart. -/
def shortest (tie : Tie) (x : Binary64) : Decimal :=
  if x.isZero then
    ⟨0, 0⟩
  else
    let found := firstGrid tie x 17 (leadingDigit x.numerator x.denominator)
    stripZeros (width found.digits) found

/-! ## Layout -/

/-- The digits before and after the decimal point in positional notation. There is at least one
digit before the point; there may be none after it. -/
def positional (d : Decimal) : List Char × List Char :=
  let digits := Nat.toDigits 10 d.digits
  if 0 ≤ d.exponent then
    (digits ++ List.replicate d.exponent.toNat '0', [])
  else
    let places := (-d.exponent).toNat
    if digits.length ≤ places then
      (['0'], List.replicate (places - digits.length) '0' ++ digits)
    else
      (digits.take (digits.length - places), digits.drop (digits.length - places))

/-- The exponent of the leading digit. -/
def magnitude (d : Decimal) : Int :=
  d.exponent + width d.digits - 1

/-- One digit, the others after a point if there are any, and the exponent of ten with its
sign. -/
def scientific (d : Decimal) : List Char :=
  let mantissa :=
    match Nat.toDigits 10 d.digits with
    | [] => []
    | [digit] => [digit]
    | digit :: rest => digit :: '.' :: rest
  let sign := if 0 ≤ d.magnitude then '+' else '-'
  mantissa ++ 'e' :: sign :: Nat.toDigits 10 d.magnitude.natAbs

end Decimal

end SqlBuilder
