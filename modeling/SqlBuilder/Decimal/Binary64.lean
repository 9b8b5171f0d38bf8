set_option autoImplicit false

/-! # Double-precision numbers

A double is kept as its 64 bits, and everything about it is said in exact integer arithmetic: a
finite double is a significand times a power of two, and a fraction is rounded to the nearest double,
ties to the even significand. -/

namespace SqlBuilder

/-- A number in the binary64 format, given by its bits: sign, eleven bits of exponent, fifty-two
bits of fraction. -/
structure Binary64 where
  bits : UInt64
deriving DecidableEq, Repr

/-- The integer nearest to a fraction; a tie goes to the even one. -/
def roundToEven (num den : Nat) : Nat :=
  let quotient := num / den
  let remainder := num % den
  if 2 * remainder < den then quotient
  else if den < 2 * remainder then quotient + 1
  else if quotient % 2 = 0 then quotient
  else quotient + 1

namespace Binary64

/-- The bits of infinity without its sign: all bits of the exponent set, none of the fraction. -/
def infinityBits : Nat := 2047 * Nat.pow 2 52

/-- Whether the sign bit is set. -/
def isNegative (x : Binary64) : Bool :=
  Nat.pow 2 63 ≤ x.bits.toNat

/-- The bits without the sign. They order the non-negative doubles. -/
def unsignedBits (x : Binary64) : Nat :=
  x.bits.toNat % Nat.pow 2 63

/-- Whether the bits stand for no number. -/
def isNaN (x : Binary64) : Bool :=
  infinityBits < x.unsignedBits

/-- Whether the bits stand for one of the infinities. -/
def isInfinite (x : Binary64) : Bool :=
  x.unsignedBits == infinityBits

/-- Whether the bits stand for a finite number. -/
def isFinite (x : Binary64) : Bool :=
  x.unsignedBits < infinityBits

/-- Whether the bits stand for one of the two zeros. -/
def isZero (x : Binary64) : Bool :=
  x.unsignedBits == 0

/-- Equality of numbers: the two zeros are equal, and what is no number equals nothing. -/
def same (x y : Binary64) : Bool :=
  !x.isNaN && !y.isNaN && (x == y || (x.isZero && y.isZero))

/-- The exponent field. -/
def exponentField (x : Binary64) : Nat :=
  x.unsignedBits / Nat.pow 2 52

/-- The fraction field. -/
def fractionField (x : Binary64) : Nat :=
  x.unsignedBits % Nat.pow 2 52

/-- The integer `m` of a finite value `m * 2 ^ q`. -/
def significand (x : Binary64) : Nat :=
  if x.exponentField = 0 then x.fractionField else Nat.pow 2 52 + x.fractionField

/-- The exponent `q` of a finite value `m * 2 ^ q`. -/
def exponent (x : Binary64) : Int :=
  if x.exponentField = 0 then -1074 else (x.exponentField : Int) - 1075

/-- The numerator of the absolute value of a finite double. -/
def numerator (x : Binary64) : Nat :=
  x.significand * Nat.pow 2 x.exponent.toNat

/-- The denominator that belongs to the numerator. -/
def denominator (x : Binary64) : Nat :=
  Nat.pow 2 (-x.exponent).toNat

/-- The double with a sign and the bits that follow it. -/
def ofSign (negative : Bool) (unsignedBits : Nat) : Binary64 :=
  ⟨UInt64.ofNat (if negative then Nat.pow 2 63 + unsignedBits else unsignedBits)⟩

/-- The exponent of the leading bit of a positive fraction: the greatest `k` with
`2 ^ k ≤ num / den`. -/
def leadingBit (num den : Nat) : Int :=
  let k : Int := (num.log2 : Int) - den.log2
  if num * Nat.pow 2 (-k).toNat < den * Nat.pow 2 k.toNat then k - 1 else k

/-- The double nearest to a fraction, ties to the even significand. A fraction that is nearer to the
next power of two than to the greatest finite double becomes an infinity. The significand is added
to the exponent field, so that one that is rounded up to a power of two carries into it. -/
def ofFraction (negative : Bool) (num den : Nat) : Binary64 :=
  if num = 0 then
    ofSign negative 0
  else
    let q : Int := max (leadingBit num den - 52) (-1074)
    let m := roundToEven (num * Nat.pow 2 (-q).toNat) (den * Nat.pow 2 q.toNat)
    ofSign negative (min ((q + 1074).toNat * Nat.pow 2 52 + m) infinityBits)

/-- The double with the value of a single-precision number, given by its 32 bits. -/
def ofSingleBits (bits : UInt32) : Binary64 :=
  let n := bits.toNat
  let negative := decide (Nat.pow 2 31 ≤ n)
  let e := n / Nat.pow 2 23 % Nat.pow 2 8
  let f := n % Nat.pow 2 23
  if e = 255 then
    ofSign negative (infinityBits + f * Nat.pow 2 29)
  else if e = 0 then
    ofFraction negative f (Nat.pow 2 149)
  else
    ofFraction negative ((Nat.pow 2 23 + f) * Nat.pow 2 e) (Nat.pow 2 150)

/-- The rounded product of the absolute values of two finite doubles, with the sign of the
first. -/
def scaleUp (x factor : Binary64) : Binary64 :=
  ofFraction x.isNegative (x.numerator * factor.numerator) (x.denominator * factor.denominator)

/-- The rounded quotient of the absolute values of two finite doubles, with the sign of the
first. -/
def scaleDown (x divisor : Binary64) : Binary64 :=
  ofFraction x.isNegative (x.numerator * divisor.denominator) (x.denominator * divisor.numerator)

end Binary64

end SqlBuilder
