set_option autoImplicit false

/-! # Reading bytes as UTF-8

A reader that never fails: every maximal part of the input that starts a character but does not
finish it, and every byte that starts none, is read as one replacement character. -/

namespace SqlBuilder.Text

/-- A character begun but not finished: the value of its bits so far, how many bytes are missing,
and the range in which the next byte must lie. -/
structure Utf8Part where
  value : Nat
  missing : Nat
  low : Nat
  high : Nat

/-- The character that stands for bytes that spell none. -/
def replacement : Char := Char.ofNat 0xFFFD

/-- What a first byte of two or more begins. The bounds on the second byte shut out the
overlong spellings, the surrogates and the numbers beyond the last code point. -/
def Utf8Part.start? (b : Nat) : Option Utf8Part :=
  if b < 0xC2 then none
  else if b < 0xE0 then some ⟨b - 0xC0, 1, 0x80, 0xBF⟩
  else if b = 0xE0 then some ⟨0, 2, 0xA0, 0xBF⟩
  else if b = 0xED then some ⟨0xD, 2, 0x80, 0x9F⟩
  else if b < 0xF0 then some ⟨b - 0xE0, 2, 0x80, 0xBF⟩
  else if b = 0xF0 then some ⟨0, 3, 0x90, 0xBF⟩
  else if b < 0xF4 then some ⟨b - 0xF0, 3, 0x80, 0xBF⟩
  else if b = 0xF4 then some ⟨4, 3, 0x80, 0x8F⟩
  else none

/-- The first byte of a character: what it yields at once, and what it leaves open. -/
def utf8Start (b : Nat) : List Char × Option Utf8Part :=
  if b < 0x80 then
    ([Char.ofNat b], none)
  else
    match Utf8Part.start? b with
    | some part => ([], some part)
    | none => ([replacement], none)

/-- The next byte, given what is open. A byte that does not continue the open character ends it
with a replacement and starts afresh. -/
def utf8Step (pending : Option Utf8Part) (b : Nat) : List Char × Option Utf8Part :=
  match pending with
  | none => utf8Start b
  | some part =>
    if part.low ≤ b ∧ b ≤ part.high then
      let value := part.value * 64 + (b - 0x80)
      if part.missing = 1 then
        ([Char.ofNat value], none)
      else
        ([], some ⟨value, part.missing - 1, 0x80, 0xBF⟩)
    else
      let fresh := utf8Start b
      (replacement :: fresh.1, fresh.2)

/-- The rest of the bytes, given what is open. -/
def readUtf8From (pending : Option Utf8Part) : List UInt8 → List Char
  | [] => if pending.isSome then [replacement] else []
  | b :: rest =>
    let read := utf8Step pending b.toNat
    read.1 ++ readUtf8From read.2 rest

/-- The bytes as text, with replacement characters where they spell none. -/
def readUtf8 (bytes : List UInt8) : String :=
  String.ofList (readUtf8From none bytes)

end SqlBuilder.Text
