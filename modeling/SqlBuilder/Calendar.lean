set_option autoImplicit false

/-! # Dates and times

Calendar values as they are bound to placeholders, and their two texts: the ISO form, and the plain
form without fractions of a second. -/

namespace SqlBuilder

/-- A day of the proleptic Gregorian calendar. -/
structure Date where
  year : Int
  month : Nat
  day : Nat
deriving DecidableEq, Repr

/-- A time of day. During a leap second `second` stays at 59 and `nanosecond` is a thousand million
or more. -/
structure TimeOfDay where
  hour : Nat
  minute : Nat
  second : Nat
  nanosecond : Nat
deriving DecidableEq, Repr

/-- A day and a time of day. -/
structure DateTime where
  date : Date
  time : TimeOfDay
deriving DecidableEq, Repr

/-- A number in decimal digits, with zeros in front up to the given width. -/
def padded (width n : Nat) : String :=
  let digits := Nat.toDigits 10 n
  String.ofList (List.replicate (width - digits.length) '0' ++ digits)

namespace Date

/-- The year in at least four digits. The years that need more, and those before year 0, carry
their sign. -/
def yearText (year : Int) : String :=
  if year < 0 then "-" ++ padded 4 year.natAbs
  else if year ≤ 9999 then padded 4 year.natAbs
  else "+" ++ padded 4 year.natAbs

/-- Year, month and day with hyphens. -/
def text (d : Date) : String :=
  yearText d.year ++ "-" ++ padded 2 d.month ++ "-" ++ padded 2 d.day

end Date

namespace TimeOfDay

/-- A second in nanoseconds. -/
def nanosPerSecond : Nat := 1000000000

/-- Hours, minutes and seconds with colons. A leap second counts as second 60. -/
def text (t : TimeOfDay) : String :=
  padded 2 t.hour ++ ":" ++ padded 2 t.minute ++ ":"
    ++ padded 2 (t.second + t.nanosecond / nanosPerSecond)

/-- The fraction of the second after a point, in 0, 3, 6 or 9 digits: the fewest that are
exact. -/
def fraction (t : TimeOfDay) : String :=
  let nanos := t.nanosecond % nanosPerSecond
  if nanos = 0 then ""
  else if nanos % 1000000 = 0 then "." ++ padded 3 (nanos / 1000000)
  else if nanos % 1000 = 0 then "." ++ padded 6 (nanos / 1000)
  else "." ++ padded 9 nanos

end TimeOfDay

namespace DateTime

/-- The ISO form: a `T` between date and time, and the fraction of the second. -/
def isoText (t : DateTime) : String :=
  t.date.text ++ "T" ++ t.time.text ++ t.time.fraction

/-- The form of SQL literals: a blank between date and time, whole seconds. -/
def plainText (t : DateTime) : String :=
  t.date.text ++ " " ++ t.time.text

end DateTime

end SqlBuilder
