import RunHerald.Time.Timestamp

/-!
# Writing points in time

A point in time is written in UTC: four digits of the year, or a sign and at least four outside the
years 0 to 9999, two digits of each other number, the letter `T` between date and time and `Z` at
the end. Of the fraction only as many groups of three digits are written as are needed.
-/

set_option autoImplicit false

namespace RunHerald

/-- The last `width` decimal digits of a number, with leading zeros. -/
def paddedDigits : Nat → Nat → List Char
  | 0, _ => []
  | width + 1, n => paddedDigits width (n / 10) ++ [Nat.digitChar (n % 10)]

/-- A year as it is written. -/
def yearText (year : Int) : List Char :=
  if 0 ≤ year ∧ year ≤ 9999 then paddedDigits 4 year.toNat
  else
    let n := year.natAbs
    let digits := if n ≤ 9999 then paddedDigits 4 n else (Nat.toDigits 10 n)
    (if year < 0 then '-' else '+') :: digits

/-- A fraction of a second as it is written, with its point. -/
def fractionText (nanos : Nat) : List Char :=
  if nanos = 0 then []
  else if nanos % 1000000 = 0 then '.' :: paddedDigits 3 (nanos / 1000000)
  else if nanos % 1000 = 0 then '.' :: paddedDigits 6 (nanos / 1000)
  else '.' :: paddedDigits 9 nanos

/-- A point in time as it is written. -/
def Timestamp.text (t : Timestamp) : String :=
  String.ofList
    (yearText t.date.year ++ '-' :: paddedDigits 2 t.date.month ++ '-' :: paddedDigits 2 t.date.day
      ++ 'T' :: paddedDigits 2 t.hour ++ ':' :: paddedDigits 2 t.minute ++ ':'
      :: paddedDigits 2 t.second ++ fractionText t.nanos ++ ['Z'])

end RunHerald
