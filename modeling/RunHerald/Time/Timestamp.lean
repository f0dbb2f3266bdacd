/-!
# Points in time

A `Date` is a day of the Gregorian calendar, extended to all years in a wide range; a `Timestamp` is
a date and a time of day in UTC, to the nanosecond. A minute may have a sixtieth second.

`Timestamp.ofLocal` turns a local time and its offset from UTC into a timestamp. Offsets are whole
minutes and less than a day, so at most the neighbouring day is reached.
-/

set_option autoImplicit false

namespace RunHerald

/-- Whether a year has a leap day. -/
def isLeapYear (year : Int) : Bool := year % 4 = 0 && (year % 100 ≠ 0 || year % 400 = 0)

/-- The number of days in a month. -/
def daysInMonth (year : Int) (month : Nat) : Nat :=
  if month = 2 then (if isLeapYear year then 29 else 28)
  else if month = 4 ∨ month = 6 ∨ month = 9 ∨ month = 11 then 30
  else 31

/-- The first year of the calendar. -/
def minYear : Int := -262143

/-- The last year of the calendar. -/
def maxYear : Int := 262142

/-- A day of the calendar. -/
structure Date where
  year : Int
  month : Nat
  day : Nat
  year_ge : minYear ≤ year
  year_le : year ≤ maxYear
  month_pos : 1 ≤ month
  month_le : month ≤ 12
  day_pos : 1 ≤ day
  day_le : day ≤ daysInMonth year month
  deriving DecidableEq

/-- A point in time, in UTC. -/
structure Timestamp where
  date : Date
  hour : Nat
  minute : Nat
  second : Nat
  nanos : Nat
  hour_lt : hour < 24
  minute_lt : minute < 60
  second_le : second ≤ 60
  nanos_lt : nanos < 1000000000
  deriving DecidableEq

/-- The day with the given numbers, if there is one. -/
def Date.make? (year : Int) (month day : Nat) : Option Date :=
  if h : minYear ≤ year ∧ year ≤ maxYear ∧ 1 ≤ month ∧ month ≤ 12 ∧ 1 ≤ day
      ∧ day ≤ daysInMonth year month then
    some ⟨year, month, day, h.1, h.2.1, h.2.2.1, h.2.2.2.1, h.2.2.2.2.1, h.2.2.2.2.2⟩
  else none

/-- The day after a day, if the calendar goes on. -/
def Date.next? (d : Date) : Option Date :=
  match make? d.year d.month (d.day + 1) with
  | some e => some e
  | none =>
    match make? d.year (d.month + 1) 1 with
    | some e => some e
    | none => make? (d.year + 1) 1 1

/-- The day before a day, if the calendar has begun. -/
def Date.previous? (d : Date) : Option Date :=
  if 1 < d.day then make? d.year d.month (d.day - 1)
  else if 1 < d.month then make? d.year (d.month - 1) (daysInMonth d.year (d.month - 1))
  else make? (d.year - 1) 12 31

/-- The numbers of a time of day. -/
structure TimeOfDay where
  hour : Nat
  minute : Nat
  second : Nat
  nanos : Nat
  deriving DecidableEq, Repr

/-- The point in time with a date and a time of day in UTC. -/
def Timestamp.make? (date : Date) (t : TimeOfDay) : Option Timestamp :=
  if h : t.hour < 24 ∧ t.minute < 60 ∧ t.second ≤ 60 ∧ t.nanos < 1000000000 then
    some ⟨date, t.hour, t.minute, t.second, t.nanos, h.1, h.2.1, h.2.2.1, h.2.2.2⟩
  else none

/-- The point in time with a local date and time of day, at the given number of minutes ahead of
UTC. -/
def Timestamp.ofLocal? (date : Date) (t : TimeOfDay) (ahead : Int) : Option Timestamp := do
  let m : Int := (t.hour * 60 + t.minute : Nat) - ahead
  let date ← if m < 0 then date.previous? else if 1440 ≤ m then date.next? else some date
  let m := (m % 1440).toNat
  make? date ⟨m / 60, m % 60, t.second, t.nanos⟩

/-- The beginning of the year 1970. -/
def Timestamp.epoch : Timestamp where
  date := ⟨1970, 1, 1, by decide, by decide, by decide, by decide, by decide, by decide⟩
  hour := 0
  minute := 0
  second := 0
  nanos := 0
  hour_lt := by decide
  minute_lt := by decide
  second_le := by decide
  nanos_lt := by decide

instance : Inhabited Timestamp := ⟨.epoch⟩

/-- The fields of a date make the date. -/
theorem Date.make?_self (d : Date) : make? d.year d.month d.day = some d := by
  obtain ⟨y, m, d, h₁, h₂, h₃, h₄, h₅, h₆⟩ := d
  exact dif_pos ⟨h₁, h₂, h₃, h₄, h₅, h₆⟩

/-- At no offset a local time is the time in UTC. -/
theorem Timestamp.ofLocal?_zero (t : Timestamp) :
    ofLocal? t.date ⟨t.hour, t.minute, t.second, t.nanos⟩ 0 = some t := by
  obtain ⟨d, h, m, s, n, h₁, h₂, h₃, h₄⟩ := t
  have e₁ : ¬((h * 60 + m : Nat) : Int) - 0 < 0 := by omega
  have e₂ : ¬(1440 : Int) ≤ ((h * 60 + m : Nat) : Int) - 0 := by omega
  have e₃ : ((((h * 60 + m : Nat) : Int) - 0) % 1440).toNat / 60 = h := by omega
  have e₄ : ((((h * 60 + m : Nat) : Int) - 0) % 1440).toNat % 60 = m := by omega
  simp only [ofLocal?, e₁, e₂, if_false, Option.bind_eq_bind, Option.bind_some, e₃, e₄]
  exact dif_pos ⟨h₁, h₂, h₃, h₄⟩

end RunHerald
