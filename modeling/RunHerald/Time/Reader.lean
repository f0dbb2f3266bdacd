import RunHerald.Text.Blank
import RunHerald.Text.Numeral
import RunHerald.Time.Timestamp

/-!
# Reading points in time

The accepted form is that of RFC 3339 with some freedom: blanks may stand before every number and
separator, a year may have a sign and then any number of digits, one to the full width of digits
suffice elsewhere, the letter between date and time may be a space, and the offset may be the word
`UTC` or leave out its colon.

`Timestamp.parse` reads a whole text; `TimestampFault` says what is wrong with it.
-/

set_option autoImplicit false

namespace RunHerald

/-- Why a text is no point in time. -/
inductive TimestampFault where
  | outOfRange
  | impossible
  | invalid
  | tooShort
  | tooLong
  deriving DecidableEq, Repr

/-- The wording of a fault. -/
def TimestampFault.message : TimestampFault → String
  | .outOfRange => "input is out of range"
  | .impossible => "no possible date and time matching input"
  | .invalid => "input contains invalid characters"
  | .tooShort => "premature end of input"
  | .tooLong => "trailing input"

namespace Timestamp

/-- The greatest number that digits may stand for. -/
def maxNumber : Nat := 9223372036854775807

/-- Reads the digits at the front of a text that holds at least one. -/
def readDigits (cs : List Char) : Except TimestampFault (List Char × List Char) :=
  match cs with
  | [] => .error .tooShort
  | _ =>
    match cs.span Char.isDigit with
    | ([], _) => .error .invalid
    | (digits, rest) => .ok (digits, rest)

/-- Reads a number without a limit on its digits. -/
def readLong (cs : List Char) : Except TimestampFault (Nat × List Char) := do
  let (digits, rest) ← readDigits cs
  if maxNumber < numeralValue digits then throw .outOfRange
  return (numeralValue digits, rest)

/-- Reads a number of at most `width` digits. -/
def readShort (width : Nat) (cs : List Char) : Except TimestampFault (Nat × List Char) := do
  let (digits, _) ← readDigits (cs.take width)
  return (numeralValue digits, cs.drop digits.length)

/-- Reads a number of at most two digits between two bounds, after blanks. -/
def readField (low high : Nat) (cs : List Char) : Except TimestampFault (Nat × List Char) := do
  let (n, rest) ← readShort 2 (trimLeft cs)
  if n < low ∨ high < n then throw .outOfRange
  return (n, rest)

/-- Years beyond 32 bits are refused at once, others only with their date. -/
def boundYear (n : Int) (rest : List Char) : Except TimestampFault (Int × List Char) :=
  if -2147483648 ≤ n ∧ n < 2147483648 then .ok (n, rest) else .error .outOfRange

/-- Reads a year after blanks. -/
def readYear (cs : List Char) : Except TimestampFault (Int × List Char) :=
  match trimLeft cs with
  | '-' :: rest => do
    let (n, rest) ← readLong rest
    boundYear (-(n : Int)) rest
  | '+' :: rest => do
    let (n, rest) ← readLong rest
    boundYear n rest
  | cs => do
    let (n, rest) ← readShort 4 cs
    boundYear n rest

/-- Reads a separator after blanks. -/
def readSeparator (c : Char) (cs : List Char) : Except TimestampFault (Unit × List Char) :=
  match trimLeft cs with
  | [] => .error .tooShort
  | d :: rest => if d = c then .ok ((), rest) else .error .invalid

/-- Reads a fraction of a second, if there is one. Digits after the ninth do not count. -/
def readFraction : List Char → Except TimestampFault (Nat × List Char)
  | '.' :: rest => do
    let (digits, rest) ← readDigits rest
    let kept := digits.take 9
    return (numeralValue kept * Nat.pow 10 (9 - kept.length), rest)
  | cs => .ok (0, cs)

/-- The numbers of a date, before it is known whether there is such a day. -/
structure DayNumbers where
  year : Int
  month : Nat
  day : Nat

/-- Reads a date. -/
def readDate (cs : List Char) : Except TimestampFault (DayNumbers × List Char) := do
  let (year, cs) ← readYear cs
  let (_, cs) ← readSeparator '-' cs
  let (month, cs) ← readField 1 12 cs
  let (_, cs) ← readSeparator '-' cs
  let (day, cs) ← readField 1 31 cs
  return (⟨year, month, day⟩, cs)

/-- Reads what stands between date and time. -/
def readMiddle : List Char → Except TimestampFault (Unit × List Char)
  | [] => .error .tooShort
  | c :: rest => if c = 't' ∨ c = 'T' ∨ c = ' ' then .ok ((), rest) else .error .invalid

/-- Reads a time of day. -/
def readTime (cs : List Char) : Except TimestampFault (TimeOfDay × List Char) := do
  let (hour, cs) ← readField 0 23 cs
  let (_, cs) ← readSeparator ':' cs
  let (minute, cs) ← readField 0 59 cs
  let (_, cs) ← readSeparator ':' cs
  let (second, cs) ← readField 0 60 cs
  let (nanos, cs) ← readFraction cs
  return (⟨hour, minute, second, nanos⟩, cs)

/-- The next two characters of a text that has at least two bytes left. -/
def twoChars (cs : List Char) : Except TimestampFault (Option (Nat × Nat) × List Char) :=
  match cs with
  | a :: b :: rest =>
    if a.isDigit ∧ b.isDigit then .ok (some (digitValue a, digitValue b), rest)
    else .ok (none, rest)
  | [a] => if a.utf8Size < 2 then .error .tooShort else .ok (none, [])
  | [] => .error .tooShort

/-- Reads the numbers of an offset, after its sign: hours and minutes, two digits each. -/
def readSpan (cs : List Char) : Except TimestampFault (Nat × List Char) := do
  let (hours, cs) ← twoChars cs
  match hours with
  | none => throw .invalid
  | some (h₁, h₂) =>
    let (minutes, cs) ← twoChars (cs.dropWhile fun c => c = ':' || isBlank c)
    match minutes with
    | none => throw .invalid
    | some (m₁, m₂) =>
      if 6 ≤ m₁ then throw .outOfRange
      return ((h₁ * 10 + h₂) * 60 + (m₁ * 10 + m₂), cs)

/-- Whether a text begins with the word `UTC`, in letters of either case. -/
def startsWithUtc (cs : List Char) : Bool := (cs.take 3).map Char.toUpper = ['U', 'T', 'C']

/-- Reads an offset from UTC after blanks, in minutes. -/
def readOffset (cs : List Char) : Except TimestampFault (Int × List Char) :=
  let cs := trimLeft cs
  if startsWithUtc cs then .ok (0, cs.drop 3)
  else
    match cs with
    | [] => .error .tooShort
    | c :: rest =>
      if c = 'Z' ∨ c = 'z' then .ok (0, rest)
      else if c = '+' then do
        let (n, rest) ← readSpan rest
        return ((n : Int), rest)
      else if c = '-' ∨ c = '\u2212' then do
        let (n, rest) ← readSpan rest
        return (-(n : Int), rest)
      else .error .invalid

/-- The point in time with the numbers read, if there is one. -/
def resolve (d : DayNumbers) (t : TimeOfDay) (ahead : Int) : Except TimestampFault Timestamp :=
  match Date.make? d.year d.month d.day with
  | none => .error .outOfRange
  | some date =>
    if ahead ≤ -1440 ∨ 1440 ≤ ahead then .error .outOfRange
    else
      match ofLocal? date t ahead with
      | none => .error .impossible
      | some ts => .ok ts

/-- Reads a text that is a point in time. -/
def parse (s : String) : Except TimestampFault Timestamp := do
  let (d, cs) ← readDate s.toList
  let (_, cs) ← readMiddle cs
  let (t, cs) ← readTime cs
  let (ahead, cs) ← readOffset cs
  if (trimLeft cs) ≠ [] then throw .tooLong
  resolve d t ahead

end Timestamp

end RunHerald
