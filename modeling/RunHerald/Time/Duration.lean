/-!
# Lengths of time

A `Duration` is a number of seconds and nanoseconds. `Duration.text` describes it in the greatest
unit of which it has at least one, without trailing zeros.
-/

set_option autoImplicit false

namespace RunHerald

/-- A length of time. -/
structure Duration where
  seconds : Nat
  nanos : Nat
  deriving DecidableEq, Repr, Inhabited

namespace Duration

/-- So many seconds. -/
def ofSeconds (n : Nat) : Duration := ⟨n, 0⟩

/-- So many thousandths of a second. -/
def ofMillis (n : Nat) : Duration := ⟨n / 1000, n % 1000 * 1000000⟩

/-- The digits of a fraction, without trailing zeros: `rest / 10 ^ places`. -/
def fraction (rest places : Nat) : List Char :=
  let digits := Nat.toDigits 10 (Nat.pow 10 places + rest)
  ((digits.drop 1).reverse.dropWhile (· = '0')).reverse

/-- A number with a fraction and a unit. -/
def withUnit (whole rest places : Nat) (unit : String) : String :=
  let tail := if rest = 0 then [] else '.' :: fraction rest places
  toString whole ++ String.ofList tail ++ unit

/-- The description of a length of time. -/
def text (d : Duration) : String :=
  if d.seconds ≠ 0 then withUnit d.seconds d.nanos 9 "s"
  else if 1000000 ≤ d.nanos then withUnit (d.nanos / 1000000) (d.nanos % 1000000) 6 "ms"
  else if 1000 ≤ d.nanos then withUnit (d.nanos / 1000) (d.nanos % 1000) 3 "µs"
  else withUnit d.nanos 0 0 "ns"

end Duration

end RunHerald
