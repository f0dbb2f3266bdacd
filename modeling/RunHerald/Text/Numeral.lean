/-!
# Numerals

A numeral is a run of decimal digits with an optional plus sign before it. Its value may be bounded;
a numeral beyond the bound is refused like any other text that is no numeral.
-/

set_option autoImplicit false

namespace RunHerald

/-- The value of a decimal digit. -/
def digitValue (c : Char) : Nat := c.toNat - '0'.toNat

/-- The number that a run of decimal digits stands for. -/
def numeralValue (digits : List Char) : Nat := digits.foldl (fun n c => n * 10 + digitValue c) 0

/-- The number that digits stand for, as the core library computes it. -/
theorem numeralValue_eq_ofDigitChars (digits : List Char) :
    numeralValue digits = Nat.ofDigitChars 10 digits 0 := by
  rw [numeralValue, Nat.ofDigitChars_eq_foldl]
  simp only [digitValue, Nat.mul_comm]

/-- The digits of a numeral after its optional sign. -/
def numeralDigits : List Char → List Char
  | '+' :: rest => rest
  | cs => cs

/-- Reads a numeral of at most the given value. -/
def readNumeral (bound : Nat) (s : String) : Option Nat :=
  let ds := numeralDigits s.toList
  if ds ≠ [] ∧ ds.all Char.isDigit then
    if numeralValue ds ≤ bound then some (numeralValue ds) else none
  else none

end RunHerald
