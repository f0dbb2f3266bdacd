import RunHerald.Decimal.Shortest
import RunHerald.Text.Quoted

/-!
# JSON values

A number is an integer if it was written without a point or exponent and fits in 64 bits, with or
without a sign; any other number is a double-precision number. The members of an object are a list
of pairs; a reader puts them in ascending order of their keys, each key once.

`Kind` is what a refusal says about a value that is of the wrong type.
-/

set_option autoImplicit false

namespace RunHerald

/-- A JSON number. -/
inductive JsonNumber where
  | int (n : Int)
  | float (x : Binary64)
  deriving DecidableEq, Repr

/-- A JSON value. -/
inductive Json where
  | null
  | bool (b : Bool)
  | num (n : JsonNumber)
  | str (s : String)
  | arr (items : List Json)
  | obj (members : List (String × Json))
  deriving Repr

namespace Json

instance : Inhabited Json := ⟨.null⟩

/-- The natural number as a value. -/
def ofNat (n : Nat) : Json := .num (.int n)

/-- A text, or null for none. -/
def ofOption : Option String → Json
  | none => .null
  | some s => .str s

/-- The value of the first member with a name. -/
def lookup (name : String) : List (String × Json) → Option Json
  | [] => none
  | (k, v) :: rest => if k = name then some v else lookup name rest

/-- The member of an object. -/
def get? : Json → String → Option Json
  | .obj members, name => lookup name members
  | _, _ => none

/-- The text that a value is. -/
def text? : Json → Option String
  | .str s => some s
  | _ => none

/-- The items of an array. -/
def items? : Json → Option (List Json)
  | .arr items => some items
  | _ => none

/-- The truth value that a value is. -/
def bool? : Json → Option Bool
  | .bool b => some b
  | _ => none

/-- The natural number that a value is. -/
def nat? : Json → Option Nat
  | .num (.int n) => if 0 ≤ n then some n.toNat else none
  | _ => none

end Json

/-- Numbers are written in place if that takes at most sixteen digits before the point and four
zeros right after it. An exponent has a sign. -/
def Json.layout : DecimalLayout := ⟨16, -5, true⟩

/-- A number as it is written. -/
def JsonNumber.text : JsonNumber → String
  | .int n => toString n
  | .float x => Json.layout.write x

/-- What kind of value stands where another was expected. -/
inductive Kind where
  | null
  | bool (b : Bool)
  | num (n : JsonNumber)
  | str (s : String)
  | sequence
  | map
  deriving DecidableEq, Repr

/-- The wording of a kind. -/
def Kind.text : Kind → String
  | .null => "null"
  | .bool b => "boolean `" ++ toString b ++ "`"
  | .num (.int n) => "integer `" ++ toString n ++ "`"
  | .num (.float x) => "floating point `" ++ Json.layout.write x ++ "`"
  | .str s => "string " ++ Quoted.write s
  | .sequence => "sequence"
  | .map => "map"

/-- The kind of a value. -/
def Json.kind : Json → Kind
  | .null => .null
  | .bool b => .bool b
  | .num n => .num n
  | .str s => .str s
  | .arr _ => .sequence
  | .obj _ => .map

end RunHerald
