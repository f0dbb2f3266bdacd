import RunHerald.Json.Basic
import RunHerald.Time.Reader

/-!
# Decoding JSON values

A record is decoded from an object, whose other members are ignored, or from an array of its fields
in their order of declaration. Members are judged in ascending order of their names; only then a
missing field is noticed, in order of declaration. Of an array, too few items are noticed where the
first is missing, too many at the end.
-/

set_option autoImplicit false

namespace RunHerald

/-- A step that succeeds has been given a value to go on with. -/
theorem bind_eq_ok_iff {ε α β : Type} {x : Except ε α} {f : α → Except ε β} {b : β} :
    (x >>= f) = .ok b ↔ ∃ a, x = .ok a ∧ f a = .ok b := by
  cases x with
  | error e => simp [bind, Except.bind]
  | ok a => simp [bind, Except.bind]

/-- A value that was mapped comes from a value. -/
theorem map_eq_ok_iff {ε α β : Type} {x : Except ε α} {f : α → β} {b : β} :
    x.map f = .ok b ↔ ∃ a, x = .ok a ∧ f a = b := by
  cases x with
  | error e => simp [Except.map]
  | ok a => simp [Except.map]

/-- Why a value does not decode. -/
inductive DecodeError where
  | invalidType (found : Kind) (expected : String)
  | invalidLength (n : Nat) (expected : String)
  | notSingleton
  | missingField (name : String)
  | duplicateField (name : String)
  | timestamp (fault : TimestampFault)
  deriving DecidableEq, Repr

/-- The wording of an error. -/
def DecodeError.message : DecodeError → String
  | .invalidType found expected => "invalid type: " ++ found.text ++ ", expected " ++ expected
  | .invalidLength n expected => s!"invalid length {n}, expected {expected}"
  | .notSingleton => "invalid value: map, expected map with a single key"
  | .missingField name => s!"missing field `{name}`"
  | .duplicateField name => s!"duplicate field `{name}`"
  | .timestamp fault => fault.message

/-- The text before which a value is no point in time. -/
def timestampShape : String := "an RFC 3339 formatted date and time string"

namespace Json

/-- Refuses a value of the wrong type. -/
def refuse {α : Type} (v : Json) (expected : String) : Except DecodeError α :=
  .error (.invalidType v.kind expected)

/-- A text. -/
def asText : Json → Except DecodeError String
  | .str s => .ok s
  | v => v.refuse "a string"

/-- A point in time. -/
def asTimestamp : Json → Except DecodeError Timestamp
  | .str s =>
    match Timestamp.parse s with
    | .ok t => .ok t
    | .error fault => .error (.timestamp fault)
  | v => v.refuse timestampShape

/-- A value that may be null. -/
def asOption {α : Type} (decode : Json → Except DecodeError α) :
    Json → Except DecodeError (Option α)
  | .null => .ok none
  | v => (decode v).map some

/-- Decodes each item of a list, up to the first error. -/
def eachItem {α : Type} (decode : Json → Except DecodeError α) :
    List Json → Except DecodeError (List α)
  | [] => .ok []
  | v :: vs => do
    let a ← decode v
    let as ← eachItem decode vs
    return a :: as

/-- Decodes each member of an object, up to the first error. -/
def eachMember {α : Type} (decode : Json → Except DecodeError α) :
    List (String × Json) → Except DecodeError (List (String × α))
  | [] => .ok []
  | (k, v) :: rest => do
    let a ← decode v
    let as ← eachMember decode rest
    return (k, a) :: as

/-- A list. -/
def asList {α : Type} (decode : Json → Except DecodeError α) : Json → Except DecodeError (List α)
  | .arr items => eachItem decode items
  | v => v.refuse "a sequence"

/-- A member of an object, if it is there. -/
def field {α : Type} (members : List (String × Json)) (name : String)
    (decode : Json → Except DecodeError α) : Except DecodeError (Option α) :=
  match lookup name members with
  | none => .ok none
  | some v => (decode v).map some

/-- A field that must be there. -/
def need {α : Type} (name : String) : Option α → Except DecodeError α
  | some a => .ok a
  | none => .error (.missingField name)

/-- An item of an array that stands for a record of the given shape. -/
def item {α : Type} (items : List Json) (i : Nat) (shape : String)
    (decode : Json → Except DecodeError α) : Except DecodeError α :=
  match items[i]? with
  | some v => decode v
  | none => .error (.invalidLength i shape)

/-- An item of such an array that may be missing. -/
def itemOr {α : Type} (items : List Json) (i : Nat) (default : α)
    (decode : Json → Except DecodeError α) : Except DecodeError α :=
  match items[i]? with
  | some v => decode v
  | none => .ok default

/-- Refuses an array with more items than fields. -/
def noMore (items : List Json) (n : Nat) : Except DecodeError Unit :=
  if items.length ≤ n then .ok ()
  else .error (.invalidLength items.length "fewer elements in array")

end Json

end RunHerald
