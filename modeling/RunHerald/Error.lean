import RunHerald.Json.Decode
import RunHerald.Run.Basic
import RunHerald.RunKey

/-!
# Errors

* `BaseError`: a bad run key or log format.
* `ServiceError`: a store that fails, settings that are wrong, or a base error.
* `ResultsError`: a run whose results cannot be taken out of its record.
* `DeliveryError`: a sink that could not be reached, or that refused the payload.
* `ReconcileError`: how an invocation of the reconciler fails.

`message` words an error for a reader, `label` names its kind for counters, and `describe` shows the
value itself.
-/

set_option autoImplicit false

namespace RunHerald

/-- A single field between braces, as a description shows it. -/
def describeField (name body : String) : String := " \x7b " ++ name ++ ": " ++ body ++ " \x7d"

/-- A bad run key or log format. -/
inductive BaseError where
  | invalidId (message : String)
  | configuration (message : String)
  deriving DecidableEq, Repr

namespace BaseError

/-- The error of a refused key. -/
def ofKeyFault (fault : KeyFault) : BaseError := .invalidId fault.message

/-- The wording of an error. -/
def message : BaseError → String
  | .invalidId m => "invalid identifier: " ++ m
  | .configuration m => "configuration error: " ++ m

/-- The description of an error. -/
def describe : BaseError → String
  | .invalidId m => "InvalidId" ++ describeField "message" (Quoted.write m)
  | .configuration m => "Configuration" ++ describeField "message" (Quoted.write m)

end BaseError

/-- A failure of the services around the reconciler. -/
inductive ServiceError where
  | storage (message : String)
  | configuration (message : String)
  | base (cause : BaseError)
  deriving DecidableEq, Repr

namespace ServiceError

/-- The wording of an error. -/
def message : ServiceError → String
  | .storage m => "storage error: " ++ m
  | .configuration m => "configuration error: " ++ m
  | .base e => "core error: " ++ e.message

/-- The description of an error. -/
def describe : ServiceError → String
  | .storage m => "Storage" ++ describeField "message" (Quoted.write m)
  | .configuration m => "Configuration" ++ describeField "message" (Quoted.write m)
  | .base e => "Core(" ++ e.describe ++ ")"

end ServiceError

/-- What is wrong with the results of a run. -/
inductive ResultsDefect where
  | undecodable (error : DecodeError)
  | emptyName (index : Nat)
  | described (text : String)
  deriving DecidableEq, Repr

/-- The wording of a defect. -/
def ResultsDefect.message : ResultsDefect → String
  | .undecodable e => e.message
  | .emptyName index => s!"result at index {index} has an empty name"
  | .described text => text

/-- Why no results can be taken out of a run. -/
inductive ResultsError where
  | notSucceeded (completion : Completion)
  | missing
  | malformed (defect : ResultsDefect)
  deriving DecidableEq, Repr

namespace ResultsError

/-- The wording of an error. -/
def message : ResultsError → String
  | .notSucceeded c => s!"run has not succeeded (completion: {c.label})"
  | .missing => "succeeded run has no results field"
  | .malformed d => "malformed results: " ++ d.message

/-- The description of an error. -/
def describe : ResultsError → String
  | .notSucceeded c => "NotSucceeded" ++ describeField "completion" c.word
  | .missing => "MissingResults"
  | .malformed d => "MalformedResults" ++ describeField "reason" (Quoted.write d.message)

end ResultsError

/-- Why a sink did not take a payload: it could not be reached or will take it later, or it refused
the payload for good, perhaps with a status. -/
inductive DeliveryError where
  | transport (message : String)
  | rejected (status : Option Nat) (message : String)
  deriving DecidableEq, Repr

namespace DeliveryError

/-- Whether the payload was refused for good. -/
def isRejected : DeliveryError → Bool
  | .transport _ => false
  | .rejected .. => true

/-- The status in parentheses, if there is one. -/
def statusSuffix : Option Nat → String
  | none => ""
  | some n => s!" (status={n})"

/-- The wording of an error. -/
def message : DeliveryError → String
  | .transport m => "sink transport error: " ++ m
  | .rejected status m => "sink rejected payload" ++ statusSuffix status ++ ": " ++ m

/-- The kind of an error, for the counter of deliveries. -/
def label : DeliveryError → String
  | .transport _ => "transport_error"
  | .rejected .. => "rejected"

/-- The description of an error. -/
def describe : DeliveryError → String
  | .transport m => "Transport" ++ describeField "message" (Quoted.write m)
  | .rejected status m =>
    let shown := match status with
      | none => "None"
      | some n => s!"Some({n})"
    "Rejected \x7b status: " ++ shown ++ ", message: " ++ Quoted.write m ++ " \x7d"

end DeliveryError

/-- How an invocation of the reconciler fails. -/
inductive ReconcileError where
  | extraction (cause : ResultsError)
  | delivery (cause : DeliveryError)
  | conflictsExhausted (attempts : Nat)
  | store (cause : ServiceError)
  | cancelled
  deriving DecidableEq, Repr

namespace ReconcileError

/-- The wording of an error. -/
def message : ReconcileError → String
  | .extraction e => "result extraction failed: " ++ e.message
  | .delivery e => "notification dispatch failed: " ++ e.message
  | .conflictsExhausted n => s!"gave up after {n} conflicting writes"
  | .store e => "run accessor failed: " ++ e.message
  | .cancelled => "reconcile cancelled"

/-- The kind of an error, for the counter of failures. -/
def label : ReconcileError → String
  | .extraction _ => "extraction"
  | .delivery (.transport _) => "transport"
  | .delivery (.rejected ..) => "rejected"
  | .conflictsExhausted _ => "conflict"
  | .store _ => "store"
  | .cancelled => "cancelled"

/-- Whether the record or its receiver must be corrected before a retry can help. -/
def needsCorrection : ReconcileError → Bool
  | .extraction _ => true
  | .delivery e => e.isRejected
  | _ => false

/-- The description of an error. -/
def describe : ReconcileError → String
  | .extraction e => "Extraction(" ++ e.describe ++ ")"
  | .delivery e => "Notify(" ++ e.describe ++ ")"
  | .conflictsExhausted n => "ConflictRetriesExhausted" ++ describeField "attempts" (toString n)
  | .store e => "Store(" ++ e.describe ++ ")"
  | .cancelled => "Cancelled"

end ReconcileError

end RunHerald
