import RunHerald.Run.Basic

/-!
# Phases

The reconciler marks a record in two ways. The guard is a finalizer, which holds back deletion; the
marker is an annotation with a fixed value, which records that the results have been delivered. With
the state of the execution they determine the phase of the record:

| guard | marker | succeeded | phase                |
|-------|--------|-----------|----------------------|
| no    | yes    | any       | `legacy`             |
| no    | no     | any       | `unguarded`          |
| yes   | no     | yes       | `readyToNotify`      |
| yes   | no     | no        | `awaitingCompletion` |
| yes   | yes    | yes       | `readyToRelease`     |
| yes   | yes    | no        | `anomalous`          |
-/

set_option autoImplicit false

namespace RunHerald

/-- The guard and the marker of a reconciler. -/
structure Markers where
  guardToken : String
  markerKey : String
  markerValue : String
  deriving DecidableEq, Repr

/-- The guard and the marker unless others are chosen. -/
def Markers.standard : Markers := ⟨"notification.guard", "notification.sent", "true"⟩

/-- The description of a guard and a marker. -/
def Markers.describe (m : Markers) : String :=
  "Markers \x7b guard_token: " ++ Quoted.write m.guardToken
    ++ ", marker_key: " ++ Quoted.write m.markerKey
    ++ ", marker_value: " ++ Quoted.write m.markerValue ++ " \x7d"

namespace Run

/-- Whether a record carries the guard. -/
def isGuarded (run : Run) (m : Markers) : Bool := run.hasFinalizer m.guardToken

/-- Whether a record carries the marker with its value. -/
def isMarked (run : Run) (m : Markers) : Bool :=
  run.annotationValue? m.markerKey = some m.markerValue

end Run

/-- What is to be done about a record. -/
inductive Phase where
  | legacy
  | unguarded
  | awaitingCompletion
  | readyToNotify
  | readyToRelease
  | anomalous
  deriving DecidableEq, Repr

namespace Phase

/-- The phase of guard, marker and success. -/
def ofFlags : Bool → Bool → Bool → Phase
  | false, true, _ => .legacy
  | false, false, _ => .unguarded
  | true, false, true => .readyToNotify
  | true, false, false => .awaitingCompletion
  | true, true, true => .readyToRelease
  | true, true, false => .anomalous

/-- The phase of a record. -/
def ofRun (run : Run) (m : Markers) : Phase :=
  ofFlags (run.isGuarded m) (run.isMarked m) run.succeeded

/-- The name of a phase in logs. -/
def label : Phase → String
  | .legacy => "legacy"
  | .unguarded => "unguarded"
  | .awaitingCompletion => "awaiting_completion"
  | .readyToNotify => "ready_to_notify"
  | .readyToRelease => "ready_to_release"
  | .anomalous => "anomalous"

end Phase

end RunHerald
