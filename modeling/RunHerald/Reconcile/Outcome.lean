import RunHerald.Run.Patch
import RunHerald.Run.Phase
import RunHerald.Time.Duration

/-!
# Actions and outcomes

An invocation of the reconciler that does not fail has an `Outcome`: the action it took, and when
the run should be looked at again. A `Write` is an action that changes the record.
-/

set_option autoImplicit false

namespace RunHerald

/-- What an invocation did. -/
inductive Action where
  | notFound
  | legacy
  | awaitingCompletion
  | guardAdded
  | notified
  | released
  | releasedAnomalous
  deriving DecidableEq, Repr

namespace Action

/-- Whether the record was changed. -/
def mutated : Action → Bool
  | .guardAdded => true
  | .notified => true
  | .released => true
  | .releasedAnomalous => true
  | _ => false

/-- The name of an action in logs and counters. -/
def label : Action → String
  | .notFound => "not_found"
  | .legacy => "legacy"
  | .awaitingCompletion => "awaiting_completion"
  | .guardAdded => "guard_added"
  | .notified => "notified"
  | .released => "released"
  | .releasedAnomalous => "released_anomalous"

/-- The name of an action in descriptions. -/
def word : Action → String
  | .notFound => "NotFound"
  | .legacy => "Legacy"
  | .awaitingCompletion => "AwaitingCompletion"
  | .guardAdded => "GuardAdded"
  | .notified => "Notified"
  | .released => "Released"
  | .releasedAnomalous => "ReleasedAnomalous"

end Action

/-- A change that the reconciler makes. -/
inductive Write where
  | addGuard
  | setMarker
  | release
  | releaseAnomalous
  deriving DecidableEq, Repr

namespace Write

/-- The action of a change that was made. -/
def action : Write → Action
  | .addGuard => .guardAdded
  | .setMarker => .notified
  | .release => .released
  | .releaseAnomalous => .releasedAnomalous

/-- The change of the record. -/
def patch (m : Markers) : Write → Patch
  | .addGuard => .addFinalizer m.guardToken
  | .setMarker => .annotate m.markerKey m.markerValue
  | .release => .removeFinalizer m.guardToken
  | .releaseAnomalous => .removeFinalizer m.guardToken

end Write

/-- When a run should be looked at again. -/
inductive Requeue where
  | never
  | now
  | after (delay : Duration)
  deriving DecidableEq, Repr

/-- The description of such a time. -/
def Requeue.describe : Requeue → String
  | .never => "Never"
  | .now => "Now"
  | .after d => "After(" ++ d.text ++ ")"

/-- What came of an invocation that did not fail. -/
structure Outcome where
  action : Action
  requeue : Requeue
  deriving DecidableEq, Repr

namespace Outcome

/-- An outcome after which nothing is due. -/
def done (action : Action) : Outcome := ⟨action, .never⟩

/-- The outcome of a change that was made. After the marker the guard is due at once. -/
def ofWrite (w : Write) : Outcome := ⟨w.action, if w = .setMarker then .now else .never⟩

/-- The description of an outcome. -/
def describe (o : Outcome) : String :=
  "ReconcileOutcome \x7b action: " ++ o.action.word ++ ", requeue: " ++ o.requeue.describe
    ++ " \x7d"

end Outcome

end RunHerald
