import RunHerald.Error
import RunHerald.Reconcile.Outcome

/-!
# What is reported

An `Event` is either a `Report`, which becomes a record in the log, or a `Metric`, which counts.
Reports hold values; `level`, `message` and `fields` say how they are logged.
-/

set_option autoImplicit false

namespace RunHerald

/-- How much a report matters. -/
inductive Level where
  | debug
  | info
  | warn
  | error
  deriving DecidableEq, Repr

/-- The name of a level. -/
def Level.name : Level → String
  | .debug => "DEBUG"
  | .info => "INFO"
  | .warn => "WARN"
  | .error => "ERROR"

/-- Something that a reader of the log may want to know. -/
inductive Report where
  | absent
  | classified (phase : Phase) (completion : Completion) (version : String)
  | leftAlone
  | alreadyDelivered
  | anomaly (completion : Completion)
  | reconciled (action : Action) (patch : Patch) (version : String)
  | deletedBeforeWrite
  | changedSinceRead (expected current : String) (conflicts : Nat)
  | cancelled
  | needsCorrection (error : ReconcileError)
  | willRetry (error : ReconcileError)
  | delivered (sink fingerprint : String) (results : Nat)
  | rejected (sink fingerprint : String) (error : DeliveryError)
  | undelivered (sink : String) (error : DeliveryError)
  | retryingDelivery (attempt : Nat) (error : DeliveryError)
  deriving DecidableEq, Repr

namespace Report

/-- How much a report matters. -/
def level : Report → Level
  | .anomaly _ => .error
  | .reconciled .. => .info
  | .needsCorrection _ => .warn
  | .willRetry _ => .warn
  | .delivered .. => .info
  | .rejected .. => .error
  | .undelivered .. => .warn
  | _ => .debug

/-- The text of a report. -/
def message : Report → String
  | .absent => "run not found; nothing to reconcile"
  | .classified .. => "classified run"
  | .leftAlone => "marker present without guard; leaving run untouched"
  | .alreadyDelivered => "results already delivered; retrying marker write"
  | .anomaly _ =>
    "notification marker present on a run that has not succeeded; releasing guard"
  | .reconciled .. => "reconciled run"
  | .deletedBeforeWrite => "run deleted before write; nothing to reconcile"
  | .changedSinceRead .. => "run changed since read; re-fetching"
  | .cancelled => "reconcile cancelled"
  | .needsCorrection _ =>
    "reconcile failed; run record needs correction before a retry can succeed"
  | .willRetry _ => "reconcile failed; will retry"
  | .delivered .. => "notification delivered"
  | .rejected .. => "sink rejected notification payload"
  | .undelivered .. => "notification delivery failed"
  | .retryingDelivery .. => "retrying webhook delivery"

/-- The values of a report, by name. -/
def fields : Report → List (String × String)
  | .classified phase completion version =>
    [("phase", phase.label), ("completion", completion.label), ("version", version)]
  | .anomaly completion => [("completion", completion.label)]
  | .reconciled action patch version =>
    [("action", action.label), ("patch", patch.label), ("version", version)]
  | .changedSinceRead expected current conflicts =>
    [("expected", expected), ("current_version", current), ("conflicts", toString conflicts)]
  | .needsCorrection e => [("error", e.message)]
  | .willRetry e => [("error", e.message)]
  | .delivered sink fingerprint results =>
    [("sink", sink), ("fingerprint", fingerprint), ("results", toString results)]
  | .rejected sink fingerprint e =>
    [("sink", sink), ("fingerprint", fingerprint), ("error", e.message)]
  | .undelivered sink e => [("sink", sink), ("error", e.message)]
  | .retryingDelivery attempt e => [("attempt", toString attempt), ("error", e.message)]
  | _ => []

end Report

/-- Something that is counted. -/
inductive Metric where
  | reconciled (action : Action)
  | failed (kind : String)
  | timed
  | notification (result : String)
  | conflict
  | anomaly
  deriving DecidableEq, Repr

/-- The name of a counter, with its label in braces. -/
def Metric.name : Metric → String
  | .reconciled action => "notifier_reconcile_total\x7baction=" ++ action.label ++ "\x7d"
  | .failed kind => "notifier_reconcile_errors_total\x7bkind=" ++ kind ++ "\x7d"
  | .timed => "notifier_reconcile_seconds"
  | .notification result => "notifier_notifications_total\x7bresult=" ++ result ++ "\x7d"
  | .conflict => "notifier_patch_conflicts_total"
  | .anomaly => "notifier_anomalies_total"

/-- Something that is reported. -/
inductive Event where
  | report (r : Report)
  | metric (m : Metric)
  deriving DecidableEq, Repr

namespace Event

/-- The reports among some events. -/
def reports (events : List Event) : List Report :=
  events.filterMap fun
    | .report r => some r
    | .metric _ => none

/-- The metrics among some events. -/
def metrics (events : List Event) : List Metric :=
  events.filterMap fun
    | .report _ => none
    | .metric m => some m

/-- How often each counter was raised. -/
def counts (events : List Event) : Dictionary Nat :=
  (metrics events).foldl (fun d m => d.insert m.name ((d.get? m.name).getD 0 + 1)) ∅

end Event

end RunHerald
