import RunHerald.Notification.Dispatch
import RunHerald.Run.Results
import RunHerald.Store

/-!
# One invocation of the reconciler

An invocation looks at one run and makes at most one change. It is a machine that waits for one call
at a time, a `Stage`, and moves on with the answer:

* `resume` reads the record, unless the invocation is cancelled. After a delivery it goes on even
  then, so that the marker still gets written.
* `fetched` decides by the phase of the record. The results of a record that is ready are delivered
  first, unless they are the results that this invocation has delivered last.
* `delivered` goes on to the marker, or fails with the sink.
* `written` is the end, unless the record has changed since it was read. Then the record is read
  again, as long as there have not been too many such conflicts.

Each step gives the events that it reports. `Stage.measure` falls with each step, since a conflict
is the only way back to a read: `measure_fetched`, `measure_delivered` and `measure_written`.
-/

set_option autoImplicit false

namespace RunHerald

/-- What a reconciler is set up with. -/
structure Reconciler where
  sinkName : String
  markers : Markers
  maxConflictRetries : UInt32
  retryBackoff : Duration
  rejectedBackoff : Duration

/-- What an invocation remembers between its calls: the results that the sink has accepted last,
and the number of conflicts. -/
structure Progress where
  delivered : Option (List RunResult)
  conflicts : Nat

/-- The progress of an invocation that has only begun. -/
def Progress.start : Progress := ⟨none, 0⟩

/-- The call that an invocation waits for. -/
inductive Stage where
  | fetch (p : Progress)
  | deliver (p : Progress) (snapshot : Snapshot) (results : List RunResult)
  | write (p : Progress) (snapshot : Snapshot) (w : Write)

/-- How an invocation ends. -/
inductive Ending where
  | returned (result : Except ReconcileError Outcome)
  | aborted (message : String)

/-- An invocation goes on or ends. -/
inductive Move where
  | wait (stage : Stage)
  | finish (ending : Ending)

/-- An end with an outcome after which nothing is due. -/
def Move.done (action : Action) : Move := .finish (.returned (.ok (.done action)))

/-- An end with an error. -/
def Move.fail (e : ReconcileError) : Move := .finish (.returned (.error e))

/-- How a delivery ends: with a result, given up because of a cancellation, or aborted. -/
inductive Delivery where
  | result (r : DeliveryResult)
  | abandoned
  | aborted (message : String)

/-- The number of conflicts is kept in 32 bits. -/
def conflictLimit : Nat := UInt32.size

/-- The words with which an invocation aborts that cannot count on. -/
def countOverflow : String := "attempt to add with overflow"

namespace Reconciler

/-- Reads the record, for the first time or again. -/
def resume (p : Progress) (cancelled : Bool) : Move :=
  if p.delivered.isNone && cancelled then .fail .cancelled else .wait (.fetch p)

/-- Makes a change that an active invocation is allowed to make. -/
def change (p : Progress) (cancelled : Bool) (snapshot : Snapshot) (w : Write) : Move :=
  if cancelled then .fail .cancelled else .wait (.write p snapshot w)

/-- Decides about a record that is ready to be announced. -/
def announce (p : Progress) (cancelled : Bool) (snapshot : Snapshot) : List Event × Move :=
  match snapshot.run.readResults with
  | .error e => ([], .fail (.extraction e))
  | .ok results =>
    if p.delivered = some results then
      ([.report .alreadyDelivered], .wait (.write p snapshot .setMarker))
    else if cancelled then ([], .fail .cancelled)
    else ([], .wait (.deliver p snapshot results))

/-- Decides about a record by its phase. -/
def decide (p : Progress) (cancelled : Bool) (snapshot : Snapshot) : Phase → List Event × Move
  | .legacy => ([.report .leftAlone], .done .legacy)
  | .awaitingCompletion => ([], .done .awaitingCompletion)
  | .unguarded => ([], change p cancelled snapshot .addGuard)
  | .readyToNotify => announce p cancelled snapshot
  | .readyToRelease => ([], change p cancelled snapshot .release)
  | .anomalous =>
    if cancelled then ([], .fail .cancelled)
    else
      ([.metric .anomaly, .report (.anomaly snapshot.run.completion)],
        .wait (.write p snapshot .releaseAnomalous))

/-- Moves on with the record that was read. -/
def fetched (r : Reconciler) (p : Progress) (cancelled : Bool) :
    Attempt (Option Snapshot) → List Event × Move
  | .aborted message => ([], .finish (.aborted message))
  | .failed e => ([], .fail (.store e))
  | .done none => ([.report .absent], .done .notFound)
  | .done (some snapshot) =>
    let phase := Phase.ofRun snapshot.run r.markers
    let seen := Event.report (.classified phase snapshot.run.completion snapshot.version)
    let (events, move) := decide p cancelled snapshot phase
    (seen :: events, move)

/-- Moves on after a delivery. -/
def delivered (r : Reconciler) (p : Progress) (snapshot : Snapshot) (payload : Payload) :
    Delivery → List Event × Move
  | .aborted message => ([], .finish (.aborted message))
  | .abandoned => ([], .fail .cancelled)
  | .result (.ok a) =>
    (dispatchEvents r.sinkName payload (.ok a),
      .wait (.write { p with delivered := some payload.results } snapshot .setMarker))
  | .result (.error e) => (dispatchEvents r.sinkName payload (.error e), .fail (.delivery e))

/-- Moves on after a change that met a newer version. -/
def conflicted (r : Reconciler) (p : Progress) (cancelled : Bool) (expected current : String) :
    List Event × Move :=
  if conflictLimit ≤ p.conflicts + 1 then ([], .finish (.aborted countOverflow))
  else if r.maxConflictRetries.toNat < p.conflicts + 1 then
    ([.metric .conflict], .fail (.conflictsExhausted (p.conflicts + 1)))
  else
    ([.metric .conflict, .report (.changedSinceRead expected current (p.conflicts + 1))],
      resume { p with conflicts := p.conflicts + 1 } cancelled)

/-- Moves on after an attempt to change the record. -/
def written (r : Reconciler) (p : Progress) (cancelled : Bool) (snapshot : Snapshot) (w : Write) :
    Attempt PatchResult → List Event × Move
  | .aborted message => ([], .finish (.aborted message))
  | .failed e => ([], .fail (.store e))
  | .done (.applied version) =>
    ([.report (.reconciled w.action (w.patch r.markers) version)],
      .finish (.returned (.ok (.ofWrite w))))
  | .done .notFound => ([.report .deletedBeforeWrite], .done .notFound)
  | .done (.conflict current) => r.conflicted p cancelled snapshot.version current

/-- When a run whose invocation failed should be looked at again. -/
def requeueAfter (r : Reconciler) : ReconcileError → Requeue
  | .delivery (.rejected ..) => .after r.rejectedBackoff
  | _ => .after r.retryBackoff

/-- The report on an error, unless the sink's failure has been reported already. -/
def errorReport : ReconcileError → Option Report
  | .delivery _ => none
  | .cancelled => some .cancelled
  | e => some (if e.needsCorrection then .needsCorrection e else .willRetry e)

/-- The events at the end of an invocation. Every one is timed. -/
def closing : Ending → List Event
  | .returned (.ok o) => [.metric (.reconciled o.action), .metric .timed]
  | .returned (.error e) =>
    .metric (.failed e.label) :: ((errorReport e).toList.map .report ++ [.metric .timed])
  | .aborted _ => [.metric .timed]

/-- The description of a reconciler. -/
def describe (r : Reconciler) : String :=
  "Reconciler \x7b dispatcher: " ++ describeDispatcher r.sinkName
    ++ ", markers: " ++ r.markers.describe
    ++ ", max_conflict_retries: " ++ toString r.maxConflictRetries.toNat ++ ", .. \x7d"

end Reconciler

/-- A number that falls with every step of an invocation that may meet so many conflicts. -/
def Stage.measure (limit : Nat) : Stage → Nat
  | .fetch p => 3 * (limit + 1 - p.conflicts) + 2
  | .deliver p _ _ => 3 * (limit + 1 - p.conflicts) + 1
  | .write p _ _ => 3 * (limit + 1 - p.conflicts)

namespace Reconciler

/-- Only a phase that calls for a delivery or a change lets an invocation go on. -/
theorem wait_of_decide {p : Progress} {cancelled : Bool} {snapshot : Snapshot} {phase : Phase}
    {stage : Stage} (h : (decide p cancelled snapshot phase).2 = .wait stage) :
    (∃ rs, stage = .deliver p snapshot rs) ∨ ∃ w, stage = .write p snapshot w := by
  cases phase with
  | legacy => simp [decide, Move.done] at h
  | awaitingCompletion => simp [decide, Move.done] at h
  | unguarded =>
    cases cancelled <;> simp [decide, change, Move.fail] at h
    exact Or.inr ⟨_, h.symm⟩
  | readyToRelease =>
    cases cancelled <;> simp [decide, change, Move.fail] at h
    exact Or.inr ⟨_, h.symm⟩
  | anomalous =>
    cases cancelled <;> simp [decide, Move.fail] at h
    exact Or.inr ⟨_, h.symm⟩
  | readyToNotify =>
    simp only [decide, announce] at h
    cases hr : snapshot.run.readResults with
    | error e => simp [hr, Move.fail] at h
    | ok results =>
      by_cases hd : p.delivered = some results
      · simp [hr, hd] at h
        exact Or.inr ⟨_, h.symm⟩
      · cases cancelled <;> simp [hr, hd, Move.fail] at h
        exact Or.inl ⟨_, h.symm⟩

/-- An invocation that reads goes on to a delivery or a change, with the same progress. -/
theorem wait_of_fetched {r : Reconciler} {p : Progress} {cancelled : Bool}
    {answer : Attempt (Option Snapshot)} {stage : Stage}
    (h : (r.fetched p cancelled answer).2 = .wait stage) :
    (∃ s rs, stage = .deliver p s rs) ∨ ∃ s w, stage = .write p s w := by
  cases answer with
  | aborted message => simp [fetched] at h
  | failed e => simp [fetched, Move.fail] at h
  | done found =>
    cases found with
    | none => simp [fetched, Move.done] at h
    | some snapshot =>
      rcases wait_of_decide h with ⟨rs, rfl⟩ | ⟨w, rfl⟩
      · exact Or.inl ⟨_, _, rfl⟩
      · exact Or.inr ⟨_, _, rfl⟩

/-- A read leaves less to be done. -/
theorem measure_fetched {r : Reconciler} {p : Progress} {cancelled : Bool}
    {answer : Attempt (Option Snapshot)} {stage : Stage} (limit : Nat)
    (h : (r.fetched p cancelled answer).2 = .wait stage) :
    stage.measure limit < (Stage.fetch p).measure limit := by
  rcases wait_of_fetched h with ⟨s, rs, rfl⟩ | ⟨s, w, rfl⟩ <;> simp [Stage.measure]

/-- An invocation that has delivered goes on to the marker. -/
theorem wait_of_delivered {r : Reconciler} {p : Progress} {snapshot : Snapshot}
    {payload : Payload} {answer : Delivery} {stage : Stage}
    (h : (r.delivered p snapshot payload answer).2 = .wait stage) :
    stage = .write { p with delivered := some payload.results } snapshot .setMarker := by
  cases answer with
  | aborted message => simp [delivered] at h
  | abandoned => simp [delivered, Move.fail] at h
  | result result =>
    cases result with
    | error e => simp [delivered, Move.fail] at h
    | ok a => exact (Move.wait.inj h).symm

/-- A delivery leaves less to be done. -/
theorem measure_delivered {r : Reconciler} {p : Progress} {snapshot : Snapshot}
    {payload : Payload} {answer : Delivery} {stage : Stage} (limit : Nat)
    (rs : List RunResult) (h : (r.delivered p snapshot payload answer).2 = .wait stage) :
    stage.measure limit < (Stage.deliver p snapshot rs).measure limit := by
  rw [wait_of_delivered h]
  simp [Stage.measure]

/-- An invocation that could not write reads again, with one conflict more, within its limit. -/
theorem wait_of_conflicted {r : Reconciler} {p : Progress} {cancelled : Bool}
    {expected current : String} {stage : Stage}
    (h : (r.conflicted p cancelled expected current).2 = .wait stage) :
    stage = .fetch { p with conflicts := p.conflicts + 1 }
      ∧ p.conflicts + 1 ≤ r.maxConflictRetries.toNat := by
  unfold conflicted at h
  split at h
  · simp at h
  · split at h
    · simp [Move.fail] at h
    · rename_i hle
      simp only [resume] at h
      split at h
      · simp [Move.fail] at h
      · exact ⟨(Move.wait.inj h).symm, by omega⟩

/-- Only a conflict lets an invocation go on after an attempt to write. -/
theorem wait_of_written {r : Reconciler} {p : Progress} {cancelled : Bool} {snapshot : Snapshot}
    {w : Write} {answer : Attempt PatchResult} {stage : Stage}
    (h : (r.written p cancelled snapshot w answer).2 = .wait stage) :
    stage = .fetch { p with conflicts := p.conflicts + 1 }
      ∧ p.conflicts + 1 ≤ r.maxConflictRetries.toNat := by
  cases answer with
  | aborted message => simp [written] at h
  | failed e => simp [written, Move.fail] at h
  | done result =>
    cases result with
    | applied version => simp [written] at h
    | notFound => simp [written, Move.done] at h
    | conflict current => exact wait_of_conflicted h

/-- A change leaves less to be done. -/
theorem measure_written {r : Reconciler} {p : Progress} {cancelled : Bool} {snapshot : Snapshot}
    {w : Write} {answer : Attempt PatchResult} {stage : Stage}
    (h : (r.written p cancelled snapshot w answer).2 = .wait stage) :
    stage.measure r.maxConflictRetries.toNat
      < (Stage.write p snapshot w).measure r.maxConflictRetries.toNat := by
  obtain ⟨rfl, hle⟩ := wait_of_written h
  simp only [Stage.measure]
  omega

end Reconciler

end RunHerald
