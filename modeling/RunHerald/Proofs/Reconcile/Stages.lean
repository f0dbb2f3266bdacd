import RunHerald.Proofs.Run.DecisionTable
import RunHerald.Reconcile.Environment

/-!
# What an invocation knows when it waits

An invocation that goes on to a delivery or a change does so for a reason that its last read gave
it: `reason_of_fetched` and `reason_of_delivered`.

* A delivery follows a record that is ready, with results that were not delivered last.
* A change follows a record in the phase that calls for it. A marker is only set for results that
  were delivered last, and any other change only by an invocation that is not cancelled.
-/

set_option autoImplicit false

namespace RunHerald

/-- The call that an invocation waits for after a move, if it goes on. -/
def Move.stage? : Move → Option Stage
  | .wait stage => some stage
  | .finish _ => none

/-- A move has a stage if it waits for it. -/
theorem Move.stage?_eq_some_iff {move : Move} {stage : Stage} :
    move.stage? = some stage ↔ move = .wait stage := by
  cases move <;> simp [stage?]

/-- The change that an invocation makes is called for by the record that it has read, and it is
allowed to make it. -/
structure Warranted (m : Markers) (p : Progress) (cancelled : Bool) (snapshot : Snapshot)
    (w : Write) : Prop where
  phase : Phase.ofRun snapshot.run m = w.phase
  delivered : w = .setMarker → ∃ rs, snapshot.run.readResults = .ok rs ∧ p.delivered = some rs
  active : w ≠ .setMarker → cancelled = false

/-- The delivery that an invocation starts is called for by the record that it has read, and the
invocation is allowed to start it. -/
structure Announced (m : Markers) (p : Progress) (cancelled : Bool) (snapshot : Snapshot)
    (rs : List RunResult) : Prop where
  phase : Phase.ofRun snapshot.run m = .readyToNotify
  results : snapshot.run.readResults = .ok rs
  fresh : p.delivered ≠ some rs
  active : cancelled = false

namespace Reconciler

/-- An invocation goes on to a read, unless it is cancelled and has delivered nothing. -/
theorem wait_of_resume {p : Progress} {cancelled : Bool} {stage : Stage}
    (h : resume p cancelled = .wait stage) :
    stage = .fetch p ∧ (p.delivered = none → cancelled = false) := by
  unfold resume at h
  split at h
  · cases h
  · rename_i hgo
    refine ⟨(Move.wait.inj h).symm, ?_⟩
    intro hdelivered
    simpa [hdelivered] using hgo

/-- A change that only an active invocation may make. -/
theorem wait_of_change_iff {p : Progress} {cancelled : Bool} {snapshot : Snapshot} {w : Write}
    {stage : Stage} :
    change p cancelled snapshot w = .wait stage ↔
      cancelled = false ∧ stage = .write p snapshot w := by
  cases cancelled <;> simp [change, Move.fail, eq_comm]

/-- What a record that is ready leads to. -/
theorem wait_of_announce_iff {p : Progress} {cancelled : Bool} {snapshot : Snapshot}
    {stage : Stage} :
    (announce p cancelled snapshot).2 = .wait stage ↔
      ∃ rs, snapshot.run.readResults = .ok rs ∧
        (p.delivered = some rs ∧ stage = .write p snapshot .setMarker ∨
          p.delivered ≠ some rs ∧ cancelled = false ∧ stage = .deliver p snapshot rs) := by
  unfold announce
  cases hr : snapshot.run.readResults with
  | error e => simp [Move.fail]
  | ok rs =>
    by_cases hd : p.delivered = some rs
    · simp [hd, eq_comm]
    · cases cancelled <;> simp [hd, Move.fail, eq_comm]

/-- A decision that goes on goes on to a delivery or a change that the record calls for. -/
theorem reason_of_decide {m : Markers} {p : Progress} {cancelled : Bool} {snapshot : Snapshot}
    {stage : Stage}
    (h : (decide p cancelled snapshot (Phase.ofRun snapshot.run m)).2 = .wait stage) :
    (∃ rs, stage = .deliver p snapshot rs ∧ Announced m p cancelled snapshot rs) ∨
      ∃ w, stage = .write p snapshot w ∧ Warranted m p cancelled snapshot w := by
  have hchange : ∀ w, w ≠ .setMarker → Phase.ofRun snapshot.run m = w.phase →
      change p cancelled snapshot w = .wait stage →
      ∃ w, stage = .write p snapshot w ∧ Warranted m p cancelled snapshot w := by
    intro w hw hphase h
    obtain ⟨hactive, hstage⟩ := wait_of_change_iff.1 h
    exact ⟨w, hstage, hphase, fun hset => absurd hset hw, fun _ => hactive⟩
  cases hphase : Phase.ofRun snapshot.run m with
  | legacy => simp [hphase, decide, Move.done] at h
  | awaitingCompletion => simp [hphase, decide, Move.done] at h
  | unguarded =>
    rw [hphase] at h
    exact Or.inr (hchange .addGuard (by simp) hphase h)
  | readyToRelease =>
    rw [hphase] at h
    exact Or.inr (hchange .release (by simp) hphase h)
  | anomalous =>
    rw [hphase] at h
    refine Or.inr (hchange .releaseAnomalous (by simp) hphase ?_)
    cases cancelled <;> simpa [decide, change] using h
  | readyToNotify =>
    rw [hphase] at h
    obtain ⟨rs, hrs, ⟨hd, hstage⟩ | ⟨hd, hactive, hstage⟩⟩ := wait_of_announce_iff.1 h
    · exact Or.inr ⟨.setMarker, hstage, hphase, fun _ => ⟨rs, hrs, hd⟩, fun hw => absurd rfl hw⟩
    · exact Or.inl ⟨rs, hstage, hphase, hrs, hd, hactive⟩

/-- A read that goes on has found a record, and goes on to what that record calls for. -/
theorem reason_of_fetched {r : Reconciler} {p : Progress} {cancelled : Bool}
    {answer : Attempt (Option Snapshot)} {stage : Stage}
    (h : (r.fetched p cancelled answer).2 = .wait stage) :
    ∃ snapshot, answer = .done (some snapshot) ∧
      ((∃ rs, stage = .deliver p snapshot rs ∧ Announced r.markers p cancelled snapshot rs) ∨
        ∃ w, stage = .write p snapshot w ∧ Warranted r.markers p cancelled snapshot w) := by
  cases answer with
  | aborted message => simp [fetched] at h
  | failed e => simp [fetched, Move.fail] at h
  | done found =>
    cases found with
    | none => simp [fetched, Move.done] at h
    | some snapshot => exact ⟨snapshot, rfl, reason_of_decide h⟩

/-- A delivery that goes on has been accepted, and goes on to the marker. -/
theorem reason_of_delivered {r : Reconciler} {p : Progress} {snapshot : Snapshot}
    {payload : Payload} {answer : Delivery} {stage : Stage}
    (h : (r.delivered p snapshot payload answer).2 = .wait stage) :
    answer = .result (.ok ()) ∧
      stage = .write { p with delivered := some payload.results } snapshot .setMarker := by
  refine ⟨?_, wait_of_delivered h⟩
  cases answer with
  | aborted message => simp [delivered] at h
  | abandoned => simp [delivered, Move.fail] at h
  | result result =>
    cases result with
    | error e => simp [delivered, Move.fail] at h
    | ok a => rfl

/-- An attempt to change the record that goes on has met a conflict, and goes on to another read.
Unless something has been delivered, the invocation is not cancelled then. -/
theorem reason_of_written {r : Reconciler} {p : Progress} {cancelled : Bool} {snapshot : Snapshot}
    {w : Write} {answer : Attempt PatchResult} {stage : Stage}
    (h : (r.written p cancelled snapshot w answer).2 = .wait stage) :
    ∃ current, answer = .done (.conflict current) ∧
      stage = .fetch { p with conflicts := p.conflicts + 1 } ∧
      (p.delivered = none → cancelled = false) := by
  cases answer with
  | aborted message => simp [written] at h
  | failed e => simp [written, Move.fail] at h
  | done result =>
    cases result with
    | applied version => simp [written] at h
    | notFound => simp [written, Move.done] at h
    | conflict current =>
      simp only [written, conflicted] at h
      split at h
      · cases h
      · split at h
        · cases h
        · exact ⟨current, rfl, wait_of_resume h⟩

end Reconciler

end RunHerald
