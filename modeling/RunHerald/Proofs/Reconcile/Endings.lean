import RunHerald.Proofs.Reconcile.Stages

/-!
# How an invocation ends

An invocation ends with the answer to one of its calls. The ways in which it can are listed once for
each kind of call, with the answer that leads to each: `FetchEnd`, `DeliverEnd` and `WriteEnd`. That
there are no others say `end_of_fetched`, `end_of_delivered` and `end_of_written`.

Only one of them is an outcome that reports a change: the one of a change that was applied. All
others are `Idle`.
-/

set_option autoImplicit false

namespace RunHerald

/-- An end without an outcome that reports a change. -/
def Ending.Idle (ending : Ending) : Prop :=
  ∀ o, ending = .returned (.ok o) → o.action.mutated = false

/-- An invocation that aborts reports no change. -/
theorem Ending.idle_aborted (message : String) : (Ending.aborted message).Idle := by
  intro o h
  cases h

/-- An invocation that fails reports no change. -/
theorem Ending.idle_error (e : ReconcileError) : (Ending.returned (.error e)).Idle := by
  intro o h
  cases h

/-- An invocation that had nothing to do reports no change. -/
theorem Ending.idle_done {action : Action} (h : action.mutated = false) :
    (Ending.returned (.ok (.done action))).Idle := by
  intro o ho
  cases ho
  exact h

/-- The ways in which an invocation can end with a read. -/
inductive FetchEnd (m : Markers) (cancelled : Bool) : Attempt (Option Snapshot) → Ending → Prop
  | aborted (message : String) : FetchEnd m cancelled (.aborted message) (.aborted message)
  | failed (e : ServiceError) :
    FetchEnd m cancelled (.failed e) (.returned (.error (.store e)))
  | absent : FetchEnd m cancelled (.done none) (.returned (.ok (.done .notFound)))
  | legacy (snapshot : Snapshot) (hphase : Phase.ofRun snapshot.run m = .legacy) :
    FetchEnd m cancelled (.done (some snapshot)) (.returned (.ok (.done .legacy)))
  | awaitingCompletion (snapshot : Snapshot)
    (hphase : Phase.ofRun snapshot.run m = .awaitingCompletion) :
    FetchEnd m cancelled (.done (some snapshot)) (.returned (.ok (.done .awaitingCompletion)))
  | unreadable (snapshot : Snapshot) (e : ResultsError)
    (hphase : Phase.ofRun snapshot.run m = .readyToNotify)
    (hresults : snapshot.run.readResults = .error e) :
    FetchEnd m cancelled (.done (some snapshot)) (.returned (.error (.extraction e)))
  | cancelled (snapshot : Snapshot) (hcancelled : cancelled = true) :
    FetchEnd m cancelled (.done (some snapshot)) (.returned (.error .cancelled))

/-- The ways in which an invocation can end with a delivery. -/
inductive DeliverEnd : Delivery → Ending → Prop
  | aborted (message : String) : DeliverEnd (.aborted message) (.aborted message)
  | abandoned : DeliverEnd .abandoned (.returned (.error .cancelled))
  | failed (e : DeliveryError) :
    DeliverEnd (.result (.error e)) (.returned (.error (.delivery e)))

/-- The ways in which an invocation can end with an attempt to change the record. -/
inductive WriteEnd (r : Reconciler) (p : Progress) (cancelled : Bool) (w : Write) :
    Attempt PatchResult → Ending → Prop
  | aborted (message : String) : WriteEnd r p cancelled w (.aborted message) (.aborted message)
  | failed (e : ServiceError) :
    WriteEnd r p cancelled w (.failed e) (.returned (.error (.store e)))
  | applied (version : String) :
    WriteEnd r p cancelled w (.done (.applied version)) (.returned (.ok (.ofWrite w)))
  | notFound : WriteEnd r p cancelled w (.done .notFound) (.returned (.ok (.done .notFound)))
  | overflow (current : String) (hlimit : conflictLimit ≤ p.conflicts + 1) :
    WriteEnd r p cancelled w (.done (.conflict current)) (.aborted countOverflow)
  | exhausted (current : String) (hlimit : r.maxConflictRetries.toNat < p.conflicts + 1) :
    WriteEnd r p cancelled w (.done (.conflict current))
      (.returned (.error (.conflictsExhausted (p.conflicts + 1))))
  | cancelled (current : String) (hdelivered : p.delivered = none)
    (hcancelled : cancelled = true) :
    WriteEnd r p cancelled w (.done (.conflict current)) (.returned (.error .cancelled))

namespace Reconciler

/-- An invocation that is not to read has been cancelled before it delivered anything. -/
theorem end_of_resume {p : Progress} {cancelled : Bool} {ending : Ending}
    (h : resume p cancelled = .finish ending) :
    ending = .returned (.error .cancelled) ∧ p.delivered = none ∧ cancelled = true := by
  unfold resume at h
  split at h
  · rename_i hstop
    rw [Bool.and_eq_true, Option.isNone_iff_eq_none] at hstop
    exact ⟨(Move.finish.inj h).symm, hstop⟩
  · cases h

/-- An invocation that is to change the record ends only if it is cancelled. -/
theorem end_of_change {p : Progress} {cancelled : Bool} {snapshot : Snapshot} {w : Write}
    {ending : Ending} (h : change p cancelled snapshot w = .finish ending) :
    cancelled = true ∧ ending = .returned (.error .cancelled) := by
  cases cancelled <;> simp [change, Move.fail, eq_comm] at h
  exact ⟨rfl, h⟩

/-- An invocation that is to announce results ends if they cannot be read or it is cancelled. -/
theorem end_of_announce {p : Progress} {cancelled : Bool} {snapshot : Snapshot} {ending : Ending}
    (h : (announce p cancelled snapshot).2 = .finish ending) :
    (∃ e, snapshot.run.readResults = .error e ∧ ending = .returned (.error (.extraction e))) ∨
      cancelled = true ∧ ending = .returned (.error .cancelled) := by
  unfold announce at h
  cases hr : snapshot.run.readResults with
  | error e =>
    simp only [hr, Move.fail, Move.finish.injEq] at h
    exact Or.inl ⟨e, rfl, h.symm⟩
  | ok rs =>
    by_cases hd : p.delivered = some rs
    · simp [hr, hd] at h
    · cases cancelled <;> simp [hr, hd, Move.fail, eq_comm] at h
      exact Or.inr ⟨rfl, h⟩

/-- How an invocation can end after a read that has found a record. -/
theorem end_of_decide {m : Markers} {p : Progress} {cancelled : Bool} {snapshot : Snapshot}
    {ending : Ending}
    (h : (decide p cancelled snapshot (Phase.ofRun snapshot.run m)).2 = .finish ending) :
    FetchEnd m cancelled (.done (some snapshot)) ending := by
  have hchange : ∀ w, change p cancelled snapshot w = .finish ending →
      FetchEnd m cancelled (.done (some snapshot)) ending := by
    intro w h
    obtain ⟨hcancelled, rfl⟩ := end_of_change h
    exact .cancelled snapshot hcancelled
  cases hphase : Phase.ofRun snapshot.run m with
  | legacy =>
    rw [hphase] at h
    obtain rfl := Move.finish.inj h
    exact .legacy snapshot hphase
  | awaitingCompletion =>
    rw [hphase] at h
    obtain rfl := Move.finish.inj h
    exact .awaitingCompletion snapshot hphase
  | unguarded =>
    rw [hphase] at h
    exact hchange .addGuard h
  | readyToRelease =>
    rw [hphase] at h
    exact hchange .release h
  | anomalous =>
    rw [hphase] at h
    refine hchange .releaseAnomalous ?_
    cases cancelled with
    | false => cases h
    | true => exact h
  | readyToNotify =>
    rw [hphase] at h
    obtain ⟨e, hresults, rfl⟩ | ⟨hcancelled, rfl⟩ := end_of_announce h
    · exact .unreadable snapshot e hphase hresults
    · exact .cancelled snapshot hcancelled

/-- An invocation ends with a read in one of the ways of `FetchEnd`. -/
theorem end_of_fetched {r : Reconciler} {p : Progress} {cancelled : Bool}
    {answer : Attempt (Option Snapshot)} {ending : Ending}
    (h : (r.fetched p cancelled answer).2 = .finish ending) :
    FetchEnd r.markers cancelled answer ending := by
  cases answer with
  | aborted message =>
    obtain rfl := Move.finish.inj h
    exact .aborted message
  | failed e =>
    obtain rfl := Move.finish.inj h
    exact .failed e
  | done found =>
    cases found with
    | none =>
      obtain rfl := Move.finish.inj h
      exact .absent
    | some snapshot => exact end_of_decide h

/-- An invocation ends with a delivery in one of the ways of `DeliverEnd`. -/
theorem end_of_delivered {r : Reconciler} {p : Progress} {snapshot : Snapshot}
    {payload : Payload} {answer : Delivery} {ending : Ending}
    (h : (r.delivered p snapshot payload answer).2 = .finish ending) : DeliverEnd answer ending := by
  cases answer with
  | aborted message =>
    obtain rfl := Move.finish.inj h
    exact .aborted message
  | abandoned =>
    obtain rfl := Move.finish.inj h
    exact .abandoned
  | result result =>
    cases result with
    | error e =>
      obtain rfl := Move.finish.inj h
      exact .failed e
    | ok a => cases h

/-- An invocation ends with an attempt to change the record in one of the ways of `WriteEnd`. -/
theorem end_of_written {r : Reconciler} {p : Progress} {cancelled : Bool} {snapshot : Snapshot}
    {w : Write} {answer : Attempt PatchResult} {ending : Ending}
    (h : (r.written p cancelled snapshot w answer).2 = .finish ending) :
    WriteEnd r p cancelled w answer ending := by
  cases answer with
  | aborted message =>
    obtain rfl := Move.finish.inj h
    exact .aborted message
  | failed e =>
    obtain rfl := Move.finish.inj h
    exact .failed e
  | done result =>
    cases result with
    | applied version =>
      obtain rfl := Move.finish.inj h
      exact .applied version
    | notFound =>
      obtain rfl := Move.finish.inj h
      exact .notFound
    | conflict current =>
      simp only [written, conflicted] at h
      split at h
      · rename_i hlimit
        obtain rfl := Move.finish.inj h
        exact .overflow current hlimit
      · split at h
        · rename_i hlimit
          obtain rfl := Move.finish.inj h
          exact .exhausted current hlimit
        · obtain ⟨rfl, hdelivered, hcancelled⟩ := end_of_resume h
          exact .cancelled current hdelivered hcancelled

end Reconciler

/-- An invocation that ends with a read reports no change. -/
theorem FetchEnd.idle {m : Markers} {cancelled : Bool} {answer : Attempt (Option Snapshot)}
    {ending : Ending} (h : FetchEnd m cancelled answer ending) : ending.Idle := by
  cases h with
  | aborted message => exact Ending.idle_aborted message
  | failed e => exact Ending.idle_error _
  | absent => exact Ending.idle_done rfl
  | legacy => exact Ending.idle_done rfl
  | awaitingCompletion => exact Ending.idle_done rfl
  | unreadable => exact Ending.idle_error _
  | cancelled => exact Ending.idle_error _

/-- An invocation that ends with a delivery reports no change. -/
theorem DeliverEnd.idle {answer : Delivery} {ending : Ending} (h : DeliverEnd answer ending) :
    ending.Idle := by
  cases h with
  | aborted message => exact Ending.idle_aborted message
  | abandoned => exact Ending.idle_error _
  | failed e => exact Ending.idle_error _

/-- An invocation that ends with an attempt to change the record reports a change only if the change
was applied. -/
theorem WriteEnd.idle {r : Reconciler} {p : Progress} {cancelled : Bool} {w : Write}
    {answer : Attempt PatchResult} {ending : Ending} (h : WriteEnd r p cancelled w answer ending)
    (hanswer : ∀ version, answer ≠ .done (.applied version)) : ending.Idle := by
  cases h with
  | aborted message => exact Ending.idle_aborted message
  | failed e => exact Ending.idle_error _
  | applied version => exact absurd rfl (hanswer version)
  | notFound => exact Ending.idle_done rfl
  | overflow => exact Ending.idle_aborted _
  | exhausted => exact Ending.idle_error _
  | cancelled => exact Ending.idle_error _

end RunHerald
