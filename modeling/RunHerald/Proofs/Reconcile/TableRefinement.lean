import RunHerald.Proofs.Reconcile.Coherence

/-!
# Changes follow the table

The store is compared before and after a patch of an invocation is applied, whatever other
invocations and other people have done between the decision and the write.

* The standing of the record at the moment of the write goes to the standing after it by one row of
  the table, and by no other.
* The record keeps all but the guard and the marker. It is removed only if its deletion was pending
  and the guard was its last finalizer.
* The records under other keys stay as they were, versions included.

The row is that of the record which the patch meets, not of the one which the invocation has read;
that the two are the same is `exists_application`.
-/

set_option autoImplicit false

namespace RunHerald

/-- A record that a change leaves without finalizers, while its deletion is pending, was kept by the
guard alone. -/
theorem guard_was_last {m : Markers} {w : Write} {before : Run}
    (hphase : Phase.ofRun before m = w.phase)
    (hspent : Store.isSpent ((w.patch m).apply before) = true) :
    before.isDeletionRequested = true ∧
      ∀ token, before.hasFinalizer token = true ↔ token = m.guardToken := by
  have hagrees := agreesBeside_of_write m w before
  obtain ⟨hdeletion, hempty⟩ := Bool.and_eq_true_iff.1 hspent
  have hnone := (Run.isEmpty_finalizers_iff _).1 hempty
  have hguarded : before.isGuarded m = true := by
    have hs := standing_of_phase hphase
    cases w with
    -- a record that has just been guarded has a finalizer
    | addGuard => simpa [Write.patch, Patch.apply] using hnone m.guardToken
    | setMarker => exact hs.1
    | release => exact hs.1
    | releaseAnomalous => exact hs.1
  refine ⟨?_, ?_⟩
  · unfold Run.isDeletionRequested at hdeletion ⊢
    rw [hagrees.deletionRequestedAt]
    exact hdeletion
  · intro token
    constructor
    · intro htoken
      by_contra hother
      rw [hagrees.finalizers token hother, hnone token] at htoken
      simp at htoken
    · rintro rfl
      exact hguarded

namespace System

/-- A patch that is applied takes the record by one row of the table, keeps the rest of it, and
leaves the records under other keys alone. -/
theorem applied_change_follows_row (acts : List Act) (act : Act) (id : Nat) (inv : Invocation)
    (key : RunKey) (p : Patch) (hinv : (initial.run acts).invocations[id]? = some inv)
    (happlied : (initial.run acts).Applies act id key p) :
    let m := inv.reconciler.markers
    let store := (initial.run acts).store
    let store' := ((initial.run acts).step act).store
    ∃ (before : Record) (after : Run) (w : Write),
      store.records.get? key = some before ∧ p = w.patch m ∧
      Row w (before.run.standing m) (after.standing m) ∧
      (∀ w', Row w' (before.run.standing m) (after.standing m) → w' = w) ∧
      AgreesBeside m before.run after ∧
      (store'.records.get? key = some ⟨after, store.lastVersion + 1⟩ ∨
        store'.records.get? key = none ∧ before.run.isDeletionRequested = true ∧
          ∀ token, before.run.hasFinalizer token = true ↔ token = m.guardToken) ∧
      ∀ other, other ≠ key → store'.records.get? other = store.records.get? other := by
  intro m store store'
  obtain ⟨inv', w, before, happ⟩ :=
    exists_application (coherent_run coherent_initial acts) happlied
  obtain rfl : inv' = inv := Option.some.inj (happ.invocation.symm.trans hinv)
  have hrow : Row w (before.run.standing m) ((p.apply before.run).standing m) := by
    rw [happ.change]
    exact row_of_phase happ.phase
  have hstore : ∀ k, store'.records.get? k =
      if k = key then
        if Store.isSpent (p.apply before.run) then none
        else some ⟨p.apply before.run, store.lastVersion + 1⟩
      else store.records.get? k := by
    intro k
    change ((initial.run acts).step act).store.records.get? k = _
    rw [happ.leaves]
    exact Store.get?_writeBack _ _ _ _
  refine ⟨before, p.apply before.run, w, happ.meets, happ.change, hrow, fun w' h => hrow.unique h,
    ?_, ?_, ?_⟩
  · rw [happ.change]
    exact agreesBeside_of_write m w before.run
  · rw [hstore key, if_pos rfl]
    cases hspent : Store.isSpent (p.apply before.run) with
    | false => exact Or.inl rfl
    | true =>
      rw [happ.change] at hspent
      exact Or.inr ⟨rfl, guard_was_last happ.phase hspent⟩
  · intro other hother
    rw [hstore other, if_neg hother]

/-- The guard of a record that is to be deleted is released. The record goes, and the one under the
other key stays. -/
theorem release_of_pending_record_follows_row :
    let a : RunKey := ⟨"ci", "a"⟩
    let b : RunKey := ⟨"ci", "b"⟩
    let m : Markers := .standard
    let r : Reconciler := ⟨"sink", m, 1, default, default⟩
    let done : Run := ((Run.new a).withCompletion .succeeded).annotated "notification.sent" "true"
    let fine : Chance := ⟨false, default, none, .abandoned⟩
    let acts : List Act :=
      [.outside (.insert (done.withFinalizer "notification.guard")), .start r a false,
        .outside (.insert (Run.new b)), .outside (.requestDelete default a), .advance 0 fine]
    let store' := ((initial.run acts).step (.advance 0 fine)).store
    (initial.run acts).Applies (.advance 0 fine) 0 a (.removeFinalizer "notification.guard") ∧
    (∃ (before : Record) (after : Run) (w : Write),
      (initial.run acts).store.records.get? a = some before ∧
      Row w (before.run.standing m) (after.standing m)) ∧
    store'.records.get? a = none ∧ store'.records.get? b = some ⟨Run.new b, 2⟩ := by
  intro a b m r done fine acts store'
  have happlied : (initial.run acts).Applies (.advance 0 fine) 0 a
      (.removeFinalizer "notification.guard") := by
    dsimp +zetaDelta only
    exact ⟨"3", "4", rfl⟩
  have hinv : (initial.run acts).invocations[0]? = some ⟨r, a, some (.write ⟨none, 0⟩
      ⟨{ done.withFinalizer "notification.guard" with deletionRequestedAt := some default }, "3"⟩
      .release)⟩ := by
    dsimp +zetaDelta only
    rfl
  obtain ⟨before, after, w, hbefore, -, hrow, -, -, -, hothers⟩ :=
    applied_change_follows_row acts (.advance 0 fine) 0 _ a _ hinv happlied
  refine ⟨happlied, ⟨before, after, w, hbefore, hrow⟩, ?_, ?_⟩
  · dsimp +zetaDelta only
    rfl
  · rw [hothers b (by decide)]
    dsimp +zetaDelta only
    rfl

end System

end RunHerald
