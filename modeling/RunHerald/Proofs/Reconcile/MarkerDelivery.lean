import RunHerald.Proofs.Reconcile.Coherence

/-!
# A marker stands for a delivery

There are any number of invocations of any reconcilers. Their steps are put in any order with each
other and with what others do to the store, and any of them may be cancelled or crash. When the
marker of an invocation is applied to a record, the record is ready at that moment, and the same
invocation has delivered its results: not some results of the run, but those that the record has
when it is marked.

The results were taken from an older read. That they are still the results of the record follows
from `exists_application`, also where the record has been deleted and created anew in between, and
where the delivery was made before a conflict and is not repeated.
-/

set_option autoImplicit false

namespace RunHerald.System

/-- A marker that is applied meets a record that is ready, whose results the same invocation has
delivered for the same run. -/
theorem marker_follows_delivery (acts : List Act) (act : Act) (id : Nat) (inv : Invocation)
    (key : RunKey) (hinv : (initial.run acts).invocations[id]? = some inv)
    (happlied : (initial.run acts).Applies act id key
      (.annotate inv.reconciler.markers.markerKey inv.reconciler.markers.markerValue)) :
    inv.key = key ∧
    ∃ record, (initial.run acts).store.records.get? key = some record ∧
      record.run.isGuarded inv.reconciler.markers = true ∧
      record.run.isMarked inv.reconciler.markers = false ∧
      record.run.completion = .succeeded ∧
      ∃ payload, (id, Call.deliver payload (.result (.ok ()))) ∈ (initial.run acts).log ∧
        payload.run = key ∧ record.run.readResults = .ok payload.results := by
  obtain ⟨inv', w, record, happ⟩ :=
    exists_application (coherent_run coherent_initial acts) happlied
  obtain rfl : inv' = inv := Option.some.inj (happ.invocation.symm.trans hinv)
  obtain rfl := Write.eq_setMarker happ.change
  obtain ⟨hguarded, hmarked, hcompletion⟩ := standing_of_phase happ.phase
  obtain ⟨rs, hrs, payload, hdelivered, hrun, rfl⟩ := happ.results rfl
  exact ⟨happ.own, record, happ.meets, hguarded, hmarked, hcompletion,
    payload, hdelivered, hrun, hrs⟩

/-- An invocation delivers the results of a record, meets a conflict because the owner has annotated
the record in between, reads again and marks the record without a second delivery. -/
theorem marker_follows_delivery_over_conflict :
    let a : RunKey := ⟨"ci", "a"⟩
    let r : Reconciler := ⟨"sink", .standard, 1, default, default⟩
    let ready : Run := ((Run.new a).withResults [⟨"verdict", "pass"⟩]).withFinalizer
      "notification.guard"
    let fine : Chance := ⟨false, default, none, .result (.ok ())⟩
    let acts : List Act :=
      [.outside (.insert ready), .start r a false, .advance 0 fine, .advance 0 fine,
        .outside (.rework a fun run => (run.annotated "owner" "ci", none)), .advance 0 fine,
        .advance 0 fine]
    (initial.run acts).Applies (.advance 0 fine) 0 a (.annotate "notification.sent" "true") ∧
    ∃ record, (initial.run acts).store.records.get? a = some record ∧
      ∃ payload, (0, Call.deliver payload (.result (.ok ()))) ∈ (initial.run acts).log ∧
        payload.run = a ∧ record.run.readResults = .ok payload.results := by
  intro a r ready fine acts
  have happlied : (initial.run acts).Applies (.advance 0 fine) 0 a
      (.annotate "notification.sent" "true") := by
    dsimp +zetaDelta only
    exact ⟨"2", "3", rfl⟩
  have hinv : (initial.run acts).invocations[0]? = some ⟨r, a, some (.write
      ⟨some [⟨"verdict", "pass"⟩], 1⟩ ⟨ready.annotated "owner" "ci", "2"⟩ .setMarker)⟩ := by
    dsimp +zetaDelta only
    rfl
  obtain ⟨-, record, hrecord, -, -, -, hpayload⟩ :=
    marker_follows_delivery acts (.advance 0 fine) 0 _ a hinv happlied
  exact ⟨happlied, record, hrecord, hpayload⟩

end RunHerald.System
