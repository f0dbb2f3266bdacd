import RunHerald.Proofs.Reconcile.Coherence

/-!
# The guard stays until the marker is recorded

All invocations belong to one reconciler. Others may do what is `Considerate`: they request
deletions, change records without taking the guard away or setting the marker, and insert records
under keys that are free. Invocations may be cancelled or crash, and the store and the sink may
fail, at any step.

`HoldsBack` is the invariant of a record that has been guarded and not been marked yet: it is there,
with the guard and without the marker. Neither a deletion nor a change by somebody else ends it
(`holdsBack_perform`). Of the patches of invocations only the marker does, since a release is
computed from a record with the marker and meets the record that it was computed from
(`holdsBack_or_marked`). So it lasts until the marker is applied (`holdsBack_or_recorded`).
-/

set_option autoImplicit false

namespace RunHerald

/-- A change of a record that neither takes the guard away nor sets the marker. -/
structure Run.Spares (m : Markers) (before after : Run) : Prop where
  guard : before.isGuarded m = true → after.isGuarded m = true
  marker : before.isMarked m = false → after.isMarked m = false

namespace Store

/-- What others may do to a store while a reconciler works on it. -/
def Operation.Considerate (m : Markers) (s : Store) : Operation → Prop
  | .insert run => s.records.get? run.key = none
  | .rework key f => ∀ r, s.records.get? key = some r → r.run.Spares m (f r.run).1
  | .patch key _ p => ∀ r, s.records.get? key = some r → r.run.Spares m (p.apply r.run)
  | .requestDelete .. => True
  | .read _ => True
  | .count => True

/-- The record of a key is there, guarded and not marked. -/
def HoldsBack (s : Store) (m : Markers) (key : RunKey) : Prop :=
  ∃ r, s.records.get? key = some r ∧ r.run.isGuarded m = true ∧ r.run.isMarked m = false

/-- A record is held back while other records change, and while it changes itself in a way that
keeps it held back. -/
theorem HoldsBack.of_change {s s' : Store} {m : Markers} {key key' : RunKey} {found : Option Record}
    (h : s.HoldsBack m key)
    (hget : ∀ k, s'.records.get? k = if k = key' then found else s.records.get? k)
    (hfound : ∀ r, s.records.get? key' = some r → r.run.isGuarded m = true →
      r.run.isMarked m = false →
      ∃ r', found = some r' ∧ r'.run.isGuarded m = true ∧ r'.run.isMarked m = false) :
    s'.HoldsBack m key := by
  obtain ⟨r, hr, hguarded, hmarked⟩ := h
  unfold HoldsBack
  rw [hget key]
  by_cases hk : key = key'
  · subst hk
    rw [if_pos rfl]
    exact hfound r hr hguarded hmarked
  · rw [if_neg hk]
    exact ⟨r, hr, hguarded, hmarked⟩

/-- A record is held back while it is changed in a way that spares the guard and the marker. -/
theorem HoldsBack.of_spared {s s' : Store} {m : Markers} {key key' : RunKey}
    {found : Option Record} {r : Record} {run : Run} (h : s.HoldsBack m key)
    (hget : ∀ k, s'.records.get? k = if k = key' then found else s.records.get? k)
    (hr : s.records.get? key' = some r) (hs : r.run.Spares m run)
    (hfound : run.isGuarded m = true → ∃ v, found = some ⟨run, v⟩) : s'.HoldsBack m key := by
  refine h.of_change hget ?_
  intro r' hr' hguarded hmarked
  obtain rfl : r' = r := Option.some.inj (hr'.symm.trans hr)
  obtain ⟨v, hv⟩ := hfound (hs.guard hguarded)
  exact ⟨_, hv, hs.guard hguarded, hs.marker hmarked⟩

/-- A record that is guarded does not go when it is written. -/
theorem isSpent_of_isGuarded {run : Run} {m : Markers} (h : run.isGuarded m = true) :
    isSpent run = false := by
  unfold isSpent
  rw [Run.isEmpty_finalizers_of_hasFinalizer h, Bool.and_false]

/-- What others may do does not end it that a record is held back. -/
theorem holdsBack_perform {s : Store} {m : Markers} {key : RunKey} (h : s.HoldsBack m key)
    {op : Operation} (hop : op.Considerate m s) : (s.perform op).2.HoldsBack m key := by
  have he := perform_effect s op
  generalize (s.perform op).1 = answer at he
  generalize (s.perform op).2 = s' at he
  cases he with
  | inserted run hp =>
    refine h.of_change (get?_save s run.key run) ?_
    intro r hr
    rw [hop] at hr
    simp at hr
  | reworked key' f r run hp hr hf =>
    have hs := hop r hr
    rw [hf] at hs
    exact h.of_spared (get?_save s key' run) hr hs fun _ => ⟨_, rfl⟩
  | reworkAborted key' f r run message hp hr hf =>
    have hs := hop r hr
    rw [hf] at hs
    exact h.of_spared (get?_spoil s key' r run) hr hs fun _ => ⟨_, rfl⟩
  | patched key' expected p r hp hr hv =>
    refine h.of_spared (get?_writeBack s key' (p.apply r.run)) hr (hop r hr) ?_
    intro hguarded
    rw [isSpent_of_isGuarded hguarded]
    exact ⟨_, rfl⟩
  | deleted now key' r hp hr hf =>
    refine h.of_change (get?_remove s key') ?_
    intro r' hr' hguarded
    obtain rfl : r' = r := Option.some.inj (hr'.symm.trans hr)
    rw [Run.isEmpty_finalizers_of_hasFinalizer hguarded] at hf
    simp at hf
  | deleteRequested now key' r hp hr =>
    have hs : r.run.Spares m { r.run with deletionRequestedAt := some now } := ⟨id, id⟩
    exact h.of_spared (get?_save s key' _) hr hs fun _ => ⟨_, rfl⟩
  | _ => exact h

end Store

/-- What may happen to a system with one reconciler. -/
def Act.Considerate (r : Reconciler) (s : System) : Act → Prop
  | .start r' _ _ => r' = r
  | .advance .. => True
  | .crash _ => True
  | .outside op => op.Considerate r.markers s.store

namespace System

/-- Each of some acts is considerate at its moment. -/
def Considered (r : Reconciler) : System → List Act → Prop
  | _, [] => True
  | s, act :: acts => act.Considerate r s ∧ Considered r (s.step act) acts

/-- All invocations belong to one reconciler. -/
def RunBy (s : System) (r : Reconciler) : Prop :=
  ∀ (id : Nat) (inv : Invocation), s.invocations[id]? = some inv → inv.reconciler = r

/-- In the course of some acts, an invocation applies the marker to the record of a key, after the
sink has accepted a payload for that run from the same invocation. -/
def Recorded (r : Reconciler) (s : System) (acts : List Act) (key : RunKey) : Prop :=
  ∃ before act after id, acts = before ++ act :: after ∧
    (s.run before).Applies act id key (.annotate r.markers.markerKey r.markers.markerValue) ∧
    ∃ payload, (id, Call.deliver payload (.result (.ok ()))) ∈ (s.run before).log ∧
      payload.run = key

/-- Acts are considered if both parts of them are. -/
theorem considered_append {r : Reconciler} {s : System} {acts acts' : List Act} :
    Considered r s (acts ++ acts') ↔ Considered r s acts ∧ Considered r (s.run acts) acts' := by
  induction acts generalizing s with
  | nil => simp [Considered]
  | cons act acts ih =>
    rw [List.cons_append, Considered, Considered, run_cons, ih, and_assoc]

/-- Only a start brings in a reconciler. -/
theorem runBy_effect {r : Reconciler} {s s' : System} {act : Act} (h : s.RunBy r)
    (he : Effect s act s') (hact : act.Considerate r s) : s'.RunBy r := by
  intro id inv hi
  rcases he.origin hi with ⟨cancelled, rfl⟩ | ⟨old, hold, hr, -⟩
  · exact hact
  · rw [← hr]
    exact h id old hold

/-- Considered acts leave a system run by its reconciler. -/
theorem runBy_run {r : Reconciler} {s : System} (h : s.RunBy r) {acts : List Act}
    (hacts : Considered r s acts) : (s.run acts).RunBy r := by
  induction acts generalizing s with
  | nil => exact h
  | cons act acts ih => exact ih (runBy_effect h (step_effect s act) hacts.1) hacts.2

/-! ## Patches of the one reconciler -/

/-- A guard that is applied leaves a record that is held back. -/
theorem holdsBack_of_guarded {r : Reconciler} {s : System} (hcoherent : s.Coherent)
    (hrun : s.RunBy r) {act : Act} {id : Nat} {key : RunKey}
    (ha : s.Applies act id key (.addFinalizer r.markers.guardToken)) :
    (s.step act).store.HoldsBack r.markers key := by
  obtain ⟨inv, w, record, happ⟩ := exists_application hcoherent ha
  obtain rfl := hrun id inv happ.invocation
  obtain rfl := Write.eq_addGuard happ.change
  obtain ⟨-, hmarked⟩ := standing_of_phase happ.phase
  have hguarded : (record.run.withFinalizer inv.reconciler.markers.guardToken).isGuarded
      inv.reconciler.markers = true := by
    simp [Run.isGuarded]
  refine ⟨⟨_, s.store.lastVersion + 1⟩, ?_, hguarded, hmarked⟩
  rw [happ.leaves, Store.get?_writeBack, if_pos rfl]
  exact if_neg (by simp [Store.isSpent_of_isGuarded hguarded, Patch.apply])

/-- A guard is only released from a record that is marked. -/
theorem marked_of_released {r : Reconciler} {s : System} (hcoherent : s.Coherent)
    (hrun : s.RunBy r) {act : Act} {id : Nat} {key : RunKey}
    (ha : s.Applies act id key (.removeFinalizer r.markers.guardToken)) :
    ∃ record, s.store.records.get? key = some record ∧
      record.run.isMarked r.markers = true := by
  obtain ⟨inv, w, record, happ⟩ := exists_application hcoherent ha
  obtain rfl := hrun id inv happ.invocation
  refine ⟨record, happ.meets, ?_⟩
  have hs := standing_of_phase happ.phase
  rcases Write.eq_release happ.change with rfl | rfl
  · exact hs.2.1
  · exact hs.2.1

/-- The only change that is called for by a record that is held back is the marker. -/
theorem eq_setMarker_of_phase {m : Markers} {run : Run} {w : Write}
    (h : Phase.ofRun run m = w.phase) (hguarded : run.isGuarded m = true)
    (hmarked : run.isMarked m = false) : w = .setMarker := by
  have hs := standing_of_phase h
  cases w with
  | addGuard => simp [hguarded] at hs
  | setMarker => rfl
  | release => simp [hmarked] at hs
  | releaseAnomalous => simp [hmarked] at hs

/-- A record that is held back stays so with every act but the marker. -/
theorem holdsBack_or_marked {r : Reconciler} {s s' : System} {act : Act} {key : RunKey}
    (hcoherent : s.Coherent) (hrun : s.RunBy r) (he : Effect s act s')
    (hact : act.Considerate r s) (h : s.store.HoldsBack r.markers key) :
    s'.store.HoldsBack r.markers key ∨
      ∃ id expected version, s'.log = s.log ++
        [(id, .patch key expected (.annotate r.markers.markerKey r.markers.markerValue)
          (.done (.applied version)))] := by
  cases he with
  | outside op => exact Or.inl (Store.holdsBack_perform h hact)
  | applied id c inv p snapshot w change record hi hs hc hp hr hv =>
    have happlied := Effect.applied id c inv p snapshot w change record hi hs hc hp hr hv
    obtain ⟨inv', w', record', happ⟩ := happlied.application hcoherent rfl
    obtain rfl := hrun id inv' happ.invocation
    obtain ⟨held, hheld, hguarded, hmarked⟩ := h
    by_cases hk : key = inv.key
    -- the patch meets the record itself, so it is the marker
    · subst hk
      obtain rfl : held = record' := Option.some.inj (hheld.symm.trans happ.meets)
      obtain rfl := eq_setMarker_of_phase happ.phase hguarded hmarked
      obtain rfl := happ.change
      exact Or.inr ⟨id, _, _, rfl⟩
    · refine Or.inl ⟨held, ?_, hguarded, hmarked⟩
      rw [Store.get?_writeBack, if_neg hk]
      exact hheld
  | _ => exact Or.inl h

/-- A record that is held back stays so until an invocation records the marker after a delivery. -/
theorem holdsBack_or_recorded {r : Reconciler} {s : System} (hcoherent : s.Coherent)
    (hrun : s.RunBy r) {acts : List Act} (hacts : Considered r s acts) {key : RunKey}
    (h : s.store.HoldsBack r.markers key) :
    (s.run acts).store.HoldsBack r.markers key ∨ Recorded r s acts key := by
  induction acts generalizing s with
  | nil => exact Or.inl h
  | cons act acts ih =>
    have he := step_effect s act
    rcases holdsBack_or_marked hcoherent hrun he hacts.1 h with h | ⟨id, expected, version, hlog⟩
    · have hrun' := runBy_effect hrun he hacts.1
      rcases ih (coherent_step hcoherent act) hrun' hacts.2 h with h | h
      · exact Or.inl h
      · obtain ⟨before, act', after, id, rfl, happlied⟩ := h
        exact Or.inr ⟨act :: before, act', after, id, rfl, happlied⟩
    · have happlied : s.Applies act id key
          (.annotate r.markers.markerKey r.markers.markerValue) := ⟨expected, version, hlog⟩
      obtain ⟨inv, w, record, happ⟩ := exists_application hcoherent happlied
      obtain rfl := Write.eq_setMarker happ.change
      obtain ⟨rs, -, payload, hdelivered, hkey, -⟩ := happ.results rfl
      exact Or.inr ⟨[], act, acts, id, rfl, happlied, payload, hdelivered, hkey⟩

/-- A system without invocations is run by any reconciler. -/
theorem runBy_initial (r : Reconciler) : initial.RunBy r := by
  intro id inv hi
  simp [initial] at hi

/-! ## The main statement -/

/-- In every history of one reconciler and considerate others, a record that has been guarded stays,
with its guard, until the marker is recorded after a delivery. So the guard is released, and the
record goes, only after that; and the guard is only ever released from a record with the marker. -/
theorem guard_stays_until_marker (r : Reconciler) (acts : List Act)
    (hacts : Considered r initial acts) :
    (∀ before act between after id key, acts = before ++ act :: between ++ after →
      (initial.run before).Applies act id key (.addFinalizer r.markers.guardToken) →
      ((initial.run (before ++ act :: between)).store.HoldsBack r.markers key ∨
        Recorded r (initial.run (before ++ [act])) between key) ∧
      ((∀ record, (initial.run (before ++ act :: between)).store.records.get? key = some record →
          record.run.isGuarded r.markers = false) →
        Recorded r (initial.run (before ++ [act])) between key) ∧
      (∀ release id', (initial.run (before ++ act :: between)).Applies release id' key
          (.removeFinalizer r.markers.guardToken) →
        Recorded r (initial.run (before ++ [act])) between key)) ∧
    (∀ before release after id key, acts = before ++ release :: after →
      (initial.run before).Applies release id key (.removeFinalizer r.markers.guardToken) →
      ∃ record, (initial.run before).store.records.get? key = some record ∧
        record.run.isMarked r.markers = true) := by
  have hcoherent : ∀ acts, (initial.run acts).Coherent := coherent_run coherent_initial
  have hrun : ∀ before after, acts = before ++ after → (initial.run before).RunBy r := by
    rintro before after rfl
    exact runBy_run (runBy_initial r) (considered_append.1 hacts).1
  refine ⟨?_, ?_⟩
  · intro before act between after id key hsplit happlied
    have hsplit' : acts = (before ++ [act]) ++ (between ++ after) := by simp [hsplit]
    have hguarded : (initial.run (before ++ [act])).store.HoldsBack r.markers key := by
      rw [run_append]
      exact holdsBack_of_guarded (hcoherent before)
        (hrun before _ (by rw [hsplit, List.append_assoc])) happlied
    have hconsidered : Considered r (initial.run (before ++ [act])) between := by
      rw [hsplit', considered_append] at hacts
      exact (considered_append.1 hacts.2).1
    have hkept := holdsBack_or_recorded (hcoherent _) (hrun _ _ hsplit') hconsidered hguarded
    rw [← run_append, List.append_assoc, List.singleton_append] at hkept
    refine ⟨hkept, ?_, ?_⟩
    · intro hunguarded
      refine hkept.resolve_left ?_
      rintro ⟨record, hrecord, hguarded, -⟩
      simp [hunguarded record hrecord] at hguarded
    · intro release id' hrelease
      refine hkept.resolve_left ?_
      rintro ⟨record, hrecord, -, hunmarked⟩
      obtain ⟨record', hrecord', hmarked⟩ :=
        marked_of_released (hcoherent _) (hrun _ after hsplit) hrelease
      obtain rfl : record' = record := Option.some.inj (hrecord'.symm.trans hrecord)
      simp [hunmarked] at hmarked
  · intro before release after id key hsplit happlied
    exact marked_of_released (hcoherent before) (hrun before _ hsplit) happlied

/-- A run is guarded, succeeds and is to be deleted. The deletion waits until the results have been
delivered, the marker is set and the guard is released. -/
theorem guard_stays_until_pending_deletion_recorded :
    let a : RunKey := ⟨"ci", "a"⟩
    let r : Reconciler := ⟨"sink", .standard, 1, default, default⟩
    let fine : Chance := ⟨false, default, none, .result (.ok ())⟩
    let finish : Run → Run × Option String := fun run =>
      (run.withResults [⟨"verdict", "pass"⟩], none)
    let before : List Act := [.outside (.insert (Run.new a)), .start r a false, .advance 0 fine]
    let between : List Act :=
      [.outside (.rework a finish), .outside (.requestDelete default a), .start r a false,
        .advance 1 fine, .advance 1 fine, .advance 1 fine, .start r a false, .advance 2 fine]
    Considered r initial (before ++ .advance 0 fine :: between ++ [.advance 2 fine]) ∧
    (initial.run before).Applies (.advance 0 fine) 0 a (.addFinalizer "notification.guard") ∧
    (initial.run (before ++ .advance 0 fine :: between)).Applies (.advance 2 fine) 2 a
      (.removeFinalizer "notification.guard") ∧
    Recorded r (initial.run (before ++ [.advance 0 fine])) between a ∧
    (initial.run (before ++ .advance 0 fine :: between ++ [.advance 2 fine])).store.records.get? a
      = none := by
  intro a r fine finish before between
  have hconsidered :
      Considered r initial (before ++ .advance 0 fine :: between ++ [.advance 2 fine]) := by
    have hfinish : ∀ run : Run, run.Spares r.markers (finish run).1 := fun _ => ⟨id, id⟩
    exact ⟨rfl, rfl, trivial, trivial, fun record _ => hfinish record.run, trivial, rfl, trivial,
      trivial, trivial, rfl, trivial, trivial, trivial⟩
  have hguarded : (initial.run before).Applies (.advance 0 fine) 0 a
      (.addFinalizer "notification.guard") := by
    dsimp +zetaDelta only
    exact ⟨"1", "2", rfl⟩
  have hreleased : (initial.run (before ++ .advance 0 fine :: between)).Applies (.advance 2 fine)
      2 a (.removeFinalizer "notification.guard") := by
    dsimp +zetaDelta only
    exact ⟨"5", "6", rfl⟩
  obtain ⟨hkept, -⟩ := guard_stays_until_marker r _ hconsidered
  refine ⟨hconsidered, hguarded, hreleased, ?_, ?_⟩
  · exact (hkept before _ between [.advance 2 fine] 0 a rfl hguarded).2.2 _ 2 hreleased
  · dsimp +zetaDelta only
    rfl

end System

end RunHerald
