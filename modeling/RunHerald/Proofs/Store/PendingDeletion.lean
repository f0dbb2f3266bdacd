import RunHerald.Proofs.Run.Editing
import RunHerald.Proofs.Store.History

/-!
# Records whose deletion is pending

A record whose deletion is pending should go with its last finalizer. It `Lingers` if it is still
there without one.

* An insertion, a patch that is applied and a request for deletion never leave a record that lingers
  (`not_lingers_insert`, `not_lingers_patch`, `not_lingers_requestDelete`).
* A rework writes the record whatever has become of it. `pending_record_outlives_its_finalizers` is
  a record that stays although an edit has taken its last finalizer away.

So a record lingers only since a rework took its last finalizer away, and only until the next patch
or request for deletion: `lingering_record_was_reworked`.
-/

set_option autoImplicit false

namespace RunHerald.Store

/-- A record is still there although its deletion is pending and it has no finalizer. -/
def Lingers (s : Store) (key : RunKey) : Prop :=
  ∃ r, s.records.get? key = some r ∧ isSpent r.run = true

/-- A call that does not say itself whether a deletion is pending: a new record comes without, and a
rework leaves that alone. -/
def Operation.SparesDeletion : Operation → Prop
  | .insert run => run.deletionRequestedAt = none
  | .rework _ f => ∀ run, (f run).1.deletionRequestedAt = run.deletionRequestedAt
  | _ => True

/-- A rework that takes the last finalizer of a record whose deletion is pending. -/
def TakesLastFinalizer (s : Store) (key : RunKey) (op : Operation) : Prop :=
  ∃ f r, op = .rework key f ∧ s.records.get? key = some r ∧ r.run.isDeletionRequested = true ∧
    r.run.finalizers.isEmpty = false ∧ (f r.run).1.finalizers.isEmpty = true

/-- A rework by edits does not say when the deletion was requested. -/
theorem sparesDeletion_update (key : RunKey) (edits : List Edit) :
    (Operation.rework key fun run => Edit.applyAll run edits).SparesDeletion :=
  fun run => Edit.deletionRequestedAt_applyAll run edits

/-- A record is spent if its deletion is pending and it has no finalizers. -/
theorem isSpent_iff {run : Run} :
    isSpent run = true ↔ run.isDeletionRequested = true ∧ run.finalizers.isEmpty = true := by
  rw [isSpent, Bool.and_eq_true]

/-- A rework that spares the deletion leaves a spent record if it leaves a pending one without
finalizers. -/
theorem isSpent_rework_iff {f : Run → Run × Option String}
    (h : ∀ run, (f run).1.deletionRequestedAt = run.deletionRequestedAt) (run : Run) :
    isSpent (f run).1 = true ↔
      run.isDeletionRequested = true ∧ (f run).1.finalizers.isEmpty = true := by
  rw [isSpent_iff, Run.isDeletionRequested, h run]
  rfl

/-- A record that is not there does not linger. -/
theorem not_lingers_of_absent {s : Store} {key : RunKey} (h : s.records.get? key = none) :
    ¬s.Lingers key := by
  rintro ⟨r, hr, -⟩
  rw [h] at hr
  cases hr

/-- A record that is there lingers if it is spent. -/
theorem lingers_iff_of_get? {s : Store} {key : RunKey} {r : Record}
    (h : s.records.get? key = some r) : s.Lingers key ↔ isSpent r.run = true := by
  constructor
  · rintro ⟨r', hr', hspent⟩
    rw [h] at hr'
    obtain rfl := Option.some.inj hr'
    exact hspent
  · intro hspent
    exact ⟨r, h, hspent⟩

/-- Whether a record lingers is seen by looking it up. -/
theorem lingers_congr {s s' : Store} {key : RunKey}
    (h : s'.records.get? key = s.records.get? key) : s'.Lingers key ↔ s.Lingers key := by
  unfold Lingers
  rw [h]

/-! ## One call -/

/-- A record just inserted does not linger. -/
theorem not_lingers_save {s : Store} {key : RunKey} {run : Run} (h : isSpent run = false) :
    ¬(s.save key run).Lingers key := by
  rw [lingers_iff_of_get? (r := ⟨run, s.lastVersion + 1⟩) (by rw [get?_save, if_pos rfl]), h]
  simp

/-- A record just patched does not linger. -/
theorem not_lingers_writeBack (s : Store) (key : RunKey) (run : Run) :
    ¬(s.writeBack key run).Lingers key := by
  rintro ⟨r, hr, hspent⟩
  rw [get?_writeBack, if_pos rfl] at hr
  split at hr
  · cases hr
  · rename_i hkept
    obtain rfl := Option.some.inj hr
    exact hkept hspent

/-- A call leaves a record that lingers only where it leaves the look-up as it was, unless it is a
rework of this record. -/
theorem Effect.lingers {s s' : Store} {op : Operation} {answer : Answer}
    (he : Effect s op answer s') (hop : op.SparesDeletion) {key : RunKey} (h : s'.Lingers key) :
    s'.records.get? key = s.records.get? key ∨
      ∃ f r, op = .rework key f ∧ s.records.get? key = some r ∧
        r.run.isDeletionRequested = true ∧ (f r.run).1.finalizers.isEmpty = true := by
  cases he with
  | refused => exact Or.inl rfl
  | reworkAbsent => exact Or.inl rfl
  | patchAbsent => exact Or.inl rfl
  | patchConflict => exact Or.inl rfl
  | deleteAbsent => exact Or.inl rfl
  | deletePending => exact Or.inl rfl
  | read => exact Or.inl rfl
  | counted => exact Or.inl rfl
  | inserted run =>
    by_cases hk : key = run.key
    · subst hk
      have hspent : isSpent run = false := by
        have hnone : run.deletionRequestedAt = none := hop
        simp [isSpent, Run.isDeletionRequested, hnone]
      exact absurd h (not_lingers_save hspent)
    · exact Or.inl (by rw [get?_save, if_neg hk])
  | reworked key' f r run hp hr hf =>
    by_cases hk : key = key'
    · subst hk
      rw [lingers_iff_of_get? (r := ⟨run, s.lastVersion + 1⟩) (by rw [get?_save, if_pos rfl])] at h
      have hspent : isSpent (f r.run).1 = true := by rw [hf]; exact h
      exact Or.inr ⟨f, r, rfl, hr, (isSpent_rework_iff hop r.run).1 hspent⟩
    · exact Or.inl (by rw [get?_save, if_neg hk])
  | reworkAborted key' f r run message hp hr hf =>
    by_cases hk : key = key'
    · subst hk
      rw [lingers_iff_of_get? (r := ⟨run, r.version⟩) (by rw [get?_spoil, if_pos rfl])] at h
      have hspent : isSpent (f r.run).1 = true := by rw [hf]; exact h
      exact Or.inr ⟨f, r, rfl, hr, (isSpent_rework_iff hop r.run).1 hspent⟩
    · exact Or.inl (by rw [get?_spoil, if_neg hk])
  | patched key' expected p r =>
    by_cases hk : key = key'
    · subst hk
      exact absurd h (not_lingers_writeBack s key _)
    · exact Or.inl (by rw [get?_writeBack, if_neg hk])
  | deleted now key' r =>
    by_cases hk : key = key'
    · exact absurd h (not_lingers_of_absent (by rw [get?_remove, if_pos hk]))
    · exact Or.inl (by rw [get?_remove, if_neg hk])
  | deleteRequested now key' r hp hr hf =>
    by_cases hk : key = key'
    · subst hk
      exact absurd h (not_lingers_save (by simp [isSpent, hf]))
    · exact Or.inl (by rw [get?_save, if_neg hk])

/-- A record that lingers after a call has lingered before, unless the call took its last
finalizer. -/
theorem lingers_perform {s : Store} {op : Operation} (hop : op.SparesDeletion) {key : RunKey}
    (h : (s.perform op).2.Lingers key) : s.Lingers key ∨ s.TakesLastFinalizer key op := by
  obtain hsame | ⟨f, r, rfl, hr, hpending, hempty⟩ := (perform_effect s op).lingers hop h
  · exact Or.inl ((lingers_congr hsame).1 h)
  · cases hf : r.run.finalizers.isEmpty with
    | true => exact Or.inl ⟨r, hr, isSpent_iff.2 ⟨hpending, hf⟩⟩
    | false => exact Or.inr ⟨f, r, rfl, hr, hpending, hf, hempty⟩

/-- A rework that takes the last finalizer of a record whose deletion is pending leaves it to
linger. -/
theorem lingers_of_takesLastFinalizer {s : Store} (hp : s.poisoned = false) {key : RunKey}
    {op : Operation} (hop : op.SparesDeletion) (h : s.TakesLastFinalizer key op) :
    (s.perform op).2.Lingers key := by
  obtain ⟨f, r, rfl, hr, hpending, -, hempty⟩ := h
  have hspent := (isSpent_rework_iff hop r.run).2 ⟨hpending, hempty⟩
  have he := perform_effect s (.rework key f)
  generalize (s.perform (.rework key f)).1 = answer at he
  generalize (s.perform (.rework key f)).2 = s' at he ⊢
  cases he with
  | refused _ _ hpoisoned =>
    rw [hp] at hpoisoned
    cases hpoisoned
  | reworkAbsent _ _ _ habsent =>
    rw [hr] at habsent
    cases habsent
  | reworked _ _ r' run _ hr' hf =>
    obtain rfl := Option.some.inj (hr.symm.trans hr')
    rw [hf] at hspent
    exact ⟨_, by rw [get?_save, if_pos rfl], hspent⟩
  | reworkAborted _ _ r' run message _ hr' hf =>
    obtain rfl := Option.some.inj (hr.symm.trans hr')
    rw [hf] at hspent
    exact ⟨_, by rw [get?_spoil, if_pos rfl], hspent⟩

/-- A record that was just inserted without a pending deletion does not linger. -/
theorem not_lingers_insert {s : Store} (hp : s.poisoned = false) {run : Run}
    (h : run.deletionRequestedAt = none) : ¬(s.perform (.insert run)).2.Lingers run.key := by
  have hspent : isSpent run = false := by simp [isSpent, Run.isDeletionRequested, h]
  have hsave : ¬(s.save run.key run).Lingers run.key := not_lingers_save hspent
  simpa [perform, Store.insert, hp] using hsave

/-- A request for the deletion of a record does not leave it to linger. -/
theorem not_lingers_requestDelete {s : Store} (hp : s.poisoned = false) (now : Timestamp)
    (key : RunKey) : ¬(s.perform (.requestDelete now key)).2.Lingers key := by
  have he := perform_effect s (.requestDelete now key)
  generalize (s.perform (.requestDelete now key)).1 = answer at he
  generalize (s.perform (.requestDelete now key)).2 = s' at he ⊢
  cases he with
  | refused _ _ hpoisoned =>
    rw [hp] at hpoisoned
    cases hpoisoned
  | deleteAbsent _ _ _ hr => exact not_lingers_of_absent hr
  | deleted => exact not_lingers_of_absent (by rw [get?_remove, if_pos rfl])
  | deletePending _ _ r _ hr hf =>
    rw [lingers_iff_of_get? hr]
    simp [isSpent, hf]
  | deleteRequested _ _ r _ hr hf => exact not_lingers_save (by simp [isSpent, hf])

/-- A patch that is applied does not leave a record to linger. -/
theorem not_lingers_patch {s : Store} {key : RunKey} {expected version : String} {p : Patch}
    (h : (s.perform (.patch key expected p)).1 = .patched (.ok (.applied version))) :
    ¬(s.perform (.patch key expected p)).2.Lingers key := by
  have he := perform_effect s (.patch key expected p)
  rw [h] at he
  generalize (s.perform (.patch key expected p)).2 = s' at he ⊢
  cases he with
  | refused _ _ hp ha => simp [Operation.refusal] at ha
  | patched => exact not_lingers_writeBack s key _

/-! ## Any number of calls -/

/-- A record that lingers has done so at every moment since a rework took its last finalizer. -/
theorem lingering_since_rework {ops : List Operation} (hops : ∀ op ∈ ops, op.SparesDeletion)
    {key : RunKey} (h : (empty.after ops).Lingers key) :
    ∃ before op rest, ops = before ++ op :: rest ∧
      (empty.after before).TakesLastFinalizer key op ∧
      ∀ mid, mid <+: rest → (empty.after (before ++ op :: mid)).Lingers key := by
  -- by the last call: either it took the last finalizer, or the record had lingered before it
  induction ops using List.reverseRecOn with
  | nil => exact absurd h (not_lingers_of_absent rfl)
  | append_singleton ops op ih =>
    rw [after_append, after_cons, after_nil] at h
    obtain hbefore | htakes := lingers_perform (hops op (by simp)) h
    · obtain ⟨before, op', rest, rfl, htakes, hsince⟩ :=
        ih (fun op hop => hops op (List.mem_append_left _ hop)) hbefore
      refine ⟨before, op', rest ++ [op], by simp, htakes, ?_⟩
      intro mid hmid
      rw [List.prefix_concat_iff] at hmid
      obtain rfl | hmid := hmid
      · have hlast : before ++ op' :: (rest ++ [op]) = before ++ op' :: rest ++ [op] := by simp
        rw [hlast, after_append, after_cons, after_nil]
        exact h
      · exact hsince mid hmid
    · refine ⟨ops, op, [], rfl, htakes, ?_⟩
      intro mid hmid
      obtain rfl := List.prefix_nil.1 hmid
      rw [after_append, after_cons, after_nil]
      exact h

/-- A record lingers since a rework took its last finalizer away, and only since then. No insertion,
patch or request for deletion leaves a record that lingers. -/
theorem lingering_record_was_reworked (ops : List Operation)
    (hops : ∀ op ∈ ops, op.SparesDeletion) (key : RunKey) :
    ((empty.after ops).Lingers key → ∃ before op rest, ops = before ++ op :: rest ∧
      (empty.after before).TakesLastFinalizer key op ∧
      ∀ mid, mid <+: rest → (empty.after (before ++ op :: mid)).Lingers key) ∧
    ((empty.after ops).poisoned = false →
      (∀ op, op.SparesDeletion → (empty.after ops).TakesLastFinalizer key op →
        ((empty.after ops).perform op).2.Lingers key) ∧
      (∀ run, run.key = key → run.deletionRequestedAt = none →
        ¬((empty.after ops).perform (.insert run)).2.Lingers key) ∧
      ∀ now, ¬((empty.after ops).perform (.requestDelete now key)).2.Lingers key) ∧
    ∀ expected p version,
      ((empty.after ops).perform (.patch key expected p)).1
        = .patched (.ok (.applied version)) →
      ¬((empty.after ops).perform (.patch key expected p)).2.Lingers key := by
  refine ⟨lingering_since_rework hops, ?_, fun _ _ _ => not_lingers_patch⟩
  intro hp
  refine ⟨fun op hop htakes => lingers_of_takesLastFinalizer hp hop htakes, ?_,
    fun now => not_lingers_requestDelete hp now key⟩
  rintro run rfl hnone
  exact not_lingers_insert hp hnone

/-- A guarded record whose deletion is requested, and then an edit that takes the guard away. -/
def guardTakenWhilePending : List Operation :=
  [.insert ((Run.new ⟨"ci", "r1"⟩).withFinalizer "notification.guard"),
    .requestDelete default ⟨"ci", "r1"⟩,
    .rework ⟨"ci", "r1"⟩ fun run => Edit.applyAll run [.unfinalizer "notification.guard"]]

/-- The calls of the example do not say when the deletion was requested. -/
theorem sparesDeletion_guardTakenWhilePending :
    ∀ op ∈ guardTakenWhilePending, op.SparesDeletion := by
  intro op hop
  simp only [guardTakenWhilePending, List.mem_cons, List.not_mem_nil, or_false] at hop
  rcases hop with rfl | rfl | rfl
  · rfl
  · trivial
  · exact sparesDeletion_update _ _

/-- The record of the example lingers. -/
theorem lingers_guardTakenWhilePending :
    (empty.after guardTakenWhilePending).Lingers ⟨"ci", "r1"⟩ := by
  have hpending : ∃ r,
      (empty.after (guardTakenWhilePending.take 2)).records.get? ⟨"ci", "r1"⟩ = some r ∧
      r.run.isDeletionRequested = true ∧ r.run.finalizers.isEmpty = false ∧
      (Edit.applyAll r.run [.unfinalizer "notification.guard"]).1.finalizers.isEmpty = true :=
    ⟨_, rfl, rfl, rfl, by cbv⟩
  obtain ⟨r, hr, hrequested, hguarded, htaken⟩ := hpending
  exact lingers_of_takesLastFinalizer (s := empty.after (guardTakenWhilePending.take 2)) rfl
    (sparesDeletion_update _ _) ⟨_, r, rfl, hr, hrequested, hguarded, htaken⟩

/-- The record has lingered since the edit, and until its deletion is requested once more. -/
theorem lingering_record_was_reworked_by_edit :
    (∀ op ∈ guardTakenWhilePending, op.SparesDeletion) ∧
      (empty.after guardTakenWhilePending).Lingers ⟨"ci", "r1"⟩ ∧
      (∃ before op rest, guardTakenWhilePending = before ++ op :: rest ∧
        (empty.after before).TakesLastFinalizer ⟨"ci", "r1"⟩ op) ∧
      ∀ now, ¬((empty.after guardTakenWhilePending).perform
        (.requestDelete now ⟨"ci", "r1"⟩)).2.Lingers ⟨"ci", "r1"⟩ := by
  have hops := sparesDeletion_guardTakenWhilePending
  have hlingers := lingers_guardTakenWhilePending
  obtain ⟨hsince, hends, -⟩ :=
    lingering_record_was_reworked guardTakenWhilePending hops ⟨"ci", "r1"⟩
  obtain ⟨before, op, rest, heq, htakes, -⟩ := hsince hlingers
  exact ⟨hops, hlingers, ⟨before, op, rest, heq, htakes⟩, (hends rfl).2.2⟩

/-- So a record can be left whose deletion is pending and that has no finalizer. -/
theorem pending_record_outlives_its_finalizers :
    ¬∀ ops : List Operation, (∀ op ∈ ops, op.SparesDeletion) →
      ∀ key, ¬(empty.after ops).Lingers key := by
  intro h
  exact h guardTakenWhilePending sparesDeletion_guardTakenWhilePending ⟨"ci", "r1"⟩
    lingers_guardTakenWhilePending

end RunHerald.Store
