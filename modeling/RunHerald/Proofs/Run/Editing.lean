import RunHerald.Proofs.Run.DecisionTable
import RunHerald.Run.Edit

/-!
# What edits do to a record

An edit does not look at the guard and the marker, unless it sets or takes one of them: it does the
same to records that agree beside them (`AgreesBeside.applyAll`). And no edit says when the deletion
of a record was requested (`Edit.deletionRequestedAt_applyAll`).
-/

set_option autoImplicit false

namespace RunHerald

variable {m : Markers}

/-- A record agrees with itself. -/
theorem AgreesBeside.refl (m : Markers) (run : Run) : AgreesBeside m run run where
  key := rfl
  completion := rfl
  results := rfl
  deletionRequestedAt := rfl
  annotations := fun _ _ => rfl
  finalizers := fun _ _ => rfl

/-- Agreement can be chained. -/
theorem AgreesBeside.trans {a b c : Run} (h : AgreesBeside m a b) (h' : AgreesBeside m b c) :
    AgreesBeside m a c where
  key := h.key.trans h'.key
  completion := h.completion.trans h'.completion
  results := h.results.trans h'.results
  deletionRequestedAt := h.deletionRequestedAt.trans h'.deletionRequestedAt
  annotations := fun name hname => (h.annotations name hname).trans (h'.annotations name hname)
  finalizers := fun token ht => (h.finalizers token ht).trans (h'.finalizers token ht)

/-- An edit does the same to records that agree beside the guard and the marker. -/
theorem AgreesBeside.edit {a b : Run} (h : AgreesBeside m a b) (e : Edit) :
    (∃ message, e.apply a = .error message ∧ e.apply b = .error message) ∨
      ∃ a' b', e.apply a = .ok a' ∧ e.apply b = .ok b' ∧ AgreesBeside m a' b' := by
  cases e with
  | abort message => exact Or.inl ⟨message, rfl, rfl⟩
  | completion c => exact Or.inr ⟨_, _, rfl, rfl, { h with completion := rfl }⟩
  | results rs => exact Or.inr ⟨_, _, rfl, rfl, { h with completion := rfl, results := rfl }⟩
  | rawResults raw => exact Or.inr ⟨_, _, rfl, rfl, { h with results := rfl }⟩
  | clearResults => exact Or.inr ⟨_, _, rfl, rfl, { h with results := rfl }⟩
  | annotate name value =>
    refine Or.inr ⟨_, _, rfl, rfl, { h with annotations := ?_ }⟩
    intro q hq
    rw [Run.annotationValue?_annotated, Run.annotationValue?_annotated, h.annotations q hq]
  | unannotate name =>
    refine Or.inr ⟨_, _, rfl, rfl, { h with annotations := ?_ }⟩
    intro q hq
    change (a.annotations.erase name).get? q = (b.annotations.erase name).get? q
    have hq' : a.annotations.get? q = b.annotations.get? q := h.annotations q hq
    rw [Dictionary.get?_erase, Dictionary.get?_erase, hq']
  | finalizer token =>
    refine Or.inr ⟨_, _, rfl, rfl, { h with finalizers := ?_ }⟩
    intro q hq
    rw [Run.hasFinalizer_withFinalizer, Run.hasFinalizer_withFinalizer, h.finalizers q hq]
  | unfinalizer token =>
    refine Or.inr ⟨_, _, rfl, rfl, { h with finalizers := ?_ }⟩
    intro q hq
    rw [Run.hasFinalizer_withoutFinalizer, Run.hasFinalizer_withoutFinalizer, h.finalizers q hq]

/-- Several edits do the same to records that agree beside the guard and the marker. -/
theorem AgreesBeside.applyAll {a b : Run} (h : AgreesBeside m a b) (edits : List Edit) :
    AgreesBeside m (Edit.applyAll a edits).1 (Edit.applyAll b edits).1 := by
  induction edits generalizing a b with
  | nil => exact h
  | cons e edits ih =>
    obtain ⟨message, ha, hb⟩ | ⟨a', b', ha, hb, h'⟩ := h.edit e
    · simpa [Edit.applyAll, ha, hb] using h
    · simpa [Edit.applyAll, ha, hb] using ih h'

/-- No edit requests the deletion of a record or takes such a request back. -/
theorem Edit.deletionRequestedAt_apply {run run' : Run} {e : Edit} (h : e.apply run = .ok run') :
    run'.deletionRequestedAt = run.deletionRequestedAt := by
  cases e <;> simp only [Edit.apply, Except.ok.injEq, reduceCtorEq] at h <;> subst h <;> rfl

/-- Nor do several edits. -/
theorem Edit.deletionRequestedAt_applyAll (run : Run) (edits : List Edit) :
    (Edit.applyAll run edits).1.deletionRequestedAt = run.deletionRequestedAt := by
  induction edits generalizing run with
  | nil => rfl
  | cons e edits ih =>
    cases he : e.apply run with
    | error message => simp [Edit.applyAll, he]
    | ok run' =>
      simp only [Edit.applyAll, he]
      rw [ih, Edit.deletionRequestedAt_apply he]

end RunHerald
