import RunHerald.Proofs.Run.Editing
import RunHerald.Rehearsal.TracedStore
import RunHerald.Run.Results

/-!
# Interferences that leave a reconciler's business alone

Others may edit a record as they like. Such an interference is harmless to a reconciler if it never
aborts and leaves the state, the results, the guard, the marker's annotation and the time of a
requested deletion of every record as they are.

* Harmless interferences do not change the phase of a record or the results that are read out of it:
  `phase_edited` and `readResults_edited`.
* A reconciler may change the guard and the marker in between. What a record can become then is said by
  `Descends`: its state and its deletion are still those of the start.
* Interferences that do not look at the guard and the marker (`IgnoresMarkers`) make of a record what
  they would have made of it without those changes: `Descends.agrees`. Lists of edits are such
  (`ignoresMarkers_edits`).
-/

set_option autoImplicit false

namespace RunHerald

variable {ι : Type} [Interference ι] {m : Markers}

/-- A record after an interference. -/
abbrev Interference.edit (x : ι) (run : Run) : Run := (Interference.rework x run).1

open Interference (edit)

/-- An interference that leaves alone what a reconciler looks at. -/
structure Harmless (m : Markers) (x : ι) : Prop where
  completes : ∀ run, (Interference.rework x run).2 = none
  completion : ∀ run, (edit x run).completion = run.completion
  results : ∀ run, (edit x run).results = run.results
  guard : ∀ run, (edit x run).isGuarded m = run.isGuarded m
  marker : ∀ run, (edit x run).annotationValue? m.markerKey = run.annotationValue? m.markerKey
  deletion : ∀ run, (edit x run).deletionRequestedAt = run.deletionRequestedAt

/-- An interference that does the same to records that agree beside the guard and the marker. -/
def IgnoresMarkers (m : Markers) (x : ι) : Prop :=
  ∀ a b, AgreesBeside m a b → AgreesBeside m (edit x a) (edit x b)

/-- A record after several interferences. -/
def Run.edited (run : Run) (queue : List ι) : Run := queue.foldl (fun run x => edit x run) run

/-- Without interferences a record is as it was. -/
@[simp] theorem Run.edited_nil (run : Run) : run.edited ([] : List ι) = run := rfl

/-- Interferences are made one after another. -/
@[simp] theorem Run.edited_cons (run : Run) (x : ι) (queue : List ι) :
    run.edited (x :: queue) = (edit x run).edited queue := rfl

/-- Interferences can be made in two batches. -/
theorem Run.edited_append (run : Run) (queue queue' : List ι) :
    run.edited (queue ++ queue') = (run.edited queue).edited queue' :=
  List.foldl_append

/-! ## What harmless interferences leave alone -/

section

variable {queue : List ι}

/-- What each interference in a queue leaves as it is, the whole queue leaves as it is. -/
theorem Run.edited_of_each {α : Type} (f : Run → α)
    (h : ∀ x ∈ queue, ∀ run, f (edit x run) = f run) (run : Run) : f (run.edited queue) = f run := by
  induction queue generalizing run with
  | nil => rfl
  | cons x queue ih =>
    rw [Run.edited_cons, ih fun y hy => h y (List.mem_cons_of_mem _ hy)]
    exact h x List.mem_cons_self run

/-- The first interferences in a harmless queue are harmless. -/
theorem harmless_of_append (h : ∀ x ∈ queue, Harmless m x) {consumed rest : List ι}
    (hqueue : queue = consumed ++ rest) : ∀ x ∈ consumed, Harmless m x := by
  intro x hx
  apply h
  rw [hqueue]
  exact List.mem_append_left rest hx

/-- Harmless interferences do not change the state of a record. -/
theorem completion_edited (h : ∀ x ∈ queue, Harmless m x) (run : Run) :
    (run.edited queue).completion = run.completion :=
  Run.edited_of_each Run.completion (fun x hx => (h x hx).completion) run

/-- Harmless interferences do not change the results as they stand in a record. -/
theorem results_edited (h : ∀ x ∈ queue, Harmless m x) (run : Run) :
    (run.edited queue).results = run.results :=
  Run.edited_of_each Run.results (fun x hx => (h x hx).results) run

/-- Harmless interferences do not change the guard of a record. -/
theorem isGuarded_edited (h : ∀ x ∈ queue, Harmless m x) (run : Run) :
    (run.edited queue).isGuarded m = run.isGuarded m :=
  Run.edited_of_each (fun run => run.isGuarded m) (fun x hx => (h x hx).guard) run

/-- Harmless interferences do not change the marker of a record. -/
theorem isMarked_edited (h : ∀ x ∈ queue, Harmless m x) (run : Run) :
    (run.edited queue).isMarked m = run.isMarked m := by
  have hmarker := Run.edited_of_each (fun run => run.annotationValue? m.markerKey)
    (fun x hx => (h x hx).marker) run
  unfold Run.isMarked
  rw [hmarker]

/-- Harmless interferences do not change when the deletion of a record was requested. -/
theorem deletionRequestedAt_edited (h : ∀ x ∈ queue, Harmless m x) (run : Run) :
    (run.edited queue).deletionRequestedAt = run.deletionRequestedAt :=
  Run.edited_of_each Run.deletionRequestedAt (fun x hx => (h x hx).deletion) run

/-- Harmless interferences do not change the standing of a record. -/
theorem standing_edited (h : ∀ x ∈ queue, Harmless m x) (run : Run) :
    (run.edited queue).standing m = run.standing m := by
  unfold Run.standing
  rw [isGuarded_edited h, isMarked_edited h, completion_edited h]

/-- Harmless interferences do not change the phase of a record. -/
theorem phase_edited (h : ∀ x ∈ queue, Harmless m x) (run : Run) :
    Phase.ofRun (run.edited queue) m = Phase.ofRun run m := by
  unfold Phase.ofRun Run.succeeded
  rw [isGuarded_edited h, isMarked_edited h, completion_edited h]

/-- Harmless interferences do not change the results that are read out of a record. -/
theorem readResults_edited (h : ∀ x ∈ queue, Harmless m x) (run : Run) :
    (run.edited queue).readResults = run.readResults := by
  unfold Run.readResults Run.presentResults
  rw [completion_edited h, results_edited h]

end

/-! ## What a record can become -/

/-- Records that agree beside the guard and the marker have the same results. -/
theorem AgreesBeside.readResults_eq {a b : Run} (h : AgreesBeside m a b) :
    a.readResults = b.readResults := by
  unfold Run.readResults Run.presentResults
  rw [h.completion, h.results]

/-- What a record can become while some interferences are made one after another, and while the
guard and the marker may change before, between and after them. -/
inductive Descends (m : Markers) (run₀ : Run) : List ι → Run → Prop
  | start : Descends m run₀ [] run₀
  | edited {queue : List ι} {run : Run} (h : Descends m run₀ queue run) (x : ι) :
    Descends m run₀ (queue ++ [x]) (edit x run)
  | marked {queue : List ι} {run run' : Run} (h : Descends m run₀ queue run)
    (hagrees : AgreesBeside m run run') : Descends m run₀ queue run'

namespace Descends

variable {run₀ run : Run} {queue : List ι}

/-- Further interferences can be made. -/
theorem append (h : Descends m run₀ queue run) (queue' : List ι) :
    Descends m run₀ (queue ++ queue') (run.edited queue') := by
  induction queue' generalizing queue run with
  | nil =>
    rw [List.append_nil]
    exact h
  | cons x queue' ih =>
    have hnext := ih (h.edited x)
    rw [List.append_assoc] at hnext
    exact hnext

/-- The state of a record is the one at the start. -/
theorem completion_eq (h : Descends m run₀ queue run) (hharmless : ∀ x ∈ queue, Harmless m x) :
    run.completion = run₀.completion := by
  induction h with
  | start => rfl
  | edited _ x ih =>
    rw [List.forall_mem_append, List.forall_mem_singleton] at hharmless
    exact (hharmless.2.completion _).trans (ih hharmless.1)
  | marked _ hagrees ih => exact hagrees.completion.symm.trans (ih hharmless)

/-- The deletion of a record was requested when it was at the start. -/
theorem deletionRequestedAt_eq (h : Descends m run₀ queue run)
    (hharmless : ∀ x ∈ queue, Harmless m x) :
    run.deletionRequestedAt = run₀.deletionRequestedAt := by
  induction h with
  | start => rfl
  | edited _ x ih =>
    rw [List.forall_mem_append, List.forall_mem_singleton] at hharmless
    exact (hharmless.2.deletion _).trans (ih hharmless.1)
  | marked _ hagrees ih => exact hagrees.deletionRequestedAt.symm.trans (ih hharmless)

/-- Interferences that do not look at the guard and the marker make of a record what they would have
made of it at the start. -/
theorem agrees (h : Descends m run₀ queue run) (hignores : ∀ x ∈ queue, IgnoresMarkers m x) :
    AgreesBeside m (run₀.edited queue) run := by
  induction h with
  | start => exact .refl m run₀
  | edited _ x ih =>
    rw [List.forall_mem_append, List.forall_mem_singleton] at hignores
    rw [Run.edited_append]
    exact hignores.2 _ _ (ih hignores.1)
  | marked _ hagrees ih => exact (ih hignores).trans hagrees

end Descends

/-! ## Lists of edits -/

/-- Edits do the same to records that agree beside the guard and the marker. -/
theorem ignoresMarkers_edits (m : Markers) (edits : List Edit) : IgnoresMarkers m edits :=
  fun _ _ h => h.applyAll edits

/-- An annotation beside the marker is harmless. -/
theorem harmless_annotate {name : String} (hname : name ≠ m.markerKey) (value : String) :
    Harmless m [Edit.annotate name value] where
  completes := fun _ => rfl
  completion := fun _ => rfl
  results := fun _ => rfl
  guard := fun _ => rfl
  marker := by
    intro run
    change (run.annotated name value).annotationValue? m.markerKey = _
    rw [Run.annotationValue?_annotated, if_neg hname.symm]
  deletion := fun run => Edit.deletionRequestedAt_applyAll run _

end RunHerald
