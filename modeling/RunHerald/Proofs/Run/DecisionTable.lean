import Mathlib
import RunHerald.Reconcile.Outcome

/-!
# The decision table

What a reconciler does about a record depends on a `Standing`: whether the record is guarded,
whether it is marked, and how far the run has come. `Row` is the table of the changes that it may
make, from one standing to another, written out row by row and not by way of the code.

* `row_of_phase`: a change made in the phase that calls for it (`Write.phase`) follows its row.
* `Row.unique`: two standings belong to at most one row.
* `agreesBeside_of_write`: a change touches nothing but the guard and the marker.
-/

set_option autoImplicit false

namespace RunHerald

/-! ## Finalizers and annotations after a change -/

/-- A dictionary is empty if every look-up fails. -/
theorem Dictionary.isEmpty_iff {β : Type} (d : Dictionary β) :
    d.isEmpty = true ↔ ∀ q, d.get? q = none := by
  obtain ⟨entries, hsorted⟩ := d
  cases entries with
  | nil => simp [isEmpty, get?, lookup]
  | cons p rest =>
    refine ⟨fun h => by simp [isEmpty] at h, fun h => ?_⟩
    have := h p.1
    simp [get?, lookup] at this

namespace Run

/-- A finalizer that is set joins those that there are. -/
@[simp] theorem hasFinalizer_withFinalizer (run : Run) (token q : String) :
    (run.withFinalizer token).hasFinalizer q = (q == token || run.hasFinalizer q) :=
  TextSet.has_add _ _ _

/-- A finalizer that is taken leaves the others. -/
@[simp] theorem hasFinalizer_withoutFinalizer (run : Run) (token q : String) :
    (run.withoutFinalizer token).hasFinalizer q = (q != token && run.hasFinalizer q) :=
  TextSet.has_erase _ _ _

/-- An annotation leaves the finalizers alone. -/
@[simp] theorem hasFinalizer_annotated (run : Run) (name value q : String) :
    (run.annotated name value).hasFinalizer q = run.hasFinalizer q := rfl

/-- An annotation replaces the one of its name. -/
@[simp] theorem annotationValue?_annotated (run : Run) (name value q : String) :
    (run.annotated name value).annotationValue? q =
      if q = name then some value else run.annotationValue? q :=
  Dictionary.get?_insert _ _ _ _

/-- A finalizer that is set leaves the annotations alone. -/
@[simp] theorem annotationValue?_withFinalizer (run : Run) (token q : String) :
    (run.withFinalizer token).annotationValue? q = run.annotationValue? q := rfl

/-- A finalizer that is taken leaves the annotations alone. -/
@[simp] theorem annotationValue?_withoutFinalizer (run : Run) (token q : String) :
    (run.withoutFinalizer token).annotationValue? q = run.annotationValue? q := rfl

/-- A finalizer that is set leaves the state of a run alone. -/
@[simp] theorem completion_withFinalizer (run : Run) (token : String) :
    (run.withFinalizer token).completion = run.completion := rfl

/-- A finalizer that is taken leaves the state of a run alone. -/
@[simp] theorem completion_withoutFinalizer (run : Run) (token : String) :
    (run.withoutFinalizer token).completion = run.completion := rfl

/-- An annotation leaves the state of a run alone. -/
@[simp] theorem completion_annotated (run : Run) (name value : String) :
    (run.annotated name value).completion = run.completion := rfl

/-- A finalizer that is set leaves the marker alone. -/
@[simp] theorem isMarked_withFinalizer (run : Run) (m : Markers) (token : String) :
    (run.withFinalizer token).isMarked m = run.isMarked m := rfl

/-- A finalizer that is taken leaves the marker alone. -/
@[simp] theorem isMarked_withoutFinalizer (run : Run) (m : Markers) (token : String) :
    (run.withoutFinalizer token).isMarked m = run.isMarked m := rfl

/-- The set of finalizers is empty if the record carries none. -/
theorem isEmpty_finalizers_iff (run : Run) :
    run.finalizers.isEmpty = true ↔ ∀ token, run.hasFinalizer token = false := by
  simp [Dictionary.isEmpty_iff, hasFinalizer, TextSet.has, Dictionary.contains]

/-- A record with a finalizer has a set of finalizers that is not empty. -/
theorem isEmpty_finalizers_of_hasFinalizer {run : Run} {token : String}
    (h : run.hasFinalizer token = true) : run.finalizers.isEmpty = false := by
  rw [Bool.eq_false_iff]
  intro hempty
  rw [(isEmpty_finalizers_iff run).1 hempty token] at h
  simp at h

end Run

/-! ## Rows -/

/-- What a reconciler looks at in a record. -/
structure Standing where
  guarded : Bool
  marked : Bool
  completion : Completion
  deriving DecidableEq, Repr

/-- The standing of a record with a reconciler. -/
def Run.standing (run : Run) (m : Markers) : Standing :=
  ⟨run.isGuarded m, run.isMarked m, run.completion⟩

/-- The changes that a reconciler may make, each from a standing to a standing. -/
inductive Row : Write → Standing → Standing → Prop
  | addGuard (c : Completion) : Row .addGuard ⟨false, false, c⟩ ⟨true, false, c⟩
  | setMarker : Row .setMarker ⟨true, false, .succeeded⟩ ⟨true, true, .succeeded⟩
  | release : Row .release ⟨true, true, .succeeded⟩ ⟨false, true, .succeeded⟩
  | releaseAnomalous (c : Completion) (h : c ≠ .succeeded) :
    Row .releaseAnomalous ⟨true, true, c⟩ ⟨false, true, c⟩

/-- Two standings belong to at most one row. -/
theorem Row.unique {w w' : Write} {before after : Standing} (h : Row w before after)
    (h' : Row w' before after) : w' = w := by
  cases h with
  | addGuard c => cases h'; rfl
  | setMarker => cases h'; rfl
  | release =>
    cases h' with
    | release => rfl
    | releaseAnomalous _ h => exact absurd rfl h
  | releaseAnomalous c h =>
    cases h' with
    | release => exact absurd rfl h
    | releaseAnomalous => rfl

/-- The only change that adds a finalizer is the guard. -/
theorem Write.eq_addGuard {w : Write} {m : Markers} {token : String}
    (h : .addFinalizer token = w.patch m) : w = .addGuard := by
  cases w <;> simp [Write.patch] at h
  rfl

/-- The only change that sets an annotation is the marker. -/
theorem Write.eq_setMarker {w : Write} {m : Markers} {name value : String}
    (h : .annotate name value = w.patch m) : w = .setMarker := by
  cases w <;> simp [Write.patch] at h
  rfl

/-- The only changes that remove a finalizer are the releases of the guard. -/
theorem Write.eq_release {w : Write} {m : Markers} {token : String}
    (h : .removeFinalizer token = w.patch m) : w = .release ∨ w = .releaseAnomalous := by
  cases w <;> simp [Write.patch] at h
  · exact Or.inl rfl
  · exact Or.inr rfl

/-- The phase that calls for a change. -/
def Write.phase : Write → Phase
  | .addGuard => .unguarded
  | .setMarker => .readyToNotify
  | .release => .readyToRelease
  | .releaseAnomalous => .anomalous

/-- The standings of a phase in which a change is made. -/
theorem standing_of_phase {run : Run} {m : Markers} {w : Write}
    (h : Phase.ofRun run m = w.phase) :
    match w with
    | .addGuard => run.isGuarded m = false ∧ run.isMarked m = false
    | .setMarker => run.isGuarded m = true ∧ run.isMarked m = false ∧ run.completion = .succeeded
    | .release => run.isGuarded m = true ∧ run.isMarked m = true ∧ run.completion = .succeeded
    | .releaseAnomalous =>
      run.isGuarded m = true ∧ run.isMarked m = true ∧ run.completion ≠ .succeeded := by
  have hs : run.succeeded = decide (run.completion = .succeeded) := rfl
  unfold Phase.ofRun at h
  cases hg : run.isGuarded m <;> cases hm : run.isMarked m <;> cases hc : run.succeeded <;>
    rw [hg, hm, hc] at h <;> rw [hs] at hc <;> cases w <;>
    simp_all [Phase.ofFlags, Write.phase]

/-- The standing of a record that is guarded. -/
theorem standing_withFinalizer_guard (run : Run) (m : Markers) :
    (run.withFinalizer m.guardToken).standing m = ⟨true, run.isMarked m, run.completion⟩ := by
  simp [Run.standing, Run.isGuarded]

/-- The standing of a record that is released. -/
theorem standing_withoutFinalizer_guard (run : Run) (m : Markers) :
    (run.withoutFinalizer m.guardToken).standing m = ⟨false, run.isMarked m, run.completion⟩ := by
  simp [Run.standing, Run.isGuarded]

/-- The standing of a record that is marked. -/
theorem standing_annotated_marker (run : Run) (m : Markers) :
    (run.annotated m.markerKey m.markerValue).standing m
      = ⟨run.isGuarded m, true, run.completion⟩ := by
  simp [Run.standing, Run.isGuarded, Run.isMarked]

/-- A change made in the phase that calls for it follows its row. -/
theorem row_of_phase {run : Run} {m : Markers} {w : Write} (h : Phase.ofRun run m = w.phase) :
    Row w (run.standing m) (((w.patch m).apply run).standing m) := by
  have hs := standing_of_phase h
  cases w with
  | addGuard =>
    obtain ⟨hg, hm⟩ := hs
    change Row _ _ ((run.withFinalizer m.guardToken).standing m)
    rw [standing_withFinalizer_guard, Run.standing, hg, hm]
    exact .addGuard _
  | setMarker =>
    obtain ⟨hg, hm, hc⟩ := hs
    change Row _ _ ((run.annotated m.markerKey m.markerValue).standing m)
    rw [standing_annotated_marker, Run.standing, hg, hm, hc]
    exact .setMarker
  | release =>
    obtain ⟨hg, hm, hc⟩ := hs
    change Row _ _ ((run.withoutFinalizer m.guardToken).standing m)
    rw [standing_withoutFinalizer_guard, Run.standing, hg, hm, hc]
    exact .release
  | releaseAnomalous =>
    obtain ⟨hg, hm, hc⟩ := hs
    change Row _ _ ((run.withoutFinalizer m.guardToken).standing m)
    rw [standing_withoutFinalizer_guard, Run.standing, hg, hm]
    exact .releaseAnomalous _ hc

/-! ## What a change leaves alone -/

/-- Two records that agree but for the guard and the marker. -/
structure AgreesBeside (m : Markers) (a b : Run) : Prop where
  key : a.key = b.key
  completion : a.completion = b.completion
  results : a.results = b.results
  deletionRequestedAt : a.deletionRequestedAt = b.deletionRequestedAt
  annotations : ∀ name, name ≠ m.markerKey → a.annotationValue? name = b.annotationValue? name
  finalizers : ∀ token, token ≠ m.guardToken → a.hasFinalizer token = b.hasFinalizer token

/-- A change touches nothing but the guard and the marker. -/
theorem agreesBeside_of_write (m : Markers) (w : Write) (run : Run) :
    AgreesBeside m run ((w.patch m).apply run) where
  key := by cases w <;> rfl
  completion := by cases w <;> rfl
  results := by cases w <;> rfl
  deletionRequestedAt := by cases w <;> rfl
  annotations := by
    intro name h
    cases w <;> simp [Write.patch, Patch.apply, h]
  finalizers := by
    intro token h
    cases w <;> simp [Write.patch, Patch.apply, h]

end RunHerald
