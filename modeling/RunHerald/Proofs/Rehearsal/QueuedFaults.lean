import RunHerald.Proofs.Store.Atomicity
import RunHerald.Rehearsal.TracedStore

/-!
# Queued faults strike once

A watched store answers like the store in it, apart from the faults that were queued. An `Operation`
is one call of a watched store: a read, a patch, one more fault in a queue, or a call that somebody
makes of the store in it. `Effect` lists every way in which a call can go, and `perform_effect` says
that there are no others.

Each queue is kept in balance by every call, whatever the order of the calls:

* failures of reads: those queued are those that struck and those left (`failingFetches_after`);
* failures of patches: the same for each label on its own (`failingPatches_after`);
* interferences: those that were met, in their order, and then those left are those queued
  (`met_append_interference`).

So it can be told from the calls and their answers which fault the next call meets.
-/

set_option autoImplicit false

namespace RunHerald

namespace WatchedStore

variable {ι : Type}

/-- A call of a watched store, or of the store in it. -/
inductive Operation (ι : Type) where
  | fetch (key : RunKey)
  | patch (key : RunKey) (expected : String) (p : Patch)
  | failNextFetch
  | failNextPatch (label : String)
  | interfere (x : ι)
  | inner (op : Store.Operation)

/-- The answer to a call of a watched store. -/
inductive Answer where
  | fetched (result : Except ServiceError (Option Snapshot))
  | patched (result : Attempt PatchResult)
  | queued
  | inner (answer : Store.Answer)

/-- Makes a call: its answer and the watched store afterwards. -/
def perform [Interference ι] (t : WatchedStore ι) : Operation ι → Answer × WatchedStore ι
  | .fetch key => (.fetched (t.fetch key).1, (t.fetch key).2)
  | .patch key expected p =>
    (.patched (t.patch key expected p).1, (t.patch key expected p).2)
  | .failNextFetch => (.queued, t.queueFetchFailure)
  | .failNextPatch label => (.queued, t.queuePatchFailure label)
  | .interfere x => (.queued, t.queueEdits x)
  | .inner op => (.inner (t.inner.perform op).1, { t with inner := (t.inner.perform op).2 })

/-- The watched store after some calls. -/
def after [Interference ι] (t : WatchedStore ι) (ops : List (Operation ι)) : WatchedStore ι :=
  ops.foldl (fun t op => (t.perform op).2) t

/-- The calls with their answers, in their order. -/
def history [Interference ι] (t : WatchedStore ι) :
    List (Operation ι) → List (Operation ι × Answer)
  | [] => []
  | op :: ops => (op, (t.perform op).1) :: history (t.perform op).2 ops

/-- Without operations a watched store is as it was. -/
@[simp] theorem after_nil [Interference ι] (t : WatchedStore ι) : t.after [] = t := rfl

/-- Operations are performed one after another. -/
@[simp] theorem after_cons [Interference ι] (t : WatchedStore ι) (op : Operation ι)
    (ops : List (Operation ι)) : t.after (op :: ops) = (t.perform op).2.after ops := rfl

/-- The calls after some others start where those have ended. -/
theorem after_append [Interference ι] (t : WatchedStore ι) (ops ops' : List (Operation ι)) :
    t.after (ops ++ ops') = (t.after ops).after ops' :=
  List.foldl_append

/-! ## What one call can do -/

/-- The error of a read that was made to fail. -/
def fetchFault (key : RunKey) : ServiceError := .storage ("injected fetch failure for " ++ key.text)

/-- The error of a patch that was made to fail. -/
def patchFault (label : String) (key : RunKey) : ServiceError :=
  .storage s!"injected {label} failure for {key.text}"

/-- Every way in which a call can go: its answer and the watched store afterwards. -/
inductive Effect [Interference ι] (t : WatchedStore ι) :
    Operation ι → Answer → WatchedStore ι → Prop
  | fetchFailed (key : RunKey) (hf : 0 < t.failingFetches) :
    Effect t (.fetch key) (.fetched (.error (fetchFault key)))
      { t.record (.fetch key) with failingFetches := t.failingFetches - 1 }
  | fetched (key : RunKey) (hf : t.failingFetches = 0) :
    Effect t (.fetch key) (.fetched (t.inner.fetch key)) (t.record (.fetch key))
  | patchFailed (key : RunKey) (expected : String) (p : Patch)
    (hf : p.label ∈ t.failingPatches) :
    Effect t (.patch key expected p) (.patched (.failed (patchFault p.label key)))
      { t.record (.patch key expected p) with
        failingPatches := t.failingPatches.erase p.label }
  | patched (key : RunKey) (expected : String) (p : Patch) (hf : p.label ∉ t.failingPatches)
    (hi : t.interference = []) :
    Effect t (.patch key expected p) (.patched (.ofExcept (t.inner.patch key expected p).1))
      { t.record (.patch key expected p) with inner := (t.inner.patch key expected p).2 }
  | interfered (key : RunKey) (expected : String) (p : Patch) (x : ι) (rest : List ι)
    (version : Option String) (s : Store) (hf : p.label ∉ t.failingPatches)
    (hi : t.interference = x :: rest)
    (hx : t.inner.rework key (Interference.rework x) = (.done version, s)) :
    Effect t (.patch key expected p) (.patched (.ofExcept (s.patch key expected p).1))
      { t.record (.patch key expected p) with
        inner := (s.patch key expected p).2, interference := rest }
  | interferenceFailed (key : RunKey) (expected : String) (p : Patch) (x : ι) (rest : List ι)
    (e : ServiceError) (s : Store) (hf : p.label ∉ t.failingPatches)
    (hi : t.interference = x :: rest)
    (hx : t.inner.rework key (Interference.rework x) = (.failed e, s)) :
    Effect t (.patch key expected p) (.patched (.failed e))
      { t.record (.patch key expected p) with inner := s, interference := rest }
  | interferenceAborted (key : RunKey) (expected : String) (p : Patch) (x : ι) (rest : List ι)
    (message : String) (s : Store) (hf : p.label ∉ t.failingPatches)
    (hi : t.interference = x :: rest)
    (hx : t.inner.rework key (Interference.rework x) = (.aborted message, s)) :
    Effect t (.patch key expected p) (.patched (.aborted message))
      { t.record (.patch key expected p) with inner := s, interference := rest }
  | failNextFetch : Effect t .failNextFetch .queued t.queueFetchFailure
  | failNextPatch (label : String) :
    Effect t (.failNextPatch label) .queued (t.queuePatchFailure label)
  | interfere (x : ι) : Effect t (.interfere x) .queued (t.queueEdits x)
  | inner (op : Store.Operation) :
    Effect t (.inner op) (.inner (t.inner.perform op).1)
      { t with inner := (t.inner.perform op).2 }

section

variable [Interference ι]

/-- A read fails and uses up one failure if one is queued. -/
theorem perform_fetch_failing {t : WatchedStore ι} (hf : 0 < t.failingFetches) (key : RunKey) :
    t.perform (.fetch key) =
      (.fetched (.error (fetchFault key)),
        { t.record (.fetch key) with failingFetches := t.failingFetches - 1 }) := by
  simp [perform, WatchedStore.fetch, record, hf, fetchFault]

/-- A read that no failure strikes is one of the store inside. -/
theorem perform_fetch_clear {t : WatchedStore ι} (hf : t.failingFetches = 0) (key : RunKey) :
    t.perform (.fetch key) = (.fetched (t.inner.fetch key), t.record (.fetch key)) := by
  simp [perform, WatchedStore.fetch, record, hf]

/-- A patch fails and uses up one failure if one of its kind is queued. -/
theorem perform_patch_failing {t : WatchedStore ι} {p : Patch} (hf : p.label ∈ t.failingPatches)
    (key : RunKey) (expected : String) :
    t.perform (.patch key expected p) =
      (.patched (.failed (patchFault p.label key)),
        { t.record (.patch key expected p) with
          failingPatches := t.failingPatches.erase p.label }) := by
  simp [perform, WatchedStore.patch, record, hf, patchFault]

/-- A patch that neither a failure nor an interference strikes is one of the store inside. -/
theorem perform_patch_clear {t : WatchedStore ι} {p : Patch} (hf : p.label ∉ t.failingPatches)
    (hi : t.interference = []) (key : RunKey) (expected : String) :
    t.perform (.patch key expected p) =
      (.patched (.ofExcept (t.inner.patch key expected p).1),
        { t.record (.patch key expected p) with inner := (t.inner.patch key expected p).2 }) := by
  simp [perform, WatchedStore.patch, WatchedStore.interfere, record, hf, hi]

/-- What a read does to a watched store. -/
theorem fetch_effect (t : WatchedStore ι) (key : RunKey) :
    Effect t (.fetch key) (t.perform (.fetch key)).1 (t.perform (.fetch key)).2 := by
  by_cases hf : 0 < t.failingFetches
  · rw [perform_fetch_failing hf]
    exact .fetchFailed key hf
  · have hf := Nat.eq_zero_of_not_pos hf
    rw [perform_fetch_clear hf]
    exact .fetched key hf

/-- What a patch does to a watched store. -/
theorem patch_effect (t : WatchedStore ι) (key : RunKey) (expected : String) (p : Patch) :
    Effect t (.patch key expected p) (t.perform (.patch key expected p)).1
      (t.perform (.patch key expected p)).2 := by
  by_cases hf : p.label ∈ t.failingPatches
  · rw [perform_patch_failing hf]
    exact .patchFailed key expected p hf
  · cases hi : t.interference with
    | nil =>
      rw [perform_patch_clear hf hi]
      exact .patched key expected p hf hi
    | cons x rest =>
      rcases hx : t.inner.rework key (Interference.rework x) with ⟨answer, s⟩
      simp only [perform, WatchedStore.patch, record, hf, if_false, WatchedStore.interfere, hi, hx]
      cases answer with
      | done version => exact .interfered key expected p x rest version s hf hi hx
      | failed e => exact .interferenceFailed key expected p x rest e s hf hi hx
      | aborted message => exact .interferenceAborted key expected p x rest message s hf hi hx

/-- A call goes in one of the ways of `Effect`. -/
theorem perform_effect (t : WatchedStore ι) (op : Operation ι) :
    Effect t op (t.perform op).1 (t.perform op).2 := by
  cases op with
  | fetch key => exact fetch_effect t key
  | patch key expected p => exact patch_effect t key expected p
  | failNextFetch => exact .failNextFetch
  | failNextPatch label => exact .failNextPatch label
  | interfere x => exact .interfere x
  | inner op => exact .inner op

end

/-! ## What is recorded and what is used up -/

/-- The entry of a call in the record. -/
def Operation.recorded : Operation ι → Option StoreOp
  | .fetch key => some (.fetch key)
  | .patch key expected p => some (.patch key expected p)
  | _ => none

/-- Whether a call queues a failure of a read. -/
def Operation.queuesFetchFailure : Operation ι → Bool
  | .failNextFetch => true
  | _ => false

/-- Whether a call queues a failure of the patches with a label. -/
def Operation.queuesPatchFailure (label : String) : Operation ι → Bool
  | .failNextPatch l => l = label
  | _ => false

/-- The interference that a call queues. -/
def Operation.interference? : Operation ι → Option ι
  | .interfere x => some x
  | _ => none

/-- Whether a call was a read that failed because it was made to. -/
def failedFetch : Operation ι × Answer → Bool
  | (.fetch key, .fetched (.error e)) => e = fetchFault key
  | _ => false

/-- Whether a call was a patch with a label that failed because it was made to. -/
def failedPatch (label : String) : Operation ι × Answer → Bool
  | (.patch key _ p, .patched (.failed e)) => p.label = label ∧ e = patchFault label key
  | _ => false

/-- Whether a call is a read. -/
def Operation.isFetch : Operation ι → Bool
  | .fetch _ => true
  | _ => false

/-- Whether a call is a patch with a label. -/
def Operation.isPatch (label : String) : Operation ι → Bool
  | .patch _ _ p => p.label = label
  | _ => false

/-- Whether a call was a patch that was not made to fail. -/
def passedPatch : Operation ι × Answer → Bool
  | (.patch key expected p, answer) =>
    !failedPatch p.label ((.patch key expected p, answer) : Operation ι × Answer)
  | _ => false

/-- The interference that a call meets: a patch that is not made to fail meets the next one. -/
def meets (t : WatchedStore ι) : Operation ι → Option ι
  | .patch _ _ p => if p.label ∈ t.failingPatches then none else t.interference.head?
  | _ => none

/-- The interferences that some calls meet, in their order. -/
def met [Interference ι] (t : WatchedStore ι) : List (Operation ι) → List ι
  | [] => []
  | op :: ops => (t.meets op).toList ++ met (t.perform op).2 ops

/-- Only a read fails like one. -/
theorem isFetch_of_failedFetch (e : Operation ι × Answer) (h : failedFetch e = true) :
    e.1.isFetch = true := by
  obtain ⟨op, answer⟩ := e
  cases op with
  | fetch key => rfl
  | _ => simp [failedFetch] at h

/-- Only a patch of a kind fails like one. -/
theorem isPatch_of_failedPatch (label : String) (e : Operation ι × Answer)
    (h : failedPatch label e = true) : e.1.isPatch label = true := by
  obtain ⟨op, answer⟩ := e
  cases op with
  | patch key expected p =>
    cases answer with
    | patched result =>
      cases result with
      | failed error =>
        obtain ⟨hlabel, -⟩ := of_decide_eq_true h
        exact decide_eq_true hlabel
      | _ => simp [failedPatch] at h
    | _ => simp [failedPatch] at h
  | _ => simp [failedPatch] at h

/-- The store itself never fails as a read that was made to. -/
theorem poisonError_ne_fetchFault (key : RunKey) : Store.poisonError ≠ fetchFault key := by
  intro h
  have htext := congrArg (fun s => s.toList.head?) (ServiceError.storage.inj h)
  simp at htext

/-- The store itself never fails as a patch that was made to. -/
theorem poisonError_ne_patchFault (label : String) (key : RunKey) :
    Store.poisonError ≠ patchFault label key := by
  intro h
  have htext := congrArg (fun s => s.toList.head?) (ServiceError.storage.inj h)
  simp [toString] at htext

/-- The store inside never answers a read like a queued failure. -/
theorem failedFetch_inner (s : Store) (key : RunKey) :
    failedFetch ((.fetch key, .fetched (s.fetch key)) : Operation ι × Answer) = false := by
  unfold Store.fetch
  split
  · simp [failedFetch, poisonError_ne_fetchFault]
  · rfl

/-- The store inside never answers a patch like a queued failure. -/
theorem failedPatch_inner (label : String) (s : Store) (key : RunKey) (expected : String)
    (p : Patch) :
    failedPatch label ((.patch key expected p, .patched (.ofExcept (s.patch key expected p).1)) :
      Operation ι × Answer) = false := by
  have he := Store.perform_effect s (.patch key expected p)
  simp only [Store.perform] at he
  generalize (s.patch key expected p).1 = result at he
  generalize (s.patch key expected p).2 = s' at he
  cases he with
  | refused _ _ _ ha =>
    obtain rfl : .error Store.poisonError = result := Store.Answer.patched.inj ha
    simp [failedPatch, Attempt.ofExcept, poisonError_ne_patchFault]
  | patchAbsent => rfl
  | patchConflict => rfl
  | patched => rfl

/-- A rework fails without an abort only on an unusable store. -/
theorem failed_of_rework {s s' : Store} {key : RunKey} {f : Run → Run × Option String}
    {e : ServiceError} (h : s.rework key f = (.failed e, s')) :
    s.poisoned = true ∧ e = Store.poisonError ∧ s' = s := by
  have he := Store.perform_effect s (.rework key f)
  simp only [Store.perform, h] at he
  cases he with
  | refused _ _ hp ha =>
    exact ⟨hp, (Attempt.failed.inj (Store.Answer.reworked.inj ha)).symm, rfl⟩

/-- A rework that aborts leaves an unusable store. -/
theorem poisoned_of_rework {s s' : Store} {key : RunKey} {f : Run → Run × Option String}
    {message : String} (h : s.rework key f = (.aborted message, s')) : s'.poisoned = true := by
  have habort : (s.perform (.rework key f)).1 = .reworked (.aborted message) := by
    simp [Store.perform, h]
  simpa [Store.perform, h] using Store.poisoned_of_aborted habort

/-- A patch of an unusable store is refused. -/
theorem patch_of_poisoned {s : Store} (hp : s.poisoned = true) (key : RunKey) (expected : String)
    (p : Patch) : s.patch key expected p = (.error Store.poisonError, s) :=
  if_pos hp

section

variable [Interference ι]

/-! ## The queues stay in balance -/

/-- Every read and patch is recorded once, at the end of the record. -/
theorem Effect.operations {t t' : WatchedStore ι} {op : Operation ι} {answer : Answer}
    (he : Effect t op answer t') : t'.operations = t.operations ++ op.recorded.toList := by
  cases he <;>
    simp [record, Operation.recorded, queueFetchFailure, queuePatchFailure, queueEdits]

/-- A call uses up a failure of a read exactly if it fails by it. -/
theorem Effect.failingFetches {t t' : WatchedStore ι} {op : Operation ι} {answer : Answer}
    (he : Effect t op answer t') :
    t.failingFetches + (if op.queuesFetchFailure then 1 else 0) =
      (if failedFetch (op, answer) then 1 else 0) + t'.failingFetches := by
  cases he with
  | fetchFailed key hf =>
    have hleft : 1 + (t.failingFetches - 1) = t.failingFetches := by omega
    simp [Operation.queuesFetchFailure, failedFetch, hleft]
  | fetched key hf => simp [Operation.queuesFetchFailure, failedFetch_inner, record]
  | failNextFetch =>
    simp [Operation.queuesFetchFailure, failedFetch, queueFetchFailure]
  | _ =>
    simp [Operation.queuesFetchFailure, failedFetch, record, queuePatchFailure, queueEdits]

/-- A call uses up a failure of the patches with a label exactly if it fails by it. -/
theorem Effect.failingPatches {t t' : WatchedStore ι} {op : Operation ι} {answer : Answer}
    (he : Effect t op answer t') (label : String) :
    t.failingPatches.count label + (if op.queuesPatchFailure label then 1 else 0) =
      (if failedPatch label (op, answer) then 1 else 0) + t'.failingPatches.count label := by
  cases he with
  | patchFailed key expected p hf =>
    have hcount : t.failingPatches.count label =
        (if p.label = label then 1 else 0) + (t.failingPatches.erase p.label).count label := by
      by_cases hl : p.label = label
      · have hpos := List.count_pos_iff.2 hf
        rw [hl] at hpos ⊢
        rw [List.count_erase_self, if_pos rfl]
        omega
      · rw [List.count_erase_of_ne (Ne.symm hl), if_neg hl, Nat.zero_add]
    rw [hcount]
    by_cases hl : p.label = label <;> simp [Operation.queuesPatchFailure, failedPatch, hl]
  | patched key expected p => simp [Operation.queuesPatchFailure, failedPatch_inner, record]
  | interfered key expected p => simp [Operation.queuesPatchFailure, failedPatch_inner, record]
  | interferenceFailed key expected p x rest e s hf hi hx =>
    obtain ⟨-, rfl, -⟩ := failed_of_rework hx
    simp [Operation.queuesPatchFailure, failedPatch, poisonError_ne_patchFault, record]
  | failNextPatch l =>
    simp [Operation.queuesPatchFailure, failedPatch, queuePatchFailure, List.count_singleton]
  | _ => simp [Operation.queuesPatchFailure, failedPatch, record, queueFetchFailure, queueEdits]

/-- A call takes the interference that it meets from the front of the queue. -/
theorem Effect.interference {t t' : WatchedStore ι} {op : Operation ι} {answer : Answer}
    (he : Effect t op answer t') :
    (t.meets op).toList ++ t'.interference = t.interference ++ op.interference?.toList := by
  cases he with
  | interfered key expected p x rest version s hf hi =>
    simp [meets, Operation.interference?, hf, hi]
  | interferenceFailed key expected p x rest e s hf hi =>
    simp [meets, Operation.interference?, hf, hi]
  | interferenceAborted key expected p x rest message s hf hi =>
    simp [meets, Operation.interference?, hf, hi]
  | patched key expected p hf hi => simp [meets, Operation.interference?, hf, hi, record]
  | patchFailed key expected p hf => simp [meets, Operation.interference?, hf, record]
  | _ =>
    simp [meets, Operation.interference?, record, queueFetchFailure, queuePatchFailure, queueEdits]

/-- What every call keeps in balance is in balance after any calls: what was there and what was
gained are what was lost and what is left. -/
theorem balance_after (left : WatchedStore ι → Nat) {gains : Operation ι → Bool}
    {loses : Operation ι × Answer → Bool}
    (step : ∀ t op, left t + (if gains op then 1 else 0) =
      (if loses (op, (t.perform op).1) then 1 else 0) + left (t.perform op).2)
    (t : WatchedStore ι) (ops : List (Operation ι)) :
    left t + ops.countP gains = (t.history ops).countP loses + left (t.after ops) := by
  induction ops generalizing t with
  | nil => simp [history]
  | cons op ops ih =>
    have hstep := step t op
    have hrest := ih (t.perform op).2
    rw [List.countP_cons, history, List.countP_cons, after_cons]
    omega

/-- The failures of reads that were queued are those that struck and those that are left. -/
theorem failingFetches_after (t : WatchedStore ι) (ops : List (Operation ι)) :
    t.failingFetches + ops.countP Operation.queuesFetchFailure =
      (t.history ops).countP failedFetch + (t.after ops).failingFetches :=
  balance_after (·.failingFetches) (fun t op => (perform_effect t op).failingFetches) t ops

/-- The failures of the patches with a label that were queued are those that struck and those that
are left. -/
theorem failingPatches_after (t : WatchedStore ι) (ops : List (Operation ι)) (label : String) :
    t.failingPatches.count label + ops.countP (Operation.queuesPatchFailure label) =
      (t.history ops).countP (failedPatch label) + (t.after ops).failingPatches.count label :=
  balance_after (·.failingPatches.count label)
    (fun t op => (perform_effect t op).failingPatches label) t ops

/-- The interferences that were queued are those that were met and then those that are left. -/
theorem met_append_interference (t : WatchedStore ι) (ops : List (Operation ι)) :
    t.met ops ++ (t.after ops).interference =
      t.interference ++ ops.filterMap Operation.interference? := by
  induction ops generalizing t with
  | nil => simp [met]
  | cons op ops ih =>
    rw [met, List.append_assoc, after_cons, ih, ← List.append_assoc,
      (perform_effect t op).interference, List.append_assoc]
    cases hop : op.interference? <;> simp [hop]

/-- Every read and patch is recorded once, in the order of the calls. -/
theorem operations_after (t : WatchedStore ι) (ops : List (Operation ι)) :
    (t.after ops).operations = t.operations ++ ops.filterMap Operation.recorded := by
  induction ops generalizing t with
  | nil => simp
  | cons op ops ih =>
    rw [after_cons, ih, (perform_effect t op).operations, List.append_assoc]
    cases hop : op.recorded <;> simp [hop]

/-! ## The store inside -/

/-- Whatever is called, the store inside sees some calls of a store. -/
theorem Effect.inner_eq {t t' : WatchedStore ι} {op : Operation ι} {answer : Answer}
    (he : Effect t op answer t') : ∃ calls, t'.inner = t.inner.after calls := by
  cases he with
  | patched key expected p => exact ⟨[.patch key expected p], rfl⟩
  | interfered key expected p x rest version s hf hi hx =>
    refine ⟨[.rework key (Interference.rework x), .patch key expected p], ?_⟩
    simp [Store.perform, hx]
  | interferenceFailed key expected p x rest e s hf hi hx =>
    refine ⟨[.rework key (Interference.rework x)], ?_⟩
    simp [Store.perform, hx]
  | interferenceAborted key expected p x rest message s hf hi hx =>
    refine ⟨[.rework key (Interference.rework x)], ?_⟩
    simp [Store.perform, hx]
  | inner op => exact ⟨[op], rfl⟩
  | _ => exact ⟨[], rfl⟩

/-- Every operation keeps the store inside versioned. -/
theorem versioned_perform {t : WatchedStore ι} (h : t.inner.Versioned) (op : Operation ι) :
    (t.perform op).2.inner.Versioned := by
  obtain ⟨calls, hcalls⟩ := (perform_effect t op).inner_eq
  rw [hcalls]
  exact Store.versioned_after h calls

/-- The counter of the store inside never goes back. -/
theorem lastVersion_after (t : WatchedStore ι) (ops : List (Operation ι)) :
    t.inner.lastVersion ≤ (t.after ops).inner.lastVersion := by
  induction ops generalizing t with
  | nil => exact le_rfl
  | cons op ops ih =>
    obtain ⟨calls, hcalls⟩ := (perform_effect t op).inner_eq
    refine le_trans ?_ (ih (t.perform op).2)
    rw [hcalls]
    exact Store.lastVersion_after t.inner calls

/-- The versions that an answer gives or shows. -/
def Answer.shown : Answer → List String
  | .fetched result => (Store.Answer.read result).shown
  | .patched (.done result) => (Store.Answer.patched (.ok result)).shown
  | .inner answer => answer.shown
  | _ => []

/-- A version that a patch of the store inside shows is one that its counter has reached. -/
theorem shown_patch {s : Store} (h : s.Versioned) (key : RunKey) (expected : String) (p : Patch)
    {v : String} (hv : v ∈ (Answer.patched (.ofExcept (s.patch key expected p).1)).shown) :
    ∃ n, n ≤ (s.patch key expected p).2.lastVersion ∧ v = versionText n := by
  apply (Store.perform_effect s (.patch key expected p)).shown_le h
  revert hv
  simp only [Store.perform]
  generalize (s.patch key expected p).1 = result
  cases result with
  | error e => simp [Attempt.ofExcept, Answer.shown]
  | ok result => exact id

/-- A version that is shown is one that the counter of the store inside has reached. -/
theorem Effect.shown_le {t t' : WatchedStore ι} {op : Operation ι} {answer : Answer}
    (h : t.inner.Versioned) (he : Effect t op answer t') {v : String} (hv : v ∈ answer.shown) :
    ∃ n, n ≤ t'.inner.lastVersion ∧ v = versionText n := by
  cases he with
  | fetched key => exact (Store.perform_effect t.inner (.read key)).shown_le h hv
  | patched key expected p => exact shown_patch h key expected p hv
  | interfered key expected p x rest version s hf hi hx =>
    have hs : s.Versioned := by
      have := Store.versioned_perform h (.rework key (Interference.rework x))
      simpa [Store.perform, hx] using this
    exact shown_patch hs key expected p hv
  | inner op => exact (Store.perform_effect t.inner op).shown_le h hv
  | _ => simp [Answer.shown, Store.Answer.shown] at hv

/-- A version that was shown at any time is one that the counter has reached. -/
theorem shown_le_after {t : WatchedStore ι} (h : t.inner.Versioned) {ops : List (Operation ι)}
    {e : Operation ι × Answer} (he : e ∈ t.history ops) {v : String} (hv : v ∈ e.2.shown) :
    ∃ n, n ≤ (t.after ops).inner.lastVersion ∧ v = versionText n := by
  induction ops generalizing t with
  | nil => simp [history] at he
  | cons op ops ih =>
    rcases List.mem_cons.1 he with rfl | he
    · obtain ⟨n, hn, rfl⟩ := (perform_effect t op).shown_le h hv
      exact ⟨n, hn.trans (lastVersion_after _ ops), rfl⟩
    · exact ih (versioned_perform h op) he

/-! ## The next call -/

/-- A patch that is not made to fail comes after the interference that it meets. -/
theorem perform_patch_of_interference {t : WatchedStore ι} (key : RunKey) (expected : String)
    {p : Patch} (hf : p.label ∉ t.failingPatches) {x : ι} {rest : List ι}
    (hi : t.interference = x :: rest) :
    ∃ answer, t.perform (.patch key expected p) =
        (.patched answer,
          { t.record (.patch key expected p) with
            inner := t.inner.after
              [.rework key (Interference.rework x), .patch key expected p]
            interference := rest }) ∧
      (∀ message, (t.inner.rework key (Interference.rework x)).1 = .aborted message →
        answer = .aborted message) ∧
      ((∀ message, (t.inner.rework key (Interference.rework x)).1 ≠ .aborted message) →
        answer = .ofExcept ((t.inner.after [.rework key (Interference.rework x)]).patch
          key expected p).1) := by
  -- whatever became of the interference, the patch after it changes what it changes in `s`
  have hboth : ∀ answer s, t.inner.rework key (Interference.rework x) = (answer, s) →
      t.inner.after [.rework key (Interference.rework x)] = s ∧
        t.inner.after [.rework key (Interference.rework x), .patch key expected p] =
          (s.patch key expected p).2 := by
    intro answer s hx
    simp [Store.perform, hx]
  have he := patch_effect t key expected p
  generalize t.perform (.patch key expected p) = out at he ⊢
  obtain ⟨given, t'⟩ := out
  cases he with
  | patchFailed _ _ _ hf' => exact absurd hf' hf
  | patched _ _ _ _ hi' => simp [hi] at hi'
  | interfered _ _ _ x' rest' version s _ hi' hx =>
    obtain ⟨rfl, rfl⟩ := List.cons.inj (hi.symm.trans hi')
    obtain ⟨hafter, hboth⟩ := hboth _ _ hx
    rw [hafter, hboth, hx]
    refine ⟨_, rfl, ?_, fun _ => rfl⟩
    intro message habort
    cases habort
  | interferenceFailed _ _ _ x' rest' e s _ hi' hx =>
    obtain ⟨rfl, rfl⟩ := List.cons.inj (hi.symm.trans hi')
    obtain ⟨hafter, hboth⟩ := hboth _ _ hx
    obtain ⟨hp, rfl, rfl⟩ := failed_of_rework hx
    rw [hafter, hboth, hx, patch_of_poisoned hp]
    refine ⟨_, rfl, ?_, fun _ => rfl⟩
    intro message habort
    cases habort
  | interferenceAborted _ _ _ x' rest' message s _ hi' hx =>
    obtain ⟨rfl, rfl⟩ := List.cons.inj (hi.symm.trans hi')
    obtain ⟨hafter, hboth⟩ := hboth _ _ hx
    rw [hafter, hboth, hx, patch_of_poisoned (poisoned_of_rework hx)]
    refine ⟨_, rfl, ?_, fun hno => absurd rfl (hno message)⟩
    intro message' habort
    rw [Attempt.aborted.inj habort]

/-- What a patch makes of a record that was interfered with since its version was shown. -/
theorem perform_patch_of_overtaken {t : WatchedStore ι} {key : RunKey} {expected : String}
    {p : Patch} (hf : p.label ∉ t.failingPatches) {x : ι} {rest : List ι}
    (hi : t.interference = x :: rest) (hp : t.inner.poisoned = false) {r : Record}
    (hr : t.inner.records.get? key = some r) {run : Run}
    (hx : Interference.rework x r.run = (run, none))
    (hold : ∃ n, n ≤ t.inner.lastVersion ∧ expected = versionText n) :
    t.perform (.patch key expected p) =
      (.patched (.done (.conflict (versionText (t.inner.lastVersion + 1)))),
        { t.record (.patch key expected p) with
          inner := t.inner.save key run, interference := rest }) := by
  obtain ⟨n, hn, rfl⟩ := hold
  have hrework : t.inner.rework key (Interference.rework x) =
      (.done (some (versionText (t.inner.lastVersion + 1))), t.inner.save key run) := by
    simp [Store.rework, hp, hr, hx]
  have hversion : versionText (t.inner.lastVersion + 1) ≠ versionText n := by
    intro hsame
    have := versionText_injective hsame
    omega
  have hpatch : (t.inner.save key run).patch key (versionText n) p =
      (.ok (.conflict (versionText (t.inner.lastVersion + 1))), t.inner.save key run) := by
    have husable : (t.inner.save key run).poisoned = false := hp
    simp [Store.patch, husable, Store.get?_save, hversion]
  obtain ⟨answer, hperform, -, hanswer⟩ :=
    perform_patch_of_interference key (versionText n) hf hi
  rw [hperform, hanswer (by simp [hrework])]
  simp [Store.perform, hrework, hpatch, Attempt.ofExcept]

/-! ## Where a fault strikes -/

/-- A history lists the operations that were performed. -/
theorem map_fst_history (t : WatchedStore ι) (ops : List (Operation ι)) :
    (t.history ops).map Prod.fst = ops := by
  induction ops generalizing t with
  | nil => rfl
  | cons op ops ih => rw [history, List.map_cons, ih]

/-- There are at most as many calls with one kind of answer as there are such calls. -/
theorem countP_history_le {answered : Operation ι × Answer → Bool} {called : Operation ι → Bool}
    (h : ∀ e, answered e = true → called e.1 = true) (t : WatchedStore ι)
    (ops : List (Operation ι)) : (t.history ops).countP answered ≤ ops.countP called := by
  calc (t.history ops).countP answered
      ≤ (t.history ops).countP (called ∘ Prod.fst) := List.countP_mono_left fun e _ => h e
    _ = ((t.history ops).map Prod.fst).countP called := List.countP_map.symm
    _ = ops.countP called := by rw [map_fst_history]

/-- Only a patch that is not made to fail meets an interference, and it does if there is one. -/
theorem Effect.isSome_meets {t t' : WatchedStore ι} {op : Operation ι} {answer : Answer}
    (he : Effect t op answer t') :
    (t.meets op).isSome = (passedPatch (op, answer) && !t.interference.isEmpty) := by
  cases he with
  | patchFailed key expected p hf => simp [meets, passedPatch, failedPatch, hf]
  | patched key expected p hf hi => simp [meets, hf, hi]
  | interfered key expected p x rest version s hf hi =>
    simp [meets, passedPatch, failedPatch_inner, hf, hi]
  | interferenceFailed key expected p x rest e s hf hi hx =>
    obtain ⟨-, rfl, -⟩ := failed_of_rework hx
    simp [meets, passedPatch, failedPatch, poisonError_ne_patchFault, hf, hi]
  | interferenceAborted key expected p x rest message s hf hi =>
    simp [meets, passedPatch, failedPatch, hf, hi]
  | _ => rfl

/-- As long as there are enough interferences, each patch that is not made to fail meets one. -/
theorem met_eq_take {t : WatchedStore ι} {ops : List (Operation ι)}
    (h : (t.history ops).countP passedPatch ≤ t.interference.length) :
    t.met ops = t.interference.take ((t.history ops).countP passedPatch) := by
  induction ops generalizing t with
  | nil => simp [met, history]
  | cons op ops ih =>
    have hqueue := (perform_effect t op).interference
    have hmeets := (perform_effect t op).isSome_meets
    rw [history, List.countP_cons] at h ⊢
    rw [met]
    cases hpassed : passedPatch (op, (t.perform op).1) with
    | false =>
      rw [hpassed, Bool.false_and, Option.isSome_eq_false_iff, Option.isNone_iff_eq_none] at hmeets
      simp only [hpassed, Bool.false_eq_true, if_false, Nat.add_zero] at h ⊢
      rw [hmeets, Option.toList_none, List.nil_append] at hqueue ⊢
      rw [ih (by rw [hqueue, List.length_append]; omega), hqueue, List.take_append_of_le_length h]
    | true =>
      simp only [hpassed, if_true] at h ⊢
      cases hi : t.interference with
      | nil => simp [hi] at h
      | cons x rest =>
        rw [hi, List.length_cons, Nat.add_le_add_iff_right] at h
        rw [hpassed, hi, Bool.true_and, List.isEmpty_cons, Bool.not_false,
          Option.isSome_iff_exists] at hmeets
        obtain ⟨y, hy⟩ := hmeets
        rw [hy, hi, Option.toList_some, List.singleton_append, List.cons_append] at hqueue
        obtain ⟨rfl, hrest⟩ := List.cons.inj hqueue
        rw [hy, Option.toList_some, List.singleton_append, List.take_succ_cons,
          ih (by rw [hrest, List.length_append]; omega), hrest, List.take_append_of_le_length h]

/-! ## The main statement -/

/-- After these calls a read is made to fail: fewer have failed than failures were queued. -/
def FetchFails (ops : List (Operation ι)) : Prop :=
  (new.history ops).countP failedFetch < ops.countP Operation.queuesFetchFailure

/-- After these calls a patch with this label is made to fail. -/
def PatchFails (ops : List (Operation ι)) (label : String) : Prop :=
  (new.history ops).countP (failedPatch label) <
    ops.countP (Operation.queuesPatchFailure label)

instance (ops : List (Operation ι)) : Decidable (FetchFails ops) :=
  inferInstanceAs (Decidable (_ < _))

instance (ops : List (Operation ι)) (label : String) : Decidable (PatchFails ops label) :=
  inferInstanceAs (Decidable (_ < _))

/-- The interferences that were queued by these calls and met by none of them. -/
def pending (ops : List (Operation ι)) : List ι :=
  (ops.filterMap Operation.interference?).drop (new.met ops).length

/-- What was recorded and what was used up by some calls. -/
structure Balanced (ops : List (Operation ι)) : Prop where
  recorded : (new.after ops).operations = ops.filterMap Operation.recorded
  fetchFailures : ops.countP Operation.queuesFetchFailure =
    (new.history ops).countP failedFetch + (new.after ops).failingFetches
  patchFailures : ∀ label, ops.countP (Operation.queuesPatchFailure label) =
    (new.history ops).countP (failedPatch label) + (new.after ops).failingPatches.count label
  interferences : new.met ops ++ (new.after ops).interference =
    ops.filterMap Operation.interference?

/-- The call at which each fault strikes: the first that the faults of its kind queued before it
leave to it. -/
structure InTurn (ops : List (Operation ι)) : Prop where
  fetchFailure : ∀ before mid, ops = before ++ .failNextFetch :: mid →
    mid.countP Operation.isFetch = (new.after before).failingFetches → FetchFails ops
  patchFailure : ∀ label before mid, ops = before ++ .failNextPatch label :: mid →
    mid.countP (Operation.isPatch label) = (new.after before).failingPatches.count label →
    PatchFails ops label
  interference : ∀ x before mid, ops = before ++ .interfere x :: mid →
    ((new.after (before ++ [.interfere x])).history mid).countP passedPatch =
      (new.after before).interference.length →
    (pending ops).head? = some x

/-- What a read or a patch comes to in a watched store on which some calls were made. -/
structure Strikes (ops : List (Operation ι)) (t : WatchedStore ι) : Prop where
  fetchFails : FetchFails ops → ∀ key, t.perform (.fetch key) =
    (.fetched (.error (fetchFault key)),
      { t.record (.fetch key) with failingFetches := t.failingFetches - 1 })
  fetchPasses : ¬ FetchFails ops → ∀ key, t.perform (.fetch key) =
    (.fetched (t.inner.fetch key), t.record (.fetch key))
  patchFails : ∀ key expected p, PatchFails ops p.label → t.perform (.patch key expected p) =
    (.patched (.failed (patchFault p.label key)),
      { t.record (.patch key expected p) with
        failingPatches := t.failingPatches.erase p.label })
  patchPasses : ∀ key expected p, ¬ PatchFails ops p.label → pending ops = [] →
    t.perform (.patch key expected p) =
      (.patched (.ofExcept (t.inner.patch key expected p).1),
        { t.record (.patch key expected p) with inner := (t.inner.patch key expected p).2 })
  patchMeets : ∀ key expected p x rest, ¬ PatchFails ops p.label → pending ops = x :: rest →
    ∃ answer, t.perform (.patch key expected p) =
        (.patched answer,
          { t.record (.patch key expected p) with
            inner := t.inner.after
              [.rework key (Interference.rework x), .patch key expected p]
            interference := rest }) ∧
      (∀ message, (t.inner.rework key (Interference.rework x)).1 = .aborted message →
        answer = .aborted message) ∧
      ((∀ message, (t.inner.rework key (Interference.rework x)).1 ≠ .aborted message) →
        answer = .ofExcept ((t.inner.after [.rework key (Interference.rework x)]).patch
          key expected p).1)
  /-- Versions are given without bound here, since the counter is a natural number. A counter of 64 bits
  runs out after `2 ^ 64` writes. -/
  overtaken : ∀ key expected p x rest r run, ¬ PatchFails ops p.label →
    pending ops = x :: rest → t.inner.poisoned = false → t.inner.records.get? key = some r →
    Interference.rework x r.run = (run, none) →
    (∃ e ∈ new.history ops, expected ∈ e.2.shown) →
    t.perform (.patch key expected p) =
      (.patched (.done (.conflict (versionText (t.inner.lastVersion + 1)))),
        { t.record (.patch key expected p) with
          inner := t.inner.save key run, interference := rest })

/-- Queued faults are those that have struck and those that are left. -/
theorem balanced (ops : List (Operation ι)) : Balanced ops where
  recorded := operations_after new ops
  fetchFailures := by
    have h := failingFetches_after (new : WatchedStore ι) ops
    rwa [show (new : WatchedStore ι).failingFetches = 0 from rfl, Nat.zero_add] at h
  patchFailures label := by
    have h := failingPatches_after (new : WatchedStore ι) ops label
    rwa [show (new : WatchedStore ι).failingPatches = [] from rfl, List.count_nil,
      Nat.zero_add] at h
  interferences := met_append_interference new ops

/-- A read is made to fail exactly as long as failures of reads are left. -/
theorem fetchFails_iff (ops : List (Operation ι)) :
    FetchFails ops ↔ 0 < (new.after ops).failingFetches := by
  have h := (balanced ops).fetchFailures
  unfold FetchFails
  omega

/-- A patch is made to fail exactly as long as failures with its label are left. -/
theorem patchFails_iff (ops : List (Operation ι)) (label : String) :
    PatchFails ops label ↔ label ∈ (new.after ops).failingPatches := by
  have h := (balanced ops).patchFailures label
  rw [← List.count_pos_iff]
  unfold PatchFails
  omega

/-- The interferences that no call has met are those left in the queue. -/
theorem pending_eq (ops : List (Operation ι)) :
    pending ops = (new.after ops).interference := by
  rw [pending, ← (balanced ops).interferences, List.drop_left]

/-- Each fault strikes the first call that the faults before it leave to it. -/
theorem inTurn (ops : List (Operation ι)) : InTurn ops where
  fetchFailure := by
    rintro before mid rfl hmid
    rw [fetchFails_iff, after_append, after_cons]
    have hbalance := failingFetches_after (new.after before).queueFetchFailure mid
    have hstruck :=
      countP_history_le isFetch_of_failedFetch (new.after before).queueFetchFailure mid
    change _ + 1 + _ = _ at hbalance
    change 0 < ((new.after before).queueFetchFailure.after mid).failingFetches
    omega
  patchFailure := by
    rintro label before mid rfl hmid
    rw [patchFails_iff, after_append, after_cons, ← List.count_pos_iff]
    have hbalance := failingPatches_after ((new.after before).queuePatchFailure label) mid label
    have hstruck := countP_history_le (isPatch_of_failedPatch label)
      ((new.after before).queuePatchFailure label) mid
    have hqueued : ((new.after before).queuePatchFailure label).failingPatches.count label =
        (new.after before).failingPatches.count label + 1 := by
      simp [queuePatchFailure]
    change 0 < (((new.after before).queuePatchFailure label).after mid).failingPatches.count label
    omega
  interference := by
    rintro x before mid rfl hmid
    rw [after_append, after_cons, after_nil] at hmid
    rw [pending_eq, after_append, after_cons]
    change (((new.after before).queueEdits x).history mid).countP passedPatch = _ at hmid
    change (((new.after before).queueEdits x).after mid).interference.head? = _
    have hbalance := met_append_interference ((new.after before).queueEdits x) mid
    have hqueued : ((new.after before).queueEdits x).interference =
        (new.after before).interference ++ [x] := rfl
    rw [met_eq_take (by rw [hmid, hqueued]; simp), hmid, hqueued, List.take_left,
      List.append_assoc, List.append_cancel_left_eq] at hbalance
    rw [hbalance]
    rfl

/-- What the next call comes to is known from the faults that are left. -/
theorem strikes (ops : List (Operation ι)) : Strikes ops (new.after ops) where
  fetchFails h key := perform_fetch_failing ((fetchFails_iff ops).1 h) key
  fetchPasses h key :=
    perform_fetch_clear (Nat.eq_zero_of_not_pos (mt (fetchFails_iff ops).2 h)) key
  patchFails key expected p h :=
    perform_patch_failing ((patchFails_iff ops p.label).1 h) key expected
  patchPasses key expected p h hpending :=
    perform_patch_clear (mt (patchFails_iff ops p.label).2 h) (pending_eq ops ▸ hpending) key
      expected
  patchMeets key expected p x rest h hpending :=
    perform_patch_of_interference key expected (mt (patchFails_iff ops p.label).2 h)
      (pending_eq ops ▸ hpending)
  overtaken := by
    rintro key expected p x rest r run h hpending hp hr hx ⟨e, he, hshown⟩
    have hold := shown_le_after Store.versioned_empty he hshown
    rw [pending_eq] at hpending
    exact perform_patch_of_overtaken (mt (patchFails_iff ops p.label).2 h) hpending hp hr hx hold

/-- In any history of a watched store that starts empty, with any faults queued at any time: every
read and patch is recorded once, in order; what was queued is what has struck and what is left; each
fault strikes the first call that the faults before it leave to it; and a read or patch that none
strikes is one of the store inside, with the next interference before it if it is a patch. A patch
so overtaken meets a conflict if its version was shown before. -/
theorem queued_faults_strike_once (ops : List (Operation ι)) :
    Balanced ops ∧ InTurn ops ∧ Strikes ops (new.after ops) :=
  ⟨balanced ops, inTurn ops, strikes ops⟩

end

/-- A read, a patch and an interference are queued to go wrong. The read fails, and so does the
first patch; the second one meets the interference and hence a conflict; the third one is applied.
-/
theorem queued_faults_strike_once_each :
    let a : RunKey := ⟨"ci", "r1"⟩
    let guard : Patch := .addFinalizer "guard"
    let touched : List Edit := [.annotate "touched" "yes"]
    let queued : List (Operation (List Edit)) :=
      [.inner (.insert (Run.new a)), .fetch a, .interfere touched, .failNextPatch "add_finalizer",
        .failNextFetch]
    (new.after queued).perform (.fetch a) =
      (.fetched (.error (fetchFault a)),
        { (new.after queued).record (.fetch a) with failingFetches := 0 }) ∧
    ((new.after queued).perform (.patch a "1" guard)).1 =
      .patched (.failed (patchFault "add_finalizer" a)) ∧
    ((new.after (queued ++ [.patch a "1" guard])).perform (.patch a "1" guard)).1 =
      .patched (.done (.conflict "2")) ∧
    ((new.after (queued ++ [.patch a "1" guard, .patch a "1" guard])).perform
      (.patch a "2" guard)).1 = .patched (.done (.applied "3")) := by
  intro a guard touched queued
  obtain ⟨-, hturn, hfirst⟩ := queued_faults_strike_once queued
  obtain ⟨-, -, hsecond⟩ := queued_faults_strike_once (queued ++ [.patch a "1" guard])
  obtain ⟨-, -, hthird⟩ :=
    queued_faults_strike_once (queued ++ [.patch a "1" guard, .patch a "1" guard])
  have hfetch : FetchFails queued := hturn.fetchFailure (queued.take 4) [] rfl (by cbv)
  have hpatch : PatchFails queued "add_finalizer" :=
    hturn.patchFailure "add_finalizer" (queued.take 3) [.failNextFetch] rfl (by cbv)
  refine ⟨hfirst.fetchFails hfetch a, ?_, ?_, ?_⟩
  · rw [hfirst.patchFails a "1" guard hpatch]
    rfl
  · rw [hsecond.overtaken a "1" guard touched [] ⟨Run.new a, 1⟩
      ((Run.new a).annotated "touched" "yes") (by decide) (by cbv) (by cbv) (by cbv) rfl ?_]
    · cbv
    · have hread : (new.history (queued ++ [.patch a "1" guard]))[1]? =
          some (.fetch a, .fetched (.ok (some ⟨Run.new a, "1"⟩))) := by cbv
      exact ⟨_, List.mem_of_getElem? hread, List.mem_singleton_self "1"⟩
  · rw [hthird.patchPasses a "2" guard (by decide) (by cbv)]
    cbv

/-- An interference that aborts runs on the record that a read has shown, and the patch meets no
conflict: it aborts as well. -/
theorem aborting_interference_causes_no_conflict :
    ¬ ∀ (ops : List (Operation (List Edit))) (key : RunKey) (expected : String) (p : Patch)
        (edits : List Edit) (rest : List (List Edit)) (r : Record),
      ¬ PatchFails ops p.label → pending ops = edits :: rest →
      (new.after ops).inner.poisoned = false →
      (new.after ops).inner.records.get? key = some r →
      (∃ snap, (.fetch key, .fetched (.ok (some snap))) ∈ new.history ops ∧
        snap.version = expected) →
      ∃ current, ((new.after ops).perform (.patch key expected p)).1 =
        .patched (.done (.conflict current)) := by
  intro hclaim
  let a : RunKey := ⟨"ci", "r1"⟩
  let ops : List (Operation (List Edit)) :=
    [.inner (.insert (Run.new a)), .fetch a, .interfere [.abort "boom"]]
  have hread : (new.history ops)[1]? =
      some (.fetch a, .fetched (.ok (some ⟨Run.new a, "1"⟩))) := by cbv
  obtain ⟨current, hcurrent⟩ := hclaim ops a "1" (.addFinalizer "guard") [.abort "boom"] []
    ⟨Run.new a, 1⟩ (by decide) rfl rfl (by cbv) ⟨_, List.mem_of_getElem? hread, rfl⟩
  have hanswer : ((new.after ops).perform (.patch a "1" (.addFinalizer "guard"))).1 =
      .patched (.aborted "boom") := by cbv
  rw [hanswer] at hcurrent
  cases hcurrent

end WatchedStore

end RunHerald
