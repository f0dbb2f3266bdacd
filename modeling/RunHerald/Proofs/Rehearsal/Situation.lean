import RunHerald.Proofs.Reconcile.Stages
import RunHerald.Proofs.Rehearsal.HarmlessInterference
import RunHerald.Proofs.Store.History
import RunHerald.Rehearsal.World

/-!
# The situation of a run in a world

A world is plain if it has the recording sink and no hooks, so that only the queued faults disturb
an invocation. Its `Situation`, for one run, is what counts there: the record, the queues of faults,
the patches requested so far and what the sink has seen.

One step of an invocation in a plain world is known from the situation alone. There is one lemma for
each way in which a read, a delivery or a patch can go (`advance_fetch_…`, `advance_deliver_…` and
`advance_write_…`), and each says which situation the step leaves behind.
-/

set_option autoImplicit false

namespace RunHerald

variable {ι : Type}

/-- What counts in a world for the invocations for one run. The edits that are queued may be any
interferences. -/
structure Situation (ι : Type) where
  run : Option Run
  edits : List ι
  failingPatches : List String
  failingFetches : Nat
  failures : List DeliveryError
  patches : List Patch
  delivered : List Payload
  attempts : Nat

/-- The situation of a run. -/
def World.situation (w : World ι) (key : RunKey) : Situation ι where
  run := (w.store.inner.records.get? key).map (·.run)
  edits := w.store.interference
  failingPatches := w.store.failingPatches
  failingFetches := w.store.failingFetches
  failures := w.sink.failures
  patches := w.store.patches
  delivered := w.sink.delivered
  attempts := w.sink.attempts

/-- A world with the recording sink, without hooks, and with a usable store. -/
structure World.Plain (w : World ι) : Prop where
  wire : w.wire = none
  hooks : ∀ point, w.hooks point = []
  usable : w.store.inner.poisoned = false
  versioned : w.store.inner.Versioned

/-- A plain world in which the situation of a run is as given, and the invocation is not cancelled.
-/
structure World.Shows (w : World ι) (key : RunKey) (s : Situation ι) : Prop extends w.Plain where
  active : w.cancelled = false
  situation : w.situation key = s

/-- The store holds a record just as a snapshot shows it. -/
def World.Stands (w : World ι) (key : RunKey) (snapshot : Snapshot) : Prop :=
  ∃ r, w.store.inner.records.get? key = some r ∧ r.snapshot = snapshot

namespace Situation

/-- The situation after the sink has accepted a payload. -/
def accepting (s : Situation ι) (payload : Payload) : Situation ι :=
  { s with delivered := s.delivered ++ [payload], attempts := s.attempts + 1 }

/-- The situation after the sink has failed. -/
def refusing (s : Situation ι) : Situation ι :=
  { s with failures := s.failures.tail, attempts := s.attempts + 1 }

/-- The situation after a read has failed. -/
def unreachable (s : Situation ι) : Situation ι :=
  { s with failingFetches := s.failingFetches - 1 }

/-- The situation after a patch has failed. -/
def failing (s : Situation ι) (p : Patch) : Situation ι :=
  { s with
    failingPatches := s.failingPatches.erase p.label
    patches := s.patches ++ [p] }

/-- The situation after a patch was applied: the record is written, and goes if it is spent. -/
def written (s : Situation ι) (p : Patch) : Situation ι :=
  { s with
    run := s.run.bind fun run =>
      if Store.isSpent (p.apply run) then none else some (p.apply run)
    patches := s.patches ++ [p] }

variable [Interference ι]

/-- The situation after a patch has met so many conflicts. -/
def overtaken (s : Situation ι) (p : Patch) (n : Nat) : Situation ι :=
  { s with
    run := s.run.map (·.edited (s.edits.take n))
    edits := s.edits.drop n
    patches := s.patches ++ List.replicate n p }

/-- Without conflicts nothing has changed. -/
theorem overtaken_zero (s : Situation ι) (p : Patch) : s.overtaken p 0 = s := by
  simp [overtaken]

/-- A patch that has met one conflict meets the next. -/
theorem overtaken_succ (s : Situation ι) (p : Patch) (n : Nat) :
    (s.overtaken p 1).overtaken p n = s.overtaken p (n + 1) := by
  obtain ⟨run, edits, failingPatches, failingFetches, failures, patches, delivered, attempts⟩ := s
  cases edits with
  | nil => cases run <;> simp [overtaken, List.replicate_succ]
  | cons e edits => cases run <;> simp [overtaken, List.replicate_succ]

end Situation

namespace World

variable {w : World ι} {key : RunKey} {s : Situation ι}

/-- A record that stands is the one of the situation. -/
theorem Stands.run_eq {snapshot : Snapshot} (hs : w.Stands key snapshot) (h : w.Shows key s) :
    s.run = some snapshot.run := by
  obtain ⟨record, hrecord, rfl⟩ := hs
  rw [← h.situation]
  simp [World.situation, hrecord, Record.snapshot]

section

variable [Interference ι]

/-- Reports are only added to those that there are. -/
theorem emitAll_environment (events : List Event) (w : World ι) :
    environment.emitAll events w = { w with events := w.events ++ events } := by
  unfold Environment.emitAll
  induction events generalizing w with
  | nil => simp
  | cons e events ih =>
    rw [List.foldl_cons, ih]
    simp [environment]

/-- Reports change nothing that counts. -/
theorem Shows.emitAll (h : w.Shows key s) (events : List Event) :
    (environment.emitAll events w).Shows key s := by
  rw [emitAll_environment]
  exact { h with }

/-- Reports leave the record as a snapshot shows it. -/
theorem Stands.emitAll {snapshot : Snapshot} (h : w.Stands key snapshot) (events : List Event) :
    (environment.emitAll events w).Stands key snapshot := by
  rw [emitAll_environment]
  exact h

end

/-- Without hooks a call is just made. -/
theorem hooked_of_nil {α : Type} {point : HookPoint} (h : w.hooks point = []) (key : RunKey)
    (call : World ι → Attempt α × World ι) : hooked point key call w = call w := by
  unfold hooked takeHook
  rw [h]

/-! ## Reads -/

/-- Without hooks a read goes to the watched store. -/
theorem fetch_eq (h : w.Plain) (key : RunKey) :
    w.fetch key = (.ofExcept (w.store.fetch key).1, { w with store := (w.store.fetch key).2 }) :=
  hooked_of_nil (h.hooks .fetch) key _

/-- A read that was made to fail uses up one failure. -/
theorem fetch_failing (h : w.Shows key s) (hf : 0 < s.failingFetches) :
    ∃ e w', w.fetch key = (.failed e, w') ∧ w'.Shows key s.unreachable := by
  have hf' : 0 < w.store.failingFetches := by
    rw [← h.situation] at hf
    exact hf
  rw [fetch_eq h.toPlain]
  simp only [WatchedStore.fetch, WatchedStore.record, hf', if_true]
  refine ⟨_, _, rfl, { h with situation := ?_ }⟩
  rw [← h.situation]
  simp [situation, Situation.unreachable, WatchedStore.patches]

/-- Any other read finds what the store holds. -/
theorem fetch_found (h : w.Shows key s) (hf : s.failingFetches = 0) :
    ∃ w', w.fetch key =
        (.done ((w.store.inner.records.get? key).map Record.snapshot), w') ∧
      w'.Shows key s ∧ w'.store.inner = w.store.inner := by
  have hf' : w.store.failingFetches = 0 := by
    rw [← h.situation] at hf
    exact hf
  rw [fetch_eq h.toPlain]
  simp only [WatchedStore.fetch, WatchedStore.record, hf', Nat.lt_irrefl, if_false, Store.fetch,
    h.usable, Bool.false_eq_true, Attempt.ofExcept]
  refine ⟨_, rfl, { h with situation := ?_ }, rfl⟩
  rw [← h.situation]
  simp [situation, WatchedStore.patches, hf']

/-! ## Deliveries -/

/-- Without hooks and a webhook a payload goes to the recording sink. -/
theorem deliver_eq (h : w.Plain) (payload : Payload) :
    w.deliver payload = w.record payload := by
  unfold deliver deliverToRecorder takeHook
  rw [h.wire]
  simp only [h.hooks .deliver]

/-- A delivery that was made to fail uses up one failure of the sink. -/
theorem deliver_refused (h : w.Shows key s) (payload : Payload) (hf : s.failures ≠ []) :
    ∃ e w', w.deliver payload = (.result (.error e), w') ∧ w'.Shows key s.refusing := by
  have hf' : w.sink.failures ≠ [] := by
    rw [← h.situation] at hf
    exact hf
  obtain ⟨e, rest, hrest⟩ := List.exists_cons_of_ne_nil hf'
  rw [deliver_eq h.toPlain]
  simp only [record, Recorder.deliver, hrest]
  refine ⟨e, _, rfl, { h with situation := ?_ }⟩
  rw [← h.situation]
  simp [situation, Situation.refusing, hrest]

/-- Any other delivery is accepted. -/
theorem deliver_accepted (h : w.Shows key s) (payload : Payload) (hf : s.failures = []) :
    ∃ w', w.deliver payload = (.result (.ok ()), w') ∧ w'.Shows key (s.accepting payload) ∧
      w'.store = w.store := by
  have hf' : w.sink.failures = [] := by
    rw [← h.situation] at hf
    exact hf
  rw [deliver_eq h.toPlain]
  simp only [record, Recorder.deliver, hf']
  refine ⟨_, rfl, { h with situation := ?_ }, rfl⟩
  rw [← h.situation]
  simp [situation, Situation.accepting, hf']

/-! ## Patches -/

variable [Interference ι]

/-- Without hooks a patch goes to the watched store. -/
theorem patch_eq (h : w.Plain) (key : RunKey) (expected : String) (p : Patch) :
    w.patch key expected p =
      ((w.store.patch key expected p).1, { w with store := (w.store.patch key expected p).2 }) :=
  hooked_of_nil (h.hooks .patch) key _

/-- A patch that was made to fail uses up one failure of its kind. -/
theorem patch_failing (h : w.Shows key s) (expected : String) {p : Patch}
    (hf : p.label ∈ s.failingPatches) :
    ∃ e w', w.patch key expected p = (.failed e, w') ∧ w'.Shows key (s.failing p) := by
  have hf' : p.label ∈ w.store.failingPatches := by
    rw [← h.situation] at hf
    exact hf
  rw [patch_eq h.toPlain]
  simp only [WatchedStore.patch, WatchedStore.record, hf', if_true]
  refine ⟨_, _, rfl, { h with situation := ?_ }⟩
  rw [← h.situation]
  simp [situation, Situation.failing, WatchedStore.patches]

/-- A patch before which somebody edits the record meets a conflict. -/
theorem patch_overtaken (h : w.Shows key s) {snapshot : Snapshot} (hs : w.Stands key snapshot)
    {p : Patch} (hf : p.label ∉ s.failingPatches) {x : ι} {rest : List ι}
    (hedits : s.edits = x :: rest) (hcompletes : ∀ run, (Interference.rework x run).2 = none) :
    ∃ current w', w.patch key snapshot.version p = (.done (.conflict current), w') ∧
      w'.Shows key (s.overtaken p 1) := by
  obtain ⟨r, hr, rfl⟩ := hs
  have hf' : p.label ∉ w.store.failingPatches := by
    rw [← h.situation] at hf
    exact hf
  have hedits' : w.store.interference = x :: rest := by
    rw [← h.situation] at hedits
    exact hedits
  have happly : Interference.rework x r.run = (Interference.edit x r.run, none) :=
    Prod.ext rfl (hcompletes r.run)
  generalize Interference.edit x r.run = edited at happly
  have hrework : w.store.inner.rework key (Interference.rework x) =
      (.done (some (versionText (w.store.inner.lastVersion + 1))),
        w.store.inner.save key edited) := by
    simp [Store.rework, h.usable, hr, happly]
  -- the edits take the next version, so the version that was read is no longer the record's
  have hversion : versionText (w.store.inner.lastVersion + 1) ≠ versionText r.version := by
    intro hsame
    have := versionText_injective hsame
    have := h.versioned.bounded key r hr
    omega
  have hpatch : (w.store.inner.save key edited).patch key r.snapshot.version p =
      (.ok (.conflict (versionText (w.store.inner.lastVersion + 1))),
        w.store.inner.save key edited) := by
    have husable : (w.store.inner.save key edited).poisoned = false := h.usable
    simp [Store.patch, husable, Store.get?_save, Record.snapshot, hversion]
  rw [patch_eq h.toPlain]
  simp only [WatchedStore.patch, WatchedStore.record, hf', if_false, WatchedStore.interfere, hedits',
    hrework, hpatch, Attempt.ofExcept]
  refine ⟨_, _, rfl, { h with versioned := ?_, situation := ?_ }⟩
  · exact Store.versioned_save h.versioned key edited
  · rw [← h.situation]
    simp [situation, Situation.overtaken, WatchedStore.patches, hedits', hr, Store.get?_save,
      Interference.edit, happly]

/-- A patch that nobody disturbs is applied. -/
theorem patch_applied (h : w.Shows key s) {snapshot : Snapshot} (hs : w.Stands key snapshot)
    {p : Patch} (hf : p.label ∉ s.failingPatches) (hedits : s.edits = []) :
    ∃ version w', w.patch key snapshot.version p = (.done (.applied version), w') ∧
      w'.Shows key (s.written p) := by
  obtain ⟨r, hr, rfl⟩ := hs
  have hf' : p.label ∉ w.store.failingPatches := by
    rw [← h.situation] at hf
    exact hf
  have hedits' : w.store.interference = [] := by
    rw [← h.situation] at hedits
    exact hedits
  have hpatch := Store.patch_of_get? h.usable hr p
  rw [patch_eq h.toPlain]
  simp only [WatchedStore.patch, WatchedStore.record, hf', if_false, WatchedStore.interfere, hedits',
    hpatch, Attempt.ofExcept]
  refine ⟨_, _, rfl, { h with versioned := ?_, usable := ?_, situation := ?_ }⟩
  · unfold Store.writeBack
    split <;> exact h.usable
  · exact Store.versioned_change h.versioned (Store.change_writeBack _ key (p.apply r.run))
  · rw [← h.situation]
    cases hspent : Store.isSpent (p.apply r.run) <;>
      simp [situation, Situation.written, WatchedStore.patches, hedits', hr, Store.get?_writeBack,
        hspent]

end World

end RunHerald
