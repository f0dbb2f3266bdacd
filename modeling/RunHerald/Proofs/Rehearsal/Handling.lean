import RunHerald.Proofs.Rehearsal.Visit
import RunHerald.Proofs.Telemetry.Counters

/-!
# One undisturbed invocation

A world is undisturbed if it has the recording sink, no hooks, and neither faults nor edits in its
queues. An invocation then sees nothing but the record of its run and whether the store is usable.
From these two `Reconciler.handle` computes how the invocation ends, what becomes of the record,
which results are announced and what is counted. `handled_of_reconcile` says that this is all that
an invocation does to the world, up to the version of the record: it leaves every other record
alone.
-/

set_option autoImplicit false

namespace RunHerald

/-- What an undisturbed invocation makes of a run: how it ends, the record afterwards, the results
that it announces, and what it counts before its end. -/
structure Handling where
  ending : Ending
  run : Option Run
  announced : Option (List RunResult)
  counted : List Metric

/-- What is left of a record after a patch. A spent record goes. -/
def Store.kept (run : Run) : Option Run := if isSpent run then none else some run

namespace Reconciler

/-- What an undisturbed invocation makes of a run by a change of its record. -/
def handleWrite (r : Reconciler) (run : Run) (write : Write) (announced : Option (List RunResult))
    (counted : List Metric) : Handling where
  ending := .returned (.ok (.ofWrite write))
  run := Store.kept ((write.patch r.markers).apply run)
  announced
  counted

/-- What an undisturbed invocation makes of a run that has a record. -/
def handleRun (r : Reconciler) (run : Run) : Handling :=
  match Phase.ofRun run r.markers with
  | .legacy => ⟨.returned (.ok (.done .legacy)), some run, none, []⟩
  | .awaitingCompletion => ⟨.returned (.ok (.done .awaitingCompletion)), some run, none, []⟩
  | .unguarded => r.handleWrite run .addGuard none []
  | .readyToRelease => r.handleWrite run .release none []
  | .anomalous => r.handleWrite run .releaseAnomalous none [.anomaly]
  | .readyToNotify =>
    match run.readResults with
    | .error e => ⟨.returned (.error (.extraction e)), some run, none, []⟩
    | .ok rs => r.handleWrite run .setMarker (some rs) [.notification (deliveryLabel (.ok ()))]

/-- What an undisturbed invocation makes of a run. -/
def handle (r : Reconciler) (poisoned : Bool) (found : Option Run) : Handling :=
  if poisoned then ⟨.returned (.error (.store Store.poisonError)), found, none, []⟩
  else
    match found with
    | none => ⟨.returned (.ok (.done .notFound)), none, none, []⟩
    | some run => r.handleRun run

end Reconciler

variable {ι : Type}

/-- A world with the recording sink and nothing that disturbs an invocation. -/
structure World.Undisturbed (w : World ι) : Prop where
  wire : w.wire = none
  hooks : ∀ point, w.hooks point = []
  edits : w.store.interference = []
  failingPatches : w.store.failingPatches = []
  failingFetches : w.store.failingFetches = 0
  failures : w.sink.failures = []

/-- The record of a run, without its version. -/
def World.run? (w : World ι) (key : RunKey) : Option Run :=
  (w.store.inner.records.get? key).map (·.run)

/-- An undisturbed world has become another one in which the record of one run is as given, so many
payloads more have been accepted, and so much more was counted. Nothing else that matters has
changed. -/
structure World.Becomes (w w' : World ι) (key : RunKey) (run : Option Run) (payloads : List Payload)
    (counted : List Metric) : Prop where
  undisturbed : w'.Undisturbed
  poisoned : w'.store.inner.poisoned = w.store.inner.poisoned
  clock : w'.clock = w.clock
  runs : ∀ k, w'.run? k = if k = key then run else w.run? k
  delivered : w'.sink.delivered = w.sink.delivered ++ payloads
  metrics : Event.metrics w'.events = Event.metrics w.events ++ counted

namespace World

variable {w : World ι} {r : Reconciler} {key : RunKey}

/-- What a world becomes can be chained. -/
theorem Becomes.trans {w₁ w₂ : World ι} {run₁ run₂ : Option Run} {ps₁ ps₂ : List Payload}
    {ms₁ ms₂ : List Metric} (h₁ : w.Becomes w₁ key run₁ ps₁ ms₁)
    (h₂ : w₁.Becomes w₂ key run₂ ps₂ ms₂) :
    w.Becomes w₂ key run₂ (ps₁ ++ ps₂) (ms₁ ++ ms₂) where
  undisturbed := h₂.undisturbed
  poisoned := h₂.poisoned.trans h₁.poisoned
  clock := h₂.clock.trans h₁.clock
  runs := by
    intro k
    rw [h₂.runs k, h₁.runs k]
    by_cases hk : k = key <;> simp [hk]
  delivered := by rw [h₂.delivered, h₁.delivered, List.append_assoc]
  metrics := by rw [h₂.metrics, h₁.metrics, List.append_assoc]

/-- All records are as they are. -/
theorem run?_self (k : RunKey) : w.run? k = if k = key then w.run? key else w.run? k := by
  by_cases hk : k = key <;> simp [hk]

/-- An undisturbed world is what it becomes when nothing happens. -/
theorem Undisturbed.becomes_self (h : w.Undisturbed) (key : RunKey) :
    w.Becomes w key (w.run? key) [] [] :=
  ⟨h, rfl, rfl, run?_self, (List.append_nil _).symm, (List.append_nil _).symm⟩

/-- The record of the run is as given. -/
theorem Becomes.run?_eq {w₁ : World ι} {run : Option Run} {ps : List Payload} {ms : List Metric}
    (h : w.Becomes w₁ key run ps ms) : w₁.run? key = run := by
  rw [h.runs key, if_pos rfl]

/-- Reports change nothing, and metrics only count. -/
theorem Becomes.emitAll [Interference ι] {w₁ : World ι} {run : Option Run} {ps : List Payload}
    {ms : List Metric}
    (h : w.Becomes w₁ key run ps ms) (events : List Event) :
    w.Becomes (environment.emitAll events w₁) key run ps (ms ++ Event.metrics events) := by
  have hmetrics : Event.metrics (w₁.events ++ events) =
      Event.metrics w.events ++ (ms ++ Event.metrics events) := by
    rw [Event.metrics_append, h.metrics, List.append_assoc]
  rw [emitAll_environment]
  exact ⟨{ h.undisturbed with }, h.poisoned, h.clock, h.runs, h.delivered, hmetrics⟩

/-! ## One call -/

/-- A read finds what the store holds. -/
theorem Undisturbed.fetch_answered (h : w.Undisturbed) (key : RunKey) :
    ∃ w', w.fetch key = (.ofExcept (w.store.inner.fetch key), w') ∧
      w.Becomes w' key (w.run? key) [] [] ∧ w'.store.inner = w.store.inner ∧
      w'.cancelled = w.cancelled := by
  rw [fetch, hooked_of_nil (h.hooks .fetch)]
  simp only [WatchedStore.fetch, WatchedStore.record, h.failingFetches, Nat.lt_irrefl, if_false]
  refine ⟨_, rfl, ⟨?_, rfl, rfl, run?_self, ?_, ?_⟩, rfl, rfl⟩
  · exact { h with failingFetches := rfl }
  · exact (List.append_nil _).symm
  · exact (List.append_nil _).symm

/-- A delivery is accepted. -/
theorem Undisturbed.deliver_accepted (h : w.Undisturbed) (key : RunKey) (payload : Payload) :
    ∃ w', w.deliver payload = (.result (.ok ()), w') ∧
      w.Becomes w' key (w.run? key) [payload] [] ∧ w'.store = w.store := by
  unfold deliver deliverToRecorder takeHook
  simp only [h.wire, h.hooks .deliver, record, Recorder.deliver, h.failures]
  refine ⟨_, rfl, ⟨?_, rfl, rfl, run?_self, rfl, ?_⟩, rfl⟩
  · exact { h with failures := rfl, wire := rfl }
  · exact (List.append_nil _).symm

variable [Interference ι]

/-- A patch with the version just read is applied. -/
theorem Undisturbed.patch_applied (h : w.Undisturbed) (husable : w.store.inner.poisoned = false)
    {snapshot : Snapshot} (hs : w.Stands key snapshot) (p : Patch) :
    ∃ version w', w.patch key snapshot.version p = (.done (.applied version), w') ∧
      w.Becomes w' key (Store.kept (p.apply snapshot.run)) [] [] := by
  obtain ⟨found, hfound, rfl⟩ := hs
  have hpatch := Store.patch_of_get? husable hfound p
  rw [patch, hooked_of_nil (h.hooks .patch)]
  simp only [WatchedStore.patch, WatchedStore.record, WatchedStore.interfere, h.failingPatches,
    h.edits, List.not_mem_nil, if_false, hpatch, Attempt.ofExcept]
  refine ⟨_, _, rfl, ⟨?_, ?_, rfl, ?_, ?_, ?_⟩⟩
  · exact { h with edits := rfl, failingPatches := rfl }
  · unfold Store.writeBack
    split <;> rfl
  · intro k
    unfold run?
    rw [Store.get?_writeBack]
    by_cases hk : k = key <;> cases hspent : Store.isSpent (p.apply found.run) <;>
      simp [hk, Store.kept, hspent, Record.snapshot]
  · exact (List.append_nil _).symm
  · exact (List.append_nil _).symm

/-! ## From a call to the end -/

/-- A change that an invocation waits for is made, and ends it. -/
theorem Undisturbed.drive_write (h : w.Undisturbed) (husable : w.store.inner.poisoned = false)
    {snapshot : Snapshot} (hs : w.Stands key snapshot) (p : Progress) (write : Write) :
    ∃ w', r.drive environment key (.wait (.write p snapshot write)) w =
        (.returned (.ok (.ofWrite write)), w') ∧
      w.Becomes w' key (Store.kept ((write.patch r.markers).apply snapshot.run)) [] [] := by
  obtain ⟨version, w₁, hpatch, h₁⟩ := h.patch_applied husable hs (write.patch r.markers)
  rw [Reconciler.drive_wait, advance_write_eq hpatch, Reconciler.written, Reconciler.drive_finish]
  exact ⟨_, rfl, h₁.emitAll [.report (.reconciled write.action (write.patch r.markers) version)]⟩

/-- A delivery that an invocation waits for is accepted, and the marker is set. -/
theorem Undisturbed.drive_deliver (h : w.Undisturbed) (husable : w.store.inner.poisoned = false)
    {snapshot : Snapshot} (hs : w.Stands key snapshot) (p : Progress) (rs : List RunResult) :
    ∃ w', r.drive environment key (.wait (.deliver p snapshot rs)) w =
        (.returned (.ok (.ofWrite .setMarker)), w') ∧
      w.Becomes w' key (Store.kept ((Write.setMarker.patch r.markers).apply snapshot.run))
        [Payload.new key rs w.clock] [.notification (deliveryLabel (.ok ()))] := by
  obtain ⟨w₁, hdeliver, h₁, hstore⟩ := h.deliver_accepted key (Payload.new key rs w.clock)
  rw [Reconciler.drive_wait, advance_deliver_eq hdeliver, Reconciler.delivered]
  have hreported := h₁.emitAll (dispatchEvents r.sinkName (Payload.new key rs w.clock) (.ok ()))
  have hstands : (environment.emitAll (dispatchEvents r.sinkName (Payload.new key rs w.clock)
      (.ok ())) w₁).Stands key snapshot := by
    obtain ⟨found, hfound, hsnapshot⟩ := hs
    exact Stands.emitAll ⟨found, hstore ▸ hfound, hsnapshot⟩ _
  obtain ⟨w₂, hdrive, h₂⟩ := hreported.undisturbed.drive_write (r := r)
    (hreported.poisoned.trans husable) hstands { p with delivered := some rs } .setMarker
  exact ⟨w₂, hdrive, hreported.trans h₂⟩

/-- From a move on, an invocation ends as a handling says, and has made of a world what the handling
says. -/
def Handled (w : World ι) (r : Reconciler) (key : RunKey) (handling : Handling) (move : Move)
    (w₁ : World ι) : Prop :=
  ∃ w', r.drive environment key move w₁ = (handling.ending, w') ∧
    w.Becomes w' key handling.run
      (handling.announced.toList.map fun rs => Payload.new key rs w.clock) handling.counted

/-- After a read that finds a record, an invocation handles the record. -/
theorem Undisturbed.handled_of_found (h : w.Undisturbed)
    (husable : w.store.inner.poisoned = false) {snapshot : Snapshot} (hs : w.Stands key snapshot) :
    let moved := r.fetched .start false (.done (some snapshot))
    w.Handled r key (r.handleRun snapshot.run) moved.2 (environment.emitAll moved.1 w) := by
  intro moved
  let decided := Reconciler.decide .start false snapshot (Phase.ofRun snapshot.run r.markers)
  have hseen : w.Becomes (environment.emitAll moved.1 w) key (w.run? key) []
      (Event.metrics decided.1) := (h.becomes_self key).emitAll moved.1
  have hstands := hs.emitAll moved.1
  have husable' : (environment.emitAll moved.1 w).store.inner.poisoned = false :=
    hseen.poisoned.trans husable
  have hrun : w.run? key = some snapshot.run := by
    obtain ⟨found, hfound, rfl⟩ := hs
    simp [run?, hfound, Record.snapshot]
  -- nothing is due, or nothing can be announced
  have hrest : ∀ ending, decided.2 = .finish ending →
      r.handleRun snapshot.run = ⟨ending, some snapshot.run, none, Event.metrics decided.1⟩ →
      w.Handled r key (r.handleRun snapshot.run) moved.2 (environment.emitAll moved.1 w) := by
    intro ending hmove hhandling
    have hmove' : moved.2 = .finish ending := hmove
    rw [hhandling, hmove']
    refine ⟨_, Reconciler.drive_finish .., ?_⟩
    rw [← hrun]
    exact hseen
  -- the three changes of the guard go alike
  have hchange : ∀ write, decided.2 = .wait (.write .start snapshot write) →
      r.handleRun snapshot.run =
        r.handleWrite snapshot.run write none (Event.metrics decided.1) →
      w.Handled r key (r.handleRun snapshot.run) moved.2 (environment.emitAll moved.1 w) := by
    intro write hmove hhandling
    have hmove' : moved.2 = .wait (.write .start snapshot write) := hmove
    obtain ⟨w', hdrive, h'⟩ := hseen.undisturbed.drive_write (r := r) husable' hstands .start write
    rw [hhandling, hmove']
    refine ⟨w', hdrive, ?_⟩
    have hboth := hseen.trans h'
    rw [List.append_nil, List.append_nil] at hboth
    exact hboth
  cases hphase : Phase.ofRun snapshot.run r.markers with
  | legacy =>
    apply hrest (.returned (.ok (.done .legacy)))
    · simp only [decided, hphase]; rfl
    · simp only [Reconciler.handleRun, decided, hphase]; rfl
  | awaitingCompletion =>
    apply hrest (.returned (.ok (.done .awaitingCompletion)))
    · simp only [decided, hphase]; rfl
    · simp only [Reconciler.handleRun, decided, hphase]; rfl
  | unguarded =>
    apply hchange .addGuard
    · simp only [decided, hphase]; rfl
    · simp only [Reconciler.handleRun, decided, hphase]; rfl
  | readyToRelease =>
    apply hchange .release
    · simp only [decided, hphase]; rfl
    · simp only [Reconciler.handleRun, decided, hphase]; rfl
  | anomalous =>
    apply hchange .releaseAnomalous
    · simp only [decided, hphase]; rfl
    · simp only [Reconciler.handleRun, decided, hphase]; rfl
  | readyToNotify =>
    cases hresults : snapshot.run.readResults with
    | error e =>
      apply hrest (.returned (.error (.extraction e)))
      · simp only [decided, hphase, Reconciler.decide, Reconciler.announce, hresults]; rfl
      · simp only [Reconciler.handleRun, decided, hphase, Reconciler.decide, Reconciler.announce,
          hresults]
        rfl
    | ok rs =>
      have hdecided : decided = ([], .wait (.deliver .start snapshot rs)) := by
        simp [decided, hphase, Reconciler.decide, Reconciler.announce, hresults, Progress.start]
      have hmove : moved.2 = .wait (.deliver .start snapshot rs) := congrArg Prod.snd hdecided
      have hhandling : r.handleRun snapshot.run = r.handleWrite snapshot.run .setMarker (some rs)
          [.notification (deliveryLabel (.ok ()))] := by
        simp only [Reconciler.handleRun, hphase, hresults]
      obtain ⟨w', hdrive, h'⟩ := hseen.undisturbed.drive_deliver (r := r) husable' hstands .start rs
      rw [hhandling, hmove]
      refine ⟨w', hdrive, ?_⟩
      have hboth := hseen.trans h'
      rw [hdecided, hseen.clock] at hboth
      exact hboth

/-! ## A whole invocation -/

variable (r key) in
/-- An undisturbed invocation does to the world what the handling of its run says, and counts its
end. -/
theorem Undisturbed.handled_of_reconcile (h : w.Undisturbed) :
    let handling := r.handle w.store.inner.poisoned (w.run? key)
    let out := w.reconcile r key false
    out.1 = handling.ending ∧ w.Becomes out.2 key handling.run
      (handling.announced.toList.map fun rs => Payload.new key rs w.clock)
      (handling.counted ++ Event.metrics (Reconciler.closing handling.ending)) := by
  intro handling out
  let w₀ : World ι := { w with held := true, cancelled := false }
  have h₀ : w.Becomes w₀ key (w.run? key) [] [] :=
    { h.becomes_self key with undisturbed := { h with } }
  suffices hhandled : w.Handled r key handling (.wait (.fetch .start)) w₀ by
    obtain ⟨w', hdrive, h'⟩ := hhandled
    have hout : out = (handling.ending,
        environment.emitAll (Reconciler.closing handling.ending) w') :=
      Reconciler.reconcile_of_drive (s := w₀) hdrive
    rw [hout]
    exact ⟨rfl, h'.emitAll _⟩
  obtain ⟨w₁, hfetch, h₁, hinner, hactive⟩ := h₀.undisturbed.fetch_answered key
  have hread : w.Becomes w₁ key (w.run? key) [] [] := by
    have hboth := h₀.trans h₁
    rw [h₀.run?_eq] at hboth
    exact hboth
  have hlive : w₁.cancelled = false := hactive
  unfold Handled
  rw [Reconciler.drive_wait, advance_fetch_eq hfetch, hlive]
  cases hp : w.store.inner.poisoned with
  | true =>
    have hanswer : w₀.store.inner.fetch key = .error Store.poisonError := by
      simp [w₀, Store.fetch, hp]
    have hhandling : handling = ⟨.returned (.error (.store Store.poisonError)), w.run? key, none,
        []⟩ := by
      simp [handling, Reconciler.handle, hp]
    rw [hanswer, hhandling]
    exact ⟨_, Reconciler.drive_finish .., hread⟩
  | false =>
    cases hfound : w.store.inner.records.get? key with
    | none =>
      have hrun : w.run? key = none := by simp [run?, hfound]
      have hanswer : w₀.store.inner.fetch key = .ok none := by
        simp [w₀, Store.fetch, hp, hfound]
      have hhandling : handling = ⟨.returned (.ok (.done .notFound)), none, none, []⟩ := by
        simp [handling, Reconciler.handle, hp, hrun]
      rw [hanswer, hhandling]
      refine ⟨_, Reconciler.drive_finish .., ?_⟩
      rw [hrun] at hread
      exact hread.emitAll [.report .absent]
    | some found =>
      have hrun : w.run? key = some found.run := by simp [run?, hfound]
      have hanswer : w₀.store.inner.fetch key = .ok (some found.snapshot) := by
        simp [w₀, Store.fetch, hp, hfound]
      have hhandling : handling = r.handleRun found.run := by
        simp [handling, Reconciler.handle, hp, hrun]
      have hstands : w₁.Stands key found.snapshot := ⟨found, by rw [hinner]; exact hfound, rfl⟩
      obtain ⟨w', hdrive, h'⟩ :=
        hread.undisturbed.handled_of_found (r := r) (hread.poisoned.trans hp) hstands
      rw [hanswer, hhandling]
      refine ⟨w', hdrive, ?_⟩
      have hboth := hread.trans h'
      rw [hread.clock] at hboth
      exact hboth

end World

end RunHerald
