import RunHerald.Proofs.Reconcile.Course
import RunHerald.Proofs.Rehearsal.Situation

/-!
# One invocation in a plain world

`Visit` lists every way in which an invocation can go in a plain world whose queued edits are
harmless, with the situation that it leaves behind: `visit_of_reconcile`.

An invocation that patches the record does so in one phase only, since harmless edits do not change
it. So its patch fails at once if a failure of its kind is queued. If not, then each queued edit
makes it meet a conflict, until either the edits or the retries are used up: `Patching`, and
`patching_of_drive` by induction on the queue.

What an invocation makes of the record and of the sink's payloads falls into three kinds: `Turn`.
-/

set_option autoImplicit false

namespace RunHerald

variable {ι : Type}

/-- How a change of the record can go. An invocation allows so many conflicts, and no more. -/
inductive Patching [Interference ι] (r : Reconciler) (write : Write) (s : Situation ι) :
    Ending → Situation ι → Prop
  | failed (e : ServiceError) (hl : (write.patch r.markers).label ∈ s.failingPatches) :
    Patching r write s (.returned (.error (.store e))) (s.failing (write.patch r.markers))
  | exhausted (ending : Ending) (hl : (write.patch r.markers).label ∉ s.failingPatches)
    (hr : r.maxConflictRetries.toNat < s.edits.length)
    (hending : ∀ o, ending ≠ .returned (.ok o)) :
    Patching r write s ending
      (s.overtaken (write.patch r.markers) (r.maxConflictRetries.toNat + 1))
  | applied (hl : (write.patch r.markers).label ∉ s.failingPatches)
    (hr : s.edits.length ≤ r.maxConflictRetries.toNat) :
    Patching r write s (.returned (.ok (.ofWrite write)))
      ((s.overtaken (write.patch r.markers) s.edits.length).written (write.patch r.markers))

/-- The action of an invocation in a phase that calls for nothing. -/
def Phase.rest? : Phase → Option Action
  | .legacy => some .legacy
  | .awaitingCompletion => some .awaitingCompletion
  | _ => none

/-- Each change is called for in its phase. -/
theorem Write.rest?_phase (write : Write) : write.phase.rest? = none := by cases write <;> rfl

/-- The action of an invocation that has nothing to do. -/
def Situation.rest? (m : Markers) (s : Situation ι) : Option Action :=
  match s.run with
  | none => some .notFound
  | some run => (Phase.ofRun run m).rest?

/-- What a record calls for depends on its phase. -/
theorem Situation.rest?_of_run {m : Markers} {s : Situation ι} {run : Run} (h : s.run = some run) :
    s.rest? m = (Phase.ofRun run m).rest? := by
  simp only [rest?, h]

variable [Interference ι]

/-- Every way in which an invocation can go: how it ends, and the situation afterwards. -/
inductive Visit (r : Reconciler) (key : RunKey) (s : Situation ι) : Ending → Situation ι → Prop
  | unreachable (e : ServiceError) (hf : 0 < s.failingFetches) :
    Visit r key s (.returned (.error (.store e))) s.unreachable
  | rest (action : Action) (hf : s.failingFetches = 0) (hrest : s.rest? r.markers = some action) :
    Visit r key s (.returned (.ok (.done action))) s
  | unreadable (run : Run) (e : ResultsError) (hf : s.failingFetches = 0) (hrun : s.run = some run)
    (hphase : Phase.ofRun run r.markers = .readyToNotify) (hresults : run.readResults = .error e) :
    Visit r key s (.returned (.error (.extraction e))) s
  | undelivered (run : Run) (e : DeliveryError) (hf : s.failingFetches = 0)
    (hrun : s.run = some run) (hphase : Phase.ofRun run r.markers = .readyToNotify)
    (hfailures : s.failures ≠ []) : Visit r key s (.returned (.error (.delivery e))) s.refusing
  | notified (run : Run) (rs : List RunResult) (now : Timestamp) (ending : Ending) (s' : Situation ι)
    (hf : s.failingFetches = 0) (hrun : s.run = some run)
    (hphase : Phase.ofRun run r.markers = .readyToNotify) (hresults : run.readResults = .ok rs)
    (hpatching : Patching r .setMarker (s.accepting (Payload.new key rs now)) ending s') :
    Visit r key s ending s'
  | guarded (run : Run) (write : Write) (ending : Ending) (s' : Situation ι)
    (hf : s.failingFetches = 0) (hrun : s.run = some run) (hwrite : write ≠ .setMarker)
    (hphase : Phase.ofRun run r.markers = write.phase) (hpatching : Patching r write s ending s') :
    Visit r key s ending s'

namespace World

variable {r : Reconciler} {key : RunKey} {w : World ι} {s : Situation ι}

/-! ## One step -/

/-- A step that reads takes the answer of the world. -/
theorem advance_fetch_eq {answer : Attempt (Option Snapshot)} {w₁ : World ι}
    (h : w.fetch key = (answer, w₁)) (p : Progress) :
    r.advance environment key (.fetch p) w =
      ((r.fetched p w₁.cancelled answer).2,
        environment.emitAll (r.fetched p w₁.cancelled answer).1 w₁) := by
  simp only [Reconciler.advance, environment, h]

/-- A step that delivers takes the answer of the world. -/
theorem advance_deliver_eq {rs : List RunResult} {answer : Delivery} {w₁ : World ι}
    (h : w.deliver (Payload.new key rs w.clock) = (answer, w₁)) (p : Progress)
    (snapshot : Snapshot) :
    r.advance environment key (.deliver p snapshot rs) w =
      ((r.delivered p snapshot (Payload.new key rs w.clock) answer).2,
        environment.emitAll (r.delivered p snapshot (Payload.new key rs w.clock) answer).1 w₁) := by
  simp only [Reconciler.advance, environment, h]

/-- A step that changes the record takes the answer of the world. -/
theorem advance_write_eq {snapshot : Snapshot} {write : Write} {answer : Attempt PatchResult}
    {w₁ : World ι} (h : w.patch key snapshot.version (write.patch r.markers) = (answer, w₁))
    (p : Progress) :
    r.advance environment key (.write p snapshot write) w =
      ((r.written p w₁.cancelled snapshot write answer).2,
        environment.emitAll (r.written p w₁.cancelled snapshot write answer).1 w₁) := by
  simp only [Reconciler.advance, environment, h]

/-- A read that was made to fail ends an invocation. -/
theorem advance_fetch_failing (h : w.Shows key s) (hf : 0 < s.failingFetches) (p : Progress) :
    ∃ e w', r.advance environment key (.fetch p) w = (.fail (.store e), w') ∧
      w'.Shows key s.unreachable := by
  obtain ⟨e, w₁, hfetch, h₁⟩ := fetch_failing h hf
  rw [advance_fetch_eq hfetch]
  exact ⟨e, _, rfl, h₁.emitAll _⟩

/-- A read that finds no record ends an invocation. -/
theorem advance_fetch_absent (h : w.Shows key s) (hf : s.failingFetches = 0)
    (hrun : s.run = none) (p : Progress) :
    ∃ w', r.advance environment key (.fetch p) w = (.done .notFound, w') ∧ w'.Shows key s := by
  obtain ⟨w₁, hfetch, h₁, -⟩ := fetch_found h hf
  have hrecord : w.store.inner.records.get? key = none := by
    rw [← h.situation] at hrun
    simpa [World.situation] using hrun
  rw [hrecord] at hfetch
  rw [advance_fetch_eq hfetch]
  exact ⟨_, rfl, h₁.emitAll _⟩

/-- A read that finds a record moves on as the record calls for. -/
theorem advance_fetch_found (h : w.Shows key s) (hf : s.failingFetches = 0) {run : Run}
    (hrun : s.run = some run) (p : Progress) :
    ∃ snapshot w', r.advance environment key (.fetch p) w =
        ((Reconciler.decide p false snapshot (Phase.ofRun run r.markers)).2, w') ∧
      snapshot.run = run ∧ w'.Shows key s ∧ w'.Stands key snapshot := by
  obtain ⟨w₁, hfetch, h₁, hinner⟩ := fetch_found h hf
  obtain ⟨record, hrecord, rfl⟩ : ∃ record, w.store.inner.records.get? key = some record ∧
      record.run = run := by
    rw [← h.situation] at hrun
    simpa [World.situation] using hrun
  rw [hrecord] at hfetch
  have hstands : w₁.Stands key record.snapshot := ⟨record, by rw [hinner, hrecord], rfl⟩
  rw [advance_fetch_eq hfetch, h₁.active]
  exact ⟨record.snapshot, _, rfl, rfl, h₁.emitAll _, hstands.emitAll _⟩

/-- A delivery that was made to fail ends an invocation. -/
theorem advance_deliver_refused (h : w.Shows key s) (hf : s.failures ≠ []) (p : Progress)
    (snapshot : Snapshot) (rs : List RunResult) :
    ∃ e w', r.advance environment key (.deliver p snapshot rs) w = (.fail (.delivery e), w') ∧
      w'.Shows key s.refusing := by
  obtain ⟨e, w₁, hdeliver, h₁⟩ := deliver_refused h (Payload.new key rs w.clock) hf
  rw [advance_deliver_eq hdeliver]
  exact ⟨e, _, rfl, h₁.emitAll _⟩

/-- Any other delivery is accepted, and the marker is next. -/
theorem advance_deliver_accepted (h : w.Shows key s) (hf : s.failures = []) (p : Progress)
    {snapshot : Snapshot} (hs : w.Stands key snapshot) (rs : List RunResult) :
    ∃ w', r.advance environment key (.deliver p snapshot rs) w =
        (.wait (.write { p with delivered := some rs } snapshot .setMarker), w') ∧
      w'.Shows key (s.accepting (Payload.new key rs w.clock)) ∧ w'.Stands key snapshot := by
  obtain ⟨w₁, hdeliver, h₁, hstore⟩ := deliver_accepted h (Payload.new key rs w.clock) hf
  have hstands : w₁.Stands key snapshot := by
    obtain ⟨record, hrecord, hsnapshot⟩ := hs
    exact ⟨record, by rw [hstore, hrecord], hsnapshot⟩
  rw [advance_deliver_eq hdeliver]
  exact ⟨_, rfl, h₁.emitAll _, hstands.emitAll _⟩

variable {p : Progress} {snapshot : Snapshot} {write : Write}

variable (p snapshot) in
/-- A change that was made to fail ends an invocation. -/
theorem advance_write_failing (h : w.Shows key s)
    (hl : (write.patch r.markers).label ∈ s.failingPatches) :
    ∃ e w', r.advance environment key (.write p snapshot write) w = (.fail (.store e), w') ∧
      w'.Shows key (s.failing (write.patch r.markers)) := by
  obtain ⟨e, w₁, hpatch, h₁⟩ := patch_failing h snapshot.version hl
  rw [advance_write_eq hpatch]
  exact ⟨e, _, rfl, h₁.emitAll _⟩

/-- A change before which somebody interferes meets a conflict. -/
theorem advance_write_overtaken (h : w.Shows key s) (hs : w.Stands key snapshot)
    (hl : (write.patch r.markers).label ∉ s.failingPatches) {x : ι} {queue : List ι}
    (hedits : s.edits = x :: queue)
    (hcompletes : ∀ run, (Interference.rework x run).2 = none) :
    ∃ current w', r.advance environment key (.write p snapshot write) w =
        ((r.conflicted p false snapshot.version current).2, w') ∧
      w'.Shows key (s.overtaken (write.patch r.markers) 1) := by
  obtain ⟨current, w₁, hpatch, h₁⟩ := patch_overtaken h hs hl hedits hcompletes
  rw [advance_write_eq hpatch, h₁.active]
  exact ⟨current, _, rfl, h₁.emitAll _⟩

/-- A change that nobody disturbs is made, and ends an invocation. -/
theorem advance_write_applied (h : w.Shows key s) (hs : w.Stands key snapshot)
    (hl : (write.patch r.markers).label ∉ s.failingPatches) (hedits : s.edits = []) :
    ∃ w', r.advance environment key (.write p snapshot write) w =
        (.finish (.returned (.ok (.ofWrite write))), w') ∧
      w'.Shows key (s.written (write.patch r.markers)) := by
  obtain ⟨version, w₁, hpatch, h₁⟩ := patch_applied h hs hl hedits
  rw [advance_write_eq hpatch]
  exact ⟨_, rfl, h₁.emitAll _⟩

/-! ## A change of the record -/

/-- A record in the phase that calls for a change lets an active invocation go on to it, if its
results have been delivered in case they must be. -/
theorem decide_of_phase (hphase : Phase.ofRun snapshot.run r.markers = write.phase)
    (hdelivered : write = .setMarker →
      ∃ rs, snapshot.run.readResults = .ok rs ∧ p.delivered = some rs) :
    (Reconciler.decide p false snapshot (Phase.ofRun snapshot.run r.markers)).2
      = .wait (.write p snapshot write) := by
  rw [hphase]
  cases write with
  | addGuard => rfl
  | release => rfl
  | releaseAnomalous => rfl
  | setMarker =>
    obtain ⟨rs, hresults, hp⟩ := hdelivered rfl
    simp [Write.phase, Reconciler.decide, Reconciler.announce, hresults, hp]

/-- A conflict after the last retry ends an invocation, which may also be unable to count on. -/
theorem finish_of_conflicted (hp : p.conflicts = r.maxConflictRetries.toNat)
    (expected current : String) :
    ∃ ending, (r.conflicted p false expected current).2 = .finish ending ∧
      ∀ o, ending ≠ .returned (.ok o) := by
  unfold Reconciler.conflicted
  split
  · exact ⟨_, rfl, fun o ho => by cases ho⟩
  · rw [if_pos (by omega)]
    exact ⟨_, rfl, fun o ho => by cases ho⟩

/-- Any other conflict makes an active invocation read again. -/
theorem wait_of_conflicted (hp : p.conflicts < r.maxConflictRetries.toNat)
    (expected current : String) :
    (r.conflicted p false expected current).2
      = .wait (.fetch { p with conflicts := p.conflicts + 1 }) := by
  have hcount : ¬conflictLimit ≤ p.conflicts + 1 := by
    have := r.maxConflictRetries.toNat_lt
    have : conflictLimit = 2 ^ 32 := rfl
    omega
  unfold Reconciler.conflicted
  rw [if_neg hcount, if_neg (by omega)]
  simp [Reconciler.resume]

/-- A change before which somebody interferes is tried again, unless no retry is left: one more read
finds the record in the same phase. -/
theorem drive_write_overtaken (hl : (write.patch r.markers).label ∉ s.failingPatches) {x : ι}
    {queue : List ι} (hedits : s.edits = x :: queue) (hharmless : Harmless r.markers x)
    (hf : s.failingFetches = 0) (hphase : Phase.ofRun snapshot.run r.markers = write.phase)
    (hdelivered : write = .setMarker →
      ∃ rs, snapshot.run.readResults = .ok rs ∧ p.delivered = some rs)
    (hp : p.conflicts < r.maxConflictRetries.toNat)
    (h : w.Shows key s) (hs : w.Stands key snapshot) :
    ∃ snapshot' w', r.drive environment key (.wait (.write p snapshot write)) w =
        r.drive environment key
          (.wait (.write { p with conflicts := p.conflicts + 1 } snapshot' write)) w' ∧
      Phase.ofRun snapshot'.run r.markers = write.phase ∧
      snapshot'.run.readResults = snapshot.run.readResults ∧
      w'.Shows key (s.overtaken (write.patch r.markers) 1) ∧ w'.Stands key snapshot' := by
  obtain ⟨current, w₁, hadvance, h₁⟩ :=
    advance_write_overtaken (p := p) h hs hl hedits hharmless.completes
  have hrest : ∀ y ∈ [x], Harmless r.markers y := List.forall_mem_singleton.2 hharmless
  have hrun₁ : (s.overtaken (write.patch r.markers) 1).run
      = some (snapshot.run.edited [x]) := by
    simp [Situation.overtaken, hs.run_eq h, hedits]
  obtain ⟨snapshot₂, w₂, hfetch, hrun₂, h₂, hs₂⟩ :=
    advance_fetch_found (r := r) h₁ hf hrun₁ { p with conflicts := p.conflicts + 1 }
  have hphase₂ : Phase.ofRun snapshot₂.run r.markers = write.phase := by
    rw [hrun₂, phase_edited hrest, hphase]
  have hresults₂ : snapshot₂.run.readResults = snapshot.run.readResults := by
    rw [hrun₂, readResults_edited hrest]
  have hdecide := decide_of_phase (p := { p with conflicts := p.conflicts + 1 }) hphase₂
    (hresults₂ ▸ hdelivered)
  rw [← hrun₂, hdecide] at hfetch
  refine ⟨snapshot₂, w₂, ?_, hphase₂, hresults₂, h₂, hs₂⟩
  rw [Reconciler.drive_wait, hadvance, wait_of_conflicted hp, Reconciler.drive_wait, hfetch]

/-- A change without a queued failure of its kind is made once the queued edits are used up, unless
there are more of them than retries. -/
theorem drive_write_of_edits (hl : (write.patch r.markers).label ∉ s.failingPatches)
    (hharmless : ∀ x ∈ s.edits, Harmless r.markers x) (hf : s.failingFetches = 0)
    (hphase : Phase.ofRun snapshot.run r.markers = write.phase)
    (hdelivered : write = .setMarker →
      ∃ rs, snapshot.run.readResults = .ok rs ∧ p.delivered = some rs)
    (hp : p.conflicts ≤ r.maxConflictRetries.toNat)
    (h : w.Shows key s) (hs : w.Stands key snapshot) :
    ∃ ending w', r.drive environment key (.wait (.write p snapshot write)) w = (ending, w') ∧
      ((p.conflicts + s.edits.length ≤ r.maxConflictRetries.toNat ∧
          ending = .returned (.ok (.ofWrite write)) ∧
          w'.Shows key
            ((s.overtaken (write.patch r.markers) s.edits.length).written
              (write.patch r.markers))) ∨
        (r.maxConflictRetries.toNat < p.conflicts + s.edits.length ∧
          (∀ o, ending ≠ .returned (.ok o)) ∧
          w'.Shows key (s.overtaken (write.patch r.markers)
            (r.maxConflictRetries.toNat + 1 - p.conflicts)))) := by
  -- every queued edit makes one attempt meet a conflict, so the induction is on the queue
  generalize hqueue : s.edits = queue
  induction queue generalizing w s p snapshot with
  | nil =>
    obtain ⟨w₁, hadvance, h₁⟩ := advance_write_applied (p := p) h hs hl hqueue
    rw [Reconciler.drive_wait, hadvance, Reconciler.drive_finish]
    refine ⟨_, w₁, rfl, Or.inl ⟨hp, rfl, ?_⟩⟩
    rw [List.length_nil, Situation.overtaken_zero]
    exact h₁
  | cons edits queue ih =>
    have hfirst : Harmless r.markers edits := hharmless edits (hqueue ▸ List.mem_cons_self)
    rcases Nat.lt_or_eq_of_le hp with hlt | hlast
    · obtain ⟨snapshot₁, w₁, hstep, hphase₁, hresults₁, h₁, hs₁⟩ :=
        drive_write_overtaken hl hqueue hfirst hf hphase hdelivered hlt h hs
      have hqueue₁ : (s.overtaken (write.patch r.markers) 1).edits = queue := by
        simp [Situation.overtaken, hqueue]
      obtain ⟨ending, w', hdrive, hends⟩ := ih (p := { p with conflicts := p.conflicts + 1 })
        (s := s.overtaken (write.patch r.markers) 1) hl
        (fun e he => hharmless e (hqueue ▸ List.mem_cons_of_mem _ (hqueue₁ ▸ he))) hf hphase₁
        (hresults₁ ▸ hdelivered) hlt h₁ hs₁ hqueue₁
      refine ⟨ending, w', hstep.trans hdrive, ?_⟩
      simp only [Situation.overtaken_succ] at hends
      rw [List.length_cons]
      obtain ⟨hle, hending, hw'⟩ | ⟨hlt', hending, hw'⟩ := hends
      · exact Or.inl ⟨by omega, hending, hw'⟩
      · refine Or.inr ⟨by omega, hending, ?_⟩
        have hsub : r.maxConflictRetries.toNat + 1 - (p.conflicts + 1) + 1
            = r.maxConflictRetries.toNat + 1 - p.conflicts := by omega
        rw [hsub] at hw'
        exact hw'
    · obtain ⟨current, w₁, hadvance, h₁⟩ :=
        advance_write_overtaken (p := p) h hs hl hqueue hfirst.completes
      obtain ⟨ending, hmove, hending⟩ := finish_of_conflicted hlast snapshot.version current
      rw [Reconciler.drive_wait, hadvance, hmove, Reconciler.drive_finish]
      refine ⟨ending, w₁, rfl, Or.inr ⟨?_, hending, ?_⟩⟩
      · rw [List.length_cons]
        omega
      · rw [hlast, Nat.add_sub_cancel_left]
        exact h₁

variable (write) in
/-- A change of the record goes in one of the ways of `Patching`. -/
theorem patching_of_drive (hharmless : ∀ x ∈ s.edits, Harmless r.markers x)
    (hf : s.failingFetches = 0) (hphase : Phase.ofRun snapshot.run r.markers = write.phase)
    (hdelivered : write = .setMarker →
      ∃ rs, snapshot.run.readResults = .ok rs ∧ p.delivered = some rs)
    (hp : p.conflicts = 0) (h : w.Shows key s) (hs : w.Stands key snapshot) :
    ∃ ending s' w', r.drive environment key (.wait (.write p snapshot write)) w = (ending, w') ∧
      w'.Shows key s' ∧ Patching r write s ending s' := by
  by_cases hl : (write.patch r.markers).label ∈ s.failingPatches
  · obtain ⟨e, w₁, hadvance, h₁⟩ := advance_write_failing p snapshot h hl
    rw [Reconciler.drive_wait, hadvance]
    exact ⟨_, _, w₁, Reconciler.drive_finish .., h₁, .failed e hl⟩
  · obtain ⟨ending, w', hdrive, hends⟩ :=
      drive_write_of_edits hl hharmless hf hphase hdelivered (by omega) h hs
    rw [hp, Nat.zero_add, Nat.sub_zero] at hends
    obtain ⟨hle, rfl, hw'⟩ | ⟨hlt, hending, hw'⟩ := hends
    · exact ⟨_, _, w', hdrive, hw', .applied hl hle⟩
    · exact ⟨_, _, w', hdrive, hw', .exhausted ending hl hlt hending⟩

/-! ## A whole invocation -/

/-- After a read that finds a record, an invocation goes in one of the ways of `Visit`. -/
theorem visit_of_found (hharmless : ∀ x ∈ s.edits, Harmless r.markers x)
    (hf : s.failingFetches = 0) (h : w.Shows key s) (hs : w.Stands key snapshot) :
    ∃ ending s' w', r.drive environment key
        (Reconciler.decide .start false snapshot (Phase.ofRun snapshot.run r.markers)).2 w
          = (ending, w') ∧ w'.Shows key s' ∧ Visit r key s ending s' := by
  have hrun := hs.run_eq h
  -- the three changes of the guard go alike, without a delivery
  have hchange : ∀ write : Write, write ≠ .setMarker →
      Phase.ofRun snapshot.run r.markers = write.phase →
      ∃ ending s' w', r.drive environment key
          (Reconciler.decide .start false snapshot (Phase.ofRun snapshot.run r.markers)).2 w
            = (ending, w') ∧ w'.Shows key s' ∧ Visit r key s ending s' := by
    intro write hwrite hphase
    have hskip : write = .setMarker → ∃ rs, snapshot.run.readResults = .ok rs ∧
        Progress.start.delivered = some rs := fun hset => absurd hset hwrite
    rw [decide_of_phase hphase hskip]
    obtain ⟨ending, s', w', hdrive, hw', hpatching⟩ :=
      patching_of_drive write hharmless hf hphase hskip rfl h hs
    exact ⟨ending, s', w', hdrive, hw', .guarded _ write ending s' hf hrun hwrite hphase hpatching⟩
  cases hphase : Phase.ofRun snapshot.run r.markers with
  | legacy =>
    have hrest : s.rest? r.markers = some .legacy := by
      rw [Situation.rest?_of_run hrun, hphase, Phase.rest?]
    exact ⟨_, s, w, Reconciler.drive_finish .., h, .rest _ hf hrest⟩
  | awaitingCompletion =>
    have hrest : s.rest? r.markers = some .awaitingCompletion := by
      rw [Situation.rest?_of_run hrun, hphase, Phase.rest?]
    exact ⟨_, s, w, Reconciler.drive_finish .., h, .rest _ hf hrest⟩
  | unguarded => exact hphase ▸ hchange .addGuard (by simp) hphase
  | readyToRelease => exact hphase ▸ hchange .release (by simp) hphase
  | anomalous => exact hphase ▸ hchange .releaseAnomalous (by simp) hphase
  | readyToNotify =>
    cases hresults : snapshot.run.readResults with
    | error e =>
      have hmove : (Reconciler.decide .start false snapshot .readyToNotify).2
          = .fail (.extraction e) := by
        simp [Reconciler.decide, Reconciler.announce, hresults]
      rw [hmove]
      exact ⟨_, s, w, Reconciler.drive_finish .., h, .unreadable _ e hf hrun hphase hresults⟩
    | ok rs =>
      have hmove : (Reconciler.decide .start false snapshot .readyToNotify).2
          = .wait (.deliver .start snapshot rs) := by
        simp [Reconciler.decide, Reconciler.announce, hresults, Progress.start]
      rw [hmove, Reconciler.drive_wait]
      by_cases hfailures : s.failures = []
      · obtain ⟨w₁, hadvance, h₁, hs₁⟩ :=
          advance_deliver_accepted (r := r) h hfailures .start hs rs
        rw [hadvance]
        obtain ⟨ending, s', w', hdrive, hw', hpatching⟩ :=
          patching_of_drive .setMarker (s := s.accepting (Payload.new key rs w.clock))
            (p := { Progress.start with delivered := some rs }) hharmless hf hphase
            (fun _ => ⟨rs, hresults, rfl⟩) rfl h₁ hs₁
        exact ⟨ending, s', w', hdrive, hw',
          .notified _ rs w.clock ending s' hf hrun hphase hresults hpatching⟩
      · obtain ⟨e, w₁, hadvance, h₁⟩ :=
          advance_deliver_refused (r := r) h hfailures .start snapshot rs
        rw [hadvance]
        exact ⟨_, _, w₁, Reconciler.drive_finish .., h₁, .undelivered _ e hf hrun hphase hfailures⟩

variable (key) in
/-- An invocation in a plain world with harmless edits goes in one of the ways of `Visit`. -/
theorem visit_of_reconcile (hw : w.Plain)
    (hharmless : ∀ x ∈ w.store.interference, Harmless r.markers x) :
    (w.reconcile r key false).2.Shows key ((w.reconcile r key false).2.situation key) ∧
      Visit r key (w.situation key) (w.reconcile r key false).1
        ((w.reconcile r key false).2.situation key) := by
  have h : ({ w with held := true, cancelled := false } : World ι).Shows key (w.situation key) :=
    { hw with active := rfl, situation := rfl }
  suffices hdrive : ∃ ending s' w', r.drive environment key (.wait (.fetch .start))
      { w with held := true, cancelled := false } = (ending, w') ∧ w'.Shows key s' ∧
        Visit r key (w.situation key) ending s' by
    obtain ⟨ending, s', w', hdrive, hw', hvisit⟩ := hdrive
    have heq : w.reconcile r key false
        = (ending, environment.emitAll (Reconciler.closing ending) w') := by
      have hstart : Reconciler.resume .start
          (environment.cancelled { w with held := true, cancelled := false })
            = .wait (.fetch .start) := rfl
      unfold World.reconcile
      rw [Reconciler.reconcile_eq, hstart, hdrive]
    have hshows := hw'.emitAll (Reconciler.closing ending)
    rw [heq, hshows.situation]
    exact ⟨hshows, hvisit⟩
  rw [Reconciler.drive_wait]
  by_cases hf : (w.situation key).failingFetches = 0
  · cases hrun : (w.situation key).run with
    | none =>
      obtain ⟨w₁, hadvance, h₁⟩ := advance_fetch_absent (r := r) h hf hrun .start
      have hrest : (w.situation key).rest? r.markers = some .notFound := by
        simp only [Situation.rest?, hrun]
      rw [hadvance]
      exact ⟨_, _, w₁, Reconciler.drive_finish .., h₁, .rest _ hf hrest⟩
    | some run =>
      obtain ⟨snapshot, w₁, hadvance, rfl, h₁, hs₁⟩ :=
        advance_fetch_found (r := r) h hf hrun .start
      rw [hadvance]
      exact visit_of_found hharmless hf h₁ hs₁
  · obtain ⟨e, w₁, hadvance, h₁⟩ :=
      advance_fetch_failing (r := r) h (Nat.pos_of_ne_zero hf) .start
    rw [hadvance]
    exact ⟨_, _, w₁, Reconciler.drive_finish .., h₁, .unreachable e (Nat.pos_of_ne_zero hf)⟩

end World

/-! ## What an invocation makes of the record -/

/-- What an invocation makes of the record, the queues and the sink. Either others alone have
changed the record and the sink has accepted nothing, or the sink has accepted a payload and the
marker could not be set, or the reconciler has changed the record. -/
inductive Turn (r : Reconciler) (key : RunKey) (s s' : Situation ι) : Prop
  | kept (consumed : List ι) (hedits : s.edits = consumed ++ s'.edits)
    (hrun : s'.run = s.run.map (·.edited consumed)) (hdelivered : s'.delivered = s.delivered)
    (hattempts : s'.attempts = s.attempts ∨
      ∃ run, s.run = some run ∧ Phase.ofRun run r.markers = .readyToNotify)
    (hlabels : s'.failingPatches.Sublist s.failingPatches)
  | unrecorded (consumed : List ι) (run : Run) (payload : Payload)
    (hedits : s.edits = consumed ++ s'.edits) (hrun : s.run = some run)
    (hphase : Phase.ofRun run r.markers = .readyToNotify)
    (hrun' : s'.run = some (run.edited consumed)) (hpayload : payload.run = key)
    (hdelivered : s'.delivered = s.delivered ++ [payload])
    (hcause : (Write.setMarker.patch r.markers).label ∈ s.failingPatches ∧
        s'.failingPatches = s.failingPatches.erase (Write.setMarker.patch r.markers).label ∨
      s'.failingPatches = s.failingPatches ∧
        consumed.length = r.maxConflictRetries.toNat + 1)
  | changed (run : Run) (write : Write) (payloads : List Payload) (hedits : s'.edits = [])
    (hrun : s.run = some run) (hphase : Phase.ofRun run r.markers = write.phase)
    (hrun' : s'.run = if Store.isSpent ((write.patch r.markers).apply (run.edited s.edits))
      then none else some ((write.patch r.markers).apply (run.edited s.edits)))
    (hdelivered : s'.delivered = s.delivered ++ payloads)
    (hpayloads : if write = .setMarker then ∃ payload, payloads = [payload] ∧ payload.run = key
      else payloads = [])
    (hattempts : write ≠ .setMarker → s'.attempts = s.attempts)
    (hlabels : s'.failingPatches = s.failingPatches)

/-- Every way of an invocation is of one of the three kinds. -/
theorem Visit.turn {r : Reconciler} {key : RunKey} {s s' : Situation ι} {ending : Ending}
    (h : Visit r key s ending s') : Turn r key s s' := by
  have hsame : s.run = s.run.map (·.edited ([] : List ι)) := by simp
  cases h with
  | unreachable e hf => exact .kept [] rfl hsame rfl (Or.inl rfl) (List.Sublist.refl _)
  | rest action hf hrest => exact .kept [] rfl hsame rfl (Or.inl rfl) (List.Sublist.refl _)
  | unreadable run e hf hrun hphase hresults =>
    exact .kept [] rfl hsame rfl (Or.inl rfl) (List.Sublist.refl _)
  | undelivered run e hf hrun hphase hfailures =>
    exact .kept [] rfl hsame rfl (Or.inr ⟨run, hrun, hphase⟩) (List.Sublist.refl _)
  | notified run rs now ending s' hf hrun hphase hresults hpatching =>
    cases hpatching with
    | failed e hl =>
      exact .unrecorded [] run _ rfl hrun hphase hrun rfl rfl (Or.inl ⟨hl, rfl⟩)
    | exhausted ending hl hr hending =>
      refine .unrecorded (s.edits.take (r.maxConflictRetries.toNat + 1)) run _
        (List.take_append_drop _ _).symm hrun hphase ?_ rfl rfl (Or.inr ⟨rfl, ?_⟩)
      · simp [Situation.overtaken, Situation.accepting, hrun]
      · rw [List.length_take]
        exact Nat.min_eq_left hr
    | applied hl hr =>
      refine .changed run .setMarker [_] ?_ hrun hphase ?_ rfl ⟨_, rfl, rfl⟩
        (fun hset => absurd rfl hset) rfl
      · simp [Situation.overtaken, Situation.written, Situation.accepting]
      · simp [Situation.overtaken, Situation.written, Situation.accepting, hrun]
  | guarded run write ending s' hf hrun hwrite hphase hpatching =>
    cases hpatching with
    | failed e hl => exact .kept [] rfl hsame rfl (Or.inl rfl) List.erase_sublist
    | exhausted ending hl hr hending =>
      exact .kept _ (List.take_append_drop _ _).symm rfl rfl (Or.inl rfl) (List.Sublist.refl _)
    | applied hl hr =>
      refine .changed run write [] ?_ hrun hphase ?_ (List.append_nil _).symm ?_ (fun _ => rfl) rfl
      · simp [Situation.overtaken, Situation.written]
      · simp [Situation.overtaken, Situation.written, hrun]
      · rw [if_neg hwrite]

end RunHerald
