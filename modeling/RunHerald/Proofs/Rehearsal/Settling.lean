import RunHerald.Proofs.Rehearsal.Progress
import RunHerald.Rehearsal.Fixture

/-!
# Settling under faults

What is known of a run after any number of invocations in a plain world with harmless edits, which
may be interferences of any kind:

* `Lineage`: what has come of the record. Beside the guard and the marker it is what the edits have
  made of it, and it goes only once it is spent.
* `Reported`: what has been delivered, and that the marker is set only after a delivery.

Each kind of invocation keeps to both (`Traced.turn`), and hence so does any number of them
(`traced_visited`). What a run looks like once it has settled is read off them: `Settled`.
-/

set_option autoImplicit false

namespace RunHerald

variable {ι : Type}

/-- The number of payloads that the sink has accepted for a run. -/
def Situation.deliveries (s : Situation ι) (key : RunKey) : Nat :=
  s.delivered.countP fun payload => payload.run = key

/-- Further payloads are counted beside those that there were. -/
theorem Situation.deliveries_append {s s' : Situation ι} {payloads : List Payload}
    (h : s'.delivered = s.delivered ++ payloads) (key : RunKey) :
    s'.deliveries key = s.deliveries key + payloads.countP fun payload => payload.run = key := by
  unfold deliveries
  rw [h, List.countP_append]

/-- The guard and the marker of a record that is ready. -/
theorem unmarked_of_ready {run : Run} {m : Markers} (h : Phase.ofRun run m = .readyToNotify) :
    run.isMarked m = false ∧ run.completion = .succeeded :=
  (standing_of_phase (w := .setMarker) h).2

/-- A record that a change leaves is marked, unless the change has only guarded it. -/
theorem isMarked_of_change {run : Run} {m : Markers} {write : Write}
    (h : Phase.ofRun run m = write.phase) (hwrite : write ≠ .addGuard) :
    ((write.patch m).apply run).isMarked m = true := by
  have hrow := row_of_phase h
  generalize hb : run.standing m = before at hrow
  generalize ha : ((write.patch m).apply run).standing m = after at hrow
  have hmarked : after.marked = ((write.patch m).apply run).isMarked m := ha ▸ rfl
  rw [← hmarked]
  cases hrow with
  | addGuard c => exact absurd rfl hwrite
  | setMarker => rfl
  | release => rfl
  | releaseAnomalous c hc => rfl

/-- A change other than the marker leaves the marker as it is. -/
theorem isMarked_of_guard_change (run : Run) (m : Markers) {write : Write}
    (hwrite : write ≠ .setMarker) :
    ((write.patch m).apply run).isMarked m = run.isMarked m := by
  cases write with
  | addGuard => rfl
  | setMarker => exact absurd rfl hwrite
  | release => rfl
  | releaseAnomalous => rfl

/-- A record that has just been guarded does not go. -/
theorem isSpent_of_addGuard (run : Run) (m : Markers) :
    Store.isSpent ((Write.addGuard.patch m).apply run) = false := by
  have hguarded : ((Write.addGuard.patch m).apply run).hasFinalizer m.guardToken = true := by
    change (run.withFinalizer m.guardToken).hasFinalizer m.guardToken = true
    simp
  unfold Store.isSpent
  rw [Run.isEmpty_finalizers_of_hasFinalizer hguarded, Bool.and_false]

/-- The guard and the marker of a record that nobody guards but that is marked. -/
theorem phase_eq_legacy_iff {run : Run} {m : Markers} :
    Phase.ofRun run m = .legacy ↔ run.isGuarded m = false ∧ run.isMarked m = true := by
  unfold Phase.ofRun
  cases run.isGuarded m <;> cases run.isMarked m <;> cases run.succeeded <;> simp [Phase.ofFlags]

/-- The guard and the marker of a record that waits for the end of the run. -/
theorem phase_eq_awaitingCompletion_iff {run : Run} {m : Markers} :
    Phase.ofRun run m = .awaitingCompletion ↔
      run.isGuarded m = true ∧ run.isMarked m = false ∧ run.completion ≠ .succeeded := by
  unfold Phase.ofRun Run.succeeded
  cases run.isGuarded m <;> cases run.isMarked m <;> by_cases hc : run.completion = .succeeded <;>
    simp [Phase.ofFlags, hc]

/-- A record that calls for nothing is marked and unguarded, or it waits for the end of the run. -/
theorem Situation.phase_of_rest? {m : Markers} {s : Situation ι} {action : Action} {run : Run}
    (h : s.rest? m = some action) (hrun : s.run = some run) :
    Phase.ofRun run m = .legacy ∨ Phase.ofRun run m = .awaitingCompletion := by
  rw [Situation.rest?_of_run hrun] at h
  cases hphase : Phase.ofRun run m <;> rw [hphase] at h <;> simp [Phase.rest?] at h ⊢

/-! ## What has been delivered -/

/-- What has been delivered since the start, and what the marker says about it. -/
structure Reported (m : Markers) (key : RunKey) (s₀ : Situation ι) (run₀ : Run) (s : Situation ι) :
    Prop where
  /-- A record that started marked stays so, and nothing is delivered. -/
  marked : run₀.isMarked m = true → s.delivered = s₀.delivered ∧ s.attempts = s₀.attempts ∧
    ∀ run, s.run = some run → run.isMarked m = true
  /-- A record that has not succeeded and started unmarked stays, unmarked. -/
  waiting : run₀.isMarked m = false → run₀.completion ≠ .succeeded →
    ∃ run, s.run = some run ∧ run.isMarked m = false
  /-- No delivery is taken back. -/
  deliveries_le : s₀.deliveries key ≤ s.deliveries key
  /-- A record that started unmarked is marked, or gone, only after a delivery. -/
  delivered : run₀.isMarked m = false → (∀ run, s.run = some run → run.isMarked m = true) →
    s₀.deliveries key < s.deliveries key

section

variable {m : Markers} {key : RunKey} {s₀ s s' : Situation ι} {run₀ : Run}

/-- At the start nothing has been delivered since. -/
theorem Reported.start (hrun : s₀.run = some run₀) : Reported m key s₀ run₀ s₀ where
  marked := fun hm => ⟨rfl, rfl, fun run h => Option.some.inj (hrun.symm.trans h) ▸ hm⟩
  waiting := fun hm _ => ⟨run₀, hrun, hm⟩
  deliveries_le := le_rfl
  delivered := by
    intro hm h
    have := h run₀ hrun
    simp [hm] at this

/-- Nothing has been delivered, and the marker is as it was. A record may go only if it is marked.
-/
theorem Reported.undelivered (h : Reported m key s₀ run₀ s)
    (hback : ∀ run', s'.run = some run' →
      ∃ run, s.run = some run ∧ run'.isMarked m = run.isMarked m)
    (hforth : ∀ run, s.run = some run → run.isMarked m = false →
      ∃ run', s'.run = some run' ∧ run'.isMarked m = false)
    (hdelivered : s'.delivered = s.delivered)
    (hattempts : (∀ run, s.run = some run → run.isMarked m = true) → s'.attempts = s.attempts) :
    Reported m key s₀ run₀ s' := by
  have hcount : s'.deliveries key = s.deliveries key := by
    unfold Situation.deliveries
    rw [hdelivered]
  constructor
  case marked =>
    intro hm
    obtain ⟨hd, ha, hmarked⟩ := h.marked hm
    refine ⟨hdelivered.trans hd, (hattempts hmarked).trans ha, ?_⟩
    intro run' hrun'
    obtain ⟨run, hrun, hsame⟩ := hback run' hrun'
    exact hsame.trans (hmarked run hrun)
  case waiting =>
    intro hm hc
    obtain ⟨run, hrun, hunmarked⟩ := h.waiting hm hc
    exact hforth run hrun hunmarked
  case deliveries_le => exact hcount ▸ h.deliveries_le
  -- had the record been unmarked before, it would be there now, unmarked still
  case delivered =>
    intro hm hall
    rw [hcount]
    apply h.delivered hm
    intro run hrun
    by_contra hunmarked
    rw [Bool.not_eq_true] at hunmarked
    obtain ⟨run', hrun', hunmarked'⟩ := hforth run hrun hunmarked
    rw [hall run' hrun'] at hunmarked'
    cases hunmarked'

/-- A payload has been accepted for a record that was ready, whatever became of the marker. -/
theorem Reported.accepted (h : Reported m key s₀ run₀ s) {run : Run} (hrun : s.run = some run)
    (hphase : Phase.ofRun run m = .readyToNotify) (hcompletion : run.completion = run₀.completion)
    (hcount : s'.deliveries key = s.deliveries key + 1) : Reported m key s₀ run₀ s' := by
  obtain ⟨hunmarked, hsucceeded⟩ := unmarked_of_ready hphase
  have hle := h.deliveries_le
  constructor
  case marked =>
    intro hm
    rw [(h.marked hm).2.2 run hrun] at hunmarked
    cases hunmarked
  case waiting => exact fun _ hc => absurd (hcompletion.symm.trans hsucceeded) hc
  case deliveries_le => omega
  case delivered =>
    intro _ _
    omega

end

/-! ## What has come of the record -/

variable [Interference ι]

/-- What has come of a record since the start. -/
structure Lineage (m : Markers) (s₀ : Situation ι) (run₀ : Run) (s : Situation ι) : Prop where
  /-- Beside the guard and the marker, the record is what the edits used up have made of it. -/
  record : ∃ consumed, s₀.edits = consumed ++ s.edits ∧
    ∀ run, s.run = some run → Descends m run₀ consumed run
  /-- A record that is gone was spent after all edits. -/
  gone : s.run = none → s.edits = [] ∧
    ∃ run, Descends m run₀ s₀.edits run ∧ Store.isSpent run = true
  /-- A record that was released has seen all edits, and is not spent. -/
  released : Phase.ofRun run₀ m ≠ .legacy → ∀ run, s.run = some run →
    Phase.ofRun run m = .legacy → s.edits = [] ∧ Store.isSpent run = false
  /-- A record that nobody guards but that is marked stays so. -/
  legacy : Phase.ofRun run₀ m = .legacy →
    ∃ run, s.run = some run ∧ Phase.ofRun run m = .legacy

section

variable {m : Markers} {s₀ s s' : Situation ι} {run₀ : Run}

/-- At the start nothing has come of the record. -/
theorem Lineage.start (hrun : s₀.run = some run₀) : Lineage m s₀ run₀ s₀ where
  record := ⟨[], rfl, fun run h => Option.some.inj (hrun.symm.trans h) ▸ Descends.start⟩
  gone := by simp [hrun]
  released := by
    intro hlegacy run h hphase
    exact absurd (Option.some.inj (hrun.symm.trans h) ▸ hphase) hlegacy
  legacy := fun hlegacy => ⟨run₀, hrun, hlegacy⟩

/-- The state of a record is the one at the start. -/
theorem Lineage.completion_eq (h : Lineage m s₀ run₀ s)
    (hharmless : ∀ x ∈ s₀.edits, Harmless m x) {run : Run} (hrun : s.run = some run) :
    run.completion = run₀.completion := by
  obtain ⟨consumed, hedits, hdescends⟩ := h.record
  exact (hdescends run hrun).completion_eq (harmless_of_append hharmless hedits)

/-- The edits that are still queued are harmless. -/
theorem Lineage.harmless (h : Lineage m s₀ run₀ s)
    (hharmless : ∀ x ∈ s₀.edits, Harmless m x) : ∀ x ∈ s.edits, Harmless m x := by
  obtain ⟨consumed, hedits, -⟩ := h.record
  intro edits he
  apply hharmless
  rw [hedits]
  exact List.mem_append_right consumed he

/-- Only others have edited the record. -/
theorem Lineage.kept (h : Lineage m s₀ run₀ s)
    (hharmless : ∀ x ∈ s₀.edits, Harmless m x) {consumed : List ι}
    (hedits : s.edits = consumed ++ s'.edits) (hrun : s'.run = s.run.map (·.edited consumed)) :
    Lineage m s₀ run₀ s' := by
  obtain ⟨before, hbefore, hdescends⟩ := h.record
  have hconsumed := harmless_of_append (h.harmless hharmless) hedits
  have hback : ∀ run', s'.run = some run' → ∃ run, s.run = some run ∧ run.edited consumed = run' := by
    intro run' hrun'
    rwa [hrun, Option.map_eq_some_iff] at hrun'
  constructor
  case record =>
    refine ⟨before ++ consumed, ?_, ?_⟩
    · rw [hbefore, hedits, List.append_assoc]
    · intro run' hrun'
      obtain ⟨run, hstart, rfl⟩ := hback run' hrun'
      exact (hdescends run hstart).append consumed
  case gone =>
    intro hnone
    rw [hrun, Option.map_eq_none_iff] at hnone
    obtain ⟨hempty, hspent⟩ := h.gone hnone
    rw [hempty] at hedits
    exact ⟨(List.append_eq_nil_iff.1 hedits.symm).2, hspent⟩
  case released =>
    intro hlegacy run' hrun' hphase
    obtain ⟨run, hstart, rfl⟩ := hback run' hrun'
    rw [phase_edited hconsumed] at hphase
    obtain ⟨hempty, hspent⟩ := h.released hlegacy run hstart hphase
    rw [hempty] at hedits
    obtain ⟨rfl, hempty'⟩ := List.append_eq_nil_iff.1 hedits.symm
    exact ⟨hempty', hspent⟩
  case legacy =>
    intro hlegacy
    obtain ⟨run, hstart, hphase⟩ := h.legacy hlegacy
    refine ⟨run.edited consumed, ?_, (phase_edited hconsumed run).trans hphase⟩
    rw [hrun, hstart, Option.map_some]

/-- The reconciler has changed the record. -/
theorem Lineage.changed (h : Lineage m s₀ run₀ s) {run : Run} {write : Write}
    (hedits : s'.edits = []) (hrun : s.run = some run) (hphase : Phase.ofRun run m = write.phase)
    (hrun' : s'.run = if Store.isSpent ((write.patch m).apply (run.edited s.edits))
      then none else some ((write.patch m).apply (run.edited s.edits))) :
    Lineage m s₀ run₀ s' := by
  obtain ⟨before, hbefore, hdescends⟩ := h.record
  have hlast : Descends m run₀ s₀.edits ((write.patch m).apply (run.edited s.edits)) := by
    rw [hbefore]
    exact ((hdescends run hrun).append s.edits).marked (agreesBeside_of_write m write _)
  generalize (write.patch m).apply (run.edited s.edits) = last at hrun' hlast
  have hsome : ∀ run', s'.run = some run' → run' = last ∧ Store.isSpent last = false := by
    intro run' h'
    rw [hrun'] at h'
    split at h'
    · cases h'
    · rename_i hspent
      exact ⟨(Option.some.inj h').symm, by simpa using hspent⟩
  constructor
  case record =>
    refine ⟨s₀.edits, ?_, ?_⟩
    · rw [hedits, List.append_nil]
    · intro run' h'
      rw [(hsome run' h').1]
      exact hlast
  case gone =>
    intro hnone
    refine ⟨hedits, last, hlast, ?_⟩
    by_contra hspent
    rw [hrun', if_neg hspent] at hnone
    cases hnone
  case released =>
    intro _ run' h' _
    rw [(hsome run' h').1]
    exact ⟨hedits, (hsome run' h').2⟩
  case legacy =>
    intro hlegacy
    obtain ⟨run₁, h₁, hphase₁⟩ := h.legacy hlegacy
    obtain rfl := Option.some.inj (hrun.symm.trans h₁)
    rw [hphase₁] at hphase
    cases write <;> cases hphase

end

/-! ## Any number of invocations -/

/-- What has come of a record, and what has been delivered, since the start. -/
structure Traced (m : Markers) (key : RunKey) (s₀ : Situation ι) (run₀ : Run) (s : Situation ι) : Prop
    extends Lineage m s₀ run₀ s, Reported m key s₀ run₀ s

/-- Every kind of invocation keeps to what has come of the record. -/
theorem Traced.turn {r : Reconciler} {key : RunKey} {s₀ s s' : Situation ι} {run₀ : Run}
    (h : Traced r.markers key s₀ run₀ s)
    (hharmless : ∀ x ∈ s₀.edits, Harmless r.markers x) (hturn : Turn r key s s') :
    Traced r.markers key s₀ run₀ s' := by
  have hqueue := h.harmless hharmless
  cases hturn with
  | kept consumed hedits hrun hdelivered hattempts hlabels =>
    have hmarked := isMarked_edited (harmless_of_append hqueue hedits)
    refine { h.kept hharmless hedits hrun, h.undelivered ?_ ?_ hdelivered ?_ with }
    · intro run' hrun'
      rw [hrun, Option.map_eq_some_iff] at hrun'
      obtain ⟨run, hstart, rfl⟩ := hrun'
      exact ⟨run, hstart, hmarked run⟩
    · intro run hstart hunmarked
      exact ⟨run.edited consumed, by rw [hrun, hstart, Option.map_some],
        (hmarked run).trans hunmarked⟩
    · intro hall
      refine hattempts.resolve_right ?_
      rintro ⟨run, hstart, hphase⟩
      have hunmarked := (unmarked_of_ready hphase).1
      rw [hall run hstart] at hunmarked
      cases hunmarked
  | unrecorded consumed run payload hedits hrun hphase hrun' hpayload hdelivered hcause =>
    have hmap : s'.run = s.run.map (·.edited consumed) := by rw [hrun', hrun, Option.map_some]
    have hcount := Situation.deliveries_append hdelivered key
    simp only [hpayload, List.countP_singleton, decide_true, if_true] at hcount
    exact { h.kept hharmless hedits hmap,
      h.accepted hrun hphase (h.completion_eq hharmless hrun) hcount with }
  | changed run write payloads hedits hrun hphase hrun' hdelivered hpayloads hattempts hlabels =>
    have hlineage := h.changed hedits hrun hphase hrun'
    by_cases hset : write = .setMarker
    · subst hset
      rw [if_pos rfl] at hpayloads
      obtain ⟨payload, rfl, hpayload⟩ := hpayloads
      have hcount := Situation.deliveries_append hdelivered key
      simp only [hpayload, List.countP_singleton, decide_true, if_true] at hcount
      exact { hlineage, h.accepted hrun hphase (h.completion_eq hharmless hrun) hcount with }
    · rw [if_neg hset] at hpayloads
      rw [hpayloads, List.append_nil] at hdelivered
      have hmarked := (isMarked_of_guard_change (run.edited s.edits) r.markers hset).trans
        (isMarked_edited hqueue run)
      refine { hlineage, h.undelivered ?_ ?_ hdelivered (fun _ => hattempts hset) with }
      · intro run₁ h₁
        rw [hrun'] at h₁
        split at h₁
        · cases h₁
        · exact ⟨run, hrun, Option.some.inj h₁ ▸ hmarked⟩
      -- an unmarked record has been guarded, so it is not spent
      · intro run₁ h₁ hunmarked
        obtain rfl := Option.some.inj (hrun.symm.trans h₁)
        have hadd : write = .addGuard := by
          by_contra hnot
          have := isMarked_of_change hphase hnot
          rw [isMarked_of_guard_change _ _ hset, hunmarked] at this
          cases this
        subst hadd
        rw [isSpent_of_addGuard, if_neg (by simp)] at hrun'
        exact ⟨_, hrun', hmarked.trans hunmarked⟩

/-- What has come of a record after any number of invocations. -/
theorem World.traced_visited {r : Reconciler} {key : RunKey} {w : World ι} (h : w.Benign r key)
    {run : Run} (hrun : (w.situation key).run = some run) (n : Nat) :
    Traced r.markers key (w.situation key) run ((w.visited r key n).situation key) := by
  induction n with
  | zero => exact { Lineage.start hrun, Reported.start hrun with }
  | succ n ih => exact ih.turn h.harmless (h.visited n).visit.2.turn

/-! ## What a settled run looks like -/

/-- A run that has settled: how it started, the situation then, and the situation now. -/
structure Settled (m : Markers) (key : RunKey) (run₀ : Run) (s₀ s : Situation ι) : Prop where
  /-- The record of a run that has succeeded is marked and unguarded, if it is still there. -/
  released : run₀.completion = .succeeded → ∀ run, s.run = some run →
    run.isMarked m = true ∧ run.isGuarded m = false
  /-- If it is gone, its deletion was pending, and after all edits it had no other finalizer than the
  guard. The reconciler does not touch a record that nobody guards but that is marked. -/
  pending : run₀.completion = .succeeded → s.run = none →
    Phase.ofRun run₀ m ≠ .legacy ∧ run₀.isDeletionRequested = true ∧
      ∃ last, Descends m run₀ s₀.edits last ∧
        ∀ token, token ≠ m.guardToken → last.hasFinalizer token = false
  /-- If it is still there although its deletion was pending, it has another finalizer. -/
  kept : run₀.completion = .succeeded → Phase.ofRun run₀ m ≠ .legacy →
    run₀.isDeletionRequested = true → ∀ run, s.run = some run →
      ∃ token, token ≠ m.guardToken ∧ run.hasFinalizer token = true
  /-- So edits that do not look at the guard and the marker tell beforehand whether it will be gone. -/
  gone : (∀ x ∈ s₀.edits, IgnoresMarkers m x) → run₀.completion = .succeeded →
    (s.run = none ↔
      Phase.ofRun run₀ m ≠ .legacy ∧ run₀.isDeletionRequested = true ∧
        ∀ token, token ≠ m.guardToken → (run₀.edited s₀.edits).hasFinalizer token = false)
  /-- A run that has succeeded and was not marked at first has been delivered. -/
  delivered : run₀.completion = .succeeded → run₀.isMarked m = false →
    s₀.deliveries key < s.deliveries key
  /-- The record of a run that has not succeeded and was not marked is guarded and not marked. -/
  waiting : run₀.completion ≠ .succeeded → run₀.isMarked m = false →
    ∃ run, s.run = some run ∧ run.isGuarded m = true ∧ run.isMarked m = false
  /-- A run that was marked at first has not been delivered, nor was it attempted. -/
  silent : run₀.isMarked m = true → s.delivered = s₀.delivered ∧ s.attempts = s₀.attempts

section

variable {m : Markers} {key : RunKey} {run₀ : Run} {s₀ s : Situation ι}

/-- A record that is gone had its deletion pending, and no finalizer in the end. -/
theorem Lineage.of_gone (h : Lineage m s₀ run₀ s) (hharmless : ∀ x ∈ s₀.edits, Harmless m x)
    (hnone : s.run = none) :
    Phase.ofRun run₀ m ≠ .legacy ∧ run₀.isDeletionRequested = true ∧
      ∃ last, Descends m run₀ s₀.edits last ∧ ∀ token, last.hasFinalizer token = false := by
  obtain ⟨-, last, hdescends, hspent⟩ := h.gone hnone
  obtain ⟨hdeletion, hempty⟩ := Bool.and_eq_true_iff.1 hspent
  refine ⟨?_, ?_, last, hdescends, (Run.isEmpty_finalizers_iff last).1 hempty⟩
  · intro hphase
    obtain ⟨run, hrun, -⟩ := h.legacy hphase
    rw [hnone] at hrun
    cases hrun
  · unfold Run.isDeletionRequested at hdeletion ⊢
    rwa [hdescends.deletionRequestedAt_eq hharmless] at hdeletion

/-- A record that was released and is still there is not spent, so some token was left on it. -/
theorem Lineage.of_released (h : Lineage m s₀ run₀ s) (hharmless : ∀ x ∈ s₀.edits, Harmless m x)
    (hphase : Phase.ofRun run₀ m ≠ .legacy) (hdeletion : run₀.isDeletionRequested = true) {run : Run}
    (hrun : s.run = some run) (hlegacy : Phase.ofRun run m = .legacy) :
    Descends m run₀ s₀.edits run ∧ ∃ token, token ≠ m.guardToken ∧ run.hasFinalizer token = true := by
  obtain ⟨hempty, hspent⟩ := h.released hphase run hrun hlegacy
  obtain ⟨consumed, hedits, hdescends⟩ := h.record
  rw [hempty, List.append_nil] at hedits
  have hdescends := hdescends run hrun
  rw [← hedits] at hdescends
  refine ⟨hdescends, ?_⟩
  by_contra hnone
  have hfinalizers : run.finalizers.isEmpty = true := by
    rw [Run.isEmpty_finalizers_iff]
    intro token
    by_cases htoken : token = m.guardToken
    · rw [htoken]
      exact (phase_eq_legacy_iff.1 hlegacy).1
    · rw [← Bool.not_eq_true]
      exact fun htrue => hnone ⟨token, htoken, htrue⟩
  unfold Run.isDeletionRequested at hdeletion
  unfold Store.isSpent Run.isDeletionRequested at hspent
  rw [hfinalizers, hdescends.deletionRequestedAt_eq hharmless, hdeletion] at hspent
  cases hspent

/-- With edits that do not look at the guard and the marker, a record that is not gone before it is
released goes if nothing but the guard keeps it. -/
theorem Lineage.gone_iff (h : Lineage m s₀ run₀ s) (hharmless : ∀ x ∈ s₀.edits, Harmless m x)
    (hignores : ∀ x ∈ s₀.edits, IgnoresMarkers m x)
    (hlegacy : ∀ run, s.run = some run → Phase.ofRun run m = .legacy) :
    s.run = none ↔ Phase.ofRun run₀ m ≠ .legacy ∧ run₀.isDeletionRequested = true ∧
      ∀ token, token ≠ m.guardToken → (run₀.edited s₀.edits).hasFinalizer token = false := by
  constructor
  · intro hnone
    obtain ⟨hphase, hdeletion, last, hdescends, hempty⟩ := h.of_gone hharmless hnone
    refine ⟨hphase, hdeletion, fun token htoken => ?_⟩
    rw [(hdescends.agrees hignores).finalizers token htoken]
    exact hempty token
  · rintro ⟨hphase, hdeletion, hothers⟩
    by_contra hsome
    obtain ⟨run, hrun⟩ := Option.ne_none_iff_exists'.1 hsome
    obtain ⟨hdescends, token, htoken, hleft⟩ :=
      h.of_released hharmless hphase hdeletion hrun (hlegacy run hrun)
    rw [← (hdescends.agrees hignores).finalizers token htoken, hothers token htoken] at hleft
    cases hleft

/-- A record that calls for nothing has settled. -/
theorem Traced.settled (h : Traced m key s₀ run₀ s) (hharmless : ∀ x ∈ s₀.edits, Harmless m x)
    {action : Action} (hrest : s.rest? m = some action) : Settled m key run₀ s₀ s := by
  have hlegacy : run₀.completion = .succeeded → ∀ run, s.run = some run →
      Phase.ofRun run m = .legacy := by
    intro hc run hrun
    refine (Situation.phase_of_rest? hrest hrun).resolve_right ?_
    intro hphase
    exact (phase_eq_awaitingCompletion_iff.1 hphase).2.2 ((h.completion_eq hharmless hrun).trans hc)
  constructor
  case released =>
    intro hc run hrun
    obtain ⟨hguarded, hmarked⟩ := phase_eq_legacy_iff.1 (hlegacy hc run hrun)
    exact ⟨hmarked, hguarded⟩
  case pending =>
    intro _ hnone
    obtain ⟨hphase, hdeletion, last, hdescends, hempty⟩ := h.of_gone hharmless hnone
    exact ⟨hphase, hdeletion, last, hdescends, fun token _ => hempty token⟩
  case kept =>
    intro hc hphase hdeletion run hrun
    exact (h.of_released hharmless hphase hdeletion hrun (hlegacy hc run hrun)).2
  case gone => exact fun hignores hc => h.gone_iff hharmless hignores (hlegacy hc)
  case delivered =>
    intro hc hm
    apply h.delivered hm
    intro run hrun
    exact (phase_eq_legacy_iff.1 (hlegacy hc run hrun)).2
  case waiting =>
    intro hc hm
    obtain ⟨run, hrun, hunmarked⟩ := h.waiting hm hc
    refine ⟨run, hrun, ?_, hunmarked⟩
    rcases Situation.phase_of_rest? hrest hrun with hphase | hphase
    · rw [(phase_eq_legacy_iff.1 hphase).2] at hunmarked
      cases hunmarked
    · exact (phase_eq_awaitingCompletion_iff.1 hphase).1
  case silent =>
    intro hm
    exact ⟨(h.marked hm).1, (h.marked hm).2.1⟩

end

namespace World

/-- The number of queued faults. -/
def faults (w : World ι) : Nat :=
  w.store.failingFetches + w.store.failingPatches.length + w.sink.failures.length
    + w.store.interference.length

/-- However many faults are queued, a run whose results can be read settles: of the next
invocations, four more than there are faults, one is quiet. From the first quiet one on every
invocation is the same, requests no patch and attempts no delivery. -/
theorem settles_under_faults (r : Reconciler) (key : RunKey) (w : World ι) (run : Run)
    (hplain : w.Plain) (hrun : (w.store.inner.records.get? key).map (·.run) = some run)
    (hresults : run.completion = .succeeded → ∃ rs, run.readResults = .ok rs)
    (hedits : ∀ x ∈ w.store.interference, Harmless r.markers x) :
    ∃ n < w.faults + 4, ∃ action : Action, action.mutated = false ∧
      (∀ k < n, ¬((w.visited r key k).reconcile r key false).1.Quiet) ∧
      (∀ k ≥ n,
        ((w.visited r key k).reconcile r key false).1 = .returned (.ok (.done action)) ∧
        (w.visited r key k).store.patches = (w.visited r key n).store.patches ∧
        (w.visited r key k).sink.attempts = (w.visited r key n).sink.attempts) ∧
      Settled r.markers key run (w.situation key) ((w.visited r key n).situation key) := by
  have hreadable : (w.situation key).Readable := by
    intro run' hrun' hc
    obtain rfl := Option.some.inj (hrun.symm.trans hrun')
    exact hresults hc
  have hbenign : w.Benign r key := { hplain with harmless := hedits, readable := hreadable }
  obtain ⟨n, hn, hbefore, hquiet⟩ := exists_quiet hbenign
  obtain ⟨action, haction, hrest, hstays⟩ := quiet_stays (hbenign.visited n) hquiet
  have hwork := Situation.workLeft_le r.markers (w.situation key)
  have hfaults : (w.situation key).faults = w.faults := rfl
  refine ⟨n, by omega, action, haction, hbefore, ?_, ?_⟩
  · intro k hk
    obtain ⟨j, rfl⟩ := Nat.exists_eq_add_of_le hk
    rw [visited_add]
    obtain ⟨hending, hsituation⟩ := hstays j
    exact ⟨hending, congrArg Situation.patches hsituation, congrArg Situation.attempts hsituation⟩
  · exact (traced_visited hbenign hrun n).settled hedits hrest

/-- A record that is ready, its deletion not pending, in a world with one fault of each kind: it is
released within eight invocations, after a delivery. -/
theorem settles_after_one_fault_of_each_kind :
    let r : Reconciler := ⟨"memory", .standard, 3, .ofSeconds 30, .ofSeconds 300⟩
    let key : RunKey := ⟨"ci", "r1"⟩
    let run := Fixture.build .standard key .succeeded
    let store : TracedStore :=
      { TracedStore.new with
        inner := Store.empty.save key run
        interference := [[.annotate "pipeline/observed" "1"]]
        failingPatches := ["set_annotation"]
        failingFetches := 1 }
    let sink := (Recorder.new "memory").queueFailure (.transport "connection reset")
    let w : TracedWorld := { (World.new default none : TracedWorld) with store, sink }
    ∃ n < 8, ((w.visited r key n).reconcile r key false).1.Quiet ∧
      0 < ((w.visited r key n).situation key).deliveries key ∧
      ∃ run', ((w.visited r key n).situation key).run = some run' ∧
        run'.isMarked .standard = true ∧ run'.isGuarded .standard = false := by
  intro r key run store sink w
  have hplain : w.Plain :=
    { wire := rfl
      hooks := fun _ => rfl
      usable := rfl
      versioned := Store.versioned_save Store.versioned_empty key run }
  have hrun : (w.store.inner.records.get? key).map (·.run) = some run := by
    change ((Store.empty.save key run).records.get? key).map (·.run) = some run
    rw [Store.get?_save, if_pos rfl, Option.map_some]
  have hresults : run.readResults = .ok Fixture.results := by cbv
  have hedits : ∀ x ∈ w.store.interference, Harmless r.markers x := by
    intro edits he
    obtain rfl := List.mem_singleton.1 he
    exact harmless_annotate (by decide) "1"
  obtain ⟨n, hn, action, haction, -, hstays, hsettled⟩ :=
    settles_under_faults r key w run hplain hrun (fun _ => ⟨_, hresults⟩) hedits
  have hpending : run.isDeletionRequested = false := rfl
  have hstill : ((w.visited r key n).situation key).run ≠ none := by
    intro hnone
    have hgone := ((hsettled.gone (fun edits _ => ignoresMarkers_edits _ edits) rfl).1 hnone).2.1
    rw [hpending] at hgone
    cases hgone
  obtain ⟨run', hrun'⟩ := Option.ne_none_iff_exists'.1 hstill
  have hunmarked : run.isMarked .standard = false := by cbv
  refine ⟨n, hn, ⟨_, (hstays n le_rfl).1, haction⟩, ?_, run', hrun', hsettled.released rfl run' hrun'⟩
  exact Nat.lt_of_le_of_lt (Nat.zero_le _) (hsettled.delivered rfl hunmarked)

end World

end RunHerald
