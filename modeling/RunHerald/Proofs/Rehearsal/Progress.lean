import RunHerald.Proofs.Rehearsal.Visit

/-!
# Invocation after invocation

An invocation is quiet if it succeeds and changes nothing. In a plain world with harmless edits, and
with results that can be read, one invocation after another leads to a quiet one.

* `Standing.workLeft` is the number of changes that a record still calls for. An invocation that is not
  quiet uses up a fault or does some of the work (`Visit.quiet_or_less`), so a quiet one comes soon:
  `exists_quiet`.
* A quiet invocation found no fault in its way, and it leaves everything as it was. So every later one
  goes in the same way: `quiet_stays`.
-/

set_option autoImplicit false

namespace RunHerald

variable {ι : Type}

/-- An invocation has succeeded and changed nothing. -/
def Ending.Quiet (ending : Ending) : Prop :=
  ∃ o, ending = .returned (.ok o) ∧ o.action.mutated = false

/-- An invocation that has not succeeded is not quiet. -/
theorem Ending.not_quiet_of_ne {ending : Ending} (h : ∀ o, ending ≠ .returned (.ok o)) :
    ¬ending.Quiet := by
  rintro ⟨o, ho, -⟩
  exact h o ho

/-- An invocation that has failed is not quiet. -/
theorem Ending.not_quiet_error (e : ReconcileError) : ¬(Ending.returned (.error e)).Quiet :=
  Ending.not_quiet_of_ne fun _ ho => by cases ho

/-- An invocation that has changed the record is not quiet. -/
theorem Ending.not_quiet_ofWrite (write : Write) :
    ¬(Ending.returned (.ok (.ofWrite write))).Quiet := by
  rintro ⟨o, ho, hquiet⟩
  cases ho
  cases write <;> cases hquiet

/-! ## The work that is left -/

/-- The changes that a record in this standing calls for, until it is settled. -/
def Standing.workLeft : Standing → Nat
  | ⟨false, true, _⟩ => 0
  | ⟨false, false, c⟩ => if c = .succeeded then 3 else 1
  | ⟨true, false, c⟩ => if c = .succeeded then 2 else 0
  | ⟨true, true, _⟩ => 1

/-- Every change of the table is some of the work. -/
theorem Row.workLeft_lt {write : Write} {before after : Standing} (h : Row write before after) :
    after.workLeft < before.workLeft := by
  cases h with
  | addGuard c => cases c <;> decide
  | setMarker => decide
  | release => decide
  | releaseAnomalous c hc => exact Nat.zero_lt_one

/-- No record calls for more than three changes. -/
theorem Standing.workLeft_le (standing : Standing) : standing.workLeft ≤ 3 := by
  obtain ⟨guarded, marked, completion⟩ := standing
  cases guarded <;> cases marked <;> cases completion <;> decide

namespace Situation

/-- The number of queued faults. -/
def faults (s : Situation ι) : Nat :=
  s.failingFetches + s.failingPatches.length + s.failures.length + s.edits.length

/-- The changes that the record calls for, if there is one. -/
def workLeft (m : Markers) (s : Situation ι) : Nat :=
  match s.run with
  | none => 0
  | some run => (run.standing m).workLeft

/-- The results of the record can be read if the run has succeeded. -/
def Readable (s : Situation ι) : Prop :=
  ∀ run, s.run = some run → run.completion = .succeeded → ∃ rs, run.readResults = .ok rs

/-- The work in a situation is that of its record. -/
theorem workLeft_of_run {m : Markers} {s : Situation ι} {run : Run} (h : s.run = some run) :
    s.workLeft m = (run.standing m).workLeft := by
  simp only [workLeft, h]

/-- No situation calls for more than three changes. -/
theorem workLeft_le (m : Markers) (s : Situation ι) : s.workLeft m ≤ 3 := by
  unfold workLeft
  split
  · exact Nat.zero_le 3
  · exact Standing.workLeft_le _

/-- An invocation that has nothing to do changes nothing. -/
theorem mutated_of_rest? {m : Markers} {s : Situation ι} {action : Action}
    (h : s.rest? m = some action) : action.mutated = false := by
  unfold rest? at h
  split at h
  · cases h
    rfl
  · rename_i run _
    cases hphase : Phase.ofRun run m <;> rw [hphase] at h <;> cases h <;> rfl

/-- A read that has failed uses up a failure. -/
theorem faults_unreachable {s : Situation ι} (h : 0 < s.failingFetches) :
    s.unreachable.faults + 1 = s.faults := by
  simp only [faults, unreachable]
  omega

/-- A delivery that has failed uses up a failure of the sink. -/
theorem faults_refusing {s : Situation ι} (h : s.failures ≠ []) :
    s.refusing.faults + 1 = s.faults := by
  have := List.length_pos_of_ne_nil h
  simp only [faults, refusing, List.length_tail]
  omega

/-- A patch that has failed uses up a failure of its kind. -/
theorem faults_failing {s : Situation ι} {p : Patch} (h : p.label ∈ s.failingPatches) :
    (s.failing p).faults + 1 = s.faults := by
  have := List.length_pos_of_mem h
  simp only [faults, failing, List.length_erase_of_mem h]
  omega

/-- A patch that is applied uses up no fault. -/
@[simp] theorem faults_written (s : Situation ι) (p : Patch) : (s.written p).faults = s.faults := rfl

/-- A change that the record calls for is some of the work, also if the record goes with it. -/
theorem workLeft_written {m : Markers} {s : Situation ι} {run : Run} (hrun : s.run = some run)
    {write : Write} (hphase : Phase.ofRun run m = write.phase) :
    (s.written (write.patch m)).workLeft m < s.workLeft m := by
  have hless := (row_of_phase hphase).workLeft_lt
  rw [workLeft_of_run hrun]
  cases hspent : Store.isSpent ((write.patch m).apply run) with
  | true =>
    have hgone : (s.written (write.patch m)).run = none := by simp [written, hrun, hspent]
    simp only [workLeft, hgone]
    omega
  | false =>
    have hstays : (s.written (write.patch m)).run = some ((write.patch m).apply run) := by
      simp [written, hrun, hspent]
    rw [workLeft_of_run hstays]
    exact hless

variable [Interference ι]

/-- A patch that meets conflicts uses up the edits that make them. -/
theorem faults_overtaken {s : Situation ι} (p : Patch) {n : Nat} (h : n ≤ s.edits.length) :
    (s.overtaken p n).faults + n = s.faults := by
  simp only [faults, overtaken, List.length_drop]
  omega

/-- Edits that are harmless leave the work as it is. -/
theorem workLeft_overtaken {m : Markers} {s : Situation ι}
    (hharmless : ∀ x ∈ s.edits, Harmless m x) (p : Patch) (n : Nat) :
    (s.overtaken p n).workLeft m = s.workLeft m := by
  have htake := harmless_of_append hharmless (List.take_append_drop n s.edits).symm
  cases hrun : s.run with
  | none => simp [workLeft, overtaken, hrun]
  | some run => simp [workLeft, overtaken, hrun, standing_edited htake]

end Situation

section

variable [Interference ι] {r : Reconciler} {key : RunKey} {write : Write} {s s' : Situation ι}
  {ending : Ending}

/-- An invocation that patches the record uses up a fault or does some of the work. -/
theorem Patching.less (h : Patching r write s ending s') {run : Run} (hrun : s.run = some run)
    (hphase : Phase.ofRun run r.markers = write.phase)
    (hharmless : ∀ x ∈ s.edits, Harmless r.markers x) :
    ¬ending.Quiet ∧ s'.faults + s'.workLeft r.markers < s.faults + s.workLeft r.markers := by
  cases h with
  | failed e hl =>
    refine ⟨Ending.not_quiet_error _, ?_⟩
    have hfaults := Situation.faults_failing hl
    change _ + s.workLeft r.markers < _
    omega
  | exhausted ending hl hr hending =>
    refine ⟨Ending.not_quiet_of_ne hending, ?_⟩
    have hfaults := Situation.faults_overtaken (n := r.maxConflictRetries.toNat + 1)
      (write.patch r.markers) hr
    rw [Situation.workLeft_overtaken hharmless]
    omega
  | applied hl hr =>
    refine ⟨Ending.not_quiet_ofWrite write, ?_⟩
    have hfaults := Situation.faults_overtaken (s := s) (write.patch r.markers) le_rfl
    have hrun' : (s.overtaken (write.patch r.markers) s.edits.length).run
        = some (run.edited s.edits) := by
      simp [Situation.overtaken, hrun]
    have hwork := Situation.workLeft_written hrun' ((phase_edited hharmless run).trans hphase)
    rw [Situation.workLeft_overtaken hharmless] at hwork
    rw [Situation.faults_written]
    omega

/-- An invocation is quiet and leaves everything as it was, or it uses up a fault or does some of
the work. -/
theorem Visit.quiet_or_less (h : Visit r key s ending s')
    (hharmless : ∀ x ∈ s.edits, Harmless r.markers x) (hreadable : s.Readable) :
    (∃ action, action.mutated = false ∧ ending = .returned (.ok (.done action)) ∧ s' = s ∧
        s.failingFetches = 0 ∧ s.rest? r.markers = some action) ∨
      ¬ending.Quiet ∧ s'.faults + s'.workLeft r.markers < s.faults + s.workLeft r.markers := by
  cases h with
  | unreachable e hf =>
    refine Or.inr ⟨Ending.not_quiet_error _, ?_⟩
    have hfaults := Situation.faults_unreachable hf
    change _ + s.workLeft r.markers < _
    omega
  | rest action hf hrest => exact Or.inl ⟨action, Situation.mutated_of_rest? hrest, rfl, rfl, hf, hrest⟩
  | unreadable run e hf hrun hphase hresults =>
    obtain ⟨-, -, hcompletion⟩ := standing_of_phase (w := .setMarker) hphase
    obtain ⟨rs, hrs⟩ := hreadable run hrun hcompletion
    rw [hrs] at hresults
    cases hresults
  | undelivered run e hf hrun hphase hfailures =>
    refine Or.inr ⟨Ending.not_quiet_error _, ?_⟩
    have hfaults := Situation.faults_refusing hfailures
    change _ + s.workLeft r.markers < _
    omega
  | notified run rs now ending s' hf hrun hphase hresults hpatching =>
    exact Or.inr (hpatching.less hrun hphase hharmless)
  | guarded run write ending s' hf hrun hwrite hphase hpatching =>
    exact Or.inr (hpatching.less hrun hphase hharmless)

/-- A record that calls for nothing lets an invocation go in one way only. -/
theorem Visit.of_rest? (h : Visit r key s ending s') (hf : s.failingFetches = 0) {action : Action}
    (hrest : s.rest? r.markers = some action) :
    ending = .returned (.ok (.done action)) ∧ s' = s := by
  have hphases : ∀ run, s.run = some run → ∀ write : Write,
      Phase.ofRun run r.markers ≠ write.phase := by
    intro run hrun write hphase
    rw [Situation.rest?_of_run hrun, hphase, Write.rest?_phase] at hrest
    cases hrest
  cases h with
  | unreachable e hpos => omega
  | rest action' _ hrest' =>
    obtain rfl := Option.some.inj (hrest.symm.trans hrest')
    exact ⟨rfl, rfl⟩
  | unreadable run e _ hrun hphase _ => exact absurd hphase (hphases run hrun .setMarker)
  | undelivered run e _ hrun hphase _ => exact absurd hphase (hphases run hrun .setMarker)
  | notified run rs now ending s' _ hrun hphase _ _ =>
    exact absurd hphase (hphases run hrun .setMarker)
  | guarded run write ending s' _ hrun _ hphase _ => exact absurd hphase (hphases run hrun write)

/-- Only edits that were queued before are queued after an invocation. -/
theorem Turn.mem_edits (h : Turn r key s s') {x : ι} (hx : x ∈ s'.edits) : x ∈ s.edits := by
  cases h with
  | kept consumed hedits => exact hedits ▸ List.mem_append_right consumed hx
  | unrecorded consumed run payload hedits => exact hedits ▸ List.mem_append_right consumed hx
  | changed run write payloads hedits =>
    rw [hedits] at hx
    cases hx

/-- An invocation leaves the results of a record that has succeeded as readable as they were. -/
theorem Turn.readable (h : Turn r key s s') (hharmless : ∀ x ∈ s.edits, Harmless r.markers x)
    (hreadable : s.Readable) : s'.Readable := by
  have hedited : ∀ consumed, s.edits = consumed ++ s'.edits → ∀ run, s.run = some run →
      (run.edited consumed).completion = .succeeded →
      ∃ rs, (run.edited consumed).readResults = .ok rs := by
    intro consumed hedits run hrun hcompletion
    have hconsumed := harmless_of_append hharmless hedits
    rw [completion_edited hconsumed] at hcompletion
    rw [readResults_edited hconsumed]
    exact hreadable run hrun hcompletion
  intro run' hrun' hcompletion
  cases h with
  | kept consumed hedits hrun =>
    rw [hrun, Option.map_eq_some_iff] at hrun'
    obtain ⟨run, hstart, rfl⟩ := hrun'
    exact hedited consumed hedits run hstart hcompletion
  | unrecorded consumed run payload hedits hrun hphase hrun₁ =>
    obtain rfl := Option.some.inj (hrun'.symm.trans hrun₁)
    exact hedited consumed hedits run hrun hcompletion
  | changed run write payloads hedits hrun hphase hrun₁ =>
    rw [hrun₁] at hrun'
    split at hrun'
    · cases hrun'
    · obtain rfl := Option.some.inj hrun'
      have hagrees := agreesBeside_of_write r.markers write (run.edited s.edits)
      rw [← hagrees.completion] at hcompletion
      rw [← hagrees.readResults_eq]
      exact hedited s.edits (by simp [hedits]) run hrun hcompletion

end

/-! ## One invocation after another -/

/-- A plain world in which the queued edits are harmless to a reconciler, and in which it can read
the results of a run. -/
structure World.Benign [Interference ι] (w : World ι) (r : Reconciler) (key : RunKey) : Prop
    extends w.Plain where
  harmless : ∀ x ∈ w.store.interference, Harmless r.markers x
  readable : (w.situation key).Readable

namespace World

variable [Interference ι] {r : Reconciler} {key : RunKey} {w : World ι}

/-- An invocation in a benign world goes in one of the ways of `Visit`, and leaves the world benign.
-/
theorem Benign.visit (h : w.Benign r key) :
    (w.reconcile r key false).2.Benign r key ∧
      Visit r key (w.situation key) (w.reconcile r key false).1
        ((w.reconcile r key false).2.situation key) := by
  obtain ⟨hshows, hvisit⟩ := visit_of_reconcile key h.toPlain h.harmless
  have hturn := hvisit.turn
  refine ⟨{ hshows.toPlain with harmless := ?_, readable := ?_ }, hvisit⟩
  · intro edits he
    exact h.harmless edits (hturn.mem_edits he)
  · exact hturn.readable h.harmless h.readable

/-- The world after so many invocations for a run, each with a token that is not cancelled. -/
def visited (r : Reconciler) (key : RunKey) (w : World ι) : Nat → World ι
  | 0 => w
  | n + 1 => ((visited r key w n).reconcile r key false).2

/-- Invocations can be made in two batches. -/
theorem visited_add (w : World ι) (m n : Nat) :
    w.visited r key (m + n) = (w.visited r key m).visited r key n := by
  induction n with
  | zero => rfl
  | succ n ih => rw [← Nat.add_assoc, visited, ih, visited]

/-- The first invocation can be set apart from the others. -/
theorem visited_succ (w : World ι) (n : Nat) :
    w.visited r key (n + 1) = (w.reconcile r key false).2.visited r key n := by
  rw [Nat.add_comm, visited_add]
  rfl

/-- Any number of invocations leaves a benign world benign. -/
theorem Benign.visited (h : w.Benign r key) (n : Nat) : (w.visited r key n).Benign r key := by
  induction n with
  | zero => exact h
  | succ n ih => exact ih.visit.1

/-- A quiet invocation comes soon. -/
theorem exists_quiet (h : w.Benign r key) :
    ∃ n ≤ (w.situation key).faults + (w.situation key).workLeft r.markers,
      (∀ k < n, ¬((w.visited r key k).reconcile r key false).1.Quiet) ∧
        ((w.visited r key n).reconcile r key false).1.Quiet := by
  -- faults and work may be used up in any order, but never does their sum stay as it is
  generalize hm : (w.situation key).faults + (w.situation key).workLeft r.markers = m
  induction m using Nat.strongRecOn generalizing w with
  | ind m ih =>
    obtain ⟨hnext, hvisit⟩ := h.visit
    rcases hvisit.quiet_or_less h.harmless h.readable with
      ⟨action, haction, hending, -⟩ | ⟨hnot, hless⟩
    · exact ⟨0, Nat.zero_le _, by simp, _, hending, haction⟩
    · obtain ⟨n, hn, hbefore, hquiet⟩ := ih _ (hm ▸ hless) hnext rfl
      refine ⟨n + 1, by omega, ?_, ?_⟩
      · intro k hk
        cases k with
        | zero => exact hnot
        | succ k =>
          rw [visited_succ]
          exact hbefore k (Nat.lt_of_succ_lt_succ hk)
      · rw [visited_succ]
        exact hquiet

/-- After a quiet invocation every other one goes in the same way, and nothing changes any more. -/
theorem quiet_stays (h : w.Benign r key) (hquiet : (w.reconcile r key false).1.Quiet) :
    ∃ action, action.mutated = false ∧ (w.situation key).rest? r.markers = some action ∧
      ∀ n, ((w.visited r key n).reconcile r key false).1 = .returned (.ok (.done action)) ∧
        (w.visited r key n).situation key = w.situation key := by
  obtain ⟨action, haction, -, -, hf, hrest⟩ :=
    (h.visit.2.quiet_or_less h.harmless h.readable).resolve_right fun hless => hless.1 hquiet
  -- the record calls for nothing and can be read, so each further invocation finds it so again
  have hsituation : ∀ n, (w.visited r key n).situation key = w.situation key := by
    intro n
    induction n with
    | zero => rfl
    | succ n ih =>
      have hvisit := (h.visited n).visit.2
      rw [ih] at hvisit
      exact (hvisit.of_rest? hf hrest).2
  refine ⟨action, haction, hrest, ?_⟩
  intro n
  have hvisit := (h.visited n).visit.2
  rw [hsituation n] at hvisit
  exact ⟨(hvisit.of_rest? hf hrest).1, hsituation n⟩

end World

end RunHerald
