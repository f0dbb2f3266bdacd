import RunHerald.Proofs.Reconcile.Cancellation
import RunHerald.Proofs.Reconcile.NoSilentDrop

/-!
# The budget of conflicts

An invocation that may put up with so many conflicts makes at most one read and one change more than
that, since each conflict leads to one more of both: `Stage.Spent` is what it has spent when it
waits. The conflict beyond its budget ends it (`end_of_last_conflict`), and so does nothing else
with that error (`conflicts_of_exhausted`).

Conflicts are counted in 32 bits. The count is compared after it has gone up, so it needs room for
one conflict more than an invocation puts up with. It has that room with every setting that can be
loaded but the greatest: with that one, an invocation that never gets to write aborts.
-/

set_option autoImplicit false

namespace RunHerald

variable {σ : Type}

/-- Whether a call reads the record. -/
def Call.isRead : Call → Bool
  | .fetch .. => true
  | _ => false

/-- Whether a call tries to change the record. -/
def Call.isChange : Call → Bool
  | .patch .. => true
  | _ => false

/-- A conflict is met by a change. -/
theorem Call.isChange_of_isConflict {call : Call} (h : call.isConflict = true) :
    call.isChange = true := by
  cases call with
  | fetch key answer => cases h
  | deliver payload answer => cases h
  | patch key expected p answer => rfl

/-- A conflict is the answer to a patch. -/
theorem Call.exists_of_isConflict {call : Call} (h : call.isConflict = true) :
    ∃ key expected p current, call = .patch key expected p (.done (.conflict current)) := by
  unfold isConflict at h
  split at h
  · exact ⟨_, _, _, _, rfl⟩
  · cases h

/-- There are no more conflicts than changes. -/
theorem countP_isConflict_le (calls : List Call) :
    calls.countP Call.isConflict ≤ calls.countP Call.isChange :=
  List.countP_mono_left fun _ _ => Call.isChange_of_isConflict

/-- Changes that have all met a conflict are as many as the conflicts. -/
theorem countP_isChange_of_conflicts {calls : List Call}
    (h : ∀ call ∈ calls, call.isChange = true → call.isConflict = true) :
    calls.countP Call.isChange = calls.countP Call.isConflict :=
  List.countP_congr fun call hmem => ⟨h call hmem, Call.isChange_of_isConflict⟩

/-- As many conflicts as changes are conflicts of all of them. -/
theorem conflicts_of_countP {calls : List Call}
    (h : calls.countP Call.isChange ≤ calls.countP Call.isConflict) :
    ∀ call ∈ calls, call.isChange = true → call.isConflict = true := by
  induction calls with
  | nil => simp
  | cons call calls ih =>
    have hrest := countP_isConflict_le calls
    rw [List.countP_cons, List.countP_cons] at h
    by_cases hconflict : call.isConflict = true
    · rw [if_pos hconflict, if_pos (Call.isChange_of_isConflict hconflict)] at h
      exact List.forall_mem_cons.2 ⟨fun _ => hconflict, ih (by omega)⟩
    -- a change without a conflict would leave more conflicts than changes among the other calls
    · by_cases hchange : call.isChange = true
      · rw [if_pos hchange, if_neg hconflict] at h
        omega
      · rw [if_neg hchange, if_neg hconflict] at h
        exact List.forall_mem_cons.2 ⟨fun h => absurd h hchange, ih (by omega)⟩

/-! ## What is spent at each call -/

/-- The reads that an invocation is ahead of its conflicts when it waits. -/
def Stage.ahead : Stage → Nat
  | .fetch _ => 0
  | .deliver .. => 1
  | .write .. => 1

/-- An invocation that waits has met as many conflicts as it has counted, and is within its budget.
Every change so far has met a conflict, and each conflict has cost one read. -/
structure Stage.Spent (limit : Nat) (before : List Call) (stage : Stage) : Prop where
  conflicts : before.countP Call.isConflict = stage.progress.conflicts
  met : ∀ call ∈ before, call.isChange = true → call.isConflict = true
  reads : before.countP Call.isRead = stage.progress.conflicts + stage.ahead
  within : stage.progress.conflicts ≤ limit

/-- At the start no retry is spent. -/
theorem Stage.spent_start (limit : Nat) : (Stage.fetch .start).Spent limit [] where
  conflicts := rfl
  met := by simp
  reads := rfl
  within := Nat.zero_le limit

/-- A conflict is counted, and makes up for the read before it. -/
theorem Stage.Passes.spends {r : Reconciler} {key : RunKey} {reads : Bool → Prop}
    {stage next : Stage} {call : Call} (h : stage.Passes r key reads call next) :
    next.progress.conflicts = stage.progress.conflicts + [call].countP Call.isConflict ∧
      stage.ahead + [call].countP Call.isRead = next.ahead + [call].countP Call.isConflict ∧
      (call.isChange = true → call.isConflict = true) ∧
      (next.progress.conflicts = stage.progress.conflicts ∨
        next.progress.conflicts ≤ r.maxConflictRetries.toNat) := by
  cases h with
  | announced => exact ⟨rfl, rfl, by simp [Call.isChange], Or.inl rfl⟩
  | warranted => exact ⟨rfl, rfl, by simp [Call.isChange], Or.inl rfl⟩
  | accepted => exact ⟨rfl, rfl, by simp [Call.isChange], Or.inl rfl⟩
  | overtaken p snapshot w current cancelled hc hlimit =>
    exact ⟨rfl, rfl, fun _ => rfl, Or.inr hlimit⟩

/-- Every call keeps to the retries that are spent. -/
theorem Stage.Spent.step {r : Reconciler} {key : RunKey} {reads : Bool → Prop} {before : List Call}
    {stage next : Stage} {call : Call} (h : stage.Spent r.maxConflictRetries.toNat before)
    (hcall : stage.Passes r key reads call next) :
    next.Spent r.maxConflictRetries.toNat (before ++ [call]) := by
  obtain ⟨hconflicts, hahead, hmet, hwithin⟩ := hcall.spends
  have hcounted := h.conflicts
  have hreads := h.reads
  constructor
  case conflicts =>
    rw [List.countP_append]
    omega
  case met =>
    intro c hc
    obtain hc | hc := List.mem_append.1 hc
    · exact h.met c hc
    · obtain rfl := List.mem_singleton.1 hc
      exact hmet
  case reads =>
    rw [List.countP_append]
    omega
  case within =>
    obtain hsame | hle := hwithin
    · exact hsame ▸ h.within
    · exact hle

/-- An invocation that is ahead by a read does not read. -/
theorem Stage.Calls.ahead_le {r : Reconciler} {key : RunKey} {reads : Bool → Prop} {stage : Stage}
    {call : Call} {next : Move} (h : stage.Calls r key reads call next) :
    stage.ahead + [call].countP Call.isRead ≤ 1 := by
  cases h with
  | fetch => exact Nat.le_refl 1
  | deliver => exact Nat.le_refl 1
  | write => exact Nat.le_refl 1

/-! ## The conflict beyond the budget -/

/-- How an invocation ends with one conflict more than it puts up with. -/
def exhaustion (limit : Nat) : Ending :=
  if limit + 1 < conflictLimit then .returned (.error (.conflictsExhausted (limit + 1)))
  else .aborted countOverflow

/-- With any limit but the greatest an invocation ends with the error of exhausted retries. -/
theorem exhaustion_of_lt {limit : Nat} (h : limit < 2 ^ 32 - 1) :
    exhaustion limit = .returned (.error (.conflictsExhausted (limit + 1))) := by
  have hlt : limit + 1 < conflictLimit := by
    change limit + 1 < 2 ^ 32
    omega
  rw [exhaustion, if_pos hlt]

/-- With the greatest limit an invocation aborts, since it cannot count on. -/
theorem exhaustion_greatest : exhaustion (2 ^ 32 - 1) = .aborted countOverflow := rfl

namespace Reconciler

/-- An invocation that has used up its budget ends with the next conflict. -/
theorem finish_of_conflict {r : Reconciler} {p : Progress}
    (h : p.conflicts = r.maxConflictRetries.toNat) (cancelled : Bool) (snapshot : Snapshot)
    (w : Write) (current : String) :
    (r.written p cancelled snapshot w (.done (.conflict current))).2
      = .finish (exhaustion r.maxConflictRetries.toNat) := by
  simp only [written, conflicted, exhaustion, h]
  by_cases hfull : conflictLimit ≤ r.maxConflictRetries.toNat + 1
  · rw [if_pos hfull, if_neg (Nat.not_lt.2 hfull)]
  · rw [if_neg hfull, if_pos (Nat.lt_succ_self _), if_pos (Nat.not_le.1 hfull)]
    rfl

variable (r : Reconciler) (env : Environment σ) (cancelled : σ × List Call → Bool) (key : RunKey)
  (s : σ)

/-- At every call, an invocation has spent its budget as `Stage.Spent` says. -/
theorem spent_of_call {before after : List Call} {call : Call}
    (hcalls : (r.reconcile (env.traced cancelled) key (s, [])).2.2 = before ++ call :: after) :
    ∃ (stage : Stage) (next : Move), stage.Spent r.maxConflictRetries.toNat before ∧
      stage.Calls r key (fun _ => True) call next ∧
      Course r key (fun _ _ => True) (before.length + 1) next after
        (r.reconcile (env.traced cancelled) key (s, [])).1 :=
  stage_of_call r env cancelled key (fun _ _ => True) (fun _ => trivial) s
    (Stage.Spent r.maxConflictRetries.toNat) (fun _ => Stage.spent_start _)
    (fun _ _ _ _ h hcall => h.step hcall) hcalls

/-- An invocation makes at most one read and one change more than it puts up with conflicts. -/
theorem counts_le :
    let calls := (r.reconcile (env.traced cancelled) key (s, [])).2.2
    calls.countP Call.isRead ≤ r.maxConflictRetries.toNat + 1 ∧
      calls.countP Call.isChange ≤ r.maxConflictRetries.toNat + 1 := by
  intro calls
  obtain hnil | ⟨before, call, hcalls⟩ := List.eq_nil_or_concat' calls
  · simp [hnil]
  -- everything before the last call is counted by its stage, and the last call adds at most one
  · obtain ⟨stage, next, hspent, hcall, -⟩ := spent_of_call r env cancelled key s hcalls
    have hreads := hspent.reads
    have hread := hcall.ahead_le
    have hchanges := (countP_isChange_of_conflicts hspent.met).trans hspent.conflicts
    have hchange : [call].countP Call.isChange ≤ 1 := List.countP_le_length
    have hwithin := hspent.within
    rw [hcalls, List.countP_append, List.countP_append]
    omega

/-- The conflict beyond the budget is the last call. -/
theorem end_of_last_conflict {before after : List Call} {call : Call}
    (hcalls : (r.reconcile (env.traced cancelled) key (s, [])).2.2 = before ++ call :: after)
    (hcall : call.isConflict = true)
    (hbefore : before.countP Call.isConflict = r.maxConflictRetries.toNat) :
    after = [] ∧ (r.reconcile (env.traced cancelled) key (s, [])).1
      = exhaustion r.maxConflictRetries.toNat := by
  obtain ⟨stage, next, hspent, hstage, hrest⟩ := spent_of_call r env cancelled key s hcalls
  obtain ⟨_, _, _, current, rfl⟩ := Call.exists_of_isConflict hcall
  have hused := hspent.conflicts.symm.trans hbefore
  cases hstage with
  | write p snapshot w _ cancelled hc =>
    rw [finish_of_conflict (p := p) hused] at hrest
    generalize (r.reconcile (env.traced _) key (s, [])).1 = ending at hrest
    cases hrest
    exact ⟨rfl, rfl⟩

/-- As many conflicts as go beyond the budget end an invocation. -/
theorem end_of_conflicts
    (h : (r.reconcile (env.traced cancelled) key (s, [])).2.2.countP Call.isConflict
      = r.maxConflictRetries.toNat + 1) :
    (r.reconcile (env.traced cancelled) key (s, [])).1
      = exhaustion r.maxConflictRetries.toNat := by
  obtain hnil | ⟨before, call, hcalls⟩ :=
    List.eq_nil_or_concat' (r.reconcile (env.traced cancelled) key (s, [])).2.2
  · simp [hnil] at h
  · obtain ⟨stage, next, hspent, -, -⟩ := spent_of_call r env cancelled key s hcalls
    have hconflicts := hspent.conflicts
    have hwithin := hspent.within
    rw [hcalls, List.countP_append, List.countP_singleton] at h
    by_cases hcall : call.isConflict = true
    · rw [if_pos hcall] at h
      exact (end_of_last_conflict r env cancelled key s hcalls hcall (by omega)).2
    · rw [if_neg hcall] at h
      omega

/-- An invocation gives up only over as many conflicts as go beyond its budget. -/
theorem conflicts_of_exhausted {attempts : Nat}
    (h : (r.reconcile (env.traced cancelled) key (s, [])).1
      = .returned (.error (.conflictsExhausted attempts))) :
    attempts = r.maxConflictRetries.toNat + 1 ∧
      (r.reconcile (env.traced cancelled) key (s, [])).2.2.countP Call.isConflict
        = r.maxConflictRetries.toNat + 1 := by
  obtain ⟨-, hcancelled⟩ | ⟨before, call, hcalls, -, hlast⟩ :=
    concluded_of_reconcile r env cancelled key s
  · cases h.symm.trans hcancelled
  · rw [h] at hlast
    rw [hcalls, List.countP_append, List.countP_singleton]
    generalize hending : Ending.returned (.error (.conflictsExhausted attempts)) = ending at hlast
    cases hlast with
    | fetch cancelled answer _ h =>
      subst hending
      cases h
    | deliver snapshot payload answer _ hshown hphase h =>
      subst hending
      cases h
    | write p cancelled snapshot w answer _ hconflicts hlimit hshown hphase h =>
      subst hending
      cases h with
      | exhausted current hbeyond =>
        simp only [Call.isConflict, if_true]
        omega

end Reconciler

/-! ## Within the budget -/

/-- The calls and the end of an invocation that may put up with so many conflicts. -/
structure WithinBudget (limit : Nat) (calls : List Call) (ending : Ending) : Prop where
  reads : calls.countP Call.isRead ≤ limit + 1
  changes : calls.countP Call.isChange ≤ limit + 1
  /-- The invocation gives up exactly if it has tried so many changes and each has met a conflict. -/
  exhausted : (∃ attempts, ending = .returned (.error (.conflictsExhausted attempts))) ↔
    calls.countP Call.isChange = limit + 1 ∧
      ∀ call ∈ calls, call.isChange = true → call.isConflict = true
  attempts : ∀ attempts, ending = .returned (.error (.conflictsExhausted attempts)) →
    attempts = limit + 1 ∧ ∀ call ∈ calls, ∀ p, ¬ call.Applies p
  /-- The conflict after so many ends it. Without patience that is the first one. -/
  last : ∀ before call after, calls = before ++ call :: after → call.isConflict = true →
    before.countP Call.isConflict = limit →
    after = [] ∧ ending = .returned (.error (.conflictsExhausted (limit + 1)))
  /-- It aborts only if its last call does. -/
  aborts : ∀ message, ending = .aborted message →
    ∃ call, calls.getLast? = some call ∧ call.AbortsWith message

/-- A conflict changes nothing. -/
theorem Call.not_applies_of_isConflict {call : Call} (h : call.isChange = true → call.isConflict = true)
    (p : Patch) : ¬ call.Applies p := by
  rintro ⟨k, expected, version, rfl⟩
  cases h rfl

namespace Reconciler

variable (r : Reconciler) (env : Environment σ) (cancelled : σ × List Call → Bool) (key : RunKey)
  (s : σ)

/-- An invocation that gives up has tried as many changes as its budget allows, with a conflict
each. -/
theorem changes_of_exhausted {attempts : Nat}
    (h : (r.reconcile (env.traced cancelled) key (s, [])).1
      = .returned (.error (.conflictsExhausted attempts))) :
    let calls := (r.reconcile (env.traced cancelled) key (s, [])).2.2
    calls.countP Call.isChange = r.maxConflictRetries.toNat + 1 ∧
      ∀ call ∈ calls, call.isChange = true → call.isConflict = true := by
  intro calls
  have hchanges : calls.countP Call.isChange ≤ r.maxConflictRetries.toNat + 1 :=
    (counts_le r env cancelled key s).2
  have hconflicts : calls.countP Call.isConflict = r.maxConflictRetries.toNat + 1 :=
    (conflicts_of_exhausted r env cancelled key s h).2
  have hmet := conflicts_of_countP (hchanges.trans hconflicts.ge)
  exact ⟨(countP_isChange_of_conflicts hmet).trans hconflicts, hmet⟩

/-- An invocation whose counter has room for all the conflicts it puts up with, and for one more,
aborts only if its last call does. -/
theorem aborts_of_call (hlimit : r.maxConflictRetries.toNat < 2 ^ 32 - 1) {message : String}
    (h : (r.reconcile (env.traced cancelled) key (s, [])).1 = .aborted message) :
    ∃ call, (r.reconcile (env.traced cancelled) key (s, [])).2.2.getLast? = some call ∧
      call.AbortsWith message := by
  obtain ⟨-, hcancelled⟩ | ⟨before, call, hcalls, -, hlast⟩ :=
    concluded_of_reconcile r env cancelled key s
  · cases h.symm.trans hcancelled
  · rw [h] at hlast
    obtain haborts | ⟨-, -, -, hfull⟩ := hlast.aborts
    · rw [hcalls]
      exact ⟨call, List.getLast?_concat, haborts⟩
    · change r.maxConflictRetries.toNat + 1 = 2 ^ 32 at hfull
      omega

/-- Whatever the store, the sink and the token do, an invocation keeps within its budget of
conflicts, and gives up exactly if every change that the budget allows has met one. -/
theorem conflicts_stay_within_budget (hlimit : r.maxConflictRetries.toNat < 2 ^ 32 - 1) :
    WithinBudget r.maxConflictRetries.toNat
      (r.reconcile (env.traced cancelled) key (s, [])).2.2
      (r.reconcile (env.traced cancelled) key (s, [])).1 where
  reads := (counts_le r env cancelled key s).1
  changes := (counts_le r env cancelled key s).2
  exhausted := by
    constructor
    · rintro ⟨attempts, h⟩
      exact changes_of_exhausted r env cancelled key s h
    · rintro ⟨hchanges, hmet⟩
      have hconflicts := (countP_isChange_of_conflicts hmet).symm.trans hchanges
      have hending := end_of_conflicts r env cancelled key s hconflicts
      exact ⟨_, hending.trans (exhaustion_of_lt hlimit)⟩
  attempts := by
    intro attempts h
    have hmet := (changes_of_exhausted r env cancelled key s h).2
    exact ⟨(conflicts_of_exhausted r env cancelled key s h).1,
      fun call hmem => Call.not_applies_of_isConflict (hmet call hmem)⟩
  last := by
    intro before call after hcalls hcall hbefore
    obtain ⟨hafter, hending⟩ :=
      end_of_last_conflict r env cancelled key s hcalls hcall hbefore
    exact ⟨hafter, hending.trans (exhaustion_of_lt hlimit)⟩
  aborts := by
    intro message h
    exact aborts_of_call r env cancelled key s hlimit h

/-- An invocation that puts up with one conflict gives up with the second, although the first was
over the guard and the second, after a delivery, over the marker. -/
theorem conflicts_stay_within_budget_over_delivery :
    let a : RunKey := ⟨"ci", "a"⟩
    let r : Reconciler := ⟨"sink", .standard, 1, default, default⟩
    let fresh := (Run.new a).withResults [⟨"verdict", "pass"⟩]
    let ready := fresh.withFinalizer "notification.guard"
    let env : Environment Nat :=
      { cancelled := fun _ => false
        now := fun _ => default
        emit := fun _ n => n
        fetch := fun _ n => (.done (some (if n = 0 then ⟨fresh, "1"⟩ else ⟨ready, "2"⟩)), n)
        patch := fun _ _ _ n => (.done (.conflict (if n = 0 then "2" else "3")), n + 1)
        deliver := fun _ n => (.result (.ok ()), n) }
    let out := r.reconcile (env.traced fun _ => false) a (0, [])
    out.2.2.countP Call.isRead = 2 ∧ out.2.2.countP Call.isChange = 2 ∧
      out.1 = .returned (.error (.conflictsExhausted 2)) := by
  intro a r fresh ready env out
  let rs : List RunResult := [⟨"verdict", "pass"⟩]
  let marker : Patch := .annotate "notification.sent" "true"
  let first : Call := .fetch a (.done (some ⟨fresh, "1"⟩))
  let guarded : Call := .patch a "1" (.addFinalizer "notification.guard") (.done (.conflict "2"))
  let second : Call := .fetch a (.done (some ⟨ready, "2"⟩))
  let delivery : Call := .deliver (Payload.new a rs default) (.result (.ok ()))
  let marked : Call := .patch a "2" marker (.done (.conflict "3"))
  let go := r.drive (env.traced fun _ => false) a
  have hdrive : go (.wait (.fetch ⟨none, 0⟩)) (0, []) =
      (.returned (.error (.conflictsExhausted 2)), 2, [first, guarded, second, delivery, marked]) := by
    calc go (.wait (.fetch ⟨none, 0⟩)) (0, [])
        = go (.wait (.write ⟨none, 0⟩ ⟨fresh, "1"⟩ .addGuard)) (0, [first]) := drive_wait _ _ _ _ _
      _ = go (.wait (.fetch ⟨none, 1⟩)) (1, [first, guarded]) := drive_wait _ _ _ _ _
      _ = go (.wait (.deliver ⟨none, 1⟩ ⟨ready, "2"⟩ rs)) (1, [first, guarded, second]) :=
        drive_wait _ _ _ _ _
      _ = go (.wait (.write ⟨some rs, 1⟩ ⟨ready, "2"⟩ .setMarker))
            (1, [first, guarded, second, delivery]) := drive_wait _ _ _ _ _
      _ = go (.finish (.returned (.error (.conflictsExhausted 2))))
            (2, [first, guarded, second, delivery, marked]) := drive_wait _ _ _ _ _
      _ = _ := drive_finish _ _ _ _ _
  have hout : out = (.returned (.error (.conflictsExhausted 2)), 2,
      [first, guarded, second, delivery, marked]) := by
    refine (reconcile_of_drive hdrive).trans ?_
    rw [Environment.emitAll_traced]
    rfl
  have hcalls := congrArg (fun out => out.2.2) hout
  have hbudget : WithinBudget 1 out.2.2 out.1 :=
    conflicts_stay_within_budget r env (fun _ => false) a 0 (by decide)
  rw [hcalls] at hbudget ⊢
  obtain ⟨-, hending⟩ := hbudget.last [first, guarded, second, delivery] marked [] rfl rfl rfl
  exact ⟨rfl, rfl, hending⟩

end Reconciler

/-! ## An invocation that never gets to write -/

/-- Every change is overtaken: each read shows a record that calls for a change, with results that
can be read where they are to be announced, and each change meets a conflict. -/
structure Environment.Contested (env : Environment σ) (m : Markers) : Prop where
  fetch : ∀ key s, ∃ snapshot w, (env.fetch key s).1 = .done (some snapshot) ∧
    Phase.ofRun snapshot.run m = Write.phase w ∧
    (w = .setMarker → ∃ rs, snapshot.run.readResults = .ok rs)
  deliver : ∀ payload s, (env.deliver payload s).1 = .result (.ok ())
  patch : ∀ key expected p s, ∃ current, (env.patch key expected p s).1 = .done (.conflict current)

/-- A move on the way to the conflict beyond the budget, after some calls. -/
def Move.Loses (limit : Nat) (calls : List Call) : Move → Prop
  | .wait stage => calls.countP Call.isConflict = stage.progress.conflicts ∧
      stage.progress.conflicts ≤ limit
  | .finish ending => calls.countP Call.isConflict = limit + 1 ∧ ending = exhaustion limit

namespace Reconciler

variable {r : Reconciler}

/-- A live invocation that reads a record that calls for a change goes on. -/
theorem wait_of_called_for {snapshot : Snapshot} {w : Write}
    (hphase : Phase.ofRun snapshot.run r.markers = w.phase)
    (hresults : w = .setMarker → ∃ rs, snapshot.run.readResults = .ok rs) (p : Progress) :
    ∃ stage, (r.fetched p false (.done (some snapshot))).2 = .wait stage ∧ stage.progress = p := by
  simp only [fetched, hphase]
  cases w with
  | addGuard => exact ⟨_, rfl, rfl⟩
  | release => exact ⟨_, rfl, rfl⟩
  | releaseAnomalous => exact ⟨_, rfl, rfl⟩
  | setMarker =>
    obtain ⟨rs, hrs⟩ := hresults rfl
    by_cases hdelivered : p.delivered = some rs
    · exact ⟨.write p snapshot .setMarker, by simp [Write.phase, decide, announce, hrs, hdelivered],
        rfl⟩
    · exact ⟨.deliver p snapshot rs, by simp [Write.phase, decide, announce, hrs, hdelivered], rfl⟩

/-- A live invocation that meets a conflict within its budget reads again. -/
theorem wait_of_conflict {p : Progress} (h : p.conflicts < r.maxConflictRetries.toNat)
    (snapshot : Snapshot) (w : Write) (current : String) :
    (r.written p false snapshot w (.done (.conflict current))).2
      = .wait (.fetch { p with conflicts := p.conflicts + 1 }) := by
  have hbounded : r.maxConflictRetries.toNat < conflictLimit := r.maxConflictRetries.toNat_lt_size
  have hroom : ¬ conflictLimit ≤ p.conflicts + 1 := by omega
  have hwithin : ¬ r.maxConflictRetries.toNat < p.conflicts + 1 := by omega
  simp [written, conflicted, resume, hroom, hwithin]

variable {env : Environment σ} {cancelled : σ × List Call → Bool}

/-- Where every change meets a conflict, a step leads on to the next conflict or to the end. -/
theorem loses_of_advance (henv : env.Contested r.markers) (hlive : ∀ s, cancelled s = false)
    (key : RunKey) {stage : Stage} (s : σ × List Call)
    (h : (Move.wait stage).Loses r.maxConflictRetries.toNat s.2) :
    (r.advance (env.traced cancelled) key stage s).1.Loses r.maxConflictRetries.toNat
      (r.advance (env.traced cancelled) key stage s).2.2 := by
  obtain ⟨hcount, hle⟩ := h
  cases stage with
  | fetch p =>
    obtain ⟨snapshot, w, hanswer, hphase, hresults⟩ := henv.fetch key s.1
    obtain ⟨stage, hnext, hprogress⟩ := wait_of_called_for hphase hresults p
    simp only [advance_traced_fetch, hanswer, hlive, hnext]
    rw [Move.Loses, hprogress]
    exact ⟨by simpa [Call.isConflict, Stage.progress] using hcount, hle⟩
  | deliver p snapshot rs =>
    simp only [advance_traced_deliver, henv.deliver]
    exact ⟨by simpa [Call.isConflict, Stage.progress] using hcount, hle⟩
  | write p snapshot w =>
    obtain ⟨current, hanswer⟩ := henv.patch key snapshot.version (w.patch r.markers) s.1
    have hcount' : (s.2 ++ [Call.patch key snapshot.version (w.patch r.markers)
        (.done (.conflict current))]).countP Call.isConflict = p.conflicts + 1 := by
      simpa [Call.isConflict, Stage.progress] using hcount
    simp only [advance_traced_write, hanswer, hlive]
    -- the conflict is the one beyond the budget, or is within it and leads back to a read
    obtain hspent | hleft := Nat.eq_or_lt_of_le hle
    · rw [finish_of_conflict (p := p) hspent]
      exact ⟨hcount'.trans (congrArg (· + 1) hspent), rfl⟩
    · rw [wait_of_conflict (p := p) hleft]
      exact ⟨hcount', hleft⟩

/-- Where every change meets a conflict, an invocation uses up its retries. -/
theorem loses_of_drive (henv : env.Contested r.markers) (hlive : ∀ s, cancelled s = false)
    (key : RunKey) (move : Move) (s : σ × List Call)
    (h : move.Loses r.maxConflictRetries.toNat s.2) :
    (r.drive (env.traced cancelled) key move s).2.2.countP Call.isConflict
        = r.maxConflictRetries.toNat + 1 ∧
      (r.drive (env.traced cancelled) key move s).1 = exhaustion r.maxConflictRetries.toNat := by
  induction move, s using drive_induction r (env.traced cancelled) key with
  | finish ending s =>
    rw [drive_finish]
    exact h
  | step stage s ih =>
    rw [drive_wait]
    exact ih (loses_of_advance henv hlive key s h)

/-- A live invocation that never gets to write meets one conflict more than it puts up with. -/
theorem conflicts_of_contested (henv : env.Contested r.markers) (hlive : ∀ s, cancelled s = false)
    (key : RunKey) (s : σ) :
    (r.reconcile (env.traced cancelled) key (s, [])).2.2.countP Call.isConflict
        = r.maxConflictRetries.toNat + 1 ∧
      (r.reconcile (env.traced cancelled) key (s, [])).1
        = exhaustion r.maxConflictRetries.toNat := by
  have hstart : (env.traced cancelled).cancelled (s, []) = false := hlive _
  rw [reconcile_eq, Environment.emitAll_traced, hstart]
  exact loses_of_drive henv hlive key _ (s, []) ⟨rfl, Nat.zero_le _⟩

end Reconciler

/-! ## Room to count -/

/-- What the counter of conflicts makes of the calls of an invocation that may put up with so many
conflicts. -/
structure CountsConflicts (limit : Nat) (calls : List Call) (ending : Ending) : Prop where
  bounded : calls.countP Call.isConflict ≤ limit + 1
  /-- An error that tells a number of conflicts has counted all of them. -/
  told : ∀ attempts, ending = .returned (.error (.conflictsExhausted attempts)) →
    attempts < 2 ^ 32 ∧ attempts = limit + 1 ∧ calls.countP Call.isConflict = attempts
  room : limit < 2 ^ 32 - 1 → calls.countP Call.isConflict = limit + 1 →
    ending = .returned (.error (.conflictsExhausted (limit + 1)))
  overflow : limit = 2 ^ 32 - 1 → calls.countP Call.isConflict = limit + 1 →
    ending = .aborted countOverflow

namespace Reconciler

variable (r : Reconciler) (env : Environment σ) (cancelled : σ × List Call → Bool) (key : RunKey)
  (s : σ)

/-- An invocation counts its conflicts against its limit. -/
theorem countsConflicts_of_reconcile :
    CountsConflicts r.maxConflictRetries.toNat
      (r.reconcile (env.traced cancelled) key (s, [])).2.2
      (r.reconcile (env.traced cancelled) key (s, [])).1 where
  bounded := (countP_isConflict_le _).trans (counts_le r env cancelled key s).2
  told := by
    intro attempts h
    obtain ⟨rfl, hconflicts⟩ := conflicts_of_exhausted r env cancelled key s h
    have hending := end_of_conflicts r env cancelled key s hconflicts
    refine ⟨?_, rfl, hconflicts⟩
    -- otherwise the invocation would have aborted
    by_contra hfull
    have hfull : ¬ r.maxConflictRetries.toNat + 1 < conflictLimit := hfull
    rw [hending, exhaustion, if_neg hfull] at h
    cases h
  room := by
    intro hlimit hconflicts
    exact (end_of_conflicts r env cancelled key s hconflicts).trans (exhaustion_of_lt hlimit)
  overflow := by
    intro hlimit hconflicts
    rw [end_of_conflicts r env cancelled key s hconflicts, hlimit]
    exact exhaustion_greatest

end Reconciler

/-- A record that calls for its guard, whatever happens to the attempts to set it. -/
def Environment.overtaking (snapshot : Snapshot) (current : String) : Environment Unit where
  cancelled _ := false
  now _ := default
  emit _ u := u
  fetch _ u := (.done (some snapshot), u)
  patch _ _ _ u := (.done (.conflict current), u)
  deliver _ u := (.result (.ok ()), u)

/-- An environment that overtakes every change is contested. -/
theorem Environment.contested_overtaking {snapshot : Snapshot} {m : Markers}
    (h : Phase.ofRun snapshot.run m = .unguarded) (current : String) :
    (overtaking snapshot current).Contested m where
  fetch _ _ := ⟨snapshot, .addGuard, rfl, h, fun hw => by cases hw⟩
  deliver _ _ := rfl
  patch _ _ _ _ := ⟨current, rfl⟩

namespace Settings

/-- With settings that were loaded, the counter of conflicts overflows only if the greatest number
is set, and does so with it: an invocation that never gets to write aborts then, and gives up
otherwise. -/
theorem conflict_counter_has_room_below_greatest {vars : Variables} {settings : Settings}
    (h : load vars = .ok settings) (sinkName : String) (env : Environment σ)
    (cancelled : σ × List Call → Bool) (key : RunKey) (s : σ) :
    let limit := settings.maxConflictRetries.toNat
    let out := (settings.reconciler sinkName).reconcile (env.traced cancelled) key (s, [])
    (∀ raw, vars .maxConflictRetries = some raw →
        readNumeral (2 ^ 32 - 1) raw = some limit) ∧
      CountsConflicts limit out.2.2 out.1 ∧
      (env.Contested settings.markers → (∀ t, cancelled t = false) →
        out.2.2.countP Call.isConflict = limit + 1) := by
  intro limit out
  refine ⟨?_, ?_, ?_⟩
  · intro raw hraw
    exact (load_eq_ok_iff.1 h).readNumeral_eq hraw
  · exact Reconciler.countsConflicts_of_reconcile (settings.reconciler sinkName) env cancelled key s
  · intro henv hlive
    exact (Reconciler.conflicts_of_contested (r := settings.reconciler sinkName) henv hlive key s).1

/-- One below the greatest number, an invocation that never gets to set the guard gives up with as
many conflicts as the counter can hold. -/
theorem conflict_counter_has_room_one_below_greatest :
    let vars : Variables := fun v => if v = .maxConflictRetries then some "4294967294" else none
    let a : RunKey := ⟨"ci", "a"⟩
    let env := Environment.overtaking ⟨(Run.new a).withResults [⟨"verdict", "pass"⟩], "1"⟩ "2"
    ∃ settings, load vars = .ok settings ∧
      let out := (settings.reconciler "sink").reconcile (env.traced fun _ => false) a ((), [])
      out.2.2.countP Call.isConflict = 2 ^ 32 - 1 ∧
        out.1 = .returned (.error (.conflictsExhausted (2 ^ 32 - 1))) := by
  intro vars a env
  obtain ⟨settings, hload, hlimit, hmarkers⟩ : ∃ settings, load vars = .ok settings ∧
      settings.maxConflictRetries.toNat = 2 ^ 32 - 2 ∧ settings.markers = .standard :=
    ⟨⟨.standard, 4294967294, .ofSeconds 30, .ofSeconds 300, none, .pretty⟩, rfl, by decide, rfl⟩
  refine ⟨settings, hload, ?_⟩
  intro out
  have henv : env.Contested settings.markers := by
    rw [hmarkers]
    exact Environment.contested_overtaking (by cbv) "2"
  obtain ⟨-, hcounts, hcontested⟩ :=
    conflict_counter_has_room_below_greatest hload "sink" env (fun _ => false) a ()
  have hconflicts := hcontested henv fun _ => rfl
  rw [hlimit] at hcounts hconflicts
  exact ⟨hconflicts, hcounts.room (by decide) hconflicts⟩

/-- With the greatest number, an invocation that never gets to set the guard aborts. -/
theorem conflict_counter_overflows_at_greatest :
    let vars : Variables := fun v => if v = .maxConflictRetries then some "4294967295" else none
    let a : RunKey := ⟨"ci", "a"⟩
    let env := Environment.overtaking ⟨(Run.new a).withResults [⟨"verdict", "pass"⟩], "1"⟩ "2"
    ∃ settings, load vars = .ok settings ∧
      let out := (settings.reconciler "sink").reconcile (env.traced fun _ => false) a ((), [])
      out.2.2.countP Call.isConflict = 2 ^ 32 ∧ out.1 = .aborted countOverflow := by
  intro vars a env
  obtain ⟨settings, hload, hlimit, hmarkers⟩ : ∃ settings, load vars = .ok settings ∧
      settings.maxConflictRetries.toNat = 2 ^ 32 - 1 ∧ settings.markers = .standard :=
    ⟨⟨.standard, 4294967295, .ofSeconds 30, .ofSeconds 300, none, .pretty⟩, rfl, by decide, rfl⟩
  refine ⟨settings, hload, ?_⟩
  have henv : env.Contested (settings.reconciler "sink").markers := by
    change env.Contested settings.markers
    rw [hmarkers]
    exact Environment.contested_overtaking (by cbv) "2"
  obtain ⟨hconflicts, hending⟩ := Reconciler.conflicts_of_contested henv (fun _ => rfl) a ()
  change _ = settings.maxConflictRetries.toNat + 1 at hconflicts
  change _ = exhaustion settings.maxConflictRetries.toNat at hending
  rw [hlimit] at hconflicts hending
  exact ⟨hconflicts, hending.trans exhaustion_greatest⟩

end Settings

end RunHerald
