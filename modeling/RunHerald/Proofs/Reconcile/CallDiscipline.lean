import RunHerald.Proofs.Reconcile.Course
import RunHerald.Proofs.Reconcile.Endings

/-!
# The calls of the store in one invocation

`Phase.demand` is the table of what each phase demands, written out row by row. `Disciplined` says
what the calls of the store look like in one invocation, whatever store, sink and token it meets: it
reads and patches in turn, each patch is what the phase of the record just read demands, and goes to
the version just read, and it goes on after a patch only if that met a conflict. So at most one
patch is applied. It is the last call, and the outcome reports it; an invocation that fails has
applied none.

The proof is by way of `Conversation`, a grammar of the calls together with the end. Every course
follows it (`conversation_of_course`), and whatever follows it is disciplined
(`disciplined_of_conversation`).
-/

set_option autoImplicit false

namespace RunHerald

/-- The patch that a phase demands, and the action that it counts as. -/
def Phase.demand (m : Markers) : Phase → Option (Patch × Action)
  | .legacy => none
  | .awaitingCompletion => none
  | .unguarded => some (.addFinalizer m.guardToken, .guardAdded)
  | .readyToNotify => some (.annotate m.markerKey m.markerValue, .notified)
  | .readyToRelease => some (.removeFinalizer m.guardToken, .released)
  | .anomalous => some (.removeFinalizer m.guardToken, .releasedAnomalous)

/-- A change is the one that its phase demands. -/
theorem Phase.demand_of_write {m : Markers} {phase : Phase} {w : Write} (h : phase = w.phase) :
    phase.demand m = some (w.patch m, w.action) := by
  subst h
  cases w <;> rfl

/-- Whatever a phase demands is a change. -/
theorem Phase.mutated_of_demand {m : Markers} {phase : Phase} {patch : Patch} {action : Action}
    (h : phase.demand m = some (patch, action)) : action.mutated = true := by
  cases phase <;> simp [demand] at h <;> rw [← h.2] <;> rfl

/-- Whether a call goes to the store. -/
def Call.isStoreCall : Call → Bool
  | .fetch .. => true
  | .deliver .. => false
  | .patch .. => true

/-- The calls of the store among some calls, in their order. -/
def storeCalls (calls : List Call) : List Call := calls.filter Call.isStoreCall

/-- A read is a call of the store. -/
@[simp] theorem storeCalls_fetch (key : RunKey) (answer : Attempt (Option Snapshot))
    (calls : List Call) : storeCalls (.fetch key answer :: calls)
      = .fetch key answer :: storeCalls calls := rfl

/-- A delivery is no call of the store. -/
@[simp] theorem storeCalls_deliver (payload : Payload) (answer : Delivery) (calls : List Call) :
    storeCalls (.deliver payload answer :: calls) = storeCalls calls := rfl

/-- A patch is a call of the store. -/
@[simp] theorem storeCalls_patch (key : RunKey) (expected : String) (p : Patch)
    (answer : Attempt PatchResult) (calls : List Call) :
    storeCalls (.patch key expected p answer :: calls)
      = .patch key expected p answer :: storeCalls calls := rfl

/-! ## A grammar of the calls -/

/-- The calls of the store that one invocation makes, and how it ends. -/
inductive Conversation (m : Markers) (key : RunKey) : List Call → Ending → Prop
  | silent (ending : Ending) (h : ending.Idle) : Conversation m key [] ending
  | read (answer : Attempt (Option Snapshot)) (ending : Ending) (h : ending.Idle) :
    Conversation m key [.fetch key answer] ending
  | refused (snapshot : Snapshot) (patch : Patch) (action : Action)
    (answer : Attempt PatchResult) (ending : Ending)
    (hd : (Phase.ofRun snapshot.run m).demand m = some (patch, action))
    (ha : ∀ version, answer ≠ .done (.applied version)) (h : ending.Idle) :
    Conversation m key
      [.fetch key (.done (some snapshot)), .patch key snapshot.version patch answer] ending
  | applied (snapshot : Snapshot) (patch : Patch) (action : Action) (version : String)
    (requeue : Requeue) (hd : (Phase.ofRun snapshot.run m).demand m = some (patch, action)) :
    Conversation m key
      [.fetch key (.done (some snapshot)),
        .patch key snapshot.version patch (.done (.applied version))]
      (.returned (.ok ⟨action, requeue⟩))
  | again (snapshot : Snapshot) (patch : Patch) (action : Action) (current : String)
    (calls : List Call) (ending : Ending)
    (hd : (Phase.ofRun snapshot.run m).demand m = some (patch, action))
    (h : Conversation m key calls ending) :
    Conversation m key
      (.fetch key (.done (some snapshot)) ::
        .patch key snapshot.version patch (.done (.conflict current)) :: calls) ending

/-- A patch that ends an invocation ends its conversation. -/
theorem WriteEnd.conversation {r : Reconciler} {p : Progress} {cancelled : Bool} {w : Write}
    {answer : Attempt PatchResult} {ending : Ending} (h : WriteEnd r p cancelled w answer ending)
    (key : RunKey) {snapshot : Snapshot} (hphase : Phase.ofRun snapshot.run r.markers = w.phase) :
    Conversation r.markers key
      [.fetch key (.done (some snapshot)),
        .patch key snapshot.version (w.patch r.markers) answer] ending := by
  have hd := Phase.demand_of_write (m := r.markers) hphase
  by_cases ha : ∃ version, answer = .done (.applied version)
  · obtain ⟨version, rfl⟩ := ha
    cases h
    exact .applied snapshot _ _ version _ hd
  · have hrefused : ∀ version, answer ≠ .done (.applied version) :=
      fun version happlied => ha ⟨version, happlied⟩
    exact .refused snapshot _ _ answer ending hd hrefused (h.idle hrefused)

/-- What the rest of a course adds to the calls made so far: from a read on it is a conversation of
its own, and from a delivery or a patch on it goes on with the read that has led there. -/
def Course.Continues (m : Markers) (key : RunKey) (calls : List Call) (ending : Ending) :
    Move → Prop
  | .finish e => calls = [] ∧ ending = e
  | .wait (.fetch _) => Conversation m key (storeCalls calls) ending
  | .wait (.deliver _ snapshot _) =>
    Phase.ofRun snapshot.run m = .readyToNotify →
      Conversation m key (.fetch key (.done (some snapshot)) :: storeCalls calls) ending
  | .wait (.write _ snapshot w) =>
    Phase.ofRun snapshot.run m = w.phase →
      Conversation m key (.fetch key (.done (some snapshot)) :: storeCalls calls) ending

/-- The calls of the store in a course are a conversation. -/
theorem conversation_of_course {r : Reconciler} {key : RunKey} {reads : Nat → Bool → Prop}
    {n : Nat} {move : Move} {calls : List Call} {ending : Ending}
    (h : Course r key reads n move calls ending) :
    Course.Continues r.markers key calls ending move := by
  induction h with
  | finish n ending => exact ⟨rfl, rfl⟩
  | fetch n p answer cancelled calls ending hc h ih =>
    change Conversation r.markers key (storeCalls (.fetch key answer :: calls)) ending
    rw [storeCalls_fetch]
    cases hm : (r.fetched p cancelled answer).2 with
    | finish e =>
      rw [hm] at ih
      obtain ⟨rfl, rfl⟩ := ih
      exact .read answer ending (Reconciler.end_of_fetched hm).idle
    | wait stage =>
      rw [hm] at ih
      obtain ⟨snapshot, rfl, ⟨rs, rfl, hw⟩ | ⟨w, rfl, hw⟩⟩ := Reconciler.reason_of_fetched hm
      · exact ih hw.phase
      · exact ih hw.phase
  | deliver n p snapshot rs now answer calls ending h ih =>
    intro hphase
    rw [storeCalls_deliver]
    cases hm : (r.delivered p snapshot (Payload.new key rs now) answer).2 with
    | finish e =>
      rw [hm] at ih
      obtain ⟨rfl, rfl⟩ := ih
      exact .read _ ending (Reconciler.end_of_delivered hm).idle
    -- the marker is set on the record that was read before the delivery
    | wait stage =>
      rw [hm] at ih
      obtain ⟨-, rfl⟩ := Reconciler.reason_of_delivered hm
      exact ih hphase
  | write n p snapshot w answer cancelled calls ending hc h ih =>
    intro hphase
    rw [storeCalls_patch]
    cases hm : (r.written p cancelled snapshot w answer).2 with
    | finish e =>
      rw [hm] at ih
      obtain ⟨rfl, rfl⟩ := ih
      exact (Reconciler.end_of_written hm).conversation key hphase
    -- only a conflict leads on from a patch, and it leads to a read
    | wait stage =>
      rw [hm] at ih
      obtain ⟨current, rfl, rfl, -⟩ := Reconciler.reason_of_written hm
      exact .again snapshot _ _ current _ ending (Phase.demand_of_write hphase) ih

/-! ## What a conversation looks like -/

/-- Calls of the store that read and patch in turn. -/
structure Alternating (m : Markers) (key : RunKey) (calls : List Call) : Prop where
  /-- Every other call is a read, from the first one on. -/
  reads : ∀ i call, calls[2 * i]? = some call → ∃ answer, call = .fetch key answer
  /-- The calls in between are patches. Each is what the phase of the record just read demands, on
  condition of the version just read. -/
  patches : ∀ i call, calls[2 * i + 1]? = some call →
    ∃ snapshot patch action answer, calls[2 * i]? = some (.fetch key (.done (some snapshot))) ∧
      (Phase.ofRun snapshot.run m).demand m = some (patch, action) ∧
      call = .patch key snapshot.version patch answer
  /-- A patch is followed by another call only if it met a conflict. -/
  goesOn : ∀ i call, calls[2 * i + 2]? = some call →
    ∃ expected patch current,
      calls[2 * i + 1]? = some (.patch key expected patch (.done (.conflict current)))

/-- The calls of the store in one invocation that ends as given. -/
structure Disciplined (m : Markers) (key : RunKey) (calls : List Call) (ending : Ending) : Prop
    extends Alternating m key calls where
  /-- A patch that was applied is the last call, so there is at most one. -/
  appliedLast : ∀ i k expected patch version,
    calls[i]? = some (.patch k expected patch (.done (.applied version))) → i + 1 = calls.length
  /-- The outcome reports a change exactly if a patch was applied, and it is the change that the phase
  of the record just read demanded. -/
  outcome : ∀ action,
    (action.mutated = true ∧ ∃ requeue, ending = .returned (.ok ⟨action, requeue⟩)) ↔
      ∃ i snapshot patch version, calls[2 * i]? = some (.fetch key (.done (some snapshot))) ∧
        calls[2 * i + 1]? =
          some (.patch key snapshot.version patch (.done (.applied version))) ∧
        (Phase.ofRun snapshot.run m).demand m = some (patch, action)
  /-- An invocation that fails has applied no patch. -/
  failure : ∀ e, ending = .returned (.error e) → ∀ k expected patch version,
    .patch k expected patch (.done (.applied version)) ∉ calls

/-- No calls alternate. -/
theorem alternating_nil (m : Markers) (key : RunKey) : Alternating m key [] where
  reads := by simp
  patches := by simp
  goesOn := by simp

/-- A single read alternates. -/
theorem alternating_read (m : Markers) (key : RunKey) (answer : Attempt (Option Snapshot)) :
    Alternating m key [.fetch key answer] where
  reads := by
    intro i call hcall
    cases i with
    | zero => exact ⟨answer, (Option.some.inj hcall).symm⟩
    | succ i => simp [Nat.mul_succ] at hcall
  patches := by simp
  goesOn := by simp

/-- A read and the patch that it leads to stand before calls that alternate, if there are any only
after a conflict. -/
theorem Alternating.cons {m : Markers} {key : RunKey} {calls : List Call}
    (h : Alternating m key calls) {snapshot : Snapshot} {patch : Patch} {action : Action}
    {answer : Attempt PatchResult}
    (hd : (Phase.ofRun snapshot.run m).demand m = some (patch, action))
    (hanswer : calls ≠ [] → ∃ current, answer = .done (.conflict current)) :
    Alternating m key
      (.fetch key (.done (some snapshot)) :: .patch key snapshot.version patch answer :: calls) where
  reads := by
    intro i call hcall
    cases i with
    | zero => exact ⟨_, (Option.some.inj hcall).symm⟩
    | succ i => exact h.reads i call hcall
  patches := by
    intro i call hcall
    cases i with
    | zero => exact ⟨snapshot, patch, action, answer, rfl, hd, (Option.some.inj hcall).symm⟩
    | succ i => exact h.patches i call hcall
  goesOn := by
    intro i call hcall
    cases i with
    | zero =>
      have hne : calls ≠ [] := by
        rintro rfl
        cases hcall
      obtain ⟨current, rfl⟩ := hanswer hne
      exact ⟨_, patch, current, rfl⟩
    | succ i => exact h.goesOn i call hcall

/-- Calls that alternate, without a patch that was applied. -/
theorem Alternating.disciplined {m : Markers} {key : RunKey} {calls : List Call} {ending : Ending}
    (h : Alternating m key calls) (hidle : ending.Idle)
    (hcalls : ∀ k expected patch version,
      .patch k expected patch (.done (.applied version)) ∉ calls) :
    Disciplined m key calls ending where
  toAlternating := h
  appliedLast := by
    intro i k expected patch version hi
    exact absurd (List.mem_of_getElem? hi) (hcalls k expected patch version)
  outcome := by
    intro action
    constructor
    · rintro ⟨hmutated, requeue, rfl⟩
      have hnot := hidle _ rfl
      rw [hmutated] at hnot
      cases hnot
    · rintro ⟨i, snapshot, patch, version, -, hi, -⟩
      exact absurd (List.mem_of_getElem? hi) (hcalls _ _ _ _)
  failure := fun _ _ => hcalls

/-- A patch that is applied. -/
theorem disciplined_applied {m : Markers} {key : RunKey} {snapshot : Snapshot} {patch : Patch}
    {action : Action} (version : String) (requeue : Requeue)
    (hd : (Phase.ofRun snapshot.run m).demand m = some (patch, action)) :
    Disciplined m key
      [.fetch key (.done (some snapshot)),
        .patch key snapshot.version patch (.done (.applied version))]
      (.returned (.ok ⟨action, requeue⟩)) where
  toAlternating := (alternating_nil m key).cons hd fun h => absurd rfl h
  appliedLast := by
    intro i k expected patch' version' hi
    match i, hi with
    | 0, hi => cases hi
    | 1, _ => rfl
    | i + 2, hi => simp at hi
  outcome := by
    intro action'
    constructor
    · rintro ⟨-, requeue', heq⟩
      cases heq
      exact ⟨0, snapshot, patch, version, rfl, rfl, hd⟩
    · rintro ⟨i, snapshot', patch', version', hfetch, -, hd'⟩
      cases i with
      | zero =>
        cases hfetch
        rw [hd] at hd'
        cases hd'
        exact ⟨Phase.mutated_of_demand hd, requeue, rfl⟩
      | succ i => simp [Nat.mul_succ] at hfetch
  failure := by
    intro e h
    cases h

/-- A read and a patch that met a conflict stand before calls that are disciplined. -/
theorem Disciplined.again {m : Markers} {key : RunKey} {calls : List Call} {ending : Ending}
    (h : Disciplined m key calls ending) {snapshot : Snapshot} {patch : Patch} {action : Action}
    (current : String) (hd : (Phase.ofRun snapshot.run m).demand m = some (patch, action)) :
    Disciplined m key
      (.fetch key (.done (some snapshot)) ::
        .patch key snapshot.version patch (.done (.conflict current)) :: calls) ending where
  toAlternating := h.toAlternating.cons hd fun _ => ⟨current, rfl⟩
  appliedLast := by
    intro i k expected patch' version hi
    match i, hi with
    | 0, hi => cases hi
    | 1, hi => cases hi
    | i + 2, hi =>
      have := h.appliedLast i k expected patch' version hi
      simp only [List.length_cons]
      omega
  outcome := by
    intro action'
    rw [h.outcome action']
    constructor
    · rintro ⟨i, snapshot', patch', version, hfetch, hpatch, hd'⟩
      exact ⟨i + 1, snapshot', patch', version, hfetch, hpatch, hd'⟩
    · rintro ⟨i, snapshot', patch', version, hfetch, hpatch, hd'⟩
      cases i with
      | zero => simp at hpatch
      | succ i => exact ⟨i, snapshot', patch', version, hfetch, hpatch, hd'⟩
  failure := by
    intro e he k expected patch' version hmem
    simp only [List.mem_cons, reduceCtorEq, Call.patch.injEq, Attempt.done.injEq, and_false,
      false_or] at hmem
    exact h.failure e he k expected patch' version hmem

/-- Every conversation is disciplined. -/
theorem disciplined_of_conversation {m : Markers} {key : RunKey} {calls : List Call}
    {ending : Ending} (h : Conversation m key calls ending) : Disciplined m key calls ending := by
  induction h with
  | silent ending hidle =>
    apply (alternating_nil m key).disciplined hidle
    simp
  | read answer ending hidle =>
    apply (alternating_read m key answer).disciplined hidle
    simp
  | refused snapshot patch action answer ending hd ha hidle =>
    have halternating : Alternating m key
        [.fetch key (.done (some snapshot)), .patch key snapshot.version patch answer] :=
      (alternating_nil m key).cons hd fun h => absurd rfl h
    apply halternating.disciplined hidle
    intro k expected patch' version hmem
    simp only [List.mem_cons, reduceCtorEq, Call.patch.injEq, List.not_mem_nil, or_false,
      false_or] at hmem
    exact ha version hmem.2.2.2.symm
  | applied snapshot patch action version requeue hd =>
    exact disciplined_applied version requeue hd
  | again snapshot patch action current calls ending hd h ih => exact ih.again current hd

namespace Reconciler

/-- The calls of the store in one invocation are a conversation, whatever the store, the sink and
the token do. -/
theorem conversation_of_reconcile {σ : Type} (r : Reconciler) (env : Environment σ)
    (cancelled : σ × List Call → Bool) (key : RunKey) (s : σ) :
    Conversation r.markers key (storeCalls (r.reconcile (env.traced cancelled) key (s, [])).2.2)
      (r.reconcile (env.traced cancelled) key (s, [])).1 := by
  have hcourse := course_of_reconcile r env cancelled key (fun _ _ => True) (fun _ => trivial) s
  have hcontinues := conversation_of_course hcourse
  cases hmove : resume .start (cancelled (s, [])) with
  | finish ending =>
    rw [hmove] at hcontinues
    obtain ⟨hcalls, hending⟩ := hcontinues
    obtain ⟨rfl, -⟩ := end_of_resume hmove
    rw [hcalls, hending]
    exact .silent _ (Ending.idle_error _)
  | wait stage =>
    rw [hmove] at hcontinues
    obtain ⟨rfl, -⟩ := wait_of_resume hmove
    exact hcontinues

/-- Whatever the store, the sink and the token do, the calls of the store in one invocation are
disciplined. -/
theorem store_calls_are_disciplined {σ : Type} (r : Reconciler) (env : Environment σ)
    (cancelled : σ × List Call → Bool) (key : RunKey) (s : σ) :
    let out := r.reconcile (env.traced cancelled) key (s, [])
    Disciplined r.markers key (storeCalls out.2.2) out.1 :=
  disciplined_of_conversation (conversation_of_reconcile r env cancelled key s)

end Reconciler

end RunHerald
