import RunHerald.Proofs.Reconcile.CallDiscipline
import RunHerald.Proofs.Reconcile.NoSilentDrop

/-!
# What the calls of an invocation account for

`Environment.reporting` is any environment with a record of the events that are reported in it.

An event is notable if it counts something or is logged above debug. Which notable events an
invocation reports before its end is settled by its calls, each taken together with the record that
had been shown last when it was made: `Call.entries` is what one call accounts for, and `ledger`
what all of them do.

An anomaly is reported before the patch that releases the guard. So an invocation that waits may
have reported what its next call accounts for, `Stage.pending`. `Stage.Tells.balance` is the balance
of one call: what was pending and what is reported now is what the call accounts for and what is
pending next. `ledger_of_reconcile` is the balance of an invocation. It may be one conflict short,
if the invocation aborts because it cannot count that conflict.
-/

set_option autoImplicit false

namespace RunHerald

variable {σ : Type}

/-- An environment with a record of the events that are reported in it. -/
def Environment.reporting (env : Environment σ) : Environment (σ × List Event) where
  cancelled s := env.cancelled s.1
  now s := env.now s.1
  emit e s := (env.emit e s.1, s.2 ++ [e])
  fetch key s :=
    let (answer, t) := env.fetch key s.1
    (answer, t, s.2)
  patch key expected p s :=
    let (answer, t) := env.patch key expected p s.1
    (answer, t, s.2)
  deliver payload s :=
    let (answer, t) := env.deliver payload s.1
    (answer, t, s.2)

/-- Reports are noted where an environment notes them. -/
@[simp] theorem Environment.emitAll_reporting (env : Environment σ) (events : List Event)
    (s : σ × List Event) :
    env.reporting.emitAll events s = (env.emitAll events s.1, s.2 ++ events) := by
  unfold emitAll
  induction events generalizing s with
  | nil => exact Prod.ext rfl (List.append_nil s.2).symm
  | cons e events ih =>
    refine (ih (env.emit e s.1, s.2 ++ [e])).trans ?_
    rw [List.append_assoc, List.singleton_append, List.foldl_cons]

namespace Event

/-- Whether an event counts something or is logged above debug. -/
def isNotable : Event → Bool
  | .report r => r.level ≠ .debug
  | .metric _ => true

/-- The notable events among some events. -/
def notable (events : List Event) : List Event := events.filter isNotable

/-- What is notable in two parts is notable in each. -/
theorem notable_append (events events' : List Event) :
    notable (events ++ events') = notable events ++ notable events' :=
  List.filter_append events events'

end Event

open Event (notable notable_append)

/-! ## What one call accounts for -/

/-- The events with which an invocation announces that it releases an anomalous record. -/
def anomalyEvents (snapshot : Snapshot) : List Event :=
  [.metric .anomaly, .report (.anomaly snapshot.run.completion)]

/-- Whether a call is to remove the guard of a record that was shown last in the anomalous phase. -/
def Call.isAnomalousRelease (m : Markers) (shown : Option Snapshot) : Call → Bool
  | .patch _ _ p _ =>
    p = .removeFinalizer m.guardToken && shown.any fun s => Phase.ofRun s.run m = .anomalous
  | _ => false

/-- What a call accounts for before it is made. -/
def Call.warning (m : Markers) (shown : Option Snapshot) (call : Call) : List Event :=
  if call.isAnomalousRelease m shown then shown.toList.flatMap anomalyEvents else []

/-- What a call accounts for with its answer. A change that was made is reported as the action that
the phase of the record demands. -/
def Call.settlement (r : Reconciler) (shown : Option Snapshot) : Call → List Event
  | .deliver payload (.result result) => dispatchEvents r.sinkName payload result
  | .patch _ _ p (.done (.applied version)) =>
    let demanded := shown.bind fun s => (Phase.ofRun s.run r.markers).demand r.markers
    demanded.toList.map fun d => .report (.reconciled d.2 p version)
  | .patch _ _ _ (.done (.conflict _)) => [.metric .conflict]
  | _ => []

/-- The notable events that a call accounts for, if a record was shown last before it. -/
def Call.entries (r : Reconciler) (shown : Option Snapshot) (call : Call) : List Event :=
  call.warning r.markers shown ++ call.settlement r shown

/-- Some calls, each with the record that had been shown last when it was made. -/
def withShown : Option Snapshot → List Call → List (Option Snapshot × Call)
  | _, [] => []
  | shown, call :: calls => (shown, call) :: withShown (call.shown?.or shown) calls

/-- Without calls nothing is shown. -/
@[simp] theorem withShown_nil (shown : Option Snapshot) : withShown shown [] = [] := rfl

/-- Each call stands beside the snapshot shown before it. -/
@[simp] theorem withShown_cons (shown : Option Snapshot) (call : Call) (calls : List Call) :
    withShown shown (call :: calls) = (shown, call) :: withShown (call.shown?.or shown) calls := rfl

/-- The calls of the second part see what the first part has shown last. -/
theorem withShown_append (shown : Option Snapshot) (calls calls' : List Call) :
    withShown shown (calls ++ calls') =
      withShown shown calls ++ withShown (lastShown shown calls) calls' := by
  induction calls generalizing shown with
  | nil => rfl
  | cons call calls ih => simp [ih]

/-- The number of calls that are to remove the guard of an anomalous record. -/
def anomalousReleases (m : Markers) (shown : Option Snapshot) (calls : List Call) : Nat :=
  (withShown shown calls).countP fun c => c.2.isAnomalousRelease m c.1

/-- The notable events that some calls account for, if a record was shown last before them. -/
def ledger (r : Reconciler) (shown : Option Snapshot) (calls : List Call) : List Event :=
  (withShown shown calls).flatMap fun c => c.2.entries r c.1

/-- Without calls the ledger is empty. -/
@[simp] theorem ledger_nil (r : Reconciler) (shown : Option Snapshot) :
    ledger r shown [] = [] := rfl

/-- The ledger has the entries of each call in turn. -/
@[simp] theorem ledger_cons (r : Reconciler) (shown : Option Snapshot) (call : Call)
    (calls : List Call) :
    ledger r shown (call :: calls) =
      call.entries r shown ++ ledger r (call.shown?.or shown) calls := by
  simp [ledger]

/-- The ledger of two parts has the entries of both. -/
theorem ledger_append (r : Reconciler) (shown : Option Snapshot) (calls calls' : List Call) :
    ledger r shown (calls ++ calls') =
      ledger r shown calls ++ ledger r (lastShown shown calls) calls' := by
  simp [ledger, withShown_append]

/-- What an invocation has reported of the call that it waits for. -/
def Stage.pending : Stage → List Event
  | .write _ snapshot .releaseAnomalous => anomalyEvents snapshot
  | _ => []

/-- What an invocation has reported of its next call after a move. -/
def Move.pending : Move → List Event
  | .wait stage => stage.pending
  | .finish _ => []

/-- What was reported is what is accounted for, or an invocation that aborts has not counted its
last conflict. -/
def Balanced (reported accounted : List Event) (ending : Ending) : Prop :=
  reported = accounted ∨
    reported ++ [.metric .conflict] = accounted ∧ ∃ message, ending = .aborted message

/-- What was both reported and accounted for before keeps the balance. -/
theorem Balanced.append_left {reported accounted : List Event} {ending : Ending}
    (h : Balanced reported accounted ending) (before : List Event) :
    Balanced (before ++ reported) (before ++ accounted) ending := by
  obtain rfl | ⟨rfl, haborts⟩ := h
  · exact Or.inl rfl
  · exact Or.inr ⟨List.append_assoc _ _ _, haborts⟩

/-! ## The balance of one call -/

/-- A call that an invocation makes at a stage, the events that it reports with the answer, and the
move that follows. -/
inductive Stage.Tells (r : Reconciler) (key : RunKey) : Stage → Call → List Event → Move → Prop
  | fetch (p : Progress) (answer : Attempt (Option Snapshot)) (cancelled : Bool) :
    Tells r key (.fetch p) (.fetch key answer) (r.fetched p cancelled answer).1
      (r.fetched p cancelled answer).2
  | deliver (p : Progress) (snapshot : Snapshot) (rs : List RunResult) (now : Timestamp)
    (answer : Delivery) :
    Tells r key (.deliver p snapshot rs) (.deliver (Payload.new key rs now) answer)
      (r.delivered p snapshot (Payload.new key rs now) answer).1
      (r.delivered p snapshot (Payload.new key rs now) answer).2
  | write (p : Progress) (snapshot : Snapshot) (w : Write) (answer : Attempt PatchResult)
    (cancelled : Bool) :
    Tells r key (.write p snapshot w) (.patch key snapshot.version (w.patch r.markers) answer)
      (r.written p cancelled snapshot w answer).1 (r.written p cancelled snapshot w answer).2

/-- A call that tells something is one of those of its stage. -/
theorem Stage.Tells.calls {r : Reconciler} {key : RunKey} {stage : Stage} {call : Call}
    {events : List Event} {next : Move} (h : stage.Tells r key call events next) :
    stage.Calls r key (fun _ => True) call next := by
  cases h with
  | fetch p answer cancelled => exact .fetch p answer cancelled trivial
  | deliver p snapshot rs now answer => exact .deliver p snapshot rs now answer
  | write p snapshot w answer cancelled => exact .write p snapshot w answer cancelled trivial

/-- A call that leads on from a stage leads to one that follows what has been shown then. -/
theorem Stage.Passes.follows {r : Reconciler} {key : RunKey} {reads : Bool → Prop}
    {stage next : Stage} {call : Call} {shown : Option Snapshot} {conflicts : Nat}
    (h : stage.Passes r key reads call next) (hfollows : stage.Follows r shown conflicts) :
    next.Follows r (call.shown?.or shown) (conflicts + [call].countP Call.isConflict) := by
  cases h with
  | announced p snapshot rs cancelled hc h => exact ⟨hfollows, rfl, h.phase⟩
  | warranted p snapshot w cancelled hc h => exact ⟨hfollows, rfl, h.phase⟩
  | accepted p snapshot rs now => exact hfollows
  | overtaken p snapshot w current cancelled hc hlimit =>
    obtain ⟨⟨rfl, -⟩, -⟩ := hfollows
    exact ⟨rfl, hlimit⟩

namespace Reconciler

variable {r : Reconciler}

/-- A read reports nothing notable, but for what it announces of the next call. -/
theorem pending_of_decide (p : Progress) (cancelled : Bool) (snapshot : Snapshot) (phase : Phase) :
    notable (decide p cancelled snapshot phase).1 =
      (decide p cancelled snapshot phase).2.pending := by
  cases phase with
  | legacy => rfl
  | awaitingCompletion => rfl
  | unguarded => cases cancelled <;> rfl
  | readyToRelease => cases cancelled <;> rfl
  | anomalous => cases cancelled <;> rfl
  | readyToNotify =>
    simp only [decide, announce]
    cases snapshot.run.readResults with
    | error e => rfl
    | ok rs =>
      by_cases hdelivered : p.delivered = some rs
      · simp only [hdelivered, if_true]
        rfl
      · simp only [hdelivered, if_false]
        cases cancelled <;> rfl

/-- A read reports what the ledger still has to enter. -/
theorem pending_of_fetched (p : Progress) (cancelled : Bool) (answer : Attempt (Option Snapshot)) :
    notable (r.fetched p cancelled answer).1 = (r.fetched p cancelled answer).2.pending := by
  cases answer with
  | aborted message => rfl
  | failed e => rfl
  | done found =>
    cases found with
    | none => rfl
    | some snapshot => exact pending_of_decide p cancelled snapshot _

/-- A delivery reports what it accounts for. -/
theorem settlement_of_delivered (p : Progress) (snapshot : Snapshot) (shown : Option Snapshot)
    (payload : Payload) (answer : Delivery) :
    notable (r.delivered p snapshot payload answer).1 =
        (Call.deliver payload answer).settlement r shown ∧
      (r.delivered p snapshot payload answer).2.pending = [] := by
  cases answer with
  | aborted message => exact ⟨rfl, rfl⟩
  | abandoned => exact ⟨rfl, rfl⟩
  | result result =>
    cases result with
    | ok a => exact ⟨rfl, rfl⟩
    | error e =>
      refine ⟨?_, rfl⟩
      cases e with
      | transport message => rfl
      | rejected status message => rfl

/-- Nothing is to be entered when an invocation goes on. -/
theorem pending_of_resume (p : Progress) (cancelled : Bool) :
    (resume p cancelled).pending = [] := by
  unfold resume
  split <;> rfl

/-- An attempt to change the record reports what it accounts for with its answer, unless the
invocation aborts because it cannot count a conflict. -/
theorem settlement_of_written (p : Progress) (cancelled : Bool) {snapshot : Snapshot} {w : Write}
    (key : RunKey) (expected : String) (hphase : Phase.ofRun snapshot.run r.markers = w.phase)
    (answer : Attempt PatchResult) :
    let call := Call.patch key expected (w.patch r.markers) answer
    let out := r.written p cancelled snapshot w answer
    (out.2.pending = [] ∧ notable out.1 = call.settlement r (some snapshot)) ∨
      notable out.1 ++ [.metric .conflict] = call.settlement r (some snapshot) ∧
        ∃ message, out.2 = .finish (.aborted message) := by
  cases answer with
  | aborted message => exact Or.inl ⟨rfl, rfl⟩
  | failed e => exact Or.inl ⟨rfl, rfl⟩
  | done result =>
    cases result with
    | applied version =>
      refine Or.inl ⟨rfl, ?_⟩
      simp only [Call.settlement, Option.bind_some, Phase.demand_of_write hphase]
      rfl
    | notFound => exact Or.inl ⟨rfl, rfl⟩
    | conflict current =>
      simp only [written, conflicted]
      split
      · exact Or.inr ⟨rfl, _, rfl⟩
      · split
        · exact Or.inl ⟨rfl, rfl⟩
        · exact Or.inl ⟨pending_of_resume _ _, rfl⟩

end Reconciler

/-- The guard of an anomalous record is removed by the one change that announces it. -/
theorem Stage.pending_eq_warning {r : Reconciler} {p : Progress} {snapshot : Snapshot} {w : Write}
    (hphase : Phase.ofRun snapshot.run r.markers = w.phase) (key : RunKey) (expected : String)
    (answer : Attempt PatchResult) :
    (Stage.write p snapshot w).pending =
      (Call.patch key expected (w.patch r.markers) answer).warning r.markers (some snapshot) := by
  cases w <;>
    simp [Stage.pending, Call.warning, Call.isAnomalousRelease, Write.patch, hphase, Write.phase]

/-- What was pending and what is reported now is what the call accounts for and what is pending
next. -/
theorem Stage.Tells.balance {r : Reconciler} {key : RunKey} {stage : Stage} {call : Call}
    {events : List Event} {next : Move} {shown : Option Snapshot} {conflicts : Nat}
    (h : stage.Tells r key call events next) (hfollows : stage.Follows r shown conflicts) :
    stage.pending ++ notable events = call.entries r shown ++ next.pending ∨
      stage.pending ++ notable events ++ [.metric .conflict] = call.entries r shown ∧
        ∃ message, next = .finish (.aborted message) := by
  cases h with
  | fetch p answer cancelled => exact Or.inl (Reconciler.pending_of_fetched p cancelled answer)
  | deliver p snapshot rs now answer =>
    obtain ⟨hevents, hpending⟩ :=
      Reconciler.settlement_of_delivered (r := r) p snapshot shown (Payload.new key rs now) answer
    left
    rw [hevents, hpending, List.append_nil]
    rfl
  | write p snapshot w answer cancelled =>
    obtain ⟨-, rfl, hphase⟩ := hfollows
    rw [Stage.pending_eq_warning hphase key snapshot.version answer, Call.entries]
    obtain ⟨hpending, hevents⟩ | ⟨hevents, haborts⟩ :=
      Reconciler.settlement_of_written p cancelled key snapshot.version hphase answer
    · exact Or.inl (by rw [hpending, hevents, List.append_nil])
    · exact Or.inr ⟨by rw [List.append_assoc, hevents], haborts⟩

/-! ## The balance of an invocation -/

namespace Reconciler

variable (r : Reconciler) (env : Environment σ) (cancelled : (σ × List Event) × List Call → Bool)
  (key : RunKey)

/-- Every step makes one call and reports its events. -/
theorem tells_of_advance (stage : Stage) (s : (σ × List Event) × List Call) :
    ∃ call events,
      stage.Tells r key call events (r.advance (env.reporting.traced cancelled) key stage s).1 ∧
      (r.advance (env.reporting.traced cancelled) key stage s).2.1.2 = s.1.2 ++ events ∧
      (r.advance (env.reporting.traced cancelled) key stage s).2.2 = s.2 ++ [call] := by
  cases stage with
  | fetch p =>
    rw [advance_traced_fetch]
    exact ⟨_, _, .fetch p _ _, congrArg Prod.snd (Environment.emitAll_reporting ..), rfl⟩
  | deliver p snapshot rs =>
    rw [advance_traced_deliver]
    exact ⟨_, _, .deliver p snapshot rs _ _,
      congrArg Prod.snd (Environment.emitAll_reporting ..), rfl⟩
  | write p snapshot w =>
    rw [advance_traced_write]
    exact ⟨_, _, .write p snapshot w _ _, congrArg Prod.snd (Environment.emitAll_reporting ..), rfl⟩

/-- What an invocation reports after any move is what its calls from there account for. -/
theorem ledger_of_drive (move : Move) (s : (σ × List Event) × List Call) (shown : Option Snapshot)
    (hfollows : ∀ stage, move = .wait stage → ∃ conflicts, stage.Follows r shown conflicts) :
    let out := r.drive (env.reporting.traced cancelled) key move s
    ∃ calls events, out.2.2 = s.2 ++ calls ∧ out.2.1.2 = s.1.2 ++ events ∧
      Balanced (move.pending ++ notable events) (ledger r shown calls) out.1 := by
  induction move, s using drive_induction r (env.reporting.traced cancelled) key
    generalizing shown with
  | finish ending s =>
    rw [drive_finish]
    exact ⟨[], [], (List.append_nil _).symm, (List.append_nil _).symm, Or.inl rfl⟩
  | step stage s ih =>
    rw [drive_wait]
    obtain ⟨call, events, htells, hevents, hcalls⟩ := tells_of_advance r env cancelled key stage s
    obtain ⟨conflicts, hstage⟩ := hfollows stage rfl
    have hnext : ∀ next, (r.advance (env.reporting.traced cancelled) key stage s).1 = .wait next →
        ∃ conflicts, next.Follows r (call.shown?.or shown) conflicts := by
      intro next hnext
      rw [hnext] at htells
      exact ⟨_, htells.calls.passes.follows hstage⟩
    obtain ⟨calls, events', hcalls', hevents', hbalanced⟩ := ih _ hnext
    refine ⟨call :: calls, events ++ events', ?_, ?_, ?_⟩
    · rw [hcalls', hcalls, List.append_assoc, List.singleton_append]
    · rw [hevents', hevents, List.append_assoc]
    · rw [ledger_cons, notable_append, ← List.append_assoc, Move.pending]
      obtain hbalance | ⟨hbalance, message, hfinish⟩ := htells.balance hstage
      · rw [hbalance, List.append_assoc]
        exact hbalanced.append_left _
      -- the invocation has aborted with this call, so there is nothing after it
      · rw [hfinish, drive_finish] at hcalls' hevents' ⊢
        obtain rfl : calls = [] := List.self_eq_append_right.1 hcalls'
        obtain rfl : events' = [] := List.self_eq_append_right.1 hevents'
        exact Or.inr ⟨by simpa [notable] using hbalance, message, rfl⟩

/-- What an invocation reports before its end is what its calls account for. -/
theorem ledger_of_reconcile (s : σ × List Event) :
    let out := r.reconcile (env.reporting.traced cancelled) key (s, [])
    ∃ events, out.2.1.2 = s.2 ++ events ++ closing out.1 ∧
      Balanced (notable events) (ledger r none out.2.2) out.1 := by
  have hfollows : ∀ stage, resume .start (cancelled (s, [])) = .wait stage →
      ∃ conflicts, stage.Follows r none conflicts := by
    intro stage hstage
    obtain ⟨rfl, -⟩ := wait_of_resume hstage
    exact ⟨0, rfl, Nat.zero_le _⟩
  obtain ⟨calls, events, hcalls, hevents, hbalanced⟩ :=
    ledger_of_drive r env cancelled key _ (s, []) none hfollows
  rw [List.nil_append] at hcalls
  rw [pending_of_resume, List.nil_append, ← hcalls] at hbalanced
  intro out
  refine ⟨events, ?_, ?_⟩
  · change (((env.reporting.traced cancelled).emitAll _ _).1).2 = _
    rw [Environment.emitAll_traced, Environment.emitAll_reporting]
    exact congrArg (· ++ _) hevents
  · change Balanced _ (ledger r none ((env.reporting.traced cancelled).emitAll _ _).2) _
    rw [Environment.emitAll_traced]
    exact hbalanced

end Reconciler

end RunHerald
