import RunHerald.Proofs.Reconcile.Course
import RunHerald.Proofs.Reconcile.Endings
import RunHerald.Proofs.Settings.Loading

/-!
# No run is dropped silently

The last call of an invocation decides how it ends. All calls before it have only led on: the record
was found, the payload was accepted, or the change met a conflict (`Call.LeadsOn`). `LastCall` lists
what the last call can be and how the invocation ends with it, and `last_call_of_course` says, by
induction on the course, that there is always such a call.

Whatever the store, the sink and the token do, an invocation that does not change the record either
has seen that nothing is due or fails, and every failure is retried after a delay: `no_silent_drop`.
-/

set_option autoImplicit false

namespace RunHerald

/-- The answer to a call lets the invocation go on. -/
def Call.LeadsOn : Call → Prop
  | .fetch _ answer => ∃ snapshot, answer = .done (some snapshot)
  | .deliver _ answer => answer = .result (.ok ())
  | .patch _ _ _ answer => ∃ current, answer = .done (.conflict current)

/-- The record that a call shows. -/
def Call.shown? : Call → Option Snapshot
  | .fetch _ (.done found) => found
  | _ => none

/-- The record that has been shown last after some calls, if a record was shown before them. -/
def lastShown (before : Option Snapshot) (calls : List Call) : Option Snapshot :=
  calls.foldl (fun shown call => call.shown?.or shown) before

/-- What was shown last is what a later call has shown, if any has. -/
@[simp] theorem lastShown_cons (before : Option Snapshot) (call : Call) (calls : List Call) :
    lastShown before (call :: calls) = lastShown (call.shown?.or before) calls := rfl

/-- What was shown last is what the last call has shown, if it has. -/
theorem lastShown_concat (before : Option Snapshot) (calls : List Call) (call : Call) :
    lastShown before (calls ++ [call]) = call.shown?.or (lastShown before calls) := by
  unfold lastShown
  rw [List.foldl_append]
  rfl

/-- Whether a call is a change that met a conflict. -/
def Call.isConflict : Call → Bool
  | .patch _ _ _ (.done (.conflict _)) => true
  | _ => false

/-! ## The last call -/

/-- An invocation waits for a call after a record was shown last and after so many conflicts. -/
def Stage.Follows (r : Reconciler) (shown : Option Snapshot) (conflicts : Nat) : Stage → Prop
  | .fetch p => p.conflicts = conflicts ∧ conflicts ≤ r.maxConflictRetries.toNat
  | .deliver p snapshot _ =>
    (p.conflicts = conflicts ∧ conflicts ≤ r.maxConflictRetries.toNat) ∧
      shown = some snapshot ∧ Phase.ofRun snapshot.run r.markers = .readyToNotify
  | .write p snapshot w =>
    (p.conflicts = conflicts ∧ conflicts ≤ r.maxConflictRetries.toNat) ∧
      shown = some snapshot ∧ Phase.ofRun snapshot.run r.markers = w.phase

/-- The last call of an invocation and how the invocation ends with it, after a record was shown
last and after so many conflicts. -/
inductive LastCall (r : Reconciler) (key : RunKey) (shown : Option Snapshot) (conflicts : Nat) :
    Call → Ending → Prop
  | fetch (cancelled : Bool) (answer : Attempt (Option Snapshot)) (ending : Ending)
    (h : FetchEnd r.markers cancelled answer ending) :
    LastCall r key shown conflicts (.fetch key answer) ending
  | deliver (snapshot : Snapshot) (payload : Payload) (answer : Delivery) (ending : Ending)
    (hshown : shown = some snapshot)
    (hphase : Phase.ofRun snapshot.run r.markers = .readyToNotify) (h : DeliverEnd answer ending) :
    LastCall r key shown conflicts (.deliver payload answer) ending
  | write (p : Progress) (cancelled : Bool) (snapshot : Snapshot) (w : Write)
    (answer : Attempt PatchResult) (ending : Ending) (hconflicts : p.conflicts = conflicts)
    (hlimit : conflicts ≤ r.maxConflictRetries.toNat) (hshown : shown = some snapshot)
    (hphase : Phase.ofRun snapshot.run r.markers = w.phase)
    (h : WriteEnd r p cancelled w answer ending) :
    LastCall r key shown conflicts
      (.patch key snapshot.version (w.patch r.markers) answer) ending

/-- Some calls of an invocation, up to its end: all but the last one have led on. -/
def Concluded (r : Reconciler) (key : RunKey) (shown : Option Snapshot) (conflicts : Nat)
    (calls : List Call) (ending : Ending) : Prop :=
  ∃ before call, calls = before ++ [call] ∧ (∀ c ∈ before, c.LeadsOn) ∧
    LastCall r key (lastShown shown before) (conflicts + before.countP Call.isConflict) call ending

/-- A last call that ends an invocation concludes it. -/
theorem LastCall.concluded {r : Reconciler} {key : RunKey} {shown : Option Snapshot}
    {conflicts : Nat} {call : Call} {ending : Ending}
    (h : LastCall r key shown conflicts call ending) :
    Concluded r key shown conflicts [call] ending :=
  ⟨[], call, rfl, by simp, h⟩

/-- A call that has led on may stand before. -/
theorem Concluded.cons {r : Reconciler} {key : RunKey} {shown : Option Snapshot} {conflicts : Nat}
    {first : Call} {calls : List Call} {ending : Ending} (hleads : first.LeadsOn)
    (h : Concluded r key (first.shown?.or shown) (conflicts + [first].countP Call.isConflict) calls
      ending) :
    Concluded r key shown conflicts (first :: calls) ending := by
  obtain ⟨before, call, rfl, hbefore, hcall⟩ := h
  refine ⟨first :: before, call, rfl, List.forall_mem_cons.2 ⟨hleads, hbefore⟩, ?_⟩
  rw [← List.singleton_append, List.countP_append, ← Nat.add_assoc]
  exact hcall

/-- Every course that waits for a call has a last one, and ends with it. -/
theorem last_call_of_course {r : Reconciler} {key : RunKey} {reads : Nat → Bool → Prop} {n : Nat}
    {move : Move} {calls : List Call} {ending : Ending} (h : Course r key reads n move calls ending)
    {stage : Stage} (hmove : move = .wait stage) {shown : Option Snapshot} {conflicts : Nat}
    (hfollows : stage.Follows r shown conflicts) :
    Concluded r key shown conflicts calls ending := by
  induction h generalizing stage shown conflicts with
  | finish n ending => cases hmove
  | fetch n p answer cancelled calls ending hc h ih =>
    obtain rfl := Move.wait.inj hmove
    cases hm : (r.fetched p cancelled answer).2 with
    | finish e =>
      rw [hm] at h
      cases h
      exact (LastCall.fetch cancelled answer _ (Reconciler.end_of_fetched hm)).concluded
    | wait next =>
      obtain ⟨snapshot, rfl, hnext⟩ := Reconciler.reason_of_fetched hm
      refine Concluded.cons ⟨snapshot, rfl⟩ (ih hm ?_)
      obtain ⟨rs, rfl, hcalled⟩ | ⟨w, rfl, hcalled⟩ := hnext
      · exact ⟨hfollows, rfl, hcalled.phase⟩
      · exact ⟨hfollows, rfl, hcalled.phase⟩
  | deliver n p snapshot rs now answer calls ending h ih =>
    obtain rfl := Move.wait.inj hmove
    obtain ⟨hconflicts, hshown, hphase⟩ := hfollows
    cases hm : (r.delivered p snapshot (Payload.new key rs now) answer).2 with
    | finish e =>
      rw [hm] at h
      cases h
      exact (LastCall.deliver snapshot _ answer _ hshown hphase
        (Reconciler.end_of_delivered hm)).concluded
    | wait next =>
      obtain ⟨rfl, rfl⟩ := Reconciler.reason_of_delivered hm
      exact Concluded.cons rfl (ih hm ⟨hconflicts, hshown, hphase⟩)
  | write n p snapshot w answer cancelled calls ending hc h ih =>
    obtain rfl := Move.wait.inj hmove
    obtain ⟨⟨hconflicts, hlimit⟩, hshown, hphase⟩ := hfollows
    cases hm : (r.written p cancelled snapshot w answer).2 with
    | finish e =>
      rw [hm] at h
      cases h
      exact (LastCall.write p cancelled snapshot w answer _ hconflicts hlimit hshown hphase
        (Reconciler.end_of_written hm)).concluded
    -- only a conflict leads on from a change, and only within the limit
    | wait next =>
      obtain ⟨current, rfl, rfl, -⟩ := Reconciler.reason_of_written hm
      have hwithin := (Reconciler.wait_of_written hm).2
      refine Concluded.cons ⟨current, rfl⟩ (ih hm ⟨?_, ?_⟩)
      · simp [Call.isConflict, hconflicts]
      · simpa [Call.isConflict, hconflicts] using hwithin

/-! ## What an invocation owes to a run -/

/-- The answer to a call says that there is no such run. -/
def Call.TellsAbsence : Call → Prop
  | .fetch _ answer => answer = .done none
  | .deliver .. => False
  | .patch _ _ _ answer => answer = .done .notFound

/-- The answer to a call says that nothing is due: there is no such run, or it is in a phase that
calls for nothing. -/
def Call.TellsNothingDue (m : Markers) (call : Call) : Prop :=
  call.TellsAbsence ∨ ∃ snapshot, call.shown? = some snapshot ∧
    (Phase.ofRun snapshot.run m = .legacy ∨ Phase.ofRun snapshot.run m = .awaitingCompletion)

/-- A call aborts. -/
def Call.AbortsWith (message : String) : Call → Prop
  | .fetch _ answer => answer = .aborted message
  | .deliver _ answer => answer = .aborted message
  | .patch _ _ _ answer => answer = .aborted message

/-- A call is a change of the record that was made. -/
def Call.Applies (p : Patch) (call : Call) : Prop :=
  ∃ k expected version, call = .patch k expected p (.done (.applied version))

/-- A run whose invocation fails so is looked at again after a delay of at least a second. There is
one delay for payloads that the sink has refused for good, and one for all other failures. -/
structure Reconciler.Retries (r : Reconciler) (e : ReconcileError) : Prop where
  delayed : ∃ delay, r.requeueAfter e = .after delay ∧ 1 ≤ delay.seconds
  refused : ∀ status message, e = .delivery (.rejected status message) →
    r.requeueAfter e = .after r.rejectedBackoff
  other : (∀ status message, e ≠ .delivery (.rejected status message)) →
    r.requeueAfter e = .after r.retryBackoff

/-- The calls of an invocation and its end leave nothing due without a reason to look at the run
again. -/
structure NothingDropped (r : Reconciler) (calls : List Call) (ending : Ending) : Prop where
  /-- Success without a change means that the last call has told that nothing is due. -/
  idle : ∀ o, ending = .returned (.ok o) → (∀ p, ∀ call ∈ calls, ¬ call.Applies p) →
    ∃ call, calls.getLast? = some call ∧ call.TellsNothingDue r.markers
  /-- After the marker was set, the run is to be looked at again at once. -/
  marked : ∀ call ∈ calls, call.Applies (Write.setMarker.patch r.markers) →
    ending = .returned (.ok ⟨.notified, .now⟩)
  /-- An invocation that has last seen the run ready, has not marked it and was not told that it is
  gone returns an error, which is retried. -/
  due : ∀ result, ending = .returned result →
    ∀ snapshot, lastShown none calls = some snapshot →
    Phase.ofRun snapshot.run r.markers = .readyToNotify →
    (∀ call ∈ calls, ¬ call.Applies (Write.setMarker.patch r.markers)) →
    (∀ call ∈ calls, ¬ call.TellsAbsence) → ∃ e, result = .error e ∧ r.Retries e
  /-- An invocation that does not return aborts with its last call, or because it puts up with as
  many conflicts as its counter can hold and has met one more. -/
  aborts : ∀ message, ending = .aborted message →
    (∃ call, calls.getLast? = some call ∧ call.AbortsWith message) ∨
      message = countOverflow ∧ r.maxConflictRetries.toNat + 1 = conflictLimit ∧
        calls.countP Call.isConflict = conflictLimit

/-- A call that leads on has not applied a patch. -/
theorem Call.LeadsOn.not_applies {call : Call} (h : call.LeadsOn) (p : Patch) :
    ¬ call.Applies p := by
  rintro ⟨k, expected, version, rfl⟩
  obtain ⟨current, heq⟩ := h
  cases heq

/-- An invocation that succeeds has changed the record with its last call, or was told there that
nothing is due. -/
theorem LastCall.tells_of_done {r : Reconciler} {key : RunKey} {shown : Option Snapshot}
    {conflicts : Nat} {call : Call} {o : Outcome}
    (h : LastCall r key shown conflicts call (.returned (.ok o))) :
    (∃ p, call.Applies p) ∨ call.TellsNothingDue r.markers := by
  cases h with
  | fetch cancelled answer _ h =>
    cases h with
    | absent => exact Or.inr (Or.inl rfl)
    | legacy snapshot hphase => exact Or.inr (Or.inr ⟨snapshot, rfl, Or.inl hphase⟩)
    | awaitingCompletion snapshot hphase => exact Or.inr (Or.inr ⟨snapshot, rfl, Or.inr hphase⟩)
  | deliver snapshot payload answer _ hshown hphase h => cases h
  | write p cancelled snapshot w answer _ hconflicts hlimit hshown hphase h =>
    cases h with
    | applied version => exact Or.inl ⟨_, _, _, version, rfl⟩
    | notFound => exact Or.inr (Or.inl rfl)

/-- An invocation whose last call sets the marker asks to be followed by another at once. -/
theorem LastCall.requeues_of_marked {r : Reconciler} {key : RunKey} {shown : Option Snapshot}
    {conflicts : Nat} {call : Call} {ending : Ending}
    (h : LastCall r key shown conflicts call ending)
    (hmarked : call.Applies (Write.setMarker.patch r.markers)) :
    ending = .returned (.ok ⟨.notified, .now⟩) := by
  obtain ⟨k, expected, version, rfl⟩ := hmarked
  generalize hpatch : Write.setMarker.patch r.markers = change at h
  cases h with
  | write p cancelled snapshot w answer _ hconflicts hlimit hshown hphase h =>
    obtain rfl := Write.eq_setMarker hpatch
    cases h
    rfl

/-- An invocation that is left with a record that is ready fails. -/
theorem LastCall.fails_of_ready {r : Reconciler} {key : RunKey} {shown : Option Snapshot}
    {conflicts : Nat} {call : Call} {result : Except ReconcileError Outcome}
    (h : LastCall r key shown conflicts call (.returned result)) {snapshot : Snapshot}
    (hlast : call.shown?.or shown = some snapshot)
    (hready : Phase.ofRun snapshot.run r.markers = .readyToNotify)
    (hunmarked : ¬ call.Applies (Write.setMarker.patch r.markers))
    (hpresent : ¬ call.TellsAbsence) : ∃ e, result = .error e := by
  cases h with
  | fetch cancelled answer _ h =>
    cases h with
    | failed e => exact ⟨_, rfl⟩
    | absent => exact absurd rfl hpresent
    | legacy found hphase =>
      obtain rfl := Option.some.inj hlast
      rw [hphase] at hready
      cases hready
    | awaitingCompletion found hphase =>
      obtain rfl := Option.some.inj hlast
      rw [hphase] at hready
      cases hready
    | unreadable => exact ⟨_, rfl⟩
    | cancelled => exact ⟨_, rfl⟩
  | deliver found payload answer _ hshown hphase h =>
    cases h with
    | abandoned => exact ⟨_, rfl⟩
    | failed e => exact ⟨_, rfl⟩
  | write p cancelled found w answer _ hconflicts hlimit hshown hphase h =>
    cases h with
    | failed e => exact ⟨_, rfl⟩
    -- a change of a record that is ready sets the marker
    | applied version =>
      obtain rfl := Option.some.inj (hshown.symm.trans hlast)
      have hmarks : w = .setMarker := by
        rw [hready] at hphase
        cases w <;> first | rfl | cases hphase
      subst hmarks
      exact absurd ⟨_, _, version, rfl⟩ hunmarked
    | notFound => exact absurd rfl hpresent
    | exhausted => exact ⟨_, rfl⟩
    | cancelled => exact ⟨_, rfl⟩

/-- An invocation aborts with its last call, or because its counter of conflicts is full. -/
theorem LastCall.aborts {r : Reconciler} {key : RunKey} {shown : Option Snapshot}
    {conflicts : Nat} {call : Call} {message : String}
    (h : LastCall r key shown conflicts call (.aborted message)) :
    call.AbortsWith message ∨ message = countOverflow ∧ call.isConflict = true ∧
      conflicts + 1 = conflictLimit ∧ r.maxConflictRetries.toNat + 1 = conflictLimit := by
  cases h with
  | fetch cancelled answer _ h =>
    cases h
    exact Or.inl rfl
  | deliver found payload answer _ hshown hphase h =>
    cases h
    exact Or.inl rfl
  | write p cancelled found w answer _ hconflicts hlimit hshown hphase h =>
    cases h with
    | aborted => exact Or.inl rfl
    | overflow current hfull =>
      have hbounded : r.maxConflictRetries.toNat < conflictLimit :=
        r.maxConflictRetries.toNat_lt_size
      exact Or.inr ⟨rfl, rfl, by omega, by omega⟩

/-- An invocation whose calls are concluded drops nothing, if every failure is retried. -/
theorem Concluded.nothingDropped {r : Reconciler} {key : RunKey} {calls : List Call}
    {ending : Ending} (hretries : ∀ e, r.Retries e) (h : Concluded r key none 0 calls ending) :
    NothingDropped r calls ending := by
  obtain ⟨before, call, rfl, hbefore, hcall⟩ := h
  have hmem : call ∈ before ++ [call] := List.mem_append_right _ (List.mem_singleton_self call)
  constructor
  case idle =>
    rintro o rfl hunchanged
    obtain ⟨p, happlies⟩ | htells := hcall.tells_of_done
    · exact absurd happlies (hunchanged p call hmem)
    · exact ⟨call, List.getLast?_concat, htells⟩
  case marked =>
    intro c hc happlies
    obtain hc | hc := List.mem_append.1 hc
    · exact absurd happlies ((hbefore c hc).not_applies _)
    · obtain rfl := List.mem_singleton.1 hc
      exact hcall.requeues_of_marked happlies
  case due =>
    rintro result rfl snapshot hlast hready hunmarked hpresent
    rw [lastShown_concat] at hlast
    obtain ⟨e, rfl⟩ :=
      hcall.fails_of_ready hlast hready (hunmarked call hmem) (hpresent call hmem)
    exact ⟨e, rfl, hretries e⟩
  case aborts =>
    rintro message rfl
    obtain haborts | ⟨hmessage, hconflict, hconflicts, hlimit⟩ := hcall.aborts
    · exact Or.inl ⟨call, List.getLast?_concat, haborts⟩
    · refine Or.inr ⟨hmessage, hlimit, ?_⟩
      rw [List.countP_append, List.countP_singleton, if_pos hconflict]
      omega

/-- An invocation that is cancelled at once drops nothing. -/
theorem nothingDropped_of_cancelled (r : Reconciler) :
    NothingDropped r [] (.returned (.error .cancelled)) where
  idle := by
    intro o ho
    cases ho
  marked := by simp
  due := by
    intro result hresult snapshot hlast
    cases hlast
  aborts := by
    intro message hmessage
    cases hmessage

/-! ## Settings and invocations -/

namespace Settings

variable {vars : Variables} {s : Settings}

/-- With settings that were loaded every error is retried. -/
theorem LoadedFrom.retries (h : LoadedFrom vars s) (sinkName : String) (e : ReconcileError) :
    (s.reconciler sinkName).Retries e where
  delayed := by
    unfold Reconciler.requeueAfter
    split
    · exact ⟨_, rfl, h.one_le_rejectedBackoff⟩
    · exact ⟨_, rfl, h.one_le_retryBackoff⟩
  refused := by
    rintro status message rfl
    rfl
  other := by
    intro hother
    unfold Reconciler.requeueAfter
    split
    · exact absurd rfl (hother _ _)
    · rfl

end Settings

namespace Reconciler

/-- An invocation is cancelled before its first call, or its calls are concluded. -/
theorem concluded_of_reconcile {σ : Type} (r : Reconciler) (env : Environment σ)
    (cancelled : σ × List Call → Bool) (key : RunKey) (t : σ) :
    let out := r.reconcile (env.traced cancelled) key (t, [])
    out.2.2 = [] ∧ out.1 = .returned (.error .cancelled) ∨
      Concluded r key none 0 out.2.2 out.1 := by
  have hcourse := course_of_reconcile r env cancelled key (fun _ _ => True) (fun _ => trivial) t
  cases hmove : resume .start (cancelled (t, [])) with
  | wait stage =>
    obtain ⟨rfl, -⟩ := wait_of_resume hmove
    exact Or.inr (last_call_of_course hcourse hmove ⟨rfl, Nat.zero_le _⟩)
  | finish ending =>
    obtain ⟨rfl, -⟩ := end_of_resume hmove
    rw [hmove] at hcourse
    intro out
    change Course r key _ 0 _ out.2.2 out.1 at hcourse
    generalize out.2.2 = calls at hcourse ⊢
    generalize out.1 = ending at hcourse ⊢
    cases hcourse
    exact Or.inl ⟨rfl, rfl⟩

/-- Whatever the store, the sink and the token do, no run is dropped silently with settings that
were loaded: the calls of an invocation and its end leave nothing due without a reason to look at
the run again, and every failure is retried after a delay. -/
theorem no_silent_drop {σ : Type} {vars : Variables} {s : Settings}
    (h : Settings.load vars = .ok s) (sinkName : String) (env : Environment σ)
    (cancelled : σ × List Call → Bool) (key : RunKey) (t : σ) :
    let r := s.reconciler sinkName
    let out := r.reconcile (env.traced cancelled) key (t, [])
    NothingDropped r out.2.2 out.1 ∧ ∀ e, r.Retries e := by
  intro r out
  have hretries := (Settings.load_eq_ok_iff.1 h).retries sinkName
  refine ⟨?_, hretries⟩
  obtain ⟨hcalls, hending⟩ | hconcluded := concluded_of_reconcile r env cancelled key t
  · change NothingDropped r (r.reconcile (env.traced cancelled) key (t, [])).2.2
      (r.reconcile (env.traced cancelled) key (t, [])).1
    rw [hcalls, hending]
    exact nothingDropped_of_cancelled r
  · exact hconcluded.nothingDropped hretries

/-- With the standard settings, a run whose payload the sink refuses for good is looked at again
after five minutes. -/
theorem no_silent_drop_of_refused_payload :
    let a : RunKey := ⟨"ci", "a"⟩
    let ready : Snapshot := ⟨((Run.new a).withResults [⟨"verdict", "pass"⟩]).withFinalizer
      "notification.guard", "1"⟩
    let refusal : DeliveryError := .rejected (some 422) "unprocessable"
    let env : Environment Unit :=
      { cancelled := fun _ => false
        now := fun _ => default
        emit := fun _ u => u
        fetch := fun _ u => (.done (some ready), u)
        patch := fun _ _ _ u => (.done .notFound, u)
        deliver := fun _ u => (.result (.error refusal), u) }
    ∃ s, Settings.load (fun _ => none) = .ok s ∧
      let r := s.reconciler "sink"
      let out := r.reconcile (env.traced fun _ => false) a ((), [])
      lastShown none out.2.2 = some ready ∧
        Phase.ofRun ready.run r.markers = .readyToNotify ∧
        out.1 = .returned (.error (.delivery refusal)) ∧
        r.requeueAfter (.delivery refusal) = .after (.ofSeconds 300) := by
  intro a ready refusal env
  let s : Settings := ⟨.standard, 3, .ofSeconds 30, .ofSeconds 300, none, .pretty⟩
  have hload : Settings.load (fun _ => none) = .ok s := rfl
  refine ⟨s, hload, ?_⟩
  intro r out
  let rs : List RunResult := [⟨"verdict", "pass"⟩]
  let read : Call := .fetch a (.done (some ready))
  let delivery : Call := .deliver (Payload.new a rs default) (.result (.error refusal))
  let go := r.drive (env.traced fun _ => false) a
  have hdrive : go (.wait (.fetch .start)) ((), []) =
      (.returned (.error (.delivery refusal)), (), [read, delivery]) := by
    calc go (.wait (.fetch .start)) ((), [])
        = go (.wait (.deliver .start ready rs)) ((), [read]) := drive_wait _ _ _ _ _
      _ = go (.finish (.returned (.error (.delivery refusal)))) ((), [read, delivery]) :=
        drive_wait _ _ _ _ _
      _ = _ := drive_finish _ _ _ _ _
  have hout : out = (.returned (.error (.delivery refusal)), (), [read, delivery]) := by
    refine (reconcile_of_drive hdrive).trans ?_
    rw [Environment.emitAll_traced]
  have hending : out.1 = .returned (.error (.delivery refusal)) := congrArg Prod.fst hout
  have hcalls : out.2.2 = [read, delivery] := congrArg (fun out => out.2.2) hout
  have hready : Phase.ofRun ready.run r.markers = .readyToNotify := by cbv
  obtain ⟨hdropped, -⟩ := no_silent_drop hload "sink" env (fun _ => false) a ()
  change NothingDropped r out.2.2 out.1 at hdropped
  have hshown : lastShown none out.2.2 = some ready := by
    rw [hcalls]
    rfl
  have hunmarked : ∀ call ∈ out.2.2, ¬ call.Applies (Write.setMarker.patch r.markers) := by
    rw [hcalls]
    rintro call hcall ⟨k, expected, version, rfl⟩
    simp [read, delivery] at hcall
  have hpresent : ∀ call ∈ out.2.2, ¬ call.TellsAbsence := by
    rw [hcalls]
    simp [read, delivery, Call.TellsAbsence]
  obtain ⟨e, heq, hretries⟩ := hdropped.due _ hending ready hshown hready hunmarked hpresent
  obtain rfl := Except.error.inj heq
  exact ⟨hshown, hready, hending, hretries.refused _ _ rfl⟩

end Reconciler

end RunHerald
