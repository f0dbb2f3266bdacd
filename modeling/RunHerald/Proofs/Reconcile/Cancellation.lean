import RunHerald.Proofs.Reconcile.CallDiscipline

/-!
# Cancellation

The token of an invocation is cancelled from some moment on, or never. A moment is counted in the
calls that have been answered (`cancelledFrom`), since an invocation looks at its token only between
two calls.

* A cancelled invocation starts nothing new: `Call.Allowed` says of each call what must hold of the
  calls before it. A read needs a delivery or a token that is not cancelled, a delivery and a change
  of the guard need a token that is not cancelled. Every course keeps to this: `allowed_of_course`.
* A delivery makes an invocation immune. As long as the record stays ready, with the results that
  have been delivered, it goes on to its end as if there were no token: `drive_eq_of_delivered`. So
  the moment of the cancellation does not matter once it is later than the delivery:
  `reconcile_eq_of_delivered`.
-/

set_option autoImplicit false

namespace RunHerald

variable {σ : Type}

/-- Whether a token is cancelled once so many calls have been answered, if it is cancelled from a
moment on, or never. -/
def cancelledFrom (moment : Option Nat) (answered : Nat) : Bool := moment.any (· ≤ answered)

/-- A token stays cancelled. -/
theorem cancelledFrom_mono {moment : Option Nat} {m n : Nat} (hle : m ≤ n)
    (h : cancelledFrom moment n = false) : cancelledFrom moment m = false := by
  cases moment with
  | none => rfl
  | some k =>
    simp only [cancelledFrom, Option.any_some, decide_eq_false_iff_not] at h ⊢
    omega

/-- An environment with a record of the calls made in it, whose token is cancelled or not by the
number of calls that have been answered. -/
def Environment.withToken (env : Environment σ) (token : Nat → Bool) :
    Environment (σ × List Call) :=
  env.traced fun s => token s.2.length

/-! ## What a cancelled invocation does not start -/

/-- Among some calls there is a delivery that the sink has accepted. -/
def HasDelivered (calls : List Call) : Prop :=
  ∃ payload, .deliver payload (.result (.ok ())) ∈ calls

/-- A call is allowed after the calls before it. -/
def Call.Allowed (token : Nat → Bool) (key : RunKey) (before : List Call) : Call → Prop
  | .fetch .. => token before.length = true → HasDelivered before
  | .deliver .. => token before.length = false
  | .patch _ expected p _ =>
    (∀ name value, p ≠ .annotate name value) → token before.length = false ∧
      ∃ earlier snapshot, before = earlier ++ [.fetch key (.done (some snapshot))] ∧
        expected = snapshot.version

/-- What was delivered stays so after further calls. -/
theorem HasDelivered.append {calls : List Call} (h : HasDelivered calls) (calls' : List Call) :
    HasDelivered (calls ++ calls') := by
  obtain ⟨payload, hmem⟩ := h
  exact ⟨payload, List.mem_append_left calls' hmem⟩

/-- What an invocation remembers while it waits. -/
def Stage.progress : Stage → Progress
  | .fetch p => p
  | .deliver p _ _ => p
  | .write p _ _ => p

/-- What an invocation remembers has been delivered, and its next call is allowed. -/
inductive Stage.Allowed (token : Nat → Bool) (key : RunKey) (before : List Call) : Stage → Prop
  | fetch (p : Progress) (hd : p.delivered ≠ none → HasDelivered before)
    (ht : p.delivered = none → token before.length = false) : Allowed token key before (.fetch p)
  | deliver (p : Progress) (snapshot : Snapshot) (rs : List RunResult)
    (hd : p.delivered ≠ none → HasDelivered before) (ht : token before.length = false) :
    Allowed token key before (.deliver p snapshot rs)
  | write (p : Progress) (snapshot : Snapshot) (w : Write)
    (hd : p.delivered ≠ none → HasDelivered before)
    (ht : w ≠ .setMarker → token before.length = false ∧
      ∃ earlier, before = earlier ++ [.fetch key (.done (some snapshot))]) :
    Allowed token key before (.write p snapshot w)

/-- An invocation that remembers a delivery has made one. -/
theorem Stage.Allowed.delivered {token : Nat → Bool} {key : RunKey} {before : List Call}
    {stage : Stage} (h : stage.Allowed token key before) :
    stage.progress.delivered ≠ none → HasDelivered before := by
  cases h with
  | fetch p hd => exact hd
  | deliver p snapshot rs hd => exact hd
  | write p snapshot w hd => exact hd

/-- What follows a read is allowed. -/
theorem allowed_fetched {r : Reconciler} {key : RunKey} {token : Nat → Bool} {before : List Call}
    {p : Progress} {answer : Attempt (Option Snapshot)} {stage : Stage}
    (hd : p.delivered ≠ none → HasDelivered before)
    (h : (r.fetched p (token (before.length + 1)) answer).2 = .wait stage) :
    stage.Allowed token key (before ++ [.fetch key answer]) := by
  have hlength : (before ++ [Call.fetch key answer]).length = before.length + 1 := by simp
  have hd' := fun hp => (hd hp).append [Call.fetch key answer]
  obtain ⟨snapshot, rfl, ⟨rs, rfl, hw⟩ | ⟨w, rfl, hw⟩⟩ := Reconciler.reason_of_fetched h
  · refine .deliver p snapshot rs hd' ?_
    rw [hlength]
    exact hw.active
  · refine .write p snapshot w hd' ?_
    intro hset
    rw [hlength]
    exact ⟨hw.active hset, before, rfl⟩

/-- What follows a delivery is allowed. -/
theorem allowed_delivered {r : Reconciler} {key : RunKey} {token : Nat → Bool}
    {before : List Call} {p : Progress} {snapshot : Snapshot} {payload : Payload}
    {answer : Delivery} {stage : Stage}
    (h : (r.delivered p snapshot payload answer).2 = .wait stage) :
    stage.Allowed token key (before ++ [.deliver payload answer]) := by
  obtain ⟨rfl, rfl⟩ := Reconciler.reason_of_delivered h
  refine .write _ snapshot .setMarker (fun _ => ⟨payload, by simp⟩) ?_
  intro hset
  exact absurd rfl hset

/-- What follows an attempt to change the record is allowed. -/
theorem allowed_written {r : Reconciler} {key : RunKey} {token : Nat → Bool} {before : List Call}
    {p : Progress} {snapshot : Snapshot} {w : Write} {answer : Attempt PatchResult} {call : Call}
    {stage : Stage} (hd : p.delivered ≠ none → HasDelivered before)
    (h : (r.written p (token (before.length + 1)) snapshot w answer).2 = .wait stage) :
    stage.Allowed token key (before ++ [call]) := by
  obtain ⟨current, rfl, rfl, hactive⟩ := Reconciler.reason_of_written h
  refine .fetch _ (fun hp => (hd hp).append [call]) ?_
  rw [List.length_append, List.length_singleton]
  exact hactive

/-- The call that an invocation makes next is allowed if its stage is. -/
theorem Stage.Allowed.call {token : Nat → Bool} {key : RunKey} {before : List Call}
    {stage : Stage} (h : stage.Allowed token key before) :
    match stage with
    | .fetch _ => ∀ answer, (Call.fetch key answer).Allowed token key before
    | .deliver .. => ∀ payload answer, (Call.deliver payload answer).Allowed token key before
    | .write _ snapshot w => ∀ m answer,
      (Call.patch key snapshot.version (w.patch m) answer).Allowed token key before := by
  cases h with
  | fetch p hd ht =>
    intro answer htoken
    apply hd
    intro hp
    rw [ht hp] at htoken
    cases htoken
  | deliver p snapshot rs hd ht =>
    intro payload answer
    exact ht
  | write p snapshot w hd ht =>
    intro m answer hpatch
    have hw : w ≠ .setMarker := by
      rintro rfl
      exact hpatch _ _ rfl
    obtain ⟨htoken, earlier, hearlier⟩ := ht hw
    exact ⟨htoken, earlier, snapshot, hearlier, rfl⟩

/-- A move leads to an end or to a call that is allowed. -/
def Move.Allowed (token : Nat → Bool) (key : RunKey) (before : List Call) : Move → Prop
  | .finish _ => True
  | .wait stage => stage.Allowed token key before

/-- A move is allowed if the stage that it waits for is. -/
theorem Move.allowed_of_wait {token : Nat → Bool} {key : RunKey} {before : List Call} {move : Move}
    (h : ∀ stage, move = .wait stage → stage.Allowed token key before) :
    move.Allowed token key before := by
  cases move with
  | finish ending => trivial
  | wait stage => exact h stage rfl

/-- Each call of a course is allowed if the first one is. -/
theorem allowed_of_course {r : Reconciler} {key : RunKey} {token : Nat → Bool} {n : Nat}
    {move : Move} {calls : List Call} {ending : Ending}
    (h : Course r key (fun n cancelled => cancelled = token n) n move calls ending)
    {before : List Call} (hn : before.length = n) (hmove : move.Allowed token key before)
    {between after : List Call} {call : Call} (hcalls : calls = between ++ call :: after) :
    call.Allowed token key (before ++ between) := by
  -- `before` grows with every call that is passed, and the next move is allowed after it
  induction h generalizing before between with
  | finish n ending => simp at hcalls
  | fetch n p answer cancelled calls ending hc h ih =>
    subst hn hc
    cases between with
    | nil =>
      obtain ⟨rfl, -⟩ := List.cons.inj hcalls
      simpa using Stage.Allowed.call hmove answer
    | cons first between =>
      obtain ⟨rfl, hrest⟩ := List.cons.inj hcalls
      have hnext : (r.fetched p (token (before.length + 1)) answer).2.Allowed token key
          (before ++ [.fetch key answer]) := by
        apply Move.allowed_of_wait
        intro stage hstage
        exact allowed_fetched (Stage.Allowed.delivered hmove) hstage
      simpa using ih (by simp) hnext hrest
  | deliver n p snapshot rs now answer calls ending h ih =>
    subst hn
    cases between with
    | nil =>
      obtain ⟨rfl, -⟩ := List.cons.inj hcalls
      simpa using Stage.Allowed.call hmove _ answer
    | cons first between =>
      obtain ⟨rfl, hrest⟩ := List.cons.inj hcalls
      have hnext : (r.delivered p snapshot (Payload.new key rs now) answer).2.Allowed token key
          (before ++ [.deliver (Payload.new key rs now) answer]) := by
        apply Move.allowed_of_wait
        intro stage hstage
        exact allowed_delivered hstage
      simpa using ih (by simp) hnext hrest
  | write n p snapshot w answer cancelled calls ending hc h ih =>
    subst hn hc
    cases between with
    | nil =>
      obtain ⟨rfl, -⟩ := List.cons.inj hcalls
      simpa using Stage.Allowed.call hmove _ answer
    | cons first between =>
      obtain ⟨rfl, hrest⟩ := List.cons.inj hcalls
      have hnext : (r.written p (token (before.length + 1)) snapshot w answer).2.Allowed token key
          (before ++ [.patch key snapshot.version (w.patch r.markers) answer]) := by
        apply Move.allowed_of_wait
        intro stage hstage
        exact allowed_written (Stage.Allowed.delivered hmove) hstage
      simpa using ih (by simp) hnext hrest

namespace Reconciler

/-- Each call of an invocation is allowed after the calls before it. -/
theorem allowed_of_reconcile (r : Reconciler) (env : Environment σ) (key : RunKey)
    (token : Nat → Bool) (s : σ) {before after : List Call} {call : Call}
    (hcalls : (r.reconcile (env.withToken token) key (s, [])).2.2 = before ++ call :: after) :
    call.Allowed token key before := by
  have hcourse := course_of_reconcile r env (fun s => token s.2.length) key
    (fun n cancelled => cancelled = token n) (fun _ => rfl) s
  have hstart : (resume .start (token 0)).Allowed token key [] := by
    apply Move.allowed_of_wait
    intro stage hstage
    obtain ⟨rfl, hactive⟩ := wait_of_resume hstage
    exact .fetch _ (fun hp => absurd rfl hp) hactive
  exact allowed_of_course hcourse rfl hstart hcalls

/-! ## Immunity after a delivery -/

/-- Every record that is read among some calls is ready, with the same results. -/
def StaysReady (m : Markers) (key : RunKey) (rs : List RunResult) (calls : List Call) : Prop :=
  ∀ snapshot, .fetch key (.done (some snapshot)) ∈ calls →
    Phase.ofRun snapshot.run m = .readyToNotify ∧ snapshot.run.readResults = .ok rs

/-- An invocation that has delivered the results of a record goes on to the marker, cancelled or
not. -/
theorem fetched_of_delivered {r : Reconciler} {p : Progress} {rs : List RunResult}
    {answer : Attempt (Option Snapshot)} (hp : p.delivered = some rs)
    (hready : ∀ snapshot, answer = .done (some snapshot) →
      Phase.ofRun snapshot.run r.markers = .readyToNotify ∧ snapshot.run.readResults = .ok rs)
    (cancelled cancelled' : Bool) :
    r.fetched p cancelled answer = r.fetched p cancelled' answer := by
  cases answer with
  | aborted message => rfl
  | failed e => rfl
  | done found =>
    cases found with
    | none => rfl
    | some snapshot =>
      obtain ⟨hphase, hresults⟩ := hready snapshot rfl
      simp [fetched, decide, announce, hphase, hresults, hp]

/-- An invocation that has delivered goes on after a conflict, cancelled or not. -/
theorem written_of_delivered (r : Reconciler) {p : Progress} {rs : List RunResult}
    (snapshot : Snapshot) (w : Write) (answer : Attempt PatchResult)
    (hp : p.delivered = some rs) (cancelled cancelled' : Bool) :
    r.written p cancelled snapshot w answer = r.written p cancelled' snapshot w answer := by
  cases answer with
  | aborted message => rfl
  | failed e => rfl
  | done result =>
    cases result with
    | applied version => rfl
    | notFound => rfl
    | conflict current => simp [written, conflicted, resume, hp]

/-- An invocation that has delivered the results of a record goes on from a read to the marker, and
still remembers them. -/
theorem wait_of_fetched_of_delivered {r : Reconciler} {p : Progress} {cancelled : Bool}
    {rs : List RunResult} {answer : Attempt (Option Snapshot)} {stage : Stage}
    (hp : p.delivered = some rs)
    (hready : ∀ snapshot, answer = .done (some snapshot) →
      Phase.ofRun snapshot.run r.markers = .readyToNotify ∧ snapshot.run.readResults = .ok rs)
    (h : (r.fetched p cancelled answer).2 = .wait stage) :
    ∃ snapshot w, stage = .write p snapshot w := by
  obtain ⟨snapshot, rfl, ⟨rs', rfl, hannounced⟩ | ⟨w, rfl, -⟩⟩ := reason_of_fetched h
  · obtain ⟨-, hresults⟩ := hready snapshot rfl
    obtain rfl : rs' = rs := Except.ok.inj (hannounced.results.symm.trans hresults)
    exact absurd hp hannounced.fresh
  · exact ⟨snapshot, w, rfl⟩

end Reconciler

/-- An invocation that has delivered these results, and does not deliver next. -/
def Move.Remembers (rs : List RunResult) : Move → Prop
  | .finish _ => True
  | .wait (.fetch p) => p.delivered = some rs
  | .wait (.deliver ..) => False
  | .wait (.write p _ _) => p.delivered = some rs

namespace Reconciler

variable (r : Reconciler) (env : Environment σ) (key : RunKey) (token token' : Nat → Bool)

/-- A step looks at the token once its call has been answered, if at all. -/
theorem advance_eq_of_agree {s : σ × List Call}
    (h : token (s.2.length + 1) = token' (s.2.length + 1)) (stage : Stage) :
    r.advance (env.withToken token') key stage s = r.advance (env.withToken token) key stage s := by
  cases stage with
  | fetch p =>
    unfold Environment.withToken
    rw [advance_traced_fetch, advance_traced_fetch]
    simp [h]
  | deliver p snapshot rs =>
    unfold Environment.withToken
    rw [advance_traced_deliver, advance_traced_deliver]
  | write p snapshot w =>
    unfold Environment.withToken
    rw [advance_traced_write, advance_traced_write]
    simp [h]

/-- The calls that an invocation makes are added to those made before. -/
theorem exists_calls_of_drive (move : Move) (s : σ × List Call) :
    ∃ calls, (r.drive (env.withToken token) key move s).2.2 = s.2 ++ calls := by
  obtain ⟨calls, hcalls, -⟩ := course_of_drive r env (fun s => token s.2.length) key
    (fun _ _ => True) (fun _ => trivial) move s
  exact ⟨calls, hcalls⟩

/-- What is read in the rest of a course that begins with a call. -/
theorem staysReady_of_drive {rs : List RunResult} {stage : Stage} {s : σ × List Call} {call : Call}
    (hcall : (r.advance (env.withToken token) key stage s).2.2 = s.2 ++ [call])
    (hready : ∀ calls, (r.drive (env.withToken token) key (.wait stage) s).2.2 = s.2 ++ calls →
      StaysReady r.markers key rs calls) :
    StaysReady r.markers key rs [call] ∧
      ∀ calls, (r.drive (env.withToken token) key (r.advance (env.withToken token) key stage s).1
          (r.advance (env.withToken token) key stage s).2).2.2
        = (r.advance (env.withToken token) key stage s).2.2 ++ calls →
        StaysReady r.markers key rs calls := by
  rw [drive_wait] at hready
  have hall : ∀ calls, (r.drive (env.withToken token) key
      (r.advance (env.withToken token) key stage s).1
      (r.advance (env.withToken token) key stage s).2).2.2
        = (r.advance (env.withToken token) key stage s).2.2 ++ calls →
      StaysReady r.markers key rs (call :: calls) := by
    intro calls hcalls
    apply hready
    rw [hcalls, hcall, List.append_assoc]
    rfl
  constructor
  · obtain ⟨calls, hcalls⟩ := exists_calls_of_drive r env key token
      (r.advance (env.withToken token) key stage s).1
      (r.advance (env.withToken token) key stage s).2
    intro snapshot hmem
    rw [List.mem_singleton] at hmem
    exact hall calls hcalls snapshot (hmem ▸ List.mem_cons_self)
  · intro calls hcalls snapshot hmem
    exact hall calls hcalls snapshot (List.mem_cons_of_mem _ hmem)

/-- A step of an invocation that has delivered does not depend on the token, as long as the record
stays ready with the results that were delivered. What has been delivered is still remembered then.
-/
theorem advance_eq_of_delivered {rs : List RunResult} {stage : Stage} {s : σ × List Call}
    {call : Call} (hstage : (Move.wait stage).Remembers rs)
    (hcall : (r.advance (env.withToken token) key stage s).2.2 = s.2 ++ [call])
    (hready : StaysReady r.markers key rs [call]) :
    r.advance (env.withToken token') key stage s = r.advance (env.withToken token) key stage s ∧
      (r.advance (env.withToken token) key stage s).1.Remembers rs := by
  unfold Environment.withToken at hcall ⊢
  cases stage with
  | fetch p =>
    have hp : p.delivered = some rs := hstage
    rw [advance_traced_fetch] at hcall
    rw [advance_traced_fetch, advance_traced_fetch]
    obtain rfl : Call.fetch key (env.fetch key s.1).1 = call :=
      List.singleton_inj.1 (List.append_cancel_left hcall)
    have hanswer : ∀ snapshot, (env.fetch key s.1).1 = .done (some snapshot) →
        Phase.ofRun snapshot.run r.markers = .readyToNotify ∧
          snapshot.run.readResults = .ok rs := by
      intro snapshot h
      exact hready snapshot (by simp [h])
    refine ⟨?_, ?_⟩
    · have hsame := fun n => fetched_of_delivered hp hanswer (token' n) (token n)
      simp only [hsame]
    · cases hmove : (r.fetched p (token (s.2 ++ [Call.fetch key (env.fetch key s.1).1]).length)
          (env.fetch key s.1).1).2 with
      | finish ending => simp only [hmove, Move.Remembers]
      | wait next =>
        obtain ⟨snapshot, w, rfl⟩ := wait_of_fetched_of_delivered hp hanswer hmove
        simpa only [hmove, Move.Remembers] using hp
  | deliver p snapshot rs' => exact hstage.elim
  | write p snapshot w =>
    have hp : p.delivered = some rs := hstage
    rw [advance_traced_write, advance_traced_write]
    refine ⟨?_, ?_⟩
    · have hsame := fun n answer =>
        written_of_delivered r snapshot w answer hp (token' n) (token n)
      simp only [hsame]
    · cases hmove : (r.written p (token (s.2 ++ [Call.patch key snapshot.version
          (w.patch r.markers) (env.patch key snapshot.version (w.patch r.markers) s.1).1]).length)
          snapshot w (env.patch key snapshot.version (w.patch r.markers) s.1).1).2 with
      | finish ending => simp only [hmove, Move.Remembers]
      | wait next =>
        obtain ⟨current, -, rfl, -⟩ := reason_of_written hmove
        simpa only [hmove, Move.Remembers] using hp

/-- A step that delivers does not look at the token, and remembers what it has delivered. -/
theorem advance_of_delivery {stage : Stage} {s : σ × List Call} {payload : Payload}
    (hcall : (r.advance (env.withToken token) key stage s).2.2
      = s.2 ++ [.deliver payload (.result (.ok ()))]) :
    r.advance (env.withToken token') key stage s = r.advance (env.withToken token) key stage s ∧
      (r.advance (env.withToken token) key stage s).1.Remembers payload.results := by
  unfold Environment.withToken at hcall ⊢
  cases stage with
  | fetch p =>
    rw [advance_traced_fetch] at hcall
    have := List.singleton_inj.1 (List.append_cancel_left hcall)
    cases this
  | deliver p snapshot rs =>
    rw [advance_traced_deliver] at hcall
    rw [advance_traced_deliver, advance_traced_deliver]
    obtain ⟨rfl, hanswer⟩ :=
      Call.deliver.inj (List.singleton_inj.1 (List.append_cancel_left hcall))
    refine ⟨rfl, ?_⟩
    simp only [hanswer]
    rfl
  | write p snapshot w =>
    rw [advance_traced_write] at hcall
    have := List.singleton_inj.1 (List.append_cancel_left hcall)
    cases this

/-- Every step adds one call to the record. -/
theorem exists_call_of_advance (stage : Stage) (s : σ × List Call) :
    ∃ call, (r.advance (env.withToken token) key stage s).2.2 = s.2 ++ [call] := by
  unfold Environment.withToken
  cases stage with
  | fetch p =>
    rw [advance_traced_fetch]
    exact ⟨_, rfl⟩
  | deliver p snapshot rs =>
    rw [advance_traced_deliver]
    exact ⟨_, rfl⟩
  | write p snapshot w =>
    rw [advance_traced_write]
    exact ⟨_, rfl⟩

/-- An invocation that has delivered goes on as it would with any other token, as long as the record
stays ready with the results that were delivered. -/
theorem drive_eq_of_delivered {rs : List RunResult} (move : Move) (s : σ × List Call)
    (hmove : move.Remembers rs)
    (hready : ∀ calls, (r.drive (env.withToken token) key move s).2.2 = s.2 ++ calls →
      StaysReady r.markers key rs calls) :
    r.drive (env.withToken token') key move s = r.drive (env.withToken token) key move s := by
  induction move, s using drive_induction r (env.withToken token) key with
  | finish ending s => rw [drive_finish, drive_finish]
  | step stage s ih =>
    obtain ⟨call, hcall⟩ := exists_call_of_advance r env key token stage s
    obtain ⟨hhead, htail⟩ := staysReady_of_drive r env key token hcall hready
    obtain ⟨hsame, hnext⟩ :=
      advance_eq_of_delivered r env key token token' hmove hcall hhead
    rw [drive_wait, drive_wait, hsame]
    exact ih hnext htail

/-- Two tokens that agree until a delivery lead to the same delivery, and after it neither of them
matters. -/
theorem drive_eq_of_agree {before after : List Call} {payload : Payload}
    (hagree : ∀ n ≤ before.length, token n = token' n) (move : Move) (s : σ × List Call)
    (hcalls : (r.drive (env.withToken token) key move s).2.2
      = before ++ .deliver payload (.result (.ok ())) :: after)
    (hbefore : s.2.length ≤ before.length)
    (hready : StaysReady r.markers key payload.results after) :
    r.drive (env.withToken token') key move s = r.drive (env.withToken token) key move s := by
  induction move, s using drive_induction r (env.withToken token) key with
  | finish ending s => rw [drive_finish, drive_finish]
  | step stage s ih =>
    rw [drive_wait] at hcalls
    obtain ⟨call, hcall⟩ := exists_call_of_advance r env key token stage s
    rcases Nat.lt_or_eq_of_le hbefore with hlt | heq
    · have hsame := advance_eq_of_agree r env key token token' (hagree (s.2.length + 1) hlt) stage
      rw [drive_wait, drive_wait, hsame]
      apply ih hcalls
      rw [hcall]
      simpa using hlt
    -- the delivery itself: up to here the tokens agree, and from here on neither counts
    · obtain ⟨calls, hrest⟩ := exists_calls_of_drive r env key token
        (r.advance (env.withToken token) key stage s).1
        (r.advance (env.withToken token) key stage s).2
      have hjoin := hcalls.symm.trans hrest
      rw [hcall, List.append_assoc] at hjoin
      obtain ⟨hs, hjoin⟩ := List.append_inj hjoin heq.symm
      obtain ⟨rfl, -⟩ := List.cons.inj hjoin
      obtain ⟨hsame, hnext⟩ := advance_of_delivery r env key token token' hcall
      rw [drive_wait, drive_wait, hsame]
      refine drive_eq_of_delivered r env key token token' _ _ hnext ?_
      intro calls' hcalls'
      have hjoin' := hcalls.symm.trans hcalls'
      rw [hcall, List.append_assoc, ← hs] at hjoin'
      obtain ⟨-, rfl⟩ := List.cons.inj (List.append_cancel_left hjoin')
      exact hready

/-- As long as the record stays ready with the results that were delivered, the moment at which the
token is cancelled does not matter once it is later than the delivery. -/
theorem reconcile_eq_of_delivered {before after : List Call} {payload : Payload} (s : σ)
    (hagree : ∀ n ≤ before.length, token n = token' n)
    (hcalls : (r.reconcile (env.withToken token) key (s, [])).2.2
      = before ++ .deliver payload (.result (.ok ())) :: after)
    (hready : StaysReady r.markers key payload.results after) :
    r.reconcile (env.withToken token') key (s, [])
      = r.reconcile (env.withToken token) key (s, []) := by
  have hstart : (env.withToken token').cancelled (s, []) = (env.withToken token).cancelled (s, []) :=
    (hagree 0 (Nat.zero_le _)).symm
  have hdrive := fun hcalls => drive_eq_of_agree r env key token token' hagree
    (resume .start ((env.withToken token).cancelled (s, []))) (s, []) hcalls (Nat.zero_le _) hready
  rw [reconcile_eq] at hcalls
  rw [reconcile_eq, reconcile_eq, hstart]
  unfold Environment.withToken at hcalls ⊢
  rw [Environment.emitAll_traced] at hcalls
  rw [Environment.emitAll_traced, Environment.emitAll_traced]
  have := hdrive hcalls
  unfold Environment.withToken at this
  rw [this]

end Reconciler

/-! ## The two together -/

/-- The calls and the end of an invocation that heeds its token. -/
structure HeedsToken (token : Nat → Bool) (key : RunKey) (calls : List Call) (ending : Ending) :
    Prop where
  /-- A cancelled invocation reads nothing, unless it has delivered. -/
  reads : ∀ before k answer after, calls = before ++ .fetch k answer :: after →
    token before.length = true → HasDelivered before
  /-- A cancelled invocation delivers nothing. -/
  deliveries : ∀ before payload answer after, calls = before ++ .deliver payload answer :: after →
    token before.length = false
  /-- The guard is added or removed at once after the read that called for it, and only if the
  invocation was not cancelled when it had that read. -/
  guards : ∀ before k expected p answer after, calls = before ++ .patch k expected p answer :: after →
    (∀ name value, p ≠ .annotate name value) → token before.length = false ∧
      ∃ earlier snapshot, before = earlier ++ [.fetch key (.done (some snapshot))] ∧
        expected = snapshot.version
  /-- An invocation that reports that it was cancelled has changed nothing. -/
  failure : ending = .returned (.error .cancelled) → ∀ k expected p version,
    .patch k expected p (.done (.applied version)) ∉ calls

namespace Reconciler

/-- Whatever the store and the sink do, an invocation heeds its token. -/
theorem heedsToken_of_reconcile (r : Reconciler) (env : Environment σ) (key : RunKey)
    (token : Nat → Bool) (s : σ) :
    HeedsToken token key (r.reconcile (env.withToken token) key (s, [])).2.2
      (r.reconcile (env.withToken token) key (s, [])).1 where
  reads := by
    intro before k answer after hcalls
    exact allowed_of_reconcile r env key token s hcalls
  deliveries := by
    intro before payload answer after hcalls
    exact allowed_of_reconcile r env key token s hcalls
  guards := by
    intro before k expected p answer after hcalls
    exact allowed_of_reconcile r env key token s hcalls
  failure := by
    intro hending k expected p version hmem
    have hdisciplined := disciplined_of_conversation
      (conversation_of_reconcile r env (fun s => token s.2.length) key s)
    apply hdisciplined.failure _ hending k expected p version
    exact List.mem_filter.2 ⟨hmem, rfl⟩

/-- Whatever the store and the sink do, and whenever the token is cancelled, an invocation heeds it.
Once the invocation has delivered, and as long as the record stays ready with the results that were
delivered, it makes the same calls and ends in the same way whenever the token is cancelled later.
-/
theorem token_is_heeded_until_delivery (r : Reconciler) (env : Environment σ) (key : RunKey) (s : σ)
    (moment : Option Nat) :
    let run := fun moment => r.reconcile (env.withToken (cancelledFrom moment)) key (s, [])
    HeedsToken (cancelledFrom moment) key (run moment).2.2 (run moment).1 ∧
      ∀ before payload after,
        (run moment).2.2 = before ++ .deliver payload (.result (.ok ())) :: after →
        StaysReady r.markers key payload.results after →
        ∀ later, cancelledFrom later before.length = false → run later = run moment := by
  intro run
  have hheeds := heedsToken_of_reconcile r env key (cancelledFrom moment) s
  refine ⟨hheeds, ?_⟩
  intro before payload after hcalls hready later hlater
  have hmoment := hheeds.deliveries before payload _ after hcalls
  refine reconcile_eq_of_delivered r env key _ _ s ?_ hcalls hready
  intro n hn
  rw [cancelledFrom_mono hn hmoment, cancelledFrom_mono hn hlater]

/-- A token that is cancelled right after a delivery does not keep the marker from being set,
although the first attempt meets a conflict and the record is read once more. -/
theorem token_is_not_heeded_over_conflict :
    let a : RunKey := ⟨"ci", "a"⟩
    let r : Reconciler := ⟨"sink", .standard, 1, default, default⟩
    let ready : Snapshot := ⟨((Run.new a).withResults [⟨"verdict", "pass"⟩]).withFinalizer
      "notification.guard", "1"⟩
    let env : Environment Nat :=
      { cancelled := fun _ => false
        now := fun _ => default
        emit := fun _ n => n
        fetch := fun _ n => (.done (some ready), n)
        patch := fun _ _ _ n => (.done (if n = 0 then .conflict "2" else .applied "3"), n + 1)
        deliver := fun _ n => (.result (.ok ()), n) }
    let run := fun moment => r.reconcile (env.withToken (cancelledFrom moment)) a (0, [])
    (run none).1 = .returned (.ok ⟨.notified, .now⟩) ∧ run (some 2) = run none := by
  intro a r ready env run
  let rs : List RunResult := [⟨"verdict", "pass"⟩]
  let marker : Patch := .annotate "notification.sent" "true"
  let read : Call := .fetch a (.done (some ready))
  let delivery : Call := .deliver (Payload.new a rs default) (.result (.ok ()))
  let refused : Call := .patch a "1" marker (.done (.conflict "2"))
  let applied : Call := .patch a "1" marker (.done (.applied "3"))
  let go := r.drive (env.withToken (cancelledFrom none)) a
  have hdrive : go (.wait (.fetch ⟨none, 0⟩)) (0, []) =
      (.returned (.ok ⟨.notified, .now⟩), 2, [read, delivery, refused, read, applied]) := by
    calc go (.wait (.fetch ⟨none, 0⟩)) (0, [])
        = go (.wait (.deliver ⟨none, 0⟩ ready rs)) (0, [read]) := drive_wait _ _ _ _ _
      _ = go (.wait (.write ⟨some rs, 0⟩ ready .setMarker)) (0, [read, delivery]) :=
        drive_wait _ _ _ _ _
      _ = go (.wait (.fetch ⟨some rs, 1⟩)) (1, [read, delivery, refused]) :=
        drive_wait _ _ _ _ _
      _ = go (.wait (.write ⟨some rs, 1⟩ ready .setMarker)) (1, [read, delivery, refused, read]) :=
        drive_wait _ _ _ _ _
      _ = go (.finish (.returned (.ok ⟨.notified, .now⟩)))
            (2, [read, delivery, refused, read, applied]) := drive_wait _ _ _ _ _
      _ = _ := drive_finish _ _ _ _ _
  have hrun : run none =
      (.returned (.ok ⟨.notified, .now⟩), 2, [read, delivery, refused, read, applied]) := by
    refine (reconcile_of_drive hdrive).trans ?_
    unfold Environment.withToken
    rw [Environment.emitAll_traced]
    rfl
  have hready : StaysReady r.markers a rs [refused, read, applied] := by
    intro snapshot hmem
    simp only [refused, read, applied, List.mem_cons, reduceCtorEq, Call.fetch.injEq,
      Attempt.done.injEq, Option.some.injEq, true_and, false_or, or_false, List.not_mem_nil] at hmem
    subst hmem
    exact ⟨by cbv, by cbv⟩
  refine ⟨congrArg Prod.fst hrun, ?_⟩
  refine (token_is_heeded_until_delivery r env a 0 none).2 [read] (Payload.new a rs default)
    [refused, read, applied] ?_ hready (some 2) rfl
  exact congrArg (fun out => out.2.2) hrun

end Reconciler

end RunHerald
