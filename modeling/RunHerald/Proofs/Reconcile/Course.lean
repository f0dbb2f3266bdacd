import RunHerald.Proofs.Reconcile.Interleaving

/-!
# The course of an invocation

`Environment.traced` is any environment with a record of the calls that an invocation makes in it.
The record changes nothing else: `reconcile_traced`.

`Course` says which calls an invocation can make after a move, and how it can end, whatever answers
it gets: there is one case for each kind of call. `course_of_reconcile` says that every invocation
in any environment takes such a course. So what holds of every course, by induction on it, holds for
every behaviour of the store, the sink and the token.

What an invocation knows when it makes a call follows from what it knew one call before. So such a
fact is shown for the four ways of going on (`Stage.Passes`), and holds then of the stage of every
call: `stage_of_call`.
-/

set_option autoImplicit false

namespace RunHerald

variable {σ : Type}

/-- An environment with a record of the calls made in it, and with a token of its own: whether an
invocation finds itself cancelled may depend on anything that has happened. -/
def Environment.traced (env : Environment σ) (cancelled : σ × List Call → Bool) :
    Environment (σ × List Call) where
  cancelled
  now s := env.now s.1
  emit e s := (env.emit e s.1, s.2)
  fetch key s :=
    let (answer, t) := env.fetch key s.1
    (answer, t, s.2 ++ [.fetch key answer])
  patch key expected p s :=
    let (answer, t) := env.patch key expected p s.1
    (answer, t, s.2 ++ [.patch key expected p answer])
  deliver payload s :=
    let (answer, t) := env.deliver payload s.1
    (answer, t, s.2 ++ [.deliver payload answer])

/-- Reports leave the list of calls alone. -/
@[simp] theorem Environment.emitAll_traced (env : Environment σ)
    (cancelled : σ × List Call → Bool) (events : List Event) (s : σ × List Call) :
    (env.traced cancelled).emitAll events s = (env.emitAll events s.1, s.2) := by
  unfold emitAll
  induction events generalizing s with
  | nil => rfl
  | cons e events ih => exact ih _

namespace Reconciler

/-- What holds at the end of an invocation, and before a call if it holds after it, holds of every
invocation at any of its calls. -/
theorem drive_induction (r : Reconciler) (env : Environment σ) (key : RunKey)
    {P : Move → σ → Prop} (finish : ∀ ending s, P (.finish ending) s)
    (step : ∀ stage s, P (r.advance env key stage s).1 (r.advance env key stage s).2 →
      P (.wait stage) s) (move : Move) (s : σ) : P move s := by
  cases move with
  | finish ending => exact finish ending s
  | wait stage =>
    -- by the measure that ends `drive`: the retries left, then the calls left before a retry
    generalize hm : stage.measure r.maxConflictRetries.toNat = m
    induction m using Nat.strongRecOn generalizing stage s with
    | ind m ih =>
      apply step
      cases hmove : (r.advance env key stage s).1 with
      | finish ending => exact finish ending _
      | wait next =>
        have hlt := measure_advance hmove
        exact ih _ (hm ▸ hlt) _ next rfl

/-- An invocation runs to its end and then reports it. -/
theorem reconcile_eq (r : Reconciler) (env : Environment σ) (key : RunKey) (s : σ) :
    r.reconcile env key s =
      ((r.drive env key (resume .start (env.cancelled s)) s).1,
        env.emitAll (closing (r.drive env key (resume .start (env.cancelled s)) s).1)
          (r.drive env key (resume .start (env.cancelled s)) s).2) := rfl

/-- An invocation ends as its moves do, and reports its end. -/
theorem reconcile_of_drive {r : Reconciler} {env : Environment σ} {key : RunKey} {s t : σ}
    {ending : Ending} (h : r.drive env key (resume .start (env.cancelled s)) s = (ending, t)) :
    r.reconcile env key s = (ending, env.emitAll (closing ending) t) := by
  rw [reconcile_eq, h]

/-! ## One call with its record -/

/-- A step that reads adds its call to the list. -/
theorem advance_traced_fetch (r : Reconciler) (env : Environment σ)
    (cancelled : σ × List Call → Bool) (key : RunKey) (p : Progress) (s : σ × List Call) :
    r.advance (env.traced cancelled) key (.fetch p) s =
      let answer := (env.fetch key s.1).1
      let t := ((env.fetch key s.1).2, s.2 ++ [.fetch key answer])
      let moved := r.fetched p (cancelled t) answer
      (moved.2, env.emitAll moved.1 t.1, t.2) := by
  simp only [advance, Environment.emitAll_traced]
  rfl

/-- A step that delivers adds its call to the list. -/
theorem advance_traced_deliver (r : Reconciler) (env : Environment σ)
    (cancelled : σ × List Call → Bool) (key : RunKey) (p : Progress) (snapshot : Snapshot)
    (rs : List RunResult) (s : σ × List Call) :
    r.advance (env.traced cancelled) key (.deliver p snapshot rs) s =
      let payload := Payload.new key rs (env.now s.1)
      let answer := (env.deliver payload s.1).1
      let moved := r.delivered p snapshot payload answer
      (moved.2, env.emitAll moved.1 (env.deliver payload s.1).2,
        s.2 ++ [.deliver payload answer]) := by
  simp only [advance, Environment.emitAll_traced]
  rfl

/-- A step that changes the record adds its call to the list. -/
theorem advance_traced_write (r : Reconciler) (env : Environment σ)
    (cancelled : σ × List Call → Bool) (key : RunKey) (p : Progress) (snapshot : Snapshot)
    (w : Write) (s : σ × List Call) :
    r.advance (env.traced cancelled) key (.write p snapshot w) s =
      let change := w.patch r.markers
      let answer := (env.patch key snapshot.version change s.1).1
      let t := ((env.patch key snapshot.version change s.1).2,
        s.2 ++ [.patch key snapshot.version change answer])
      let moved := r.written p (cancelled t) snapshot w answer
      (moved.2, env.emitAll moved.1 t.1, t.2) := by
  simp only [advance, Environment.emitAll_traced]
  rfl

/-- A step with its record makes the same move as a step without. -/
theorem advance_traced (r : Reconciler) (env : Environment σ) (key : RunKey) (stage : Stage)
    (s : σ × List Call) :
    (r.advance (env.traced fun s => env.cancelled s.1) key stage s).1
        = (r.advance env key stage s.1).1 ∧
      (r.advance (env.traced fun s => env.cancelled s.1) key stage s).2.1
        = (r.advance env key stage s.1).2 := by
  cases stage with
  | fetch p =>
    rw [advance_traced_fetch]
    exact ⟨rfl, rfl⟩
  | deliver p snapshot rs =>
    rw [advance_traced_deliver]
    exact ⟨rfl, rfl⟩
  | write p snapshot w =>
    rw [advance_traced_write]
    exact ⟨rfl, rfl⟩

/-- Listing the calls changes neither the end of an invocation nor what it leaves behind. -/
theorem drive_traced (r : Reconciler) (env : Environment σ) (key : RunKey) (move : Move)
    (s : σ × List Call) :
    (r.drive (env.traced fun s => env.cancelled s.1) key move s).1 = (r.drive env key move s.1).1 ∧
      (r.drive (env.traced fun s => env.cancelled s.1) key move s).2.1
        = (r.drive env key move s.1).2 := by
  induction move, s using drive_induction r (env.traced fun s => env.cancelled s.1) key with
  | finish ending s =>
    rw [drive_finish, drive_finish]
    exact ⟨rfl, rfl⟩
  | step stage s ih =>
    obtain ⟨hmove, hstate⟩ := advance_traced r env key stage s
    rw [drive_wait, drive_wait, ← hmove, ← hstate]
    exact ih

/-- The record changes neither the end of an invocation nor what it leaves behind. -/
theorem reconcile_traced (r : Reconciler) (env : Environment σ) (key : RunKey)
    (s : σ × List Call) :
    (r.reconcile (env.traced fun s => env.cancelled s.1) key s).1 = (r.reconcile env key s.1).1 ∧
      (r.reconcile (env.traced fun s => env.cancelled s.1) key s).2.1
        = (r.reconcile env key s.1).2 := by
  obtain ⟨hending, hstate⟩ :=
    drive_traced r env key (resume .start (env.cancelled s.1)) s
  rw [reconcile_eq, reconcile_eq, Environment.emitAll_traced]
  refine ⟨hending, ?_⟩
  change env.emitAll (closing _) (Prod.fst _) = _
  rw [← hending, ← hstate]
  rfl

end Reconciler

/-! ## Courses -/

/-- The calls that an invocation can make after a move when so many calls have been answered, and
how it can end. The token may be read as `reads` says once a call has been answered. -/
inductive Course (r : Reconciler) (key : RunKey) (reads : Nat → Bool → Prop) :
    Nat → Move → List Call → Ending → Prop
  | finish (n : Nat) (ending : Ending) : Course r key reads n (.finish ending) [] ending
  | fetch (n : Nat) (p : Progress) (answer : Attempt (Option Snapshot)) (cancelled : Bool)
    (calls : List Call) (ending : Ending) (hc : reads (n + 1) cancelled)
    (h : Course r key reads (n + 1) (r.fetched p cancelled answer).2 calls ending) :
    Course r key reads n (.wait (.fetch p)) (.fetch key answer :: calls) ending
  | deliver (n : Nat) (p : Progress) (snapshot : Snapshot) (rs : List RunResult) (now : Timestamp)
    (answer : Delivery) (calls : List Call) (ending : Ending)
    (h : Course r key reads (n + 1) (r.delivered p snapshot (Payload.new key rs now) answer).2
      calls ending) :
    Course r key reads n (.wait (.deliver p snapshot rs))
      (.deliver (Payload.new key rs now) answer :: calls) ending
  | write (n : Nat) (p : Progress) (snapshot : Snapshot) (w : Write)
    (answer : Attempt PatchResult) (cancelled : Bool) (calls : List Call) (ending : Ending)
    (hc : reads (n + 1) cancelled)
    (h : Course r key reads (n + 1) (r.written p cancelled snapshot w answer).2 calls ending) :
    Course r key reads n (.wait (.write p snapshot w))
      (.patch key snapshot.version (w.patch r.markers) answer :: calls) ending

namespace Reconciler

/-- After any move, in any environment, an invocation takes a course. -/
theorem course_of_drive (r : Reconciler) (env : Environment σ)
    (cancelled : σ × List Call → Bool) (key : RunKey) (reads : Nat → Bool → Prop)
    (hreads : ∀ s, reads s.2.length (cancelled s)) (move : Move) (s : σ × List Call) :
    ∃ calls, (r.drive (env.traced cancelled) key move s).2.2 = s.2 ++ calls ∧
      Course r key reads s.2.length move calls (r.drive (env.traced cancelled) key move s).1 := by
  induction move, s using drive_induction r (env.traced cancelled) key with
  | finish ending s =>
    rw [drive_finish]
    exact ⟨[], (List.append_nil _).symm, .finish _ ending⟩
  | step stage s ih =>
    rw [drive_wait]
    cases stage with
    | fetch p =>
      rw [advance_traced_fetch] at ih ⊢
      obtain ⟨calls, hcalls, hcourse⟩ := ih
      refine ⟨.fetch key (env.fetch key s.1).1 :: calls, ?_, ?_⟩
      · simpa using hcalls
      · have hread := hreads ((env.fetch key s.1).2, s.2 ++ [.fetch key (env.fetch key s.1).1])
        simp only [List.length_append, List.length_cons, List.length_nil] at hread hcourse
        exact .fetch _ p _ _ calls _ hread hcourse
    | deliver p snapshot rs =>
      rw [advance_traced_deliver] at ih ⊢
      obtain ⟨calls, hcalls, hcourse⟩ := ih
      refine ⟨.deliver (Payload.new key rs (env.now s.1))
        (env.deliver (Payload.new key rs (env.now s.1)) s.1).1 :: calls, ?_, ?_⟩
      · simpa using hcalls
      · simp only [List.length_append, List.length_cons, List.length_nil] at hcourse
        exact .deliver _ p snapshot rs _ _ calls _ hcourse
    | write p snapshot w =>
      rw [advance_traced_write] at ih ⊢
      obtain ⟨calls, hcalls, hcourse⟩ := ih
      refine ⟨.patch key snapshot.version (w.patch r.markers)
        (env.patch key snapshot.version (w.patch r.markers) s.1).1 :: calls, ?_, ?_⟩
      · simpa using hcalls
      · have hread := hreads ((env.patch key snapshot.version (w.patch r.markers) s.1).2,
          s.2 ++ [.patch key snapshot.version (w.patch r.markers)
            (env.patch key snapshot.version (w.patch r.markers) s.1).1])
        simp only [List.length_append, List.length_cons, List.length_nil] at hread hcourse
        exact .write _ p snapshot w _ _ calls _ hread hcourse

/-- Every invocation in any environment takes a course from its beginning. -/
theorem course_of_reconcile (r : Reconciler) (env : Environment σ)
    (cancelled : σ × List Call → Bool) (key : RunKey) (reads : Nat → Bool → Prop)
    (hreads : ∀ s, reads s.2.length (cancelled s)) (s : σ) :
    Course r key reads 0 (resume .start (cancelled (s, [])))
      (r.reconcile (env.traced cancelled) key (s, [])).2.2
      (r.reconcile (env.traced cancelled) key (s, [])).1 := by
  obtain ⟨calls, hcalls, hcourse⟩ :=
    course_of_drive r env cancelled key reads hreads (resume .start (cancelled (s, []))) (s, [])
  rw [List.nil_append] at hcalls
  rw [reconcile_eq, Environment.emitAll_traced]
  rw [← hcalls] at hcourse
  exact hcourse

end Reconciler

/-! ## The stage of each call -/

/-- A call that an invocation makes at a stage, and the move that the answer leads to when the token
is read as `reads` says. -/
inductive Stage.Calls (r : Reconciler) (key : RunKey) (reads : Bool → Prop) :
    Stage → Call → Move → Prop
  | fetch (p : Progress) (answer : Attempt (Option Snapshot)) (cancelled : Bool)
    (hc : reads cancelled) :
    Calls r key reads (.fetch p) (.fetch key answer) (r.fetched p cancelled answer).2
  | deliver (p : Progress) (snapshot : Snapshot) (rs : List RunResult) (now : Timestamp)
    (answer : Delivery) :
    Calls r key reads (.deliver p snapshot rs) (.deliver (Payload.new key rs now) answer)
      (r.delivered p snapshot (Payload.new key rs now) answer).2
  | write (p : Progress) (snapshot : Snapshot) (w : Write) (answer : Attempt PatchResult)
    (cancelled : Bool) (hc : reads cancelled) :
    Calls r key reads (.write p snapshot w)
      (.patch key snapshot.version (w.patch r.markers) answer)
      (r.written p cancelled snapshot w answer).2

/-- A call whose answer lets an invocation go on from one stage to the next, and why it does. -/
inductive Stage.Passes (r : Reconciler) (key : RunKey) (reads : Bool → Prop) :
    Stage → Call → Stage → Prop
  | announced (p : Progress) (snapshot : Snapshot) (rs : List RunResult) (cancelled : Bool)
    (hc : reads cancelled) (h : Announced r.markers p cancelled snapshot rs) :
    Passes r key reads (.fetch p) (.fetch key (.done (some snapshot))) (.deliver p snapshot rs)
  | warranted (p : Progress) (snapshot : Snapshot) (w : Write) (cancelled : Bool)
    (hc : reads cancelled) (h : Warranted r.markers p cancelled snapshot w) :
    Passes r key reads (.fetch p) (.fetch key (.done (some snapshot))) (.write p snapshot w)
  | accepted (p : Progress) (snapshot : Snapshot) (rs : List RunResult) (now : Timestamp) :
    Passes r key reads (.deliver p snapshot rs)
      (.deliver (Payload.new key rs now) (.result (.ok ())))
      (.write { p with delivered := some rs } snapshot .setMarker)
  | overtaken (p : Progress) (snapshot : Snapshot) (w : Write) (current : String)
    (cancelled : Bool) (hc : reads cancelled)
    (hlimit : p.conflicts + 1 ≤ r.maxConflictRetries.toNat)
    (hactive : p.delivered = none → cancelled = false) :
    Passes r key reads (.write p snapshot w)
      (.patch key snapshot.version (w.patch r.markers) (.done (.conflict current)))
      (.fetch { p with conflicts := p.conflicts + 1 })

/-- An invocation goes on from one stage to the next in one of the ways of `Stage.Passes`. -/
theorem Stage.Calls.passes {r : Reconciler} {key : RunKey} {reads : Bool → Prop} {stage next : Stage}
    {call : Call} (h : stage.Calls r key reads call (.wait next)) :
    stage.Passes r key reads call next := by
  generalize hmove : Move.wait next = move at h
  cases h with
  | fetch p answer cancelled hc =>
    obtain ⟨snapshot, rfl, ⟨rs, rfl, hreason⟩ | ⟨w, rfl, hreason⟩⟩ :=
      Reconciler.reason_of_fetched hmove.symm
    · exact .announced p snapshot rs cancelled hc hreason
    · exact .warranted p snapshot w cancelled hc hreason
  | deliver p snapshot rs now answer =>
    obtain ⟨rfl, rfl⟩ := Reconciler.reason_of_delivered hmove.symm
    exact .accepted p snapshot rs now
  | write p snapshot w answer cancelled hc =>
    obtain ⟨-, hlimit⟩ := Reconciler.wait_of_written hmove.symm
    obtain ⟨current, rfl, rfl, hactive⟩ := Reconciler.reason_of_written hmove.symm
    exact .overtaken p snapshot w current cancelled hc hlimit hactive

namespace Course

variable {r : Reconciler} {key : RunKey} {reads : Nat → Bool → Prop} {n : Nat} {move : Move}
  {ending : Ending}

/-- A course with a call makes it at a stage and goes on with a shorter course. -/
theorem uncons {call : Call} {calls : List Call}
    (h : Course r key reads n move (call :: calls) ending) :
    ∃ stage next, move = .wait stage ∧ stage.Calls r key (reads (n + 1)) call next ∧
      Course r key reads (n + 1) next calls ending := by
  cases h with
  | fetch _ p answer cancelled _ _ hc h =>
    exact ⟨_, _, rfl, .fetch p answer cancelled hc, h⟩
  | deliver _ p snapshot rs now answer _ _ h =>
    exact ⟨_, _, rfl, .deliver p snapshot rs now answer, h⟩
  | write _ p snapshot w answer cancelled _ _ hc h =>
    exact ⟨_, _, rfl, .write p snapshot w answer cancelled hc, h⟩

/-- What holds of the first stage after the calls made so far, and of the next stage after each
call, holds of the stage of every call of a course. -/
theorem stage_of_call {Inv : List Call → Stage → Prop}
    (hstep : ∀ before stage call next, Inv before stage →
      stage.Passes r key (reads (before.length + 1)) call next → Inv (before ++ [call]) next)
    {before between after : List Call} {call : Call}
    (h : Course r key reads before.length move (between ++ call :: after) ending)
    (hmove : ∀ stage, move = .wait stage → Inv before stage) :
    ∃ stage next, Inv (before ++ between) stage ∧
      stage.Calls r key (reads ((before ++ between).length + 1)) call next ∧
      Course r key reads ((before ++ between).length + 1) next after ending := by
  induction between generalizing before move with
  | nil =>
    obtain ⟨stage, next, rfl, hcall, hrest⟩ := h.uncons
    rw [List.append_nil]
    exact ⟨stage, next, hmove stage rfl, hcall, hrest⟩
  | cons first between ih =>
    obtain ⟨stage, next, rfl, hcall, hrest⟩ := h.uncons
    have hlength : before.length + 1 = (before ++ [first]).length := by simp
    rw [hlength] at hrest
    have hnext : ∀ stage', next = .wait stage' → Inv (before ++ [first]) stage' := by
      rintro stage' rfl
      exact hstep before stage first stage' (hmove stage rfl) hcall.passes
    simpa using ih hrest hnext

end Course

namespace Reconciler

/-- What holds at the beginning of an invocation that is not cancelled there, and of the next stage
after each call, holds of the stage of every call that the invocation makes. -/
theorem stage_of_call (r : Reconciler) (env : Environment σ) (cancelled : σ × List Call → Bool)
    (key : RunKey) (reads : Nat → Bool → Prop) (hreads : ∀ s, reads s.2.length (cancelled s)) (s : σ)
    (Inv : List Call → Stage → Prop)
    (hstart : cancelled (s, []) = false → Inv [] (.fetch .start))
    (hstep : ∀ before stage call next, Inv before stage →
      stage.Passes r key (reads (before.length + 1)) call next → Inv (before ++ [call]) next)
    {before after : List Call} {call : Call}
    (hcalls : (r.reconcile (env.traced cancelled) key (s, [])).2.2 = before ++ call :: after) :
    ∃ stage next, Inv before stage ∧ stage.Calls r key (reads (before.length + 1)) call next ∧
      Course r key reads (before.length + 1) next after
        (r.reconcile (env.traced cancelled) key (s, [])).1 := by
  have hcourse : Course r key reads ([] : List Call).length _ _ _ :=
    course_of_reconcile r env cancelled key reads hreads s
  rw [hcalls] at hcourse
  have hmove : ∀ stage, resume .start (cancelled (s, [])) = .wait stage → Inv [] stage := by
    intro stage hstage
    obtain ⟨rfl, hactive⟩ := wait_of_resume hstage
    exact hstart (hactive rfl)
  exact Course.stage_of_call hstep hcourse hmove

/-- Every call is made at a stage, and the calls after it are a course from there. -/
theorem exists_stage_of_call (r : Reconciler) (env : Environment σ)
    (cancelled : σ × List Call → Bool) (key : RunKey) (s : σ) {before after : List Call}
    {call : Call}
    (hcalls : (r.reconcile (env.traced cancelled) key (s, [])).2.2 = before ++ call :: after) :
    ∃ (stage : Stage) (next : Move), stage.Calls r key (fun _ => True) call next ∧
      Course r key (fun _ _ => True) (before.length + 1) next after
        (r.reconcile (env.traced cancelled) key (s, [])).1 := by
  obtain ⟨stage, next, -, hcall, hrest⟩ :=
    stage_of_call r env cancelled key (fun _ _ => True) (fun _ => trivial) s (fun _ _ => True)
      (fun _ => trivial) (fun _ _ _ _ _ _ => trivial) hcalls
  exact ⟨stage, next, hcall, hrest⟩

end Reconciler

end RunHerald
