import RunHerald.Reconcile.Invocation

/-!
# Running an invocation

An `Environment` answers the calls of an invocation and takes its events. It has a state of its own,
which may be anything: a store and a sink, a script of answers, a trace of calls.

* `Reconciler.advance` performs the call that an invocation waits for and moves on. Since it is one
  step, the steps of several invocations can be put in any order.
* `Reconciler.reconcile` runs an invocation from its beginning to its end.
-/

set_option autoImplicit false

namespace RunHerald

/-- What an invocation works with: whether it is cancelled, the time, where events go, and the three
calls. -/
structure Environment (σ : Type) where
  cancelled : σ → Bool
  now : σ → Timestamp
  emit : Event → σ → σ
  fetch : RunKey → σ → Attempt (Option Snapshot) × σ
  patch : RunKey → String → Patch → σ → Attempt PatchResult × σ
  deliver : Payload → σ → Delivery × σ

namespace Environment

variable {σ : Type}

/-- Reports events in their order. -/
def emitAll (env : Environment σ) (events : List Event) (s : σ) : σ :=
  events.foldl (fun s e => env.emit e s) s

end Environment

namespace Reconciler

variable {σ : Type}

/-- Performs the call that an invocation waits for, moves on with the answer and reports. -/
def advance (r : Reconciler) (env : Environment σ) (key : RunKey) (stage : Stage) (s : σ) :
    Move × σ :=
  match stage with
  | .fetch p =>
    let (answer, s) := env.fetch key s
    let (events, move) := r.fetched p (env.cancelled s) answer
    (move, env.emitAll events s)
  | .deliver p snapshot results =>
    let payload := Payload.new key results (env.now s)
    let (answer, s) := env.deliver payload s
    let (events, move) := r.delivered p snapshot payload answer
    (move, env.emitAll events s)
  | .write p snapshot w =>
    let (answer, s) := env.patch key snapshot.version (w.patch r.markers) s
    let (events, move) := r.written p (env.cancelled s) snapshot w answer
    (move, env.emitAll events s)

/-- Every step brings an invocation nearer to its end. -/
theorem measure_advance {r : Reconciler} {env : Environment σ} {key : RunKey} {stage next : Stage}
    {s : σ} (h : (r.advance env key stage s).1 = .wait next) :
    next.measure r.maxConflictRetries.toNat < stage.measure r.maxConflictRetries.toNat := by
  cases stage with
  | fetch p => exact measure_fetched _ h
  | deliver p snapshot results => exact measure_delivered _ results h
  | write p snapshot w => exact measure_written h

/-- Runs an invocation to its end. -/
def drive (r : Reconciler) (env : Environment σ) (key : RunKey) (move : Move) (s : σ) :
    Ending × σ :=
  match move with
  | .finish ending => (ending, s)
  | .wait stage =>
    match _h : r.advance env key stage s with
    | (.finish ending, s) => (ending, s)
    | (.wait next, s) => drive r env key (.wait next) s
termination_by
  match move with
  | .finish _ => 0
  | .wait stage => stage.measure r.maxConflictRetries.toNat
decreasing_by exact measure_advance (congrArg Prod.fst _h)

/-- An invocation that is finished makes no more calls. -/
@[simp] theorem drive_finish (r : Reconciler) (env : Environment σ) (key : RunKey)
    (ending : Ending) (s : σ) : r.drive env key (.finish ending) s = (ending, s) := by
  rw [drive]

/-- An invocation that waits performs its call and goes on from there. -/
theorem drive_wait (r : Reconciler) (env : Environment σ) (key : RunKey) (stage : Stage) (s : σ) :
    r.drive env key (.wait stage) s =
      r.drive env key (r.advance env key stage s).1 (r.advance env key stage s).2 := by
  rw [drive]
  split
  · rename_i ending s' h
    rw [h, drive_finish]
  · rename_i next s' h
    rw [h]

/-- Runs an invocation from its beginning, with the events at its end. -/
def reconcile (r : Reconciler) (env : Environment σ) (key : RunKey) (s : σ) : Ending × σ :=
  let (ending, s) := r.drive env key (resume .start (env.cancelled s)) s
  (ending, env.emitAll (closing ending) s)

end Reconciler

end RunHerald
