import RunHerald.Notification.Recorder
import RunHerald.Reconcile.Environment
import RunHerald.Rehearsal.Receiver
import RunHerald.Rehearsal.TracedStore

/-!
# A world to rehearse in

A `World` is an environment for invocations that is made of a watched store, a recording sink or a
webhook with a scripted receiver, a cancellation token and a clock that stands still. Others may
interfere with its records in any way; in a `TracedWorld` they make edits. A `Hook` lets
something happen at the next call of a kind: edits, a deletion or a cancellation before the call, or
a cancellation right after it. A delivery can also be made to wait: for ever, or once, so that the
invocation looks at its token again before the sink is reached.

`World.reconcile` runs an invocation with a token that hooks can cancel. Each of the invocations of
`World.settle` has a token that nobody else holds, so that no hook cancels it.
-/

set_option autoImplicit false

namespace RunHerald

/-- When a hook cancels the invocation. -/
inductive CancelTime where
  | never
  | before
  | after
  deriving DecidableEq, Repr

/-- What happens around one call. -/
structure Hook where
  edits : List Edit
  delete : Bool
  cancel : CancelTime
  stall : Bool
  yield : Bool

/-- The kinds of calls that hooks are for. -/
inductive HookPoint where
  | fetch
  | patch
  | deliver
  deriving DecidableEq, Repr

/-- A webhook and its receiver. -/
structure Wire where
  sink : WebhookSink
  receiver : Receiver

/-- Everything around the invocations of a reconciler. `held` says whether hooks hold the token of
the invocation that runs. -/
structure World (ι : Type) where
  store : WatchedStore ι
  sink : Recorder
  wire : Option Wire
  hooks : HookPoint → List Hook
  held : Bool
  cancelled : Bool
  clock : Timestamp
  events : List Event

/-- A world with edits as interferences. -/
abbrev TracedWorld := World (List Edit)

namespace World

variable {ι : Type}

/-- A world in which nothing has happened. -/
def new (clock : Timestamp) (wire : Option Wire) : World ι :=
  ⟨.new, .new Recorder.standardName, wire, fun _ => [], true, false, clock, []⟩

/-- The world with another store inside the watched one. -/
def withStore (w : World ι) (s : Store) : World ι := { w with store := { w.store with inner := s } }

/-- Queues a hook. -/
def addHook (w : World ι) (point : HookPoint) (hook : Hook) : World ι :=
  { w with hooks := fun p => if p = point then w.hooks p ++ [hook] else w.hooks p }

/-- Takes the first hook of a queue. -/
def takeHook (w : World ι) (point : HookPoint) : Option Hook × World ι :=
  match w.hooks point with
  | [] => (none, w)
  | hook :: rest =>
    (some hook, { w with hooks := fun p => if p = point then rest else w.hooks p })

/-- The edits that take all finalizers away from a record. -/
def clearing (w : World ι) (key : RunKey) : List Edit :=
  match w.store.inner.records.get? key with
  | none => []
  | some r => (TextSet.toList r.run.finalizers).map .unfinalizer

/-- Applies the edits of a hook, if it has any. -/
def hookEdits (w : World ι) (key : RunKey) (edits : List Edit) : Attempt Unit × World ι :=
  if edits.isEmpty then (.done (), w)
  else
    match w.store.inner.update key edits with
    | (.done _, s) => (.done (), w.withStore s)
    | (.failed e, s) => (.failed e, w.withStore s)
    | (.aborted m, s) => (.aborted m, w.withStore s)

/-- Deletes a record for good, as a hook does. -/
def hookDelete (w : World ι) (key : RunKey) (delete : Bool) : Attempt Unit × World ι :=
  if delete then
    match w.store.inner.update key (w.clearing key) with
    | (.failed e, s) => (.failed e, w.withStore s)
    | (.aborted m, s) => (.aborted m, w.withStore s)
    | (.done _, s) =>
      match s.requestDelete w.clock key with
      | (.error e, s) => (.failed e, w.withStore s)
      | (.ok _, s) => (.done (), w.withStore s)
  else (.done (), w)

/-- Cancels the invocation that runs, if hooks hold its token. -/
def cancel (w : World ι) : World ι := { w with cancelled := w.cancelled || w.held }

/-- What a hook does before the call. -/
def before (w : World ι) (key : RunKey) (hook : Hook) : Attempt Unit × World ι :=
  match w.hookEdits key hook.edits with
  | (.failed e, w) => (.failed e, w)
  | (.aborted m, w) => (.aborted m, w)
  | (.done _, w) =>
    match w.hookDelete key hook.delete with
    | (.failed e, w) => (.failed e, w)
    | (.aborted m, w) => (.aborted m, w)
    | (.done _, w) => (.done (), if hook.cancel = .before then w.cancel else w)

/-- What a hook does after the call. -/
def after (w : World ι) (hook : Hook) : World ι := if hook.cancel = .after then w.cancel else w

/-- Makes a call of the store with the next hook of its kind around it. -/
def hooked {α : Type} (point : HookPoint) (key : RunKey) (call : World ι → Attempt α × World ι)
    (w : World ι) : Attempt α × World ι :=
  match w.takeHook point with
  | (none, w) => call w
  | (some hook, w) =>
    match w.before key hook with
    | (.failed e, w) => (.failed e, w)
    | (.aborted m, w) => (.aborted m, w)
    | (.done _, w) =>
      let (answer, w) := call w
      (answer, w.after hook)

/-- Reads a record through the watched store. -/
def fetch (key : RunKey) : World ι → Attempt (Option Snapshot) × World ι :=
  hooked .fetch key fun w =>
    let (answer, t) := w.store.fetch key
    (.ofExcept answer, { w with store := t })

/-- Changes a record through the watched store. -/
def patch [Interference ι] (key : RunKey) (expected : String) (p : Patch) :
    World ι → Attempt PatchResult × World ι :=
  hooked .patch key fun w =>
    let (answer, t) := w.store.patch key expected p
    (answer, { w with store := t })

/-- Hands a payload to the recording sink. -/
def record (payload : Payload) (w : World ι) : Delivery × World ι :=
  let (result, sink) := w.sink.deliver payload
  (.result result, { w with sink })

/-- Hands a payload to the recording sink with the next hook around it. -/
def deliverToRecorder (payload : Payload) (w : World ι) : Delivery × World ι :=
  match w.takeHook .deliver with
  | (none, w) => w.record payload
  | (some hook, w) =>
    match w.before payload.run hook with
    | (.failed e, w) => (.result (.error (.transport e.message)), w)
    | (.aborted m, w) => (.aborted m, w)
    | (.done _, w) =>
      if hook.stall then (.abandoned, w.cancel)
      else if hook.yield && w.cancelled then (.abandoned, w)
      else
        let (answer, w) := w.record payload
        (answer, w.after hook)

/-- Posts a payload. -/
def post (wire : Wire) (payload : Payload) (w : World ι) : Delivery × World ι :=
  let exchange := Receiver.exchange wire.sink.config.requestTimeout
  let ((result, reports), receiver) := wire.sink.deliver exchange payload wire.receiver
  (.result result,
    { w with
      wire := some { wire with receiver }
      events := w.events ++ reports.map .report })

/-- Hands a payload to whatever sink there is. -/
def deliver (payload : Payload) (w : World ι) : Delivery × World ι :=
  match w.wire with
  | none => w.deliverToRecorder payload
  | some wire => w.post wire payload

section

variable [Interference ι]

/-- The world as an environment. -/
def environment : Environment (World ι) where
  cancelled w := w.cancelled
  now w := w.clock
  emit e w := { w with events := w.events ++ [e] }
  fetch := fetch
  patch := patch
  deliver := deliver

/-- Runs an invocation with a new token that hooks hold too, and that may have been cancelled
before. -/
def reconcile (r : Reconciler) (key : RunKey) (cancelled : Bool) (w : World ι) : Ending × World ι :=
  r.reconcile environment key { w with held := true, cancelled }

/-- Runs an invocation with a new token that nobody else holds. -/
def reconcileAlone (r : Reconciler) (key : RunKey) (w : World ι) : Ending × World ι :=
  r.reconcile environment key { w with held := false, cancelled := false }

/-- The description of outcomes. -/
def describeOutcomes (outcomes : List Outcome) : String :=
  "[" ++ ", ".intercalate (outcomes.map Outcome.describe) ++ "]"

/-- Runs up to so many further invocations, until one changes nothing: all outcomes, or the words
with which the attempt aborts. -/
def settleFrom (r : Reconciler) (key : RunKey) (rounds : Nat) (outcomes : List Outcome) :
    Nat → World ι → Except String (List Outcome) × World ι
  | 0, w =>
    (.error (s!"run {key.text} still changing after {rounds} reconciles: "
      ++ describeOutcomes outcomes), w)
  | left + 1, w =>
    match w.reconcileAlone r key with
    | (.aborted m, w) => (.error m, w)
    | (.returned (.error e), w) => (.error ("reconcile: " ++ e.describe), w)
    | (.returned (.ok o), w) =>
      if o.action.mutated then settleFrom r key rounds (outcomes ++ [o]) left w
      else (.ok (outcomes ++ [o]), w)

/-- Runs invocations until one changes nothing, but no more than so many. -/
def settle (r : Reconciler) (key : RunKey) (rounds : Nat) (w : World ι) :
    Except String (List Outcome) × World ι :=
  settleFrom r key rounds [] rounds w

end

/-- Stores a record, or aborts. -/
def seed (w : World ι) (run : Run) : Except String RunKey × World ι :=
  match w.store.inner.insert run with
  | (.ok _, s) => (.ok run.key, w.withStore s)
  | (.error e, s) => (.error ("insert run: " ++ e.describe), w.withStore s)

/-- The record of a run, or the words with which reading it aborts. -/
def current (w : World ι) (key : RunKey) : Except String (Option Run) :=
  match w.store.inner.fetch key with
  | .ok snapshot => .ok (snapshot.map (·.run))
  | .error e => .error ("read run: " ++ e.describe)

end World

end RunHerald
