import Mathlib.Algebra.BigOperators.Group.List.Basic
import RunHerald.Notification.Recorder
import RunHerald.Proofs.Telemetry.Counters
import RunHerald.Proofs.Telemetry.Ledger

/-!
# The counters account for everything

`Environment.performAll` runs any number of invocations one after the other, each of any reconciler,
for any key and with any token, and keeps the calls and the end of each (`Conduct`).

What one invocation adds to the counter of a metric is how often the metric stands in the ledger of
its calls and among the events at its end: `Conduct.adds`. So the counter shows the sum over all
invocations, if none of them aborts: `counter_of_performAll`. With a recorder for the sink, what the
recorder keeps grows in step: `recorder_of_performAll`.
-/

set_option autoImplicit false

namespace RunHerald

variable {σ : Type}

/-- An invocation that is to be run: of which reconciler, for which key, and with which token. -/
structure Task (σ : Type) where
  reconciler : Reconciler
  key : RunKey
  cancelled : (σ × List Event) × List Call → Bool

/-- An invocation that was run: of which reconciler, with which calls, and to which end. -/
structure Conduct where
  reconciler : Reconciler
  calls : List Call
  ending : Ending

namespace Environment

/-- Runs an invocation. -/
def perform (env : Environment σ) (task : Task σ) (s : σ × List Event) :
    Conduct × (σ × List Event) :=
  let out := task.reconciler.reconcile (env.reporting.traced task.cancelled) task.key (s, [])
  (⟨task.reconciler, out.2.2, out.1⟩, out.2.1)

/-- What an invocation comes to is known from where its moves lead. -/
theorem perform_of_drive {env : Environment σ} {task : Task σ} {s : σ × List Event} {t : σ}
    {log : List Event} {calls : List Call} {ending : Ending}
    (h : task.reconciler.drive (env.reporting.traced task.cancelled) task.key
      (Reconciler.resume .start (task.cancelled (s, []))) (s, []) = (ending, (t, log), calls)) :
    env.perform task s = (⟨task.reconciler, calls, ending⟩,
      env.emitAll (Reconciler.closing ending) t, log ++ Reconciler.closing ending) := by
  unfold perform
  rw [Reconciler.reconcile_of_drive h, emitAll_traced, emitAll_reporting]

/-- Runs invocations one after the other. -/
def performAll (env : Environment σ) :
    List (Task σ) → σ × List Event → List Conduct × (σ × List Event)
  | [], s => ([], s)
  | task :: tasks, s =>
    let out := env.performAll tasks (env.perform task s).2
    ((env.perform task s).1 :: out.1, out.2)

/-- Without tasks nothing is done. -/
@[simp] theorem performAll_nil (env : Environment σ) (s : σ × List Event) :
    env.performAll [] s = ([], s) := rfl

/-- Tasks are done one after another. -/
@[simp] theorem performAll_cons (env : Environment σ) (task : Task σ) (tasks : List (Task σ))
    (s : σ × List Event) :
    env.performAll (task :: tasks) s =
      ((env.perform task s).1 :: (env.performAll tasks (env.perform task s).2).1,
        (env.performAll tasks (env.perform task s).2).2) := rfl

end Environment

/-! ## What each call adds -/

/-- The label under which the answer to a delivery is counted. -/
def Call.deliveryLabel? : Call → Option String
  | .deliver _ (.result result) => some (deliveryLabel result)
  | _ => none

/-- The number of deliveries that were answered with a result that is counted under a label. -/
def deliveries (calls : List Call) (label : String) : Nat :=
  calls.countP fun call => call.deliveryLabel? = some label

namespace Event

/-- The reports that are left out count nothing. -/
theorem metrics_notable (events : List Event) : metrics (notable events) = metrics events := by
  unfold metrics notable
  rw [List.filterMap_filter]
  refine List.filterMap_congr fun e _ => ?_
  cases e with
  | report report => simp
  | metric m => rfl

/-- A call adds to the counter of anomalies, to the one of conflicts or to the one of its
delivery. -/
theorem metrics_entries (r : Reconciler) (shown : Option Snapshot) (call : Call) :
    metrics (call.entries r shown) =
      (if call.isAnomalousRelease r.markers shown then [.anomaly] else []) ++
        (if call.isConflict then [.conflict] else []) ++
          call.deliveryLabel?.toList.map .notification := by
  cases call with
  | fetch key answer => rfl
  | deliver payload answer =>
    cases answer with
    | result result => rfl
    | abandoned => rfl
    | aborted message => rfl
  | patch key expected p answer =>
    have hwarning : metrics (Call.warning r.markers shown (.patch key expected p answer)) =
        if (Call.patch key expected p answer).isAnomalousRelease r.markers shown then [.anomaly]
        else [] := by
      unfold Call.warning
      split
      · rename_i hrelease
        cases shown with
        | none => simp [Call.isAnomalousRelease] at hrelease
        | some snapshot => rfl
      · rfl
    have hsettlement : metrics (Call.settlement r shown (.patch key expected p answer)) =
        if (Call.patch key expected p answer).isConflict then [.conflict] else [] := by
      cases answer with
      | aborted message => rfl
      | failed e => rfl
      | done result =>
        cases result with
        | applied version => simp [Call.settlement, Call.isConflict, metrics]
        | notFound => rfl
        | conflict current => rfl
    rw [Call.entries, metrics_append, hwarning, hsettlement]
    exact (List.append_nil _).symm

end Event

open Event (metrics counter metrics_notable metrics_entries)

/-- Whether a call adds to the counter of a metric, if a record was shown last before it. -/
def Call.addsTo (m : Markers) (shown : Option Snapshot) (call : Call) : Metric → Bool
  | .anomaly => call.isAnomalousRelease m shown
  | .conflict => call.isConflict
  | .notification label => call.deliveryLabel? = some label
  | _ => false

/-- Whether an invocation has succeeded with an action. -/
def Ending.took (action : Action) : Ending → Bool
  | .returned (.ok o) => o.action = action
  | _ => false

/-- Whether an invocation has failed with an error of a kind. -/
def Ending.failedWith (kind : String) : Ending → Bool
  | .returned (.error e) => e.label = kind
  | _ => false

/-- Whether an end adds to the counter of a metric. -/
def Ending.addsTo (ending : Ending) : Metric → Bool
  | .reconciled action => ending.took action
  | .failed kind => ending.failedWith kind
  | .timed => true
  | _ => false

/-- What the entries of a call count is what the call adds to a counter. -/
theorem Call.count_entries (r : Reconciler) (shown : Option Snapshot) (call : Call) (m : Metric) :
    (metrics (call.entries r shown)).count m = if call.addsTo r.markers shown m then 1 else 0 := by
  rw [metrics_entries]
  unfold addsTo
  generalize call.isAnomalousRelease r.markers shown = releases
  generalize call.isConflict = conflicts
  generalize call.deliveryLabel? = label
  cases m <;> cases releases <;> cases conflicts <;> cases label <;> simp [List.count_singleton]

/-- What the end of an invocation counts. -/
theorem metrics_closing (ending : Ending) :
    metrics (Reconciler.closing ending) =
      match ending with
      | .returned (.ok o) => [.reconciled o.action, .timed]
      | .returned (.error e) => [.failed e.label, .timed]
      | .aborted _ => [.timed] := by
  cases ending with
  | aborted message => rfl
  | returned result =>
    cases result with
    | ok o => rfl
    | error e =>
      simp only [Reconciler.closing]
      cases Reconciler.errorReport e <;> rfl

/-- The end of an invocation adds one to each counter that it stands for. -/
theorem Ending.count_closing (ending : Ending) (m : Metric) :
    (metrics (Reconciler.closing ending)).count m = if ending.addsTo m then 1 else 0 := by
  rw [metrics_closing]
  cases ending with
  | aborted message => cases m <;> simp [addsTo, took, failedWith]
  | returned result =>
    cases result with
    | ok o => cases m <;> simp [addsTo, took, failedWith, List.count_cons]
    | error e => cases m <;> simp [addsTo, took, failedWith, List.count_cons]

/-- The ledger of some calls adds to a counter as often as there are calls that add to it. -/
theorem count_metrics_ledger (r : Reconciler) (m : Metric) (shown : Option Snapshot)
    (calls : List Call) :
    (metrics (ledger r shown calls)).count m =
      (withShown shown calls).countP fun c => c.2.addsTo r.markers c.1 m := by
  induction calls generalizing shown with
  | nil => rfl
  | cons call calls ih =>
    rw [ledger_cons, Event.metrics_append, List.count_append, Call.count_entries, ih,
      withShown_cons, List.countP_cons, Nat.add_comm]

/-- Calls are counted alike with and without the snapshots shown before them. -/
theorem countP_withShown (p : Call → Bool) (shown : Option Snapshot) (calls : List Call) :
    (withShown shown calls).countP (fun c => p c.2) = calls.countP p := by
  induction calls generalizing shown with
  | nil => rfl
  | cons call calls ih => rw [withShown_cons, List.countP_cons, List.countP_cons, ih]

/-! ## What each invocation adds -/

namespace Conduct

/-- How often an invocation adds to the counter of a metric. -/
def adds (c : Conduct) (m : Metric) : Nat :=
  ((withShown none c.calls).countP fun x => x.2.addsTo c.reconciler.markers x.1 m) +
    if c.ending.addsTo m then 1 else 0

/-- An invocation has come back with a result. -/
def Returned (c : Conduct) : Prop := ∃ result, c.ending = .returned result

/-- A conduct adds to the counter of the action that it took. -/
theorem adds_reconciled (c : Conduct) (action : Action) :
    c.adds (.reconciled action) = if c.ending.took action then 1 else 0 := by
  have hcalls : ((withShown none c.calls).countP fun x =>
      x.2.addsTo c.reconciler.markers x.1 (.reconciled action)) = 0 :=
    List.countP_eq_zero.2 (by simp [Call.addsTo])
  rw [adds, hcalls, Nat.zero_add]
  rfl

/-- A conduct adds to the counter of the kind of error that it ended with. -/
theorem adds_failed (c : Conduct) (kind : String) :
    c.adds (.failed kind) = if c.ending.failedWith kind then 1 else 0 := by
  have hcalls : ((withShown none c.calls).countP fun x =>
      x.2.addsTo c.reconciler.markers x.1 (.failed kind)) = 0 :=
    List.countP_eq_zero.2 (by simp [Call.addsTo])
  rw [adds, hcalls, Nat.zero_add]
  rfl

/-- A conduct adds its conflicts to their counter. -/
theorem adds_conflict (c : Conduct) : c.adds .conflict = c.calls.countP Call.isConflict :=
  countP_withShown Call.isConflict none c.calls

/-- A conduct adds the anomalies that it released to their counter. -/
theorem adds_anomaly (c : Conduct) :
    c.adds .anomaly = anomalousReleases c.reconciler.markers none c.calls := rfl

/-- A conduct adds its deliveries to the counter of their label. -/
theorem adds_notification (c : Conduct) (label : String) :
    c.adds (.notification label) = deliveries c.calls label :=
  countP_withShown (fun call => call.deliveryLabel? = some label) none c.calls

end Conduct

/-- An invocation that does not abort raises the counter of a metric as often as it adds to it. -/
theorem counter_of_perform (env : Environment σ) (task : Task σ) (s : σ × List Event) (m : Metric)
    (hreturned : (env.perform task s).1.Returned) :
    counter (env.perform task s).2.2 m = counter s.2 m + (env.perform task s).1.adds m := by
  obtain ⟨events, hevents, hbalanced⟩ :=
    Reconciler.ledger_of_reconcile task.reconciler env task.cancelled task.key s
  obtain ⟨result, hresult⟩ := hreturned
  have hledger : Event.notable events =
      ledger task.reconciler none (env.perform task s).1.calls := by
    obtain hbalanced | ⟨-, message, haborts⟩ := hbalanced
    · exact hbalanced
    · cases hresult.symm.trans haborts
  change (env.perform task s).2.2 =
    s.2 ++ events ++ Reconciler.closing (env.perform task s).1.ending at hevents
  have hcount : (metrics events).count m = (metrics (ledger task.reconciler none
      (env.perform task s).1.calls)).count m := by
    rw [← hledger, metrics_notable]
  rw [hevents, Event.counter_eq_count, Event.counter_eq_count, Event.metrics_append,
    Event.metrics_append, List.count_append, List.count_append, hcount, count_metrics_ledger,
    Ending.count_closing, Nat.add_assoc]
  rfl

/-- A counter shows what all invocations have added to it. -/
theorem counter_of_performAll (env : Environment σ) (tasks : List (Task σ)) (s : σ × List Event)
    (m : Metric) (hreturned : ∀ c ∈ (env.performAll tasks s).1, c.Returned) :
    counter (env.performAll tasks s).2.2 m =
      counter s.2 m + ((env.performAll tasks s).1.map fun c => c.adds m).sum := by
  induction tasks generalizing s with
  | nil => rfl
  | cons task tasks ih =>
    rw [Environment.performAll_cons] at hreturned ⊢
    obtain ⟨hfirst, hrest⟩ := List.forall_mem_cons.1 hreturned
    rw [ih _ hrest, counter_of_perform env task s m hfirst, List.map_cons, List.sum_cons,
      Nat.add_assoc]

/-! ## All actions and all kinds of errors -/

/-- All actions. -/
def Action.all : List Action :=
  [.notFound, .legacy, .awaitingCompletion, .guardAdded, .notified, .released, .releasedAnomalous]

/-- All kinds of errors. -/
def ReconcileError.labels : List String :=
  ["extraction", "transport", "rejected", "conflict", "store", "cancelled"]

/-- An invocation that comes back has succeeded with one action or failed with one kind of error. -/
theorem Ending.countP_of_returned {ending : Ending} (h : ∃ result, ending = .returned result) :
    (Action.all.countP fun action => ending.took action) +
      (ReconcileError.labels.countP fun kind => ending.failedWith kind) = 1 := by
  obtain ⟨result, rfl⟩ := h
  cases result with
  | ok o =>
    obtain ⟨action, requeue⟩ := o
    cases action <;> rfl
  | error e =>
    cases e with
    | delivery cause => cases cause <;> rfl
    | _ => rfl

/-- Ones for the elements with a property sum up to their number. -/
theorem sum_map_indicator {α : Type} (p : α → Bool) (l : List α) :
    (l.map fun a => if p a then 1 else 0).sum = l.countP p := by
  induction l with
  | nil => rfl
  | cons a l ih => rw [List.map_cons, List.sum_cons, ih, List.countP_cons, Nat.add_comm]

/-- Counting by rows and counting by columns come to the same. -/
theorem sum_map_countP {α β : Type} (p : α → β → Bool) (l : List α) (xs : List β) :
    (l.map fun a => xs.countP (p a)).sum = (xs.map fun x => l.countP fun a => p a x).sum := by
  induction xs with
  | nil => simp
  | cons x xs ih =>
    simp only [List.countP_cons, List.sum_map_add, ih, sum_map_indicator, List.map_cons,
      List.sum_cons]
    exact Nat.add_comm _ _

/-- What the counters of invocations and of what they have met show, next to the invocations. -/
structure CountersAgree (conducts : List Conduct) (events : List Event) : Prop where
  actions : ∀ action, counter events (.reconciled action) =
    conducts.countP fun c => c.ending.took action
  errors : ∀ kind, counter events (.failed kind) = conducts.countP fun c => c.ending.failedWith kind
  /-- Every invocation is counted once, under its action or under its kind of error. -/
  total : (Action.all.map fun action => counter events (.reconciled action)).sum +
    (ReconcileError.labels.map fun kind => counter events (.failed kind)).sum = conducts.length
  conflicts : counter events .conflict =
    (conducts.map fun c => c.calls.countP Call.isConflict).sum
  anomalies : counter events .anomaly =
    (conducts.map fun c => anomalousReleases c.reconciler.markers none c.calls).sum
  deliveries : ∀ label, counter events (.notification label) =
    (conducts.map fun c => deliveries c.calls label).sum

/-- Counters that show what the invocations have added to them agree with the invocations. -/
theorem countersAgree_of_adds {conducts : List Conduct} {events : List Event}
    (hreturned : ∀ c ∈ conducts, c.Returned)
    (h : ∀ m, counter events m = (conducts.map fun c => c.adds m).sum) :
    CountersAgree conducts events := by
  have hactions : ∀ action, counter events (.reconciled action) =
      conducts.countP fun c => c.ending.took action := by
    intro action
    simp only [h, Conduct.adds_reconciled, sum_map_indicator]
  have herrors : ∀ kind, counter events (.failed kind) =
      conducts.countP fun c => c.ending.failedWith kind := by
    intro kind
    simp only [h, Conduct.adds_failed, sum_map_indicator]
  have honce : ∀ c ∈ conducts, (Action.all.countP fun action => c.ending.took action) +
      (ReconcileError.labels.countP fun kind => c.ending.failedWith kind) = 1 :=
    fun c hc => Ending.countP_of_returned (hreturned c hc)
  constructor
  case actions => exact hactions
  case errors => exact herrors
  case total =>
    simp only [hactions, herrors]
    rw [sum_map_countP (fun action (c : Conduct) => c.ending.took action),
      sum_map_countP (fun kind (c : Conduct) => c.ending.failedWith kind), ← List.sum_map_add,
      List.map_congr_left honce]
    simp
  case conflicts => simp only [h, Conduct.adds_conflict]
  case anomalies => simp only [h, Conduct.adds_anomaly]
  case deliveries =>
    intro label
    simp only [h, Conduct.adds_notification]

/-! ## A recorder for the sink -/

/-- Two states of a recorder in which the same has been delivered, with as many attempts. -/
def Recorder.Alike (a b : Recorder) : Prop := a.delivered = b.delivered ∧ a.attempts = b.attempts

/-- The sink of an environment is a recorder. A delivery may be given up before it gets there.
Failures may be queued at any time. -/
structure Environment.RecordsIn (env : Environment σ) (sink : σ → Recorder) : Prop where
  deliver : ∀ payload s,
    (env.deliver payload s).1 = .result ((sink s).deliver payload).1 ∧
        (sink (env.deliver payload s).2).Alike ((sink s).deliver payload).2 ∨
      (∀ result, (env.deliver payload s).1 ≠ .result result) ∧
        (sink (env.deliver payload s).2).Alike (sink s)
  fetch : ∀ key s, (sink (env.fetch key s).2).Alike (sink s)
  patch : ∀ key expected p s, (sink (env.patch key expected p s).2).Alike (sink s)
  emit : ∀ e s, (sink (env.emit e s)).Alike (sink s)

/-- What a recorder keeps has grown by what some calls have delivered to it. -/
structure Recorder.Grows (before after : Recorder) (calls : List Call) : Prop where
  delivered : after.delivered.length = before.delivered.length + deliveries calls "delivered"
  attempts : after.attempts = before.attempts + (deliveries calls "delivered" +
    deliveries calls "transport_error" + deliveries calls "rejected")

/-- Deliveries are counted through. -/
theorem deliveries_append (calls calls' : List Call) (label : String) :
    deliveries (calls ++ calls') label = deliveries calls label + deliveries calls' label :=
  List.countP_append

namespace Recorder

/-- A recorder that no delivery has reached has grown by nothing. -/
theorem grows_of_alike {before after : Recorder} (h : after.Alike before) {calls : List Call}
    (hcalls : ∀ call ∈ calls, call.deliveryLabel? = none) : before.Grows after calls := by
  have hnone : ∀ label, deliveries calls label = 0 := by
    intro label
    refine List.countP_eq_zero.2 fun call hcall => ?_
    simp [hcalls call hcall]
  constructor
  case delivered => rw [hnone, h.1, Nat.add_zero]
  case attempts => simp only [hnone, h.2, Nat.add_zero]

/-- A recorder grows by the calls of both parts. -/
theorem Grows.trans {a b c : Recorder} {calls calls' : List Call} (h : a.Grows b calls)
    (h' : b.Grows c calls') : a.Grows c (calls ++ calls') := by
  constructor
  case delivered => rw [h'.delivered, h.delivered, deliveries_append, Nat.add_assoc]
  case attempts =>
    rw [h'.attempts, h.attempts, deliveries_append, deliveries_append, deliveries_append]
    omega

/-- What a recorder has grown to may be exchanged for one that is alike. -/
theorem Grows.alike_right {a b c : Recorder} {calls : List Call} (h : a.Grows b calls)
    (halike : c.Alike b) : a.Grows c calls := by
  rw [← List.append_nil calls]
  exact h.trans (grows_of_alike halike (by simp))

/-- A recorder keeps a payload or answers with a failure, and counts the attempt. -/
theorem grows_deliver (r : Recorder) (payload : Payload) :
    r.Grows (r.deliver payload).2 [.deliver payload (.result (r.deliver payload).1)] := by
  unfold deliver
  cases r.failures with
  | nil => exact ⟨List.length_append, rfl⟩
  | cons e rest => cases e <;> exact ⟨rfl, rfl⟩

end Recorder

namespace Environment

variable {env : Environment σ} {sink : σ → Recorder}

/-- Reports leave a recorder alone. -/
theorem RecordsIn.emitAll (h : env.RecordsIn sink) (events : List Event) (s : σ) :
    (sink (env.emitAll events s)).Alike (sink s) := by
  unfold Environment.emitAll
  induction events generalizing s with
  | nil => exact ⟨rfl, rfl⟩
  | cons e events ih =>
    obtain ⟨hdelivered, hattempts⟩ := ih (env.emit e s)
    obtain ⟨hdelivered', hattempts'⟩ := h.emit e s
    exact ⟨hdelivered.trans hdelivered', hattempts.trans hattempts'⟩

/-- An environment that notes its reports records in the same recorder. -/
theorem RecordsIn.reporting (h : env.RecordsIn sink) :
    env.reporting.RecordsIn fun s => sink s.1 where
  deliver payload s := h.deliver payload s.1
  fetch key s := h.fetch key s.1
  patch key expected p s := h.patch key expected p s.1
  emit e s := h.emit e s.1

end Environment

namespace Reconciler

variable (r : Reconciler) {env : Environment σ} {sink : σ → Recorder}
  (cancelled : σ × List Call → Bool) (key : RunKey)

/-- The recorder grows with every call by what the call has delivered. -/
theorem recorder_of_advance (h : env.RecordsIn sink) (stage : Stage) (s : σ × List Call) :
    ∃ call, (r.advance (env.traced cancelled) key stage s).2.2 = s.2 ++ [call] ∧
      (sink s.1).Grows (sink (r.advance (env.traced cancelled) key stage s).2.1) [call] := by
  cases stage with
  | fetch p =>
    rw [advance_traced_fetch]
    refine ⟨_, rfl, Recorder.Grows.alike_right ?_ (h.emitAll _ _)⟩
    exact Recorder.grows_of_alike (h.fetch key s.1) (by simp [Call.deliveryLabel?])
  | deliver p snapshot rs =>
    rw [advance_traced_deliver]
    refine ⟨_, rfl, Recorder.Grows.alike_right ?_ (h.emitAll _ _)⟩
    obtain ⟨hanswer, hsink⟩ | ⟨hanswer, hsink⟩ := h.deliver (Payload.new key rs (env.now s.1)) s.1
    · rw [hanswer]
      exact (Recorder.grows_deliver _ _).alike_right hsink
    · refine Recorder.grows_of_alike hsink ?_
      intro call hcall
      obtain rfl := List.mem_singleton.1 hcall
      unfold Call.deliveryLabel?
      split
      · rename_i result heq
        exact absurd (Call.deliver.inj heq).2 (hanswer result)
      · rfl
  | write p snapshot w =>
    rw [advance_traced_write]
    refine ⟨_, rfl, Recorder.Grows.alike_right ?_ (h.emitAll _ _)⟩
    exact Recorder.grows_of_alike (h.patch key _ _ s.1) (by simp [Call.deliveryLabel?])

/-- From any move on, the recorder of an environment grows by the calls that are made. -/
theorem recorder_of_drive (h : env.RecordsIn sink) (move : Move) (s : σ × List Call) :
    ∃ calls, (r.drive (env.traced cancelled) key move s).2.2 = s.2 ++ calls ∧
      (sink s.1).Grows (sink (r.drive (env.traced cancelled) key move s).2.1) calls := by
  induction move, s using drive_induction r (env.traced cancelled) key with
  | finish ending s =>
    rw [drive_finish]
    exact ⟨[], (List.append_nil _).symm, Recorder.grows_of_alike ⟨rfl, rfl⟩ (by simp)⟩
  | step stage s ih =>
    rw [drive_wait]
    obtain ⟨call, hcall, hgrows⟩ := recorder_of_advance r cancelled key h stage s
    obtain ⟨calls, hcalls, hgrows'⟩ := ih
    exact ⟨[call] ++ calls, by rw [hcalls, hcall, List.append_assoc], hgrows.trans hgrows'⟩

/-- During an invocation the recorder grows by what the invocation has delivered. -/
theorem recorder_of_reconcile (h : env.RecordsIn sink) (s : σ) :
    let out := r.reconcile (env.traced cancelled) key (s, [])
    (sink s).Grows (sink out.2.1) out.2.2 := by
  obtain ⟨calls, hcalls, hgrows⟩ :=
    recorder_of_drive r cancelled key h (resume .start (cancelled (s, []))) (s, [])
  rw [List.nil_append] at hcalls
  rw [← hcalls] at hgrows
  rw [reconcile_eq, Environment.emitAll_traced]
  exact hgrows.alike_right (h.emitAll _ _)

end Reconciler

/-- What a recorder keeps has grown as the counters of deliveries have. -/
structure RecorderAgrees (before after : Recorder) (events : List Event) : Prop where
  /-- Every payload that was accepted is counted as delivered. -/
  delivered : after.delivered.length =
    before.delivered.length + counter events (.notification "delivered")
  /-- Every attempt is counted, under one of the three results. -/
  attempts : after.attempts = before.attempts + (counter events (.notification "delivered") +
    counter events (.notification "transport_error") + counter events (.notification "rejected"))

/-- The recorder grows by what all invocations have delivered. -/
theorem recorder_of_performAll {env : Environment σ} {sink : σ → Recorder} (h : env.RecordsIn sink)
    (tasks : List (Task σ)) (s : σ × List Event) :
    let out := env.performAll tasks s
    (sink s.1).Grows (sink out.2.1) (out.1.flatMap Conduct.calls) := by
  induction tasks generalizing s with
  | nil => exact Recorder.grows_of_alike ⟨rfl, rfl⟩ (by simp)
  | cons task tasks ih =>
    exact (Reconciler.recorder_of_reconcile task.reconciler task.cancelled task.key h.reporting
      s).trans (ih _)

/-- The deliveries of several conducts are those of each. -/
theorem deliveries_flatMap (conducts : List Conduct) (label : String) :
    deliveries (conducts.flatMap Conduct.calls) label =
      (conducts.map fun c => deliveries c.calls label).sum := by
  induction conducts with
  | nil => rfl
  | cons c conducts ih =>
    rw [List.flatMap_cons, deliveries_append, ih, List.map_cons, List.sum_cons]

/-- Whatever the store, the sink and the tokens do, after any invocations that have all come back
the counters agree with the invocations. If the sink is a recorder, they agree with what it keeps
too. -/
theorem counters_account_for_everything (env : Environment σ) (tasks : List (Task σ)) (s : σ)
    (hreturned : ∀ c ∈ (env.performAll tasks (s, [])).1, c.Returned) :
    let out := env.performAll tasks (s, [])
    CountersAgree out.1 out.2.2 ∧
      ∀ sink : σ → Recorder, env.RecordsIn sink →
        RecorderAgrees (sink s) (sink out.2.1) out.2.2 := by
  intro out
  have hadds : ∀ m, counter out.2.2 m = (out.1.map fun c => c.adds m).sum := by
    intro m
    have hcounter := counter_of_performAll env tasks (s, []) m hreturned
    have hzero : counter [] m = 0 := Event.counter_eq_count [] m
    rw [hzero, Nat.zero_add] at hcounter
    exact hcounter
  have hagree : CountersAgree out.1 out.2.2 := countersAgree_of_adds hreturned hadds
  refine ⟨hagree, ?_⟩
  intro sink hsink
  have hgrows : (sink s).Grows (sink out.2.1) (out.1.flatMap Conduct.calls) :=
    recorder_of_performAll hsink tasks (s, [])
  have hcount : ∀ label, deliveries (out.1.flatMap Conduct.calls) label =
      counter out.2.2 (.notification label) := by
    intro label
    rw [hagree.deliveries, deliveries_flatMap]
  constructor
  case delivered => rw [hgrows.delivered, hcount]
  case attempts => rw [hgrows.attempts, hcount, hcount, hcount]

/-- The environment with a recorder for its sink. -/
def Environment.withRecorder (env : Environment σ) : Environment (σ × Recorder) where
  cancelled s := env.cancelled s.1
  now s := env.now s.1
  emit e s := (env.emit e s.1, s.2)
  fetch key s := ((env.fetch key s.1).1, (env.fetch key s.1).2, s.2)
  patch key expected p s :=
    ((env.patch key expected p s.1).1, (env.patch key expected p s.1).2, s.2)
  deliver payload s := (.result (s.2.deliver payload).1, s.1, (s.2.deliver payload).2)

/-- An environment with a recorder beside it records there. -/
theorem Environment.recordsIn_withRecorder (env : Environment σ) :
    env.withRecorder.RecordsIn Prod.snd where
  deliver _ _ := Or.inl ⟨rfl, rfl, rfl⟩
  fetch _ _ := ⟨rfl, rfl⟩
  patch _ _ _ _ := ⟨rfl, rfl⟩
  emit _ _ := ⟨rfl, rfl⟩

/-- A run whose results are refused once and delivered by the next invocation: two attempts and one
payload, counted as one failure and one success. -/
theorem counters_account_for_second_attempt :
    let a : RunKey := ⟨"ci", "a"⟩
    let r : Reconciler := ⟨"memory", .standard, 3, default, default⟩
    let ready : Snapshot := ⟨((Run.new a).withResults [⟨"verdict", "pass"⟩]).withFinalizer
      "notification.guard", "1"⟩
    let env : Environment Unit :=
      { cancelled := fun _ => false
        now := fun _ => default
        emit := fun _ u => u
        fetch := fun _ u => (.done (some ready), u)
        patch := fun _ _ _ u => (.done (.applied "2"), u)
        deliver := fun _ u => (.abandoned, u) }
    let sink : Recorder := (Recorder.new "memory").queueFailure (.transport "down")
    let task : Task (Unit × Recorder) := ⟨r, a, fun _ => false⟩
    let out := env.withRecorder.performAll [task, task] (((), sink), [])
    counter out.2.2 (.failed "transport") = 1 ∧ counter out.2.2 (.reconciled .notified) = 1 ∧
      out.2.1.2.delivered.length = 1 ∧ counter out.2.2 (.notification "delivered") = 1 ∧
      out.2.1.2.attempts = 2 ∧ counter out.2.2 (.notification "delivered") +
        counter out.2.2 (.notification "transport_error") +
        counter out.2.2 (.notification "rejected") = 2 := by
  intro a r ready env sink task out
  let rs : List RunResult := [⟨"verdict", "pass"⟩]
  let payload := Payload.new a rs default
  let read : Call := .fetch a (.done (some ready))
  let refused : Call := .deliver payload (.result (.error (.transport "down")))
  let accepted : Call := .deliver payload (.result (.ok ()))
  let marked : Call :=
    .patch a "1" (.annotate "notification.sent" "true") (.done (.applied "2"))
  let failure : Ending := .returned (.error (.delivery (.transport "down")))
  let success : Ending := .returned (.ok ⟨.notified, .now⟩)
  let go := r.drive (env.withRecorder.reporting.traced fun _ => false) a
  let tried : Recorder := ⟨"memory", [], [], 1⟩
  let kept : Recorder := ⟨"memory", [payload], [], 2⟩
  let seen : Event := .report (.classified .readyToNotify .succeeded "1")
  have hfirst : ∃ log, env.withRecorder.perform task (((), sink), []) =
      (⟨r, [read, refused], failure⟩, ((), tried), log) := by
    let log : List Event := [seen, .metric (.notification "transport_error"),
      .report (.undelivered "memory" (.transport "down"))]
    have hdrive : go (.wait (.fetch .start)) ((((), sink), []), []) =
        (failure, (((), tried), log), [read, refused]) := by
      calc go (.wait (.fetch .start)) ((((), sink), []), [])
          = go (.wait (.deliver .start ready rs)) ((((), sink), [seen]), [read]) :=
            Reconciler.drive_wait _ _ _ _ _
        _ = go (.finish failure) ((((), tried), log), [read, refused]) :=
            Reconciler.drive_wait _ _ _ _ _
        _ = _ := Reconciler.drive_finish _ _ _ _ _
    have hperform : env.withRecorder.perform task (((), sink), []) = _ :=
      Environment.perform_of_drive hdrive
    exact ⟨_, hperform⟩
  have hsecond : ∀ before, ∃ log, env.withRecorder.perform task (((), tried), before) =
      (⟨r, [read, accepted, marked], success⟩, ((), kept), log) := by
    intro before
    let sent : List Event := before ++ [seen] ++ [.metric (.notification "delivered")] ++
      [.report (.delivered "memory" payload.fingerprint 1)]
    let log := sent ++ [.report (.reconciled .notified (.annotate "notification.sent" "true") "2")]
    have hdrive : go (.wait (.fetch .start)) ((((), tried), before), []) =
        (success, (((), kept), log), [read, accepted, marked]) := by
      calc go (.wait (.fetch .start)) ((((), tried), before), [])
          = go (.wait (.deliver .start ready rs)) ((((), tried), before ++ [seen]), [read]) :=
            Reconciler.drive_wait _ _ _ _ _
        _ = go (.wait (.write ⟨some rs, 0⟩ ready .setMarker))
              ((((), kept), sent), [read, accepted]) := Reconciler.drive_wait _ _ _ _ _
        _ = go (.finish success) ((((), kept), log), [read, accepted, marked]) :=
            Reconciler.drive_wait _ _ _ _ _
        _ = _ := Reconciler.drive_finish _ _ _ _ _
    have hperform : env.withRecorder.perform task (((), tried), before) = _ :=
      Environment.perform_of_drive hdrive
    exact ⟨_, hperform⟩
  obtain ⟨before, hfirst⟩ := hfirst
  obtain ⟨log, hsecond⟩ := hsecond before
  have hout : out = ([⟨r, [read, refused], failure⟩, ⟨r, [read, accepted, marked], success⟩],
      ((), kept), log) := by
    simp only [out, Environment.performAll_cons, Environment.performAll_nil, hfirst, hsecond]
  have hreturned : ∀ c ∈ out.1, c.Returned := by
    rw [hout]
    simp [Conduct.Returned, failure, success]
  obtain ⟨hagree, hrecorder⟩ :=
    counters_account_for_everything env.withRecorder [task, task] ((), sink) hreturned
  have hkept := hrecorder Prod.snd (Environment.recordsIn_withRecorder env)
  change CountersAgree out.1 out.2.2 at hagree
  change RecorderAgrees sink out.2.1.2 out.2.2 at hkept
  have hfailures := hagree.errors "transport"
  have hsuccesses := hagree.actions .notified
  rw [hout] at hfailures hsuccesses hkept ⊢
  have hdelivered : 1 = 0 + counter log (.notification "delivered") := hkept.delivered
  have hattempts : 2 = 0 + _ := hkept.attempts
  rw [Nat.zero_add] at hdelivered hattempts
  exact ⟨hfailures, hsuccesses, rfl, hdelivered.symm, rfl, hattempts.symm⟩

end RunHerald
