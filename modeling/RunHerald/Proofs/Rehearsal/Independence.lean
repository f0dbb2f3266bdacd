import Mathlib.Data.List.Count
import Mathlib.Logic.Function.Basic
import RunHerald.Proofs.Rehearsal.Handling

/-!
# Runs are independent

`World.serve` makes one invocation after another, each for some run and at its own time. All share
one store with one counter of versions, one sink and one set of counters. Still the order of
invocations for distinct runs does not matter in an undisturbed world: `runs_are_independent`.

The invocations are described by the log of their handlings, `Reconciler.handleAll`. A handling
depends on nothing but the record of its run, so the part of the log that belongs to a run depends
on nothing but how often the run is served (`filter_handleAll`). Everything else is read off the log
(`World.Served`).
-/

set_option autoImplicit false

namespace RunHerald

/-- The handlings of runs one after another. Each starts from the record that the one before it for
the same run has left. -/
def Reconciler.handleAll (r : Reconciler) (poisoned : Bool) :
    List RunKey → (RunKey → Option Run) → List (RunKey × Handling)
  | [], _ => []
  | key :: keys, runs =>
    let handling := r.handle poisoned (runs key)
    (key, handling) :: handleAll r poisoned keys (Function.update runs key handling.run)

/-- The records after some handlings. -/
def runsAfter (log : List (RunKey × Handling)) (runs : RunKey → Option Run) :
    RunKey → Option Run :=
  log.foldl (fun runs e => Function.update runs e.1 e.2.run) runs

/-- What a payload says, apart from its time. -/
def Payload.content (p : Payload) : RunKey × List RunResult × String :=
  (p.run, p.results, p.fingerprint)

/-- What a handling announces. -/
def Handling.contents (key : RunKey) (h : Handling) : List (RunKey × List RunResult × String) :=
  h.announced.toList.map fun rs => (key, rs, Fingerprint.compute key rs)

/-- Everything that a handling counts. -/
def Handling.metrics (h : Handling) : List Metric :=
  h.counted ++ Event.metrics (Reconciler.closing h.ending)

/-! ## The log of handlings -/

/-- The handlings of one run depend on its record and on how often it is served. -/
theorem filter_handleAll (r : Reconciler) (poisoned : Bool) (keys : List RunKey) (key : RunKey)
    {runs runs' : RunKey → Option Run} (h : runs key = runs' key) :
    (r.handleAll poisoned keys runs).filter (·.1 = key) =
      r.handleAll poisoned (keys.filter (· = key)) runs' := by
  induction keys generalizing runs runs' with
  | nil => rfl
  | cons k keys ih =>
    simp only [Reconciler.handleAll]
    by_cases hk : k = key
    · subst hk
      have hnext : Function.update runs k (r.handle poisoned (runs' k)).run k =
          Function.update runs' k (r.handle poisoned (runs' k)).run k := by
        rw [Function.update_self, Function.update_self]
      rw [h, List.filter_cons_of_pos (by simp), List.filter_cons_of_pos (by simp), ih hnext]
      rfl
    · have hnext : Function.update runs k (r.handle poisoned (runs k)).run key = runs' key := by
        rw [Function.update_of_ne (Ne.symm hk), h]
      rw [List.filter_cons_of_neg (by simpa using hk), List.filter_cons_of_neg (by simpa using hk),
        ih hnext]

/-- The record of one run is what its own handlings have left. -/
theorem runsAfter_filter (log : List (RunKey × Handling)) (key : RunKey)
    {runs runs' : RunKey → Option Run} (h : runs key = runs' key) :
    runsAfter log runs key = runsAfter (log.filter (·.1 = key)) runs' key := by
  induction log generalizing runs runs' with
  | nil => exact h
  | cons e log ih =>
    have hstep : runsAfter (e :: log) runs = runsAfter log (Function.update runs e.1 e.2.run) := rfl
    rw [hstep]
    by_cases hk : e.1 = key
    · subst hk
      rw [List.filter_cons_of_pos (by simp)]
      apply ih
      change _ = Function.update runs' e.1 e.2.run e.1
      rw [Function.update_self, Function.update_self]
    · rw [List.filter_cons_of_neg (by simpa using hk)]
      exact ih (by rw [Function.update_of_ne (Ne.symm hk), h])

/-- What the handlings of one run announce. -/
theorem filter_contents (log : List (RunKey × Handling)) (key : RunKey) :
    (log.flatMap fun e => e.2.contents e.1).filter (·.1 = key) =
      (log.filter (·.1 = key)).flatMap fun e => e.2.contents e.1 := by
  induction log with
  | nil => rfl
  | cons e log ih =>
    rw [List.flatMap_cons, List.filter_append, ih]
    by_cases hk : e.1 = key
    · have hall : (e.2.contents e.1).filter (·.1 = key) = e.2.contents e.1 := by
        rw [List.filter_eq_self]
        simp [Handling.contents, hk]
      rw [hall, List.filter_cons_of_pos (by simpa using hk), List.flatMap_cons]
    · have hnone : (e.2.contents e.1).filter (·.1 = key) = [] := by
        rw [List.filter_eq_nil_iff]
        simp [Handling.contents, hk]
      rw [hnone, List.filter_cons_of_neg (by simpa using hk), List.nil_append]

/-- Two lists of entries that agree for every key hold the same entries. -/
theorem perm_of_filter_eq {α : Type} {l l' : List (RunKey × α)}
    (h : ∀ key, l.filter (·.1 = key) = l'.filter (·.1 = key)) : l.Perm l' := by
  classical
  rw [List.perm_iff_count]
  intro e
  have hcount : ∀ l : List (RunKey × α), l.count e = (l.filter (·.1 = e.1)).count e := by
    intro l
    rw [List.count_filter (by simp)]
  rw [hcount l, hcount l', h]

/-! ## What is read off the log -/

namespace World

variable {ι : Type}

/-- Everything that matters after some invocations is read off the log of handlings. -/
structure Served (w : World ι) (log : List (RunKey × Handling))
    (out : List (RunKey × Ending) × World ι) : Prop where
  endings : out.1 = log.map fun e => (e.1, e.2.ending)
  runs : ∀ key, out.2.run? key = runsAfter log w.run? key
  contents : out.2.sink.delivered.map Payload.content =
    w.sink.delivered.map Payload.content ++ log.flatMap fun e => e.2.contents e.1
  metrics : Event.metrics out.2.events =
    Event.metrics w.events ++ log.flatMap fun e => e.2.metrics

/-- Two batches of invocations have the log of both. -/
theorem Served.append {w : World ι} {log log' : List (RunKey × Handling)}
    {out out' : List (RunKey × Ending) × World ι} (h : w.Served log out)
    (h' : out.2.Served log' out') : w.Served (log ++ log') (out.1 ++ out'.1, out'.2) where
  endings := by rw [h.endings, h'.endings, List.map_append]
  runs := by
    intro key
    have hruns : out.2.run? = runsAfter log w.run? := funext h.runs
    rw [h'.runs, hruns, runsAfter, runsAfter, runsAfter, List.foldl_append]
  contents := by rw [h'.contents, h.contents, List.flatMap_append, List.append_assoc]
  metrics := by rw [h'.metrics, h.metrics, List.flatMap_append, List.append_assoc]

/-- What is seen of each run is the same, and the counters are. -/
structure Alike (out out' : List (RunKey × Ending) × World ι) : Prop where
  /-- The invocations for a run end in the same ways, in the same order. -/
  endings : ∀ key, out.1.filter (·.1 = key) = out'.1.filter (·.1 = key)
  /-- The record of a run is the same, up to its version. -/
  runs : ∀ key, out.2.run? key = out'.2.run? key
  /-- The payloads for a run are the same, in the same order. -/
  payloads : ∀ key, (out.2.sink.delivered.filter (·.run = key)).map Payload.content =
    (out'.2.sink.delivered.filter (·.run = key)).map Payload.content
  counters : Event.counts out.2.events = Event.counts out'.2.events

/-- Logs that agree for every run show every run in the same way. -/
theorem Served.alike {w : World ι} {log log' : List (RunKey × Handling)}
    {out out' : List (RunKey × Ending) × World ι} (h : w.Served log out) (h' : w.Served log' out')
    (hlog : ∀ key, log.filter (·.1 = key) = log'.filter (·.1 = key)) : Alike out out' where
  endings := by
    intro key
    rw [h.endings, h'.endings, List.filter_map, List.filter_map]
    exact congrArg _ (hlog key)
  runs := by
    intro key
    rw [h.runs, h'.runs, runsAfter_filter log key rfl, runsAfter_filter log' key rfl, hlog]
  payloads := by
    intro key
    have hfilter : ∀ payloads : List Payload, (payloads.filter (·.run = key)).map Payload.content =
        (payloads.map Payload.content).filter (·.1 = key) := by
      intro payloads
      rw [List.filter_map]
      rfl
    rw [hfilter, hfilter, h.contents, h'.contents, List.filter_append, List.filter_append,
      filter_contents, filter_contents, hlog]
  counters := by
    apply Event.counts_eq_of_perm
    rw [h.metrics, h'.metrics]
    exact (perm_of_filter_eq hlog).flatMap_right _ |>.append_left _

/-! ## Serving one run after another -/

variable [Interference ι]

/-- Makes invocations for runs, one after another and each at its own time: how each ends, and the
world afterwards. -/
def serve (r : Reconciler) : List (RunKey × Timestamp) → World ι → List (RunKey × Ending) × World ι
  | [], w => ([], w)
  | (key, now) :: calls, w =>
    let (ending, w) := { w with clock := now }.reconcile r key false
    let (endings, w) := serve r calls w
    ((key, ending) :: endings, w)

/-- One invocation, at its own time, serves its run and leaves the world undisturbed. -/
theorem served_of_reconcile (r : Reconciler) {w : World ι} (h : w.Undisturbed) (key : RunKey)
    (now : Timestamp) :
    let out := { w with clock := now }.reconcile r key false
    (out.2.Undisturbed ∧ out.2.store.inner.poisoned = w.store.inner.poisoned) ∧
      w.Served [(key, r.handle w.store.inner.poisoned (w.run? key))] ([(key, out.1)], out.2) := by
  intro out
  let handling := r.handle w.store.inner.poisoned (w.run? key)
  have htimed : ({ w with clock := now } : World ι).Undisturbed := { h with }
  obtain ⟨hending, hbecomes⟩ := htimed.handled_of_reconcile r key
  have hdelivered : out.2.sink.delivered = w.sink.delivered ++
      handling.announced.toList.map fun rs => Payload.new key rs now := hbecomes.delivered
  have hmetrics : Event.metrics out.2.events = Event.metrics w.events ++ handling.metrics :=
    hbecomes.metrics
  refine ⟨⟨hbecomes.undisturbed, hbecomes.poisoned⟩, ?_⟩
  constructor
  case endings => exact congrArg (fun ending => [(key, ending)]) hending
  case runs =>
    intro k
    have hlog : runsAfter [(key, handling)] w.run? = Function.update w.run? key handling.run := rfl
    rw [hlog, Function.update_apply]
    exact hbecomes.runs k
  case contents =>
    rw [hdelivered, List.map_append, List.map_map, List.flatMap_singleton]
    rfl
  case metrics => rw [hmetrics, List.flatMap_singleton]

/-- Any number of invocations serve their runs. -/
theorem served_of_serve (r : Reconciler) (calls : List (RunKey × Timestamp)) {w : World ι}
    (h : w.Undisturbed) :
    w.Served (r.handleAll w.store.inner.poisoned (calls.map Prod.fst) w.run?)
      (w.serve r calls) := by
  induction calls generalizing w with
  | nil =>
    refine ⟨rfl, fun _ => rfl, ?_, ?_⟩
    · exact (List.append_nil _).symm
    · exact (List.append_nil _).symm
  | cons call calls ih =>
    obtain ⟨key, now⟩ := call
    obtain ⟨⟨hundisturbed, hpoisoned⟩, hfirst⟩ := served_of_reconcile r h key now
    have hrest := ih hundisturbed
    rw [hpoisoned, funext hfirst.runs] at hrest
    exact hfirst.append hrest

/-- In an undisturbed world the order of invocations for distinct runs does not matter: the
invocations for each run end in the same ways, leave the same record and announce the same, and the
counters come to the same. -/
theorem runs_are_independent (r : Reconciler) {w : World ι} (h : w.Undisturbed)
    {calls calls' : List (RunKey × Timestamp)}
    (hperm : (calls.map Prod.fst).Perm (calls'.map Prod.fst)) :
    Alike (w.serve r calls) (w.serve r calls') := by
  apply (served_of_serve r calls h).alike (served_of_serve r calls' h)
  intro key
  -- a run is served as often in both orders, and that is all its part of the log depends on
  rw [filter_handleAll r _ _ key rfl, filter_handleAll r _ _ key rfl, List.filter_eq,
    List.filter_eq, hperm.count_eq]

/-- Two runs, served in two orders. Whether the other run is served in between or not, the run that
is ready is announced and then released. -/
theorem runs_are_independent_of_interleaving :
    let a : RunKey := ⟨"ci", "a"⟩
    let b : RunKey := ⟨"ci", "b"⟩
    let ready := ((Run.new a).withResults [⟨"verdict", "pass"⟩]).withFinalizer "notification.guard"
    let w : TracedWorld := (((World.new default none).seed ready).2.seed (Run.new b)).2
    let r : Reconciler := ⟨"memory", .standard, 3, default, default⟩
    let apart := w.serve r [(a, default), (a, default), (b, default)]
    let mixed := w.serve r [(a, default), (b, default), (a, default)]
    w.Undisturbed ∧ Alike apart mixed ∧
      mixed.1.filter (·.1 = a) =
        [(a, .returned (.ok ⟨.notified, .now⟩)), (a, .returned (.ok ⟨.released, .never⟩))] := by
  intro a b ready w r apart mixed
  have h : w.Undisturbed := ⟨rfl, fun _ => rfl, rfl, rfl, rfl, rfl⟩
  have hperm : (([(a, default), (a, default), (b, default)] : List (RunKey × Timestamp)).map
      Prod.fst).Perm (([(a, default), (b, default), (a, default)] :
        List (RunKey × Timestamp)).map Prod.fst) := (List.Perm.swap b a []).cons a
  have halike : Alike apart mixed := runs_are_independent r h hperm
  refine ⟨h, halike, ?_⟩
  rw [← halike.endings a, (served_of_serve r _ h).endings]
  cbv

end World

end RunHerald
