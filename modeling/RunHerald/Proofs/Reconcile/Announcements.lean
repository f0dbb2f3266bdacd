import Mathlib.Data.List.Destutter
import RunHerald.Proofs.Reconcile.Cancellation
import RunHerald.Proofs.Reconcile.NoSilentDrop

/-!
# Which results are announced

One invocation may read a record that is ready several times, since each conflict leads to another
read, and the results may change from one read to the next and change back. It remembers what the
sink has accepted last.

* It announces each change of the results and no repetition: what it hands to the sink is the list
  of results that it has found ready while its token was live, without the entries that equal the
  one before them. `Told` states this for the rest of an invocation that has something delivered
  already, and `told_of_course` shows it by induction on the course.
* It marks a record only for results that the sink has accepted last: `Stage.Recalls`.
-/

set_option autoImplicit false

namespace RunHerald

variable {σ : Type}

/-! ## What is shown and what is sent -/

/-- The results that a call shows to be ready. -/
def Call.ready? (m : Markers) (call : Call) : Option (List RunResult) :=
  call.shown?.bind fun snapshot =>
    if Phase.ofRun snapshot.run m = .readyToNotify then snapshot.run.readResults.toOption else none

/-- The results that are ready in the records read by some calls while the token is live, in their
order. So many calls have been answered before. -/
def readyResults (m : Markers) (token : Nat → Bool) : Nat → List Call → List (List RunResult)
  | _, [] => []
  | n, call :: calls =>
    (if token (n + 1) then none else call.ready? m).toList ++ readyResults m token (n + 1) calls

/-- The payload that a call hands to the sink. -/
def Call.payload? : Call → Option Payload
  | .deliver payload _ => some payload
  | _ => none

/-- The payloads that some calls hand to the sink, in their order. -/
def handed (calls : List Call) : List Payload := calls.filterMap Call.payload?

/-- The payload that the sink accepts with a call. -/
def Call.accepted? : Call → Option Payload
  | .deliver payload (.result (.ok ())) => some payload
  | _ => none

/-- The payload that the sink has accepted last among some calls. -/
def lastAccepted (calls : List Call) : Option Payload :=
  (calls.filterMap Call.accepted?).getLast?

/-- A read of a record that is ready finds its results. -/
theorem Call.ready?_of_ready {m : Markers} {snapshot : Snapshot} (key : RunKey)
    (h : Phase.ofRun snapshot.run m = .readyToNotify) :
    (Call.fetch key (.done (some snapshot))).ready? m = snapshot.run.readResults.toOption := by
  simp [ready?, shown?, h]

/-- A read of any other record finds no results to announce. -/
theorem Call.ready?_of_not_ready {m : Markers} {snapshot : Snapshot} (key : RunKey)
    (h : Phase.ofRun snapshot.run m ≠ .readyToNotify) :
    (Call.fetch key (.done (some snapshot))).ready? m = none := by
  simp [ready?, shown?, h]

/-- Results are found by a read, unless the token is cancelled. -/
@[simp] theorem readyResults_fetch (m : Markers) (token : Nat → Bool) (n : Nat) (key : RunKey)
    (answer : Attempt (Option Snapshot)) (calls : List Call) :
    readyResults m token n (.fetch key answer :: calls) =
      (if token (n + 1) then none else (Call.fetch key answer).ready? m).toList
        ++ readyResults m token (n + 1) calls := rfl

/-- A delivery finds no results. -/
@[simp] theorem readyResults_deliver (m : Markers) (token : Nat → Bool) (n : Nat)
    (payload : Payload) (answer : Delivery) (calls : List Call) :
    readyResults m token n (.deliver payload answer :: calls)
      = readyResults m token (n + 1) calls := by
  simp [readyResults, Call.ready?, Call.shown?]

/-- A patch finds no results. -/
@[simp] theorem readyResults_patch (m : Markers) (token : Nat → Bool) (n : Nat) (key : RunKey)
    (expected : String) (p : Patch) (answer : Attempt PatchResult) (calls : List Call) :
    readyResults m token n (.patch key expected p answer :: calls)
      = readyResults m token (n + 1) calls := by
  simp [readyResults, Call.ready?, Call.shown?]

/-- A read hands nothing to the sink. -/
@[simp] theorem handed_fetch (key : RunKey) (answer : Attempt (Option Snapshot))
    (calls : List Call) : handed (.fetch key answer :: calls) = handed calls := rfl

/-- A delivery hands its payload to the sink. -/
@[simp] theorem handed_deliver (payload : Payload) (answer : Delivery) (calls : List Call) :
    handed (.deliver payload answer :: calls) = payload :: handed calls := rfl

/-- A patch hands nothing to the sink. -/
@[simp] theorem handed_patch (key : RunKey) (expected : String) (p : Patch)
    (answer : Attempt PatchResult) (calls : List Call) :
    handed (.patch key expected p answer :: calls) = handed calls := rfl

/-- What was accepted last is what the last delivery says, if it was accepted. -/
theorem lastAccepted_concat (calls : List Call) (call : Call) :
    lastAccepted (calls ++ [call]) = call.accepted?.or (lastAccepted calls) := by
  unfold lastAccepted
  rw [List.filterMap_append, List.getLast?_append]
  cases h : call.accepted? <;> simp [h]

/-! ## Each change is announced -/

/-- After `last`, what is sent is what is due without its repetitions. -/
def Told (last : Option (List RunResult)) (sent due : List (List RunResult)) : Prop :=
  last.toList ++ sent = (last.toList ++ due).destutter (· ≠ ·)

/-- Without results to announce nothing is told. -/
theorem told_nil (last : Option (List RunResult)) : Told last [] [] := by
  cases last <;> rfl

/-- Results that differ from the ones before them are sent. -/
theorem Told.send {last : Option (List RunResult)} {rs : List RunResult}
    {sent due : List (List RunResult)} (hnew : last ≠ some rs) (h : Told (some rs) sent due) :
    Told last (rs :: sent) (rs :: due) := by
  cases last with
  | none => exact h
  | some before =>
    have hne : before ≠ rs := by
      rintro rfl
      exact hnew rfl
    change rs :: sent = (rs :: due).destutter (· ≠ ·) at h
    change before :: rs :: sent = (before :: rs :: due).destutter (· ≠ ·)
    rw [List.destutter_cons_cons, if_pos hne, h, List.destutter_cons']

/-- Results that equal the ones before them are not sent again. -/
theorem Told.skip {rs : List RunResult} {sent due : List (List RunResult)}
    (h : Told (some rs) sent due) : Told (some rs) sent (rs :: due) := by
  change rs :: sent = (rs :: due).destutter (· ≠ ·) at h
  change rs :: sent = (rs :: rs :: due).destutter (· ≠ ·)
  have heq : ¬ rs ≠ rs := fun hne => hne rfl
  rw [List.destutter_cons_cons, if_neg heq, h, List.destutter_cons']

/-- What the calls after a move send of what is due in them. An invocation that is about to deliver
results owes them too. -/
def Move.Tells (m : Markers) (token : Nat → Bool) (n : Nat) (calls : List Call) : Move → Prop
  | .finish _ => calls = []
  | .wait (.deliver p _ rs) => p.delivered ≠ some rs →
    Told p.delivered ((handed calls).map Payload.results) (rs :: readyResults m token n calls)
  | .wait (.fetch p) =>
    Told p.delivered ((handed calls).map Payload.results) (readyResults m token n calls)
  | .wait (.write p _ _) =>
    Told p.delivered ((handed calls).map Payload.results) (readyResults m token n calls)

/-- An invocation that ends with a read was cancelled, or has found no results to announce. -/
theorem FetchEnd.not_ready {m : Markers} {cancelled : Bool} {answer : Attempt (Option Snapshot)}
    {ending : Ending} (h : FetchEnd m cancelled answer ending) (key : RunKey) :
    (if cancelled then none else (Call.fetch key answer).ready? m) = none := by
  cases h with
  | aborted message => simp [Call.ready?, Call.shown?]
  | failed e => simp [Call.ready?, Call.shown?]
  | absent => simp [Call.ready?, Call.shown?]
  | legacy snapshot hphase =>
    have hnot : Phase.ofRun snapshot.run m ≠ .readyToNotify := by simp [hphase]
    rw [Call.ready?_of_not_ready key hnot, ite_self]
  | awaitingCompletion snapshot hphase =>
    have hnot : Phase.ofRun snapshot.run m ≠ .readyToNotify := by simp [hphase]
    rw [Call.ready?_of_not_ready key hnot, ite_self]
  | unreadable snapshot e hphase hresults =>
    simp [Call.ready?_of_ready key hphase, hresults, Except.toOption]
  | cancelled snapshot hcancelled => simp [hcancelled]

/-- A record that leads to its marker shows no results but those delivered last, and a record that
leads to another change shows none at all. -/
theorem Warranted.told {m : Markers} {p : Progress} {cancelled : Bool} {snapshot : Snapshot}
    {w : Write} (h : Warranted m p cancelled snapshot w) (key : RunKey)
    {sent due : List (List RunResult)} (htold : Told p.delivered sent due) :
    Told p.delivered sent
      ((if cancelled then none else (Call.fetch key (.done (some snapshot))).ready? m).toList
        ++ due) := by
  by_cases hset : w = .setMarker
  · obtain ⟨rs, hresults, hdelivered⟩ := h.delivered hset
    have hphase : Phase.ofRun snapshot.run m = .readyToNotify := by
      rw [h.phase, hset]
      rfl
    have hready := Call.ready?_of_ready key hphase
    rw [hresults] at hready
    rw [hdelivered] at htold ⊢
    cases cancelled with
    | true => exact htold
    | false =>
      rw [if_neg Bool.false_ne_true, hready]
      exact htold.skip
  · have hphase : Phase.ofRun snapshot.run m ≠ .readyToNotify := by
      rw [h.phase]
      cases w with
      | setMarker => exact absurd rfl hset
      | addGuard => decide
      | release => decide
      | releaseAnomalous => decide
    rw [Call.ready?_of_not_ready key hphase, ite_self]
    exact htold

/-- After any move, an invocation announces each change of the results that are due. -/
theorem told_of_course {r : Reconciler} {key : RunKey} {token : Nat → Bool} {n : Nat} {move : Move}
    {calls : List Call} {ending : Ending}
    (h : Course r key (fun n cancelled => cancelled = token n) n move calls ending) :
    move.Tells r.markers token n calls := by
  induction h with
  | finish n ending => rfl
  | fetch n p answer cancelled calls ending hc h ih =>
    subst hc
    change Told p.delivered _ (readyResults _ _ _ (_ :: _))
    rw [handed_fetch, readyResults_fetch]
    cases hm : (r.fetched p (token (n + 1)) answer).2 with
    | finish e =>
      rw [hm] at ih
      obtain rfl : calls = [] := ih
      rw [(Reconciler.end_of_fetched hm).not_ready key]
      exact told_nil _
    | wait stage =>
      rw [hm] at ih
      obtain ⟨snapshot, rfl, ⟨rs, rfl, hannounced⟩ | ⟨w, rfl, hwarranted⟩⟩ :=
        Reconciler.reason_of_fetched hm
      · have hready := Call.ready?_of_ready key hannounced.phase
        rw [hannounced.results] at hready
        rw [hannounced.active, if_neg Bool.false_ne_true, hready]
        exact ih hannounced.fresh
      · exact hwarranted.told key ih
  | deliver n p snapshot rs now answer calls ending h ih =>
    intro hfresh
    rw [handed_deliver, readyResults_deliver]
    refine Told.send hfresh ?_
    cases hm : (r.delivered p snapshot (Payload.new key rs now) answer).2 with
    | finish e =>
      rw [hm] at ih
      obtain rfl : calls = [] := ih
      exact told_nil _
    | wait stage =>
      rw [hm] at ih
      obtain ⟨-, rfl⟩ := Reconciler.reason_of_delivered hm
      exact ih
  | write n p snapshot w answer cancelled calls ending hc h ih =>
    change Told p.delivered _ (readyResults _ _ _ (_ :: _))
    rw [handed_patch, readyResults_patch]
    cases hm : (r.written p cancelled snapshot w answer).2 with
    | finish e =>
      rw [hm] at ih
      obtain rfl : calls = [] := ih
      exact told_nil _
    | wait stage =>
      rw [hm] at ih
      obtain ⟨current, -, rfl, -⟩ := Reconciler.reason_of_written hm
      exact ih

/-! ## A record is marked for what was accepted last -/

/-- An invocation that waits remembers the results that the sink has accepted last. It is about to
deliver the results of the record read last, or to mark that record because they are the ones
accepted last. -/
structure Stage.Recalls (m : Markers) (before : List Call) (stage : Stage) : Prop where
  delivered : stage.progress.delivered = (lastAccepted before).map Payload.results
  announced : ∀ p snapshot rs, stage = .deliver p snapshot rs →
    lastShown none before = some snapshot ∧ Phase.ofRun snapshot.run m = .readyToNotify ∧
      snapshot.run.readResults = .ok rs
  marked : ∀ p snapshot, stage = .write p snapshot .setMarker →
    lastShown none before = some snapshot ∧ Phase.ofRun snapshot.run m = .readyToNotify ∧
      ∃ rs, snapshot.run.readResults = .ok rs ∧ p.delivered = some rs

/-- At the start there is nothing to recall. -/
theorem Stage.recalls_start (m : Markers) : (Stage.fetch .start).Recalls m [] where
  delivered := rfl
  announced := by simp
  marked := by simp

/-- Every call keeps to what an invocation recalls. -/
theorem Stage.Recalls.step {r : Reconciler} {key : RunKey} {reads : Bool → Prop}
    {before : List Call} {stage next : Stage} {call : Call} (h : stage.Recalls r.markers before)
    (hcall : stage.Passes r key reads call next) : next.Recalls r.markers (before ++ [call]) := by
  cases hcall with
  | announced p snapshot rs cancelled hc hannounced =>
    refine ⟨?_, ?_, by simp⟩
    · rw [lastAccepted_concat]
      exact h.delivered
    · rintro _ _ _ ⟨⟩
      exact ⟨lastShown_concat .., hannounced.phase, hannounced.results⟩
  | warranted p snapshot w cancelled hc hwarranted =>
    refine ⟨?_, by simp, ?_⟩
    · rw [lastAccepted_concat]
      exact h.delivered
    · rintro _ _ ⟨⟩
      exact ⟨lastShown_concat .., hwarranted.phase, hwarranted.delivered rfl⟩
  | accepted p snapshot rs now =>
    obtain ⟨hshown, hphase, hresults⟩ := h.announced p snapshot rs rfl
    refine ⟨?_, by simp, ?_⟩
    · rw [lastAccepted_concat]
      rfl
    · rintro _ _ ⟨⟩
      rw [lastShown_concat]
      exact ⟨hshown, hphase, rs, hresults, rfl⟩
  | overtaken p snapshot w current cancelled hc hlimit hactive =>
    refine ⟨?_, by simp, by simp⟩
    rw [lastAccepted_concat]
    exact h.delivered

/-! ## The two together -/

/-- The announcements among the calls of one invocation. -/
structure Announces (m : Markers) (key : RunKey) (token : Nat → Bool) (calls : List Call) :
    Prop where
  /-- The results handed to the sink are those found ready while the token was live, without the
  entries that equal the one before them. -/
  results : (handed calls).map Payload.results = (readyResults m token 0 calls).destutter (· ≠ ·)
  /-- Each payload is for the run, with the fingerprint of its results. -/
  payloads : ∀ payload ∈ handed calls,
    payload.run = key ∧ payload.fingerprint = Fingerprint.compute key payload.results
  /-- A delivery that fails is the last call. -/
  failure : ∀ before payload answer after, calls = before ++ .deliver payload answer :: after →
    answer ≠ .result (.ok ()) → after = []
  /-- The marker is set on the record that was read last, and the payload that the sink has accepted
  last has the results of that record. -/
  marker : ∀ before k expected name value answer after,
    calls = before ++ .patch k expected (.annotate name value) answer :: after →
    ∃ snapshot rs payload, lastShown none before = some snapshot ∧ snapshot.version = expected ∧
      Phase.ofRun snapshot.run m = .readyToNotify ∧ snapshot.run.readResults = .ok rs ∧
      lastAccepted before = some payload ∧ payload.results = rs

namespace Reconciler

variable (r : Reconciler) (env : Environment σ) (key : RunKey) (token : Nat → Bool) (s : σ)

/-- What an invocation hands to the sink are the results that it has found, told once each. -/
theorem told_of_reconcile :
    let calls := (r.reconcile (env.withToken token) key (s, [])).2.2
    Told none ((handed calls).map Payload.results) (readyResults r.markers token 0 calls) := by
  intro calls
  have hcourse := course_of_reconcile r env (fun s => token s.2.length) key
    (fun n cancelled => cancelled = token n) (fun _ => rfl) s
  have htells := told_of_course hcourse
  change Move.Tells r.markers token 0 calls _ at htells
  cases hmove : resume .start (token 0) with
  | finish ending =>
    rw [List.length_nil, hmove] at htells
    have hcalls : calls = [] := htells
    rw [hcalls]
    exact told_nil none
  | wait stage =>
    obtain ⟨rfl, -⟩ := wait_of_resume hmove
    rw [List.length_nil, hmove] at htells
    exact htells

/-- Every payload that an invocation hands to the sink is made for its run. -/
theorem payload_of_mem_handed {payload : Payload}
    (h : payload ∈ handed (r.reconcile (env.withToken token) key (s, [])).2.2) :
    ∃ rs now, payload = Payload.new key rs now := by
  obtain ⟨call, hmem, hpayload⟩ := List.mem_filterMap.1 h
  obtain ⟨before, after, hcalls⟩ := List.append_of_mem hmem
  obtain ⟨stage, next, hcall, -⟩ :=
    exists_stage_of_call r env (fun s => token s.2.length) key s hcalls
  cases hcall with
  | fetch => cases hpayload
  | deliver p snapshot rs now answer => exact ⟨rs, now, (Option.some.inj hpayload).symm⟩
  | write => cases hpayload

/-- Only an accepted delivery is followed by another call. -/
theorem last_of_failed_delivery {before after : List Call} {payload : Payload} {answer : Delivery}
    (hcalls : (r.reconcile (env.withToken token) key (s, [])).2.2
      = before ++ .deliver payload answer :: after)
    (hanswer : answer ≠ .result (.ok ())) : after = [] := by
  obtain ⟨stage, next, hcall, hrest⟩ :=
    exists_stage_of_call r env (fun s => token s.2.length) key s hcalls
  cases after with
  | nil => rfl
  | cons call after =>
    obtain ⟨stage', next', rfl, -, -⟩ := hrest.uncons
    generalize hfailed : Call.deliver payload answer = failed at hcall
    cases hcall.passes with
    | announced => cases hfailed
    | warranted => cases hfailed
    | accepted => exact absurd (Call.deliver.inj hfailed).2 hanswer
    | overtaken => cases hfailed

/-- The marker is set for the results that the sink has accepted last. -/
theorem accepted_of_marker {before after : List Call} {k : RunKey} {expected name value : String}
    {answer : Attempt PatchResult}
    (hcalls : (r.reconcile (env.withToken token) key (s, [])).2.2
      = before ++ .patch k expected (.annotate name value) answer :: after) :
    ∃ snapshot rs payload, lastShown none before = some snapshot ∧ snapshot.version = expected ∧
      Phase.ofRun snapshot.run r.markers = .readyToNotify ∧ snapshot.run.readResults = .ok rs ∧
      lastAccepted before = some payload ∧ payload.results = rs := by
  obtain ⟨stage, next, hrecalls, hcall, -⟩ := stage_of_call r env (fun s => token s.2.length) key
    (fun _ _ => True) (fun _ => trivial) s (Stage.Recalls r.markers)
    (fun _ => Stage.recalls_start r.markers) (fun _ _ _ _ h hcall => h.step hcall) hcalls
  generalize hchange : Patch.annotate name value = change at hcall
  cases hcall with
  | write p snapshot w answer cancelled hc =>
    obtain rfl := Write.eq_setMarker hchange
    obtain ⟨hshown, hphase, rs, hresults, hdelivered⟩ := hrecalls.marked p snapshot rfl
    have haccepted : (lastAccepted before).map Payload.results = some rs :=
      hrecalls.delivered.symm.trans hdelivered
    obtain ⟨payload, hlast, hpayload⟩ := Option.map_eq_some_iff.1 haccepted
    exact ⟨snapshot, rs, payload, hshown, rfl, hphase, hresults, hlast, hpayload⟩

/-- Whatever the store and the sink do, and whenever the token is cancelled, an invocation announces
each change of the results that it finds ready while the token is live, and nothing else. It marks a
record only for the results that the sink has accepted last. -/
theorem announces_each_change_of_results :
    Announces r.markers key token (r.reconcile (env.withToken token) key (s, [])).2.2 where
  results := told_of_reconcile r env key token s
  payloads := by
    intro payload hmem
    obtain ⟨rs, now, rfl⟩ := payload_of_mem_handed r env key token s hmem
    exact ⟨rfl, rfl⟩
  failure := by
    intro before payload answer after hcalls hanswer
    exact last_of_failed_delivery r env key token s hcalls hanswer
  marker := by
    intro before k expected name value answer after hcalls
    exact accepted_of_marker r env key token s hcalls

end Reconciler

end RunHerald
