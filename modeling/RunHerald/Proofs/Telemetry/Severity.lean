import RunHerald.Proofs.Reconcile.Announcements
import RunHerald.Proofs.Telemetry.Ledger
import RunHerald.Proofs.Webhook.DeliveryLoop

/-!
# Each outcome is reported once

`notices` are the records above debug that a log shows, each with its level and its message.

A call that leads on gives a notice of a delivery that was accepted, and of an anomaly if it is to
release one: `notices_of_leadsOn`. The last call gives the notice of a change that was made or of a
failure, unless the end of the invocation gives it: `notices_of_lastCall`. So there is one for each
outcome, whatever the store, the sink and the token do.

A webhook only reports that it tries again, which gives no notice: `notices_attemptFrom`.
-/

set_option autoImplicit false

namespace RunHerald

variable {σ : Type}

/-- The records above debug that a log shows of some events, each with its level and its message. -/
def notices (events : List Event) : List (Level × String) :=
  ((Event.reports events).filter fun r => r.level ≠ .debug).map fun r => (r.level, r.message)

/-- The notices of two parts are those of each. -/
theorem notices_append (events events' : List Event) :
    notices (events ++ events') = notices events ++ notices events' := by
  simp [notices, Event.reports]

/-- The reports that are left out are no notices. -/
theorem notices_notable (events : List Event) :
    notices (Event.notable events) = notices events := by
  induction events with
  | nil => rfl
  | cons e events ih =>
    cases e with
    | metric m => exact ih
    | report report =>
      by_cases hlevel : report.level = .debug
      · simpa [notices, Event.notable, Event.isNotable, Event.reports, hlevel] using ih
      · simpa [notices, Event.notable, Event.isNotable, Event.reports, hlevel] using ih

/-- The notice of a delivery that was accepted. -/
def deliveryNotice : Level × String := (.info, "notification delivered")

/-- The notice of an anomaly. -/
def anomalyNotice : Level × String :=
  (.error, "notification marker present on a run that has not succeeded; releasing guard")

/-- The notice of a change that was made, if an invocation ends with one. -/
def Ending.changeNotice? : Ending → Option (Level × String)
  | .returned (.ok o) => if o.action.mutated then some (.info, "reconciled run") else none
  | _ => none

/-- The notice of a failure, if an invocation ends with one other than a cancellation. It is an
error if the sink has refused the payload for good. -/
def Ending.failureNotice? : Ending → Option (Level × String)
  | .returned (.error .cancelled) => none
  | .returned (.error (.delivery (.rejected ..))) =>
    some (.error, "sink rejected notification payload")
  | .returned (.error (.delivery (.transport _))) => some (.warn, "notification delivery failed")
  | .returned (.error (.extraction _)) =>
    some (.warn, "reconcile failed; run record needs correction before a retry can succeed")
  | .returned (.error _) => some (.warn, "reconcile failed; will retry")
  | _ => none

/-- The number of deliveries that the sink has accepted. -/
def acceptances (calls : List Call) : Nat := calls.countP fun call => call.accepted?.isSome

/-- So many notices of deliveries and of anomalies. -/
def callNotices (accepted anomalous : Nat) : List (Level × String) :=
  List.replicate accepted deliveryNotice ++ List.replicate anomalous anomalyNotice

/-- The notices of several calls can be put together. -/
theorem callNotices_add (a b a' b' : Nat) :
    (callNotices a b ++ callNotices a' b').Perm (callNotices (a + a') (b + b')) := by
  refine List.perm_iff_count.2 fun notice => ?_
  simp only [callNotices, List.count_append, List.count_replicate]
  split <;> split <;> omega

/-- A warning is a notice of an anomaly that is released. -/
theorem notices_warning (m : Markers) (shown : Option Snapshot) (call : Call) :
    notices (call.warning m shown) =
      callNotices 0 (if call.isAnomalousRelease m shown then 1 else 0) := by
  cases call with
  | fetch key answer => rfl
  | deliver payload answer => rfl
  | patch key expected p answer =>
    unfold Call.warning
    split
    · rename_i hrelease
      cases shown with
      | none => simp [Call.isAnomalousRelease] at hrelease
      | some snapshot => rfl
    · rfl

/-- A call that leads on gives the notice of a delivery that was accepted, and of an anomaly if it
is to release one. -/
theorem notices_of_leadsOn {call : Call} (h : call.LeadsOn) (r : Reconciler)
    (shown : Option Snapshot) :
    (notices (call.entries r shown)).Perm
      (callNotices (if call.accepted?.isSome then 1 else 0)
        (if call.isAnomalousRelease r.markers shown then 1 else 0)) := by
  have hsettlement : notices (call.settlement r shown) =
      callNotices (if call.accepted?.isSome then 1 else 0) 0 := by
    cases call with
    | fetch key answer => rfl
    | deliver payload answer =>
      obtain rfl : answer = .result (.ok ()) := h
      rfl
    | patch key expected p answer =>
      obtain ⟨current, rfl⟩ := h
      rfl
  rw [Call.entries, notices_append, notices_warning, hsettlement]
  refine (callNotices_add _ _ _ _).trans ?_
  rw [Nat.zero_add, Nat.add_zero]

/-- The notices of calls that have led on. -/
theorem notices_ledger (r : Reconciler) (shown : Option Snapshot) {calls : List Call}
    (h : ∀ call ∈ calls, call.LeadsOn) :
    (notices (ledger r shown calls)).Perm
      (callNotices (acceptances calls) (anomalousReleases r.markers shown calls)) := by
  induction calls generalizing shown with
  | nil => exact List.Perm.nil
  | cons call calls ih =>
    obtain ⟨hcall, hcalls⟩ := List.forall_mem_cons.1 h
    rw [ledger_cons, notices_append, acceptances, anomalousReleases, withShown_cons,
      List.countP_cons, List.countP_cons, Nat.add_comm, Nat.add_comm (List.countP _ _)]
    exact ((notices_of_leadsOn hcall r shown).append (ih _ hcalls)).trans (callNotices_add _ _ _ _)

/-- The last call and the end of an invocation give the notice of a change that was made or of a
failure. -/
theorem notices_of_lastCall {r : Reconciler} {key : RunKey} {shown : Option Snapshot}
    {conflicts : Nat} {call : Call} {ending : Ending}
    (h : LastCall r key shown conflicts call ending) :
    notices (call.settlement r shown) ++ notices (Reconciler.closing ending) =
        ending.changeNotice?.toList ++ ending.failureNotice?.toList ∧
      call.accepted? = none := by
  cases h with
  | fetch cancelled answer _ h =>
    cases h <;> exact ⟨rfl, rfl⟩
  | deliver snapshot payload answer _ hshown hphase h =>
    cases h with
    | aborted message => exact ⟨rfl, rfl⟩
    | abandoned => exact ⟨rfl, rfl⟩
    | failed e => cases e <;> exact ⟨rfl, rfl⟩
  | write p cancelled snapshot w answer _ hconflicts hlimit hshown hphase h =>
    cases h with
    | applied version =>
      subst hshown
      refine ⟨?_, rfl⟩
      simp only [Call.settlement, Option.bind_some, Phase.demand_of_write hphase]
      cases w <;> rfl
    | _ => exact ⟨rfl, rfl⟩

/-- All notices of an invocation: of a change that was made, of the deliveries that were accepted,
of the anomalies that were to be released, and of a failure. -/
def outcomeNotices (m : Markers) (calls : List Call) (ending : Ending) : List (Level × String) :=
  ending.changeNotice?.toList ++ List.replicate (acceptances calls) deliveryNotice ++
    List.replicate (anomalousReleases m none calls) anomalyNotice ++ ending.failureNotice?.toList

/-- The calls and the end of an invocation give the notices of its outcomes. -/
theorem Concluded.notices {r : Reconciler} {key : RunKey} {calls : List Call} {ending : Ending}
    (h : Concluded r key none 0 calls ending) :
    (notices (ledger r none calls) ++ notices (Reconciler.closing ending)).Perm
      (outcomeNotices r.markers calls ending) := by
  obtain ⟨before, call, rfl, hbefore, hlast⟩ := h
  obtain ⟨hend, hunaccepted⟩ := notices_of_lastCall hlast
  have haccepted : acceptances (before ++ [call]) = acceptances before := by
    simp [acceptances, hunaccepted]
  have hanomalous : anomalousReleases r.markers none (before ++ [call]) =
      anomalousReleases r.markers none before +
        if call.isAnomalousRelease r.markers (lastShown none before) then 1 else 0 := by
    rw [anomalousReleases, withShown_append, List.countP_append, withShown_cons, withShown_nil,
      List.countP_singleton]
    rfl
  rw [ledger_append, notices_append, ledger_cons, ledger_nil, List.append_nil, Call.entries,
    notices_append, notices_warning, List.append_assoc, List.append_assoc, hend, outcomeNotices,
    haccepted, hanomalous]
  refine List.perm_iff_count.2 fun notice => ?_
  have hcount := (notices_ledger r none hbefore).count_eq notice
  simp only [callNotices, List.count_append, List.count_replicate] at hcount ⊢
  rw [hcount]
  split <;> split <;> omega

namespace WebhookSink

/-- What a webhook reports while it delivers gives no notices. -/
theorem notices_attemptFrom (sink : WebhookSink) (exchange : Request → σ → Exchange × σ)
    (payload : Payload) (number left : Nat) (s : σ) :
    notices ((sink.attemptFrom exchange payload number left s).1.2.map .report) = [] := by
  induction left generalizing number s with
  | zero =>
    rw [attemptFrom_zero rfl]
    rfl
  | succ left ih =>
    rcases hattempt : sink.attempt exchange payload s with ⟨result, t⟩
    by_cases htransport : ∃ message, result = .error (.transport message)
    · obtain ⟨message, rfl⟩ := htransport
      rw [attemptFrom_of_transport hattempt]
      exact ih (number + 1) t
    · have hlasting := fun message h => htransport ⟨message, h⟩
      rw [attemptFrom_of_lasting hattempt hlasting]
      rfl

end WebhookSink

/-- Whatever the store, the sink and the token do, what an invocation reports above debug is one
record for a change that was made, one for each delivery that was accepted, one for each release of
an anomalous record and one for a failure other than a cancellation. A webhook adds none of its own
while it delivers. -/
theorem severity_reports_each_outcome_once (r : Reconciler) (env : Environment σ)
    (cancelled : (σ × List Event) × List Call → Bool) (key : RunKey) (s : σ) :
    let out := r.reconcile (env.reporting.traced cancelled) key ((s, []), [])
    (notices out.2.1.2).Perm (outcomeNotices r.markers out.2.2 out.1) ∧
      ∀ (τ : Type) (sink : WebhookSink) (exchange : Request → τ → Exchange × τ)
        (payload : Payload) (t : τ),
        notices ((sink.deliver exchange payload t).1.2.map .report) = [] := by
  intro out
  refine ⟨?_, fun _ sink exchange payload t => sink.notices_attemptFrom exchange payload _ _ t⟩
  obtain ⟨events, hevents, hbalanced⟩ :=
    Reconciler.ledger_of_reconcile r env cancelled key (s, [])
  have hledger : notices events = notices (ledger r none out.2.2) := by
    rw [← notices_notable events]
    obtain hbalanced | ⟨hbalanced, -⟩ := hbalanced
    · rw [hbalanced]
    · rw [← hbalanced, notices_append]
      exact (List.append_nil _).symm
  have hnotices : notices out.2.1.2 =
      notices (ledger r none out.2.2) ++ notices (Reconciler.closing out.1) := by
    rw [hevents, List.nil_append, notices_append, hledger]
  rw [hnotices]
  obtain ⟨hcalls, hending⟩ | hconcluded :=
    Reconciler.concluded_of_reconcile r env.reporting cancelled key (s, [])
  · change out.2.2 = [] at hcalls
    change out.1 = _ at hending
    rw [hcalls, hending]
    exact List.Perm.nil
  · exact hconcluded.notices

end RunHerald
