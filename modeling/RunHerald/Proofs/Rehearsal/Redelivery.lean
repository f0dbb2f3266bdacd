import RunHerald.Proofs.Rehearsal.Settling
import RunHerald.Proofs.Run.ResultReading
import RunHerald.Settings

/-!
# How often a run is delivered

A rehearsal of one run is a list of incidents: invocations, the end of the run, failures of the
sink, failures of the patch that sets the marker (as if the process had crashed before it), and
edits by others just before a patch, which may be interferences of any kind. After it the run is
left to settle.

A run is delivered again after each crash before the marker, and also whenever so many edits
overtake the marker that the invocation gives up: `redelivered_without_crash` shows a run that is
delivered twice without a crash. Both are paid for in `Tally`: a delivery that is not recorded uses
up one queued crash, or one more edit than there are retries. So the deliveries are bounded by the
crashes and by the edits over the retries: `deliveries_bounded`.
-/

set_option autoImplicit false

namespace RunHerald

variable {ι : Type}

/-- What can happen to a run while it is rehearsed. -/
inductive Incident (ι : Type) where
  | reconcile
  | finish (success : Bool)
  | sinkFailure (e : DeliveryError)
  | crashBeforeMarker
  | concurrentEdit (x : ι)

namespace Incident

/-- The crashes among some incidents. -/
def crashes (incidents : List (Incident ι)) : Nat :=
  incidents.countP fun | crashBeforeMarker => true | _ => false

/-- The edits by others among some incidents. -/
def edits (incidents : List (Incident ι)) : Nat :=
  incidents.countP fun | concurrentEdit .. => true | _ => false

/-- Crashes are counted through. -/
theorem crashes_append (incidents incidents' : List (Incident ι)) :
    crashes (incidents ++ incidents') = crashes incidents + crashes incidents' :=
  List.countP_append

/-- Edits are counted through. -/
theorem edits_append (incidents incidents' : List (Incident ι)) :
    edits (incidents ++ incidents') = edits incidents + edits incidents' :=
  List.countP_append

/-- The edits by others leave alone what a reconciler looks at. -/
def Spares [Interference ι] (m : Markers) : Incident ι → Prop
  | concurrentEdit x => Harmless m x
  | _ => True

end Incident

/-- A record at the end of its run, with these results or failed. A run that is not pending has
ended before. -/
def Run.finished (results : List RunResult) (success : Bool) (run : Run) : Run :=
  if run.completion = .pending then
    if success then run.withResults results else run.withCompletion .failed
  else run

/-- The results of a run can be read after its end, if they could before. -/
theorem Run.readable_finished {run : Run} {results : List RunResult}
    (hnames : ∀ result ∈ results, result.name ≠ "") (success : Bool)
    (h : run.completion = .succeeded → ∃ rs, run.readResults = .ok rs)
    (hc : (run.finished results success).completion = .succeeded) :
    ∃ rs, (run.finished results success).readResults = .ok rs := by
  by_cases hpending : run.completion = .pending
  · cases success with
    | true =>
      have hfinished : run.finished results true = run.withResults results := by
        simp [finished, hpending]
      rw [hfinished]
      exact ⟨results, Run.readResults_withResults run hnames⟩
    | false =>
      simp [finished, hpending, withCompletion] at hc
  · have hfinished : run.finished results success = run := by simp [finished, hpending]
    rw [hfinished] at hc ⊢
    exact h hc

namespace World

variable [Interference ι]

/-- The world after an incident. -/
def befall (r : Reconciler) (key : RunKey) (results : List RunResult) (w : World ι) :
    Incident ι → World ι
  | .reconcile => (w.reconcile r key false).2
  | .finish success =>
    w.withStore (w.store.inner.rework key fun run => (run.finished results success, none)).2
  | .sinkFailure e => { w with sink := w.sink.queueFailure e }
  | .crashBeforeMarker =>
    { w with store := w.store.queuePatchFailure (Write.setMarker.patch r.markers).label }
  | .concurrentEdit x => { w with store := w.store.queueEdits x }

/-- The world after some incidents. -/
def rehearsed (r : Reconciler) (key : RunKey) (results : List RunResult) (w : World ι)
    (incidents : List (Incident ι)) : World ι :=
  incidents.foldl (befall r key results) w

end World

/-! ## The tally -/

/-- What a delivery that is not recorded costs. -/
def Reconciler.price (r : Reconciler) : Nat := r.maxConflictRetries.toNat + 1

/-- What the deliveries of a situation, the crashes and the edits in its queues, and the delivery
that an unmarked record still calls for come to. -/
def Situation.bill (r : Reconciler) (key : RunKey) (s : Situation ι) (run : Run) : Nat :=
  r.price * (s.deliveries key
      + s.failingPatches.count (Write.setMarker.patch r.markers).label
      + if run.isMarked r.markers then 0 else 1) + s.edits.length

/-- The tally of a record since the start, after so many crashes and edits. -/
structure Tally (r : Reconciler) (key : RunKey) (s₀ : Situation ι) (run₀ : Run)
    (crashes edits : Nat) (s : Situation ι) (run : Run) : Prop where
  there : s.run = some run
  undeleted : run.isDeletionRequested = false
  /-- A record that started marked stays so, and nothing is delivered. -/
  marked : run₀.isMarked r.markers = true →
    run.isMarked r.markers = true ∧ s.delivered = s₀.delivered
  /-- Nothing is delivered before the run has succeeded, nor is the record marked before. -/
  early : run₀.isMarked r.markers = false → run.completion ≠ .succeeded →
    run.isMarked r.markers = false ∧ s.delivered = s₀.delivered
  /-- No delivery is taken back. -/
  deliveries_le : s₀.deliveries key ≤ s.deliveries key
  /-- A record is marked only after a delivery. -/
  late : run₀.isMarked r.markers = false → run.isMarked r.markers = true →
    s₀.deliveries key < s.deliveries key
  /-- Deliveries are paid for. -/
  paid : run₀.isMarked r.markers = false →
    s.bill r key run ≤ r.price * (s₀.deliveries key + crashes + 1) + edits

section

variable {r : Reconciler} {key : RunKey} {s₀ s s' : Situation ι} {run₀ run : Run}
  {crashes edits : Nat}

/-- The tally of a record at the start. -/
theorem Tally.start (hrun : s₀.run = some run₀) (hdeleted : run₀.isDeletionRequested = false)
    (hfaults : s₀.faults = 0) : Tally r key s₀ run₀ 0 0 s₀ run₀ where
  there := hrun
  undeleted := hdeleted
  marked := fun hm => ⟨hm, rfl⟩
  early := fun hm _ => ⟨hm, rfl⟩
  deliveries_le := le_rfl
  late := by
    intro hm hm'
    rw [hm] at hm'
    cases hm'
  paid := by
    intro hm
    have hpatches : s₀.failingPatches = [] := by
      unfold Situation.faults at hfaults
      exact List.length_eq_zero_iff.1 (by omega)
    have hedits : s₀.edits = [] := by
      unfold Situation.faults at hfaults
      exact List.length_eq_zero_iff.1 (by omega)
    simp [Situation.bill, hm, hpatches, hedits]

/-- A delivery after which the process crashes is paid for by the crash. -/
theorem bill_of_crash {last : Run} (hcount : s'.deliveries key = s.deliveries key + 1)
    (hl : (Write.setMarker.patch r.markers).label ∈ s.failingPatches)
    (hlabels : s'.failingPatches = s.failingPatches.erase (Write.setMarker.patch r.markers).label)
    (hmarked : last.isMarked r.markers = run.isMarked r.markers)
    (hlength : s'.edits.length ≤ s.edits.length) :
    s'.bill r key last ≤ s.bill r key run := by
  have hpos := List.count_pos_iff.2 hl
  have hless : s'.failingPatches.count (Write.setMarker.patch r.markers).label + 1
      = s.failingPatches.count (Write.setMarker.patch r.markers).label := by
    rw [hlabels, List.count_erase_self]
    omega
  unfold Situation.bill
  rw [hmarked, hcount, ← hless]
  gcongr r.price * ?_ + ?_
  omega

/-- A delivery whose marker was overtaken too often is paid for by the edits. -/
theorem bill_of_exhaustion {last : Run} (hcount : s'.deliveries key = s.deliveries key + 1)
    (hlabels : s'.failingPatches = s.failingPatches)
    (hmarked : last.isMarked r.markers = run.isMarked r.markers)
    (hlength : s'.edits.length + r.price = s.edits.length) :
    s'.bill r key last ≤ s.bill r key run := by
  unfold Situation.bill
  rw [hmarked, hcount, hlabels, ← hlength]
  ring_nf
  exact le_rfl

/-- A delivery that is recorded is the one that the record still called for. -/
theorem bill_of_marker {last : Run} (hcount : s'.deliveries key = s.deliveries key + 1)
    (hlabels : s'.failingPatches = s.failingPatches) (hunmarked : run.isMarked r.markers = false)
    (hmarked : last.isMarked r.markers = true) (hlength : s'.edits.length ≤ s.edits.length) :
    s'.bill r key last ≤ s.bill r key run := by
  unfold Situation.bill
  rw [hmarked, hunmarked, hcount, hlabels, if_pos rfl, if_neg (by simp)]
  gcongr r.price * ?_ + ?_
  omega

/-- A crash that is queued is on the bill. -/
theorem Situation.bill_crash (s : Situation ι) :
    ({ s with failingPatches := s.failingPatches ++ [(Write.setMarker.patch r.markers).label] } :
      Situation ι).bill r key run = s.bill r key run + r.price := by
  have hcount : (s.failingPatches ++ [(Write.setMarker.patch r.markers).label]).count
      (Write.setMarker.patch r.markers).label
        = s.failingPatches.count (Write.setMarker.patch r.markers).label + 1 := by
    simp
  unfold bill deliveries
  simp only [hcount]
  ring

/-- Edits that are queued are on the bill. -/
theorem Situation.bill_edits (s : Situation ι) (x : ι) :
    ({ s with edits := s.edits ++ [x] } : Situation ι).bill r key run
      = s.bill r key run + 1 := by
  unfold bill deliveries
  simp only [List.length_append, List.length_singleton, Nat.add_assoc]

/-- What happens beside the record and the deliveries costs what it adds to the bill. -/
theorem Tally.incur (h : Tally r key s₀ run₀ crashes edits s run) (hrun : s'.run = s.run)
    (hdelivered : s'.delivered = s.delivered) {crashes' edits' : Nat}
    (hbill : s'.bill r key run ≤ s.bill r key run + r.price * crashes' + edits') :
    Tally r key s₀ run₀ (crashes + crashes') (edits + edits') s' run := by
  have hcount : s'.deliveries key = s.deliveries key := by
    unfold Situation.deliveries
    rw [hdelivered]
  constructor
  case there => exact hrun.trans h.there
  case undeleted => exact h.undeleted
  case marked => exact hdelivered ▸ h.marked
  case early => exact hdelivered ▸ h.early
  case deliveries_le => exact hcount ▸ h.deliveries_le
  case late => exact hcount ▸ h.late
  case paid =>
    intro hm
    have hpaid := h.paid hm
    have hsplit : r.price * (s₀.deliveries key + (crashes + crashes') + 1)
        = r.price * (s₀.deliveries key + crashes + 1) + r.price * crashes' := by ring
    omega

/-- The end of the run costs nothing. -/
theorem Tally.finish (h : Tally r key s₀ run₀ crashes edits s run) (results : List RunResult)
    (success : Bool) (hrun : s'.run = some (run.finished results success))
    (hdelivered : s'.delivered = s.delivered) (hlabels : s'.failingPatches = s.failingPatches)
    (hedits : s'.edits = s.edits) :
    Tally r key s₀ run₀ crashes edits s' (run.finished results success) := by
  have hcount : s'.deliveries key = s.deliveries key := by
    unfold Situation.deliveries
    rw [hdelivered]
  have hmarked : (run.finished results success).isMarked r.markers = run.isMarked r.markers := by
    unfold Run.finished
    split
    · cases success <;> rfl
    · rfl
  have hdeletion : (run.finished results success).isDeletionRequested = run.isDeletionRequested := by
    unfold Run.finished
    split
    · cases success <;> rfl
    · rfl
  constructor
  case there => exact hrun
  case undeleted => exact hdeletion.trans h.undeleted
  case marked => exact hmarked ▸ hdelivered ▸ h.marked
  case early =>
    intro hm hc
    rw [hmarked, hdelivered]
    apply h.early hm
    intro hsucceeded
    apply hc
    simp [Run.finished, hsucceeded]
  case deliveries_le => exact hcount ▸ h.deliveries_le
  case late => exact hmarked ▸ hcount ▸ h.late
  case paid =>
    intro hm
    refine le_trans (le_of_eq ?_) (h.paid hm)
    unfold Situation.bill
    rw [hmarked, hcount, hlabels, hedits]

/-- The deliveries of a record that is marked. -/
theorem Tally.deliveries_le_of_marked (h : Tally r key s₀ run₀ crashes edits s run)
    (hm : run₀.isMarked r.markers = false) (hm' : run.isMarked r.markers = true) :
    s.deliveries key ≤ s₀.deliveries key + 1 + crashes + edits / r.price := by
  have hpaid := h.paid hm
  unfold Situation.bill at hpaid
  rw [hm', if_pos rfl] at hpaid
  have hprice : 0 < r.price := Nat.succ_pos _
  -- crashes that are still queued and edits that are still queued have not been paid out
  have hless : r.price * s.deliveries key
      ≤ edits + r.price * (s₀.deliveries key + crashes + 1) := by
    calc r.price * s.deliveries key
        ≤ r.price * (s.deliveries key
            + s.failingPatches.count (Write.setMarker.patch r.markers).label + 0) := by
          gcongr
          omega
      _ ≤ edits + r.price * (s₀.deliveries key + crashes + 1) := by omega
  have hdiv := (Nat.le_div_iff_mul_le hprice).2 ((Nat.mul_comm _ _).trans_le hless)
  rw [Nat.add_mul_div_left _ _ hprice] at hdiv
  omega

variable [Interference ι]

/-- What agrees with a harmlessly edited record beside the guard and the marker has its state, and
its deletion is requested if the record's is. -/
theorem state_of_agrees {m : Markers} {consumed : List ι} {last : Run}
    (hconsumed : ∀ x ∈ consumed, Harmless m x) (hagrees : AgreesBeside m (run.edited consumed) last) :
    last.completion = run.completion ∧ last.isDeletionRequested = run.isDeletionRequested := by
  unfold Run.isDeletionRequested
  rw [← hagrees.completion, ← hagrees.deletionRequestedAt, deletionRequestedAt_edited hconsumed]
  exact ⟨completion_edited hconsumed run, rfl⟩

/-- Whatever does not deliver costs nothing, if it leaves the marker alone. -/
theorem Tally.undelivered (h : Tally r key s₀ run₀ crashes edits s run)
    {consumed : List ι} (hconsumed : ∀ x ∈ consumed, Harmless r.markers x) {last : Run}
    (hagrees : AgreesBeside r.markers (run.edited consumed) last)
    (hmarked : last.isMarked r.markers = run.isMarked r.markers) (hrun' : s'.run = some last)
    (hdelivered : s'.delivered = s.delivered)
    (hlabels : s'.failingPatches.Sublist s.failingPatches)
    (hlength : s'.edits.length ≤ s.edits.length) :
    Tally r key s₀ run₀ crashes edits s' last := by
  obtain ⟨hcompletion, hdeletion⟩ := state_of_agrees hconsumed hagrees
  have hcount : s'.deliveries key = s.deliveries key := by
    unfold Situation.deliveries
    rw [hdelivered]
  constructor
  case there => exact hrun'
  case undeleted => exact hdeletion.trans h.undeleted
  case marked =>
    intro hm
    rw [hmarked, hdelivered]
    exact h.marked hm
  case early =>
    intro hm hc
    rw [hcompletion] at hc
    rw [hmarked, hdelivered]
    exact h.early hm hc
  case deliveries_le => exact hcount ▸ h.deliveries_le
  case late =>
    intro hm hm'
    rw [hmarked] at hm'
    rw [hcount]
    exact h.late hm hm'
  case paid =>
    intro hm
    refine le_trans ?_ (h.paid hm)
    unfold Situation.bill
    rw [hmarked, hcount]
    gcongr
    exact hlabels.count_le _

/-- A delivery keeps to the tally if it does not raise the bill. -/
theorem Tally.delivered (h : Tally r key s₀ run₀ crashes edits s run)
    {consumed : List ι} (hconsumed : ∀ x ∈ consumed, Harmless r.markers x) {last : Run}
    (hphase : Phase.ofRun run r.markers = .readyToNotify)
    (hagrees : AgreesBeside r.markers (run.edited consumed) last) (hrun' : s'.run = some last)
    (hcount : s'.deliveries key = s.deliveries key + 1)
    (hbill : s'.bill r key last ≤ s.bill r key run) :
    Tally r key s₀ run₀ crashes edits s' last := by
  obtain ⟨hunmarked, hsucceeded⟩ := unmarked_of_ready hphase
  obtain ⟨hcompletion, hdeletion⟩ := state_of_agrees hconsumed hagrees
  have hle := h.deliveries_le
  constructor
  case there => exact hrun'
  case undeleted => exact hdeletion.trans h.undeleted
  case marked =>
    intro hm
    rw [(h.marked hm).1] at hunmarked
    cases hunmarked
  case early => exact fun _ hc => absurd (hcompletion.trans hsucceeded) hc
  case deliveries_le => omega
  case late =>
    intro _ _
    omega
  case paid => exact fun hm => hbill.trans (h.paid hm)

/-- Every kind of invocation is paid for. -/
theorem Tally.turn (h : Tally r key s₀ run₀ crashes edits s run)
    (hharmless : ∀ x ∈ s.edits, Harmless r.markers x) (hturn : Turn r key s s') :
    ∃ run', Tally r key s₀ run₀ crashes edits s' run' := by
  cases hturn with
  | kept consumed hedits hrun hdelivered hattempts hlabels =>
    have hconsumed := harmless_of_append hharmless hedits
    rw [h.there, Option.map_some] at hrun
    refine ⟨_, h.undelivered hconsumed (.refl r.markers _) (isMarked_edited hconsumed run) hrun
      hdelivered hlabels ?_⟩
    rw [hedits, List.length_append]
    exact Nat.le_add_left _ _
  | unrecorded consumed run₁ payload hedits hrun hphase hrun' hpayload hdelivered hcause =>
    obtain rfl := Option.some.inj (h.there.symm.trans hrun)
    have hconsumed := harmless_of_append hharmless hedits
    have hmarked := isMarked_edited hconsumed run
    have hlength : s.edits.length = consumed.length + s'.edits.length := by
      rw [hedits, List.length_append]
    have hcount : s'.deliveries key = s.deliveries key + 1 := by
      rw [Situation.deliveries_append hdelivered]
      simp [hpayload]
    refine ⟨_, h.delivered hconsumed hphase (.refl r.markers _) hrun' hcount ?_⟩
    rcases hcause with ⟨hl, hlabels⟩ | ⟨hlabels, hlast⟩
    · exact bill_of_crash hcount hl hlabels hmarked (by omega)
    · refine bill_of_exhaustion hcount hlabels hmarked ?_
      unfold Reconciler.price
      omega
  | changed run₁ write payloads hedits hrun hphase hrun' hdelivered hpayloads hattempts hlabels =>
    obtain rfl := Option.some.inj (h.there.symm.trans hrun)
    have hphase' := (phase_edited hharmless run).trans hphase
    have hagrees := agreesBeside_of_write r.markers write (run.edited s.edits)
    have hdeletion := (state_of_agrees hharmless hagrees).2.trans h.undeleted
    have hlength : s'.edits.length ≤ s.edits.length := by
      rw [hedits]
      exact Nat.zero_le _
    rw [Store.isSpent, hdeletion, Bool.false_and, if_neg (by simp)] at hrun'
    by_cases hset : write = .setMarker
    · subst hset
      rw [if_pos rfl] at hpayloads
      obtain ⟨payload, rfl, hpayload⟩ := hpayloads
      have hcount : s'.deliveries key = s.deliveries key + 1 := by
        rw [Situation.deliveries_append hdelivered]
        simp [hpayload]
      exact ⟨_, h.delivered hharmless hphase hagrees hrun' hcount
        (bill_of_marker hcount hlabels (unmarked_of_ready hphase).1
          (isMarked_of_change hphase' (by simp)) hlength)⟩
    · rw [if_neg hset] at hpayloads
      rw [hpayloads, List.append_nil] at hdelivered
      have hmarked := (isMarked_of_guard_change (run.edited s.edits) r.markers hset).trans
        (isMarked_edited hharmless run)
      exact ⟨_, h.undelivered hharmless hagrees hmarked hrun' hdelivered
        (hlabels ▸ List.Sublist.refl _) hlength⟩

end

/-! ## A rehearsal -/

namespace World

variable [Interference ι] {r : Reconciler} {key : RunKey} {results : List RunResult} {w : World ι}
  {s₀ : Situation ι}
  {run₀ run : Run} {crashes edits : Nat}

variable (r results) in
/-- The situation after the end of the run, in a world that stays plain. -/
theorem finish_situation (h : w.Plain) (hrun : (w.situation key).run = some run) (success : Bool) :
    (w.befall r key results (.finish success)).Plain ∧
      (w.befall r key results (.finish success)).situation key =
        { w.situation key with run := some (run.finished results success) } := by
  obtain ⟨record, hrecord, rfl⟩ : ∃ record, w.store.inner.records.get? key = some record ∧
      record.run = run := by
    simpa [situation] using hrun
  have hrework : (w.store.inner.rework key fun run => (run.finished results success, none)).2
      = w.store.inner.save key (record.run.finished results success) := by
    simp [Store.rework, h.usable, hrecord]
  constructor
  · refine { h with versioned := ?_, usable := ?_ }
    · simp only [befall, hrework]
      exact h.usable
    · simp only [befall, hrework]
      exact Store.versioned_save h.versioned key _
  · simp only [befall, hrework, situation, withStore, Store.get?_save, if_true, Option.map_some]
    rfl

/-- Every incident is paid for, and leaves the world benign. -/
theorem tally_befall (h : w.Benign r key)
    (ht : Tally r key s₀ run₀ crashes edits (w.situation key) run)
    (hnames : ∀ result ∈ results, result.name ≠ "") {incident : Incident ι}
    (hspares : incident.Spares r.markers) :
    (w.befall r key results incident).Benign r key ∧
      ∃ run', Tally r key s₀ run₀ (crashes + Incident.crashes [incident])
        (edits + Incident.edits [incident]) ((w.befall r key results incident).situation key)
        run' := by
  cases incident with
  | reconcile =>
    obtain ⟨hnext, hvisit⟩ := h.visit
    exact ⟨hnext, ht.turn h.harmless hvisit.turn⟩
  | finish success =>
    obtain ⟨hplain, hsituation⟩ := finish_situation r results h.toPlain ht.there success
    refine ⟨{ hplain with harmless := h.harmless, readable := ?_ }, run.finished results success, ?_⟩
    · rw [hsituation]
      intro run' hrun' hc
      obtain rfl := Option.some.inj hrun'
      exact Run.readable_finished hnames success (h.readable run ht.there) hc
    · rw [hsituation]
      exact ht.finish results success rfl rfl rfl rfl
  | sinkFailure e =>
    refine ⟨{ h with readable := h.readable }, run, ht.incur ?_ ?_ ?_⟩
    · rfl
    · rfl
    · exact Nat.le_add_right _ _
  | crashBeforeMarker =>
    refine ⟨{ h with readable := h.readable }, run, ht.incur ?_ ?_ ?_⟩
    · rfl
    · rfl
    · have hone : r.price * Incident.crashes [(.crashBeforeMarker : Incident ι)] = r.price :=
        Nat.mul_one _
      rw [hone]
      exact le_of_eq (Situation.bill_crash (w.situation key))
  | concurrentEdit x =>
    refine ⟨{ h with harmless := ?_, readable := h.readable }, run, ht.incur ?_ ?_ ?_⟩
    · intro e he
      rcases List.mem_append.1 he with he | he
      · exact h.harmless e he
      · obtain rfl := List.mem_singleton.1 he
        exact hspares
    · rfl
    · rfl
    · exact le_of_eq (Situation.bill_edits (w.situation key) _)

/-- Every rehearsal is paid for, and leaves the world benign. -/
theorem tally_rehearsed (h : w.Benign r key)
    (ht : Tally r key s₀ run₀ crashes edits (w.situation key) run)
    (hnames : ∀ result ∈ results, result.name ≠ "") {incidents : List (Incident ι)}
    (hspares : ∀ incident ∈ incidents, incident.Spares r.markers) :
    (w.rehearsed r key results incidents).Benign r key ∧
      ∃ run', Tally r key s₀ run₀ (crashes + Incident.crashes incidents)
        (edits + Incident.edits incidents)
        ((w.rehearsed r key results incidents).situation key) run' := by
  induction incidents generalizing w run crashes edits with
  | nil => exact ⟨h, run, ht⟩
  | cons incident incidents ih =>
    obtain ⟨hnext, run', ht'⟩ := tally_befall h ht hnames (hspares incident List.mem_cons_self)
    obtain ⟨hlast, run'', ht''⟩ :=
      ih hnext ht' fun i hi => hspares i (List.mem_cons_of_mem _ hi)
    have hcrashes := Incident.crashes_append [incident] incidents
    have hedits := Incident.edits_append [incident] incidents
    rw [List.singleton_append] at hcrashes hedits
    rw [hcrashes, hedits, ← Nat.add_assoc, ← Nat.add_assoc]
    exact ⟨hlast, run'', ht''⟩

/-- Any number of invocations is paid for. -/
theorem tally_visited (h : w.Benign r key)
    (ht : Tally r key s₀ run₀ crashes edits (w.situation key) run) (n : Nat) :
    ∃ run', Tally r key s₀ run₀ crashes edits ((w.visited r key n).situation key) run' := by
  induction n with
  | zero => exact ⟨run, ht⟩
  | succ n ih =>
    obtain ⟨run', ht'⟩ := ih
    exact ht'.turn (h.visited n).harmless (h.visited n).visit.2.turn

/-- However a run is rehearsed, it settles afterwards. If it has succeeded then, and was not marked
at first, it has been delivered at least once, and at most once more than there were crashes before
the marker and invocations that others could make give up. If it was marked at first, or has not
succeeded, it has not been delivered. -/
theorem deliveries_bounded (r : Reconciler) (key : RunKey) (results : List RunResult) (w : World ι)
    (run : Run) (incidents : List (Incident ι)) (hplain : w.Plain) (hfaults : w.faults = 0)
    (hrun : (w.store.inner.records.get? key).map (·.run) = some run)
    (hdeletion : run.isDeletionRequested = false)
    (hresults : run.completion = .succeeded → ∃ rs, run.readResults = .ok rs)
    (hnames : ∀ result ∈ results, result.name ≠ "")
    (hspares : ∀ incident ∈ incidents, incident.Spares r.markers) :
    let w' := w.rehearsed r key results incidents
    ∃ n, (∀ k < n, ¬((w'.visited r key k).reconcile r key false).1.Quiet) ∧
      ((w'.visited r key n).reconcile r key false).1.Quiet ∧
      let before := w.situation key
      let after := (w'.visited r key n).situation key
      ∃ run', after.run = some run' ∧
        (run'.completion = .succeeded → run.isMarked r.markers = false →
          before.deliveries key + 1 ≤ after.deliveries key ∧
          after.deliveries key ≤ before.deliveries key + 1 + Incident.crashes incidents
            + Incident.edits incidents / (r.maxConflictRetries.toNat + 1)) ∧
        (run.isMarked r.markers = true ∨ run'.completion ≠ .succeeded →
          after.delivered = before.delivered) := by
  intro w'
  have hreadable : (w.situation key).Readable := by
    intro run' hrun' hc
    obtain rfl := Option.some.inj (hrun.symm.trans hrun')
    exact hresults hc
  have hedits : w.store.interference = [] := by
    unfold faults at hfaults
    exact List.length_eq_zero_iff.1 (by omega)
  have hbenign : w.Benign r key := { hplain with
    harmless := by simp [hedits]
    readable := hreadable }
  have hstart : Tally r key (w.situation key) run 0 0 (w.situation key) run :=
    .start hrun hdeletion hfaults
  obtain ⟨hbenign', run₁, ht⟩ := tally_rehearsed hbenign hstart hnames hspares
  obtain ⟨n, -, hbefore, hquiet⟩ := exists_quiet hbenign'
  obtain ⟨action, -, hrest, -⟩ := quiet_stays (hbenign'.visited n) hquiet
  obtain ⟨run', ht'⟩ := tally_visited hbenign' ht n
  rw [Nat.zero_add, Nat.zero_add] at ht'
  refine ⟨n, hbefore, hquiet, run', ht'.there, ?_, ?_⟩
  · intro hc hm
    have hphase := (Situation.phase_of_rest? hrest ht'.there).resolve_right fun hwaiting =>
      (phase_eq_awaitingCompletion_iff.1 hwaiting).2.2 hc
    have hm' := (phase_eq_legacy_iff.1 hphase).2
    exact ⟨ht'.late hm hm', ht'.deliveries_le_of_marked hm hm'⟩
  · intro h
    cases hm : run.isMarked r.markers with
    | true => exact (ht'.marked hm).2
    | false =>
      have hc := h.resolve_left (by simp [hm])
      exact (ht'.early hm hc).2

/-- A run that others overtake four times, and that is then left to settle: with no more retries
than three it is delivered at most twice. -/
theorem deliveries_bounded_for_overtaken_run :
    let r : Reconciler := ⟨"memory", .standard, 3, .ofSeconds 30, .ofSeconds 300⟩
    let key : RunKey := ⟨"ci", "prop-run"⟩
    let run := Fixture.build .standard key .succeeded
    let w : TracedWorld := (World.new default none).withStore (Store.empty.save key run)
    let incidents := List.replicate 4 (.concurrentEdit [.annotate "pipeline/edited" "1"]) ++ [.reconcile]
    let w' := w.rehearsed r key Fixture.results incidents
    ∃ n, ((w'.visited r key n).reconcile r key false).1.Quiet ∧
      ((w'.visited r key n).situation key).deliveries key ≤ 2 := by
  intro r key run w incidents w'
  have hplain : w.Plain :=
    { wire := rfl
      hooks := fun _ => rfl
      usable := rfl
      versioned := Store.versioned_save Store.versioned_empty key run }
  have hrun : (w.store.inner.records.get? key).map (·.run) = some run := by
    change ((Store.empty.save key run).records.get? key).map (·.run) = some run
    rw [Store.get?_save, if_pos rfl, Option.map_some]
  have hresults : run.readResults = .ok Fixture.results := by cbv
  have hunmarked : run.isMarked .standard = false := by cbv
  have hspares : ∀ incident ∈ incidents, incident.Spares r.markers := by
    intro incident hmem
    simp only [incidents, List.mem_append, List.mem_replicate, List.mem_singleton] at hmem
    rcases hmem with ⟨-, rfl⟩ | rfl
    · exact harmless_annotate (by decide) "1"
    · trivial
  obtain ⟨n, -, hquiet, run', hrun', hbound, hzero⟩ :=
    deliveries_bounded r key Fixture.results w run incidents hplain rfl hrun rfl
      (fun _ => ⟨_, hresults⟩) (by decide) hspares
  refine ⟨n, hquiet, ?_⟩
  by_cases hc : run'.completion = .succeeded
  · exact (hbound hc hunmarked).2.trans (by decide)
  · change List.countP _ _ ≤ 2
    rw [hzero (Or.inr hc)]
    exact Nat.zero_le 2

end World

/-! ## Delivered twice without a crash -/

variable [Interference ι]

/-- An invocation for a record that is ready, overtaken by more edits than it has retries, delivers
and gives up. -/
theorem Visit.overtaken_of_edits {r : Reconciler} {key : RunKey} {s s' : Situation ι}
    {ending : Ending} (h : Visit r key s ending s') {run : Run} (hrun : s.run = some run)
    (hphase : Phase.ofRun run r.markers = .readyToNotify)
    (hresults : ∃ rs, run.readResults = .ok rs) (hf : s.failingFetches = 0)
    (hfailures : s.failures = []) (hpatches : s.failingPatches = [])
    (hr : r.maxConflictRetries.toNat < s.edits.length) :
    ∃ rs now, s' = (s.accepting (Payload.new key rs now)).overtaken
      (Write.setMarker.patch r.markers) (r.maxConflictRetries.toNat + 1) := by
  cases h with
  | unreachable e hpos => omega
  | rest action _ hrest =>
    rw [Situation.rest?_of_run hrun, hphase] at hrest
    cases hrest
  | unreadable run' e _ hrun' _ hresults' =>
    obtain rfl := Option.some.inj (hrun.symm.trans hrun')
    obtain ⟨rs, hrs⟩ := hresults
    rw [hrs] at hresults'
    cases hresults'
  | undelivered run' e _ _ _ hfailures' => exact absurd hfailures hfailures'
  | notified run' rs now ending s' _ hrun' _ _ hpatching =>
    cases hpatching with
    | failed e hl =>
      change _ ∈ s.failingPatches at hl
      rw [hpatches] at hl
      cases hl
    | exhausted ending hl hr' hending => exact ⟨rs, now, rfl⟩
    | applied hl hr' =>
      change s.edits.length ≤ _ at hr'
      omega
  | guarded run' write ending s' _ hrun' hwrite hphase' _ =>
    obtain rfl := Option.some.inj (hrun.symm.trans hrun')
    rw [hphase] at hphase'
    cases write with
    | setMarker => exact absurd rfl hwrite
    | addGuard => cases hphase'
    | release => cases hphase'
    | releaseAnomalous => cases hphase'

namespace World

/-- A run that is ready, and that others overtake more often than the reconciler retries, is
delivered by the next invocation and again before it settles. -/
theorem delivered_again {r : Reconciler} {key : RunKey} {w : World ι} (h : w.Benign r key) {run : Run}
    (hrun : (w.situation key).run = some run) (hphase : Phase.ofRun run r.markers = .readyToNotify)
    (hf : w.store.failingFetches = 0) (hfailures : w.sink.failures = [])
    (hpatches : w.store.failingPatches = [])
    (hr : r.maxConflictRetries.toNat < w.store.interference.length) :
    ∃ n, (∀ k < n, ¬(((w.reconcile r key false).2.visited r key k).reconcile r key false).1.Quiet) ∧
      (((w.reconcile r key false).2.visited r key n).reconcile r key false).1.Quiet ∧
      (w.situation key).deliveries key + 2
        ≤ (((w.reconcile r key false).2.visited r key n).situation key).deliveries key := by
  obtain ⟨hunmarked, hsucceeded⟩ := unmarked_of_ready hphase
  obtain ⟨hnext, hvisit⟩ := h.visit
  obtain ⟨rs, now, hs'⟩ := hvisit.overtaken_of_edits hrun hphase
    (h.readable run hrun hsucceeded) hf hfailures hpatches hr
  -- the record is still to be marked, so there is a further delivery before it settles
  have hconsumed := harmless_of_append h.harmless
    (List.take_append_drop (r.maxConflictRetries.toNat + 1) w.store.interference).symm
  have hrun' : ((w.reconcile r key false).2.situation key).run
      = some (run.edited (w.store.interference.take (r.maxConflictRetries.toNat + 1))) := by
    rw [hs']
    change (w.situation key).run.map _ = _
    rw [hrun]
    rfl
  have hdelivered : ((w.reconcile r key false).2.situation key).delivered
      = (w.situation key).delivered ++ [Payload.new key rs now] := by
    rw [hs']
    rfl
  have hcount : ((w.reconcile r key false).2.situation key).deliveries key
      = (w.situation key).deliveries key + 1 := by
    rw [Situation.deliveries_append hdelivered]
    simp [Payload.new]
  obtain ⟨n, -, hbefore, hquiet⟩ := exists_quiet hnext
  obtain ⟨action, -, hrest, -⟩ := quiet_stays (hnext.visited n) hquiet
  have hsettled := (traced_visited hnext hrun' n).settled hnext.harmless hrest
  have hless := hsettled.delivered ((completion_edited hconsumed run).trans hsucceeded)
    ((isMarked_edited hconsumed run).trans hunmarked)
  exact ⟨n, hbefore, hquiet, by omega⟩

/-- With the default settings, a run that others overtake four times is delivered twice, although
nothing has crashed. -/
theorem redelivered_without_crash :
    let r : Reconciler := ⟨"memory", .standard, 3, .ofSeconds 30, .ofSeconds 300⟩
    let key : RunKey := ⟨"ci", "prop-run"⟩
    let run := Fixture.build .standard key .succeeded
    let w : TracedWorld := (World.new default none).withStore (Store.empty.save key run)
    let incidents := List.replicate 4 (.concurrentEdit [.annotate "pipeline/edited" "1"]) ++ [.reconcile]
    let w' := w.rehearsed r key Fixture.results incidents
    (Settings.load fun _ => none).map (·.reconciler "memory") = .ok r ∧
      run.isGuarded .standard = true ∧ run.isMarked .standard = false ∧ run.succeeded = true ∧
      Incident.crashes incidents = 0 ∧
      ∃ n, (∀ k < n, ¬((w'.visited r key k).reconcile r key false).1.Quiet) ∧
        ((w'.visited r key n).reconcile r key false).1.Quiet ∧
        1 + Incident.crashes incidents
          < ((w'.visited r key n).situation key).deliveries key := by
  intro r key run w incidents w'
  have hguarded : run.isGuarded .standard = true := by cbv
  have hunmarked : run.isMarked .standard = false := by cbv
  have hphase : Phase.ofRun run r.markers = .readyToNotify := by cbv
  have hresults : run.readResults = .ok Fixture.results := by cbv
  have hrun : (w.situation key).run = some run := by
    change ((Store.empty.save key run).records.get? key).map (·.run) = some run
    rw [Store.get?_save, if_pos rfl, Option.map_some]
  let overtaken := w.rehearsed r key Fixture.results
    (List.replicate 4 (.concurrentEdit [.annotate "pipeline/edited" "1"]))
  have hbenign : overtaken.Benign r key :=
    { wire := rfl
      hooks := fun _ => rfl
      usable := rfl
      versioned := Store.versioned_save Store.versioned_empty key run
      harmless := by
        intro edits he
        obtain rfl : edits = [.annotate "pipeline/edited" "1"] := List.eq_of_mem_replicate (n := 4) he
        exact harmless_annotate (by decide) "1"
      readable := by
        intro run' hrun' _
        obtain rfl := Option.some.inj (hrun.symm.trans hrun')
        exact ⟨_, hresults⟩ }
  obtain ⟨n, hbefore, hquiet, htwice⟩ :=
    delivered_again hbenign hrun hphase rfl rfl rfl (by decide)
  exact ⟨rfl, hguarded, hunmarked, rfl, rfl, n, hbefore, hquiet, htwice⟩

end World

end RunHerald
