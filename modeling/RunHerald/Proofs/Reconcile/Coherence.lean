import RunHerald.Proofs.Reconcile.Interleaving

/-!
# Coherent systems

`Coherent` is the invariant of every history of a system. An invocation that waits has a `Founded`
reason for its next call:

* the results that it remembers have been accepted by the sink, from this invocation;
* the version of its snapshot is still assigned to the content of the snapshot;
* the snapshot is in the phase that calls for the delivery or the change.

Nothing that happens in between can spoil these, since the log only grows and an assigned version is
never taken away. So a patch that is applied, and hence meets the version of the snapshot, meets its
content too: `exists_application`.
-/

set_option autoImplicit false

namespace RunHerald

/-- The content of a snapshot is the one that its version stands for in a store. -/
def Store.Vouches (s : Store) (key : RunKey) (snapshot : Snapshot) : Prop :=
  ∃ n, snapshot.version = versionText n ∧ s.Assigned n key snapshot.run

/-- The results that an invocation remembers have been accepted by the sink. -/
def CallLog.Backs (log : CallLog) (id : Nat) (key : RunKey) (p : Progress) : Prop :=
  ∀ rs, p.delivered = some rs → log.Accepted id key rs

/-- An invocation that waits has a reason for its next call that is still good: what it remembers is
backed by the log, its snapshot is vouched for by the store, and the snapshot calls for the step. -/
inductive Founded (store : Store) (log : CallLog) (id : Nat) (inv : Invocation) : Stage → Prop
  | fetch (p : Progress) (hb : log.Backs id inv.key p) : Founded store log id inv (.fetch p)
  | deliver (p : Progress) (snapshot : Snapshot) (rs : List RunResult) (cancelled : Bool)
    (hb : log.Backs id inv.key p) (hv : store.Vouches inv.key snapshot)
    (hw : Announced inv.reconciler.markers p cancelled snapshot rs) :
    Founded store log id inv (.deliver p snapshot rs)
  | write (p : Progress) (snapshot : Snapshot) (w : Write) (cancelled : Bool)
    (hb : log.Backs id inv.key p) (hv : store.Vouches inv.key snapshot)
    (hw : Warranted inv.reconciler.markers p cancelled snapshot w) :
    Founded store log id inv (.write p snapshot w)

/-- Versions are distinct, and every invocation that waits has a reason for its next call. -/
structure System.Coherent (s : System) : Prop where
  versioned : s.store.Versioned
  founded : ∀ id inv stage, s.invocations[id]? = some inv → inv.stage = some stage →
    Founded s.store s.log id inv stage

/-- What was accepted stays so while the log grows. -/
theorem CallLog.Accepted.mono {log log' : CallLog} {id : Nat} {key : RunKey} {rs : List RunResult}
    (h : log.Accepted id key rs) (hlog : log <+: log') : log'.Accepted id key rs := by
  obtain ⟨payload, hmem, hkey, hrs⟩ := h
  exact ⟨payload, hlog.mem hmem, hkey, hrs⟩

/-- What backs an invocation stays so while the log grows. -/
theorem CallLog.Backs.mono {log log' : CallLog} {id : Nat} {key : RunKey} {p : Progress}
    (h : log.Backs id key p) (hlog : log <+: log') : log'.Backs id key p := by
  intro rs hrs
  exact (h rs hrs).mono hlog

/-- What a store vouches for stays so while it changes. -/
theorem Store.Vouches.mono {s s' : Store} {key : RunKey} {snapshot : Snapshot}
    (h : s.Vouches key snapshot) (hc : Store.Change s s') : s'.Vouches key snapshot := by
  obtain ⟨n, hn, ha⟩ := h
  exact ⟨n, hn, Store.assigned_change ha hc⟩

/-- A reason stays good while the store changes and the log grows. -/
theorem Founded.mono {store store' : Store} {log log' : CallLog} {id : Nat} {inv : Invocation}
    {stage : Stage} (h : Founded store log id inv stage) (hc : Store.Change store store')
    (hlog : log <+: log') : Founded store' log' id inv stage := by
  cases h with
  | fetch p hb => exact .fetch p (hb.mono hlog)
  | deliver p snapshot rs cancelled hb hv hw =>
    exact .deliver p snapshot rs cancelled (hb.mono hlog) (hv.mono hc) hw
  | write p snapshot w cancelled hb hv hw =>
    exact .write p snapshot w cancelled (hb.mono hlog) (hv.mono hc) hw

/-- The store vouches for what has just been read. -/
theorem Chance.vouches_of_read {c : Chance} {s : Store} (h : s.Versioned) {key : RunKey}
    {snapshot : Snapshot} (hr : c.read s key = .done (some snapshot)) : s.Vouches key snapshot := by
  unfold read at hr
  cases hc : c.failure with
  | some e => simp [hc] at hr
  | none =>
    have hread : (s.perform (.read key)).1 = .read (.ok (some snapshot)) := by
      simp only [hc] at hr
      change Store.Answer.read (s.fetch key) = _
      cases hf : s.fetch key with
      | error e => simp [hf, Attempt.ofExcept] at hr
      | ok found =>
        rw [hf] at hr
        rw [Attempt.done.inj hr]
    obtain ⟨r, -, rfl, -, ha⟩ := Store.assigned_of_read h hread
    exact ⟨r.version, rfl, ha⟩

/-- An invocation that has only begun remembers nothing. -/
theorem founded_started {store : Store} {log : CallLog} {id : Nat} {inv : Invocation}
    {cancelled : Bool} {stage : Stage} (h : Reconciler.resume .start cancelled = .wait stage) :
    Founded store log id inv stage := by
  cases cancelled <;> simp [Reconciler.resume, Progress.start, Move.fail] at h
  obtain rfl := h
  refine .fetch _ ?_
  intro rs hrs
  simp at hrs

/-- A read gives a reason for what it leads to. -/
theorem founded_fetched {s : System} (h : s.store.Versioned) {log : CallLog} {id : Nat}
    {inv : Invocation} {p : Progress} {c : Chance} {move : Move} {stage : Stage}
    (hb : log.Backs id inv.key p)
    (hm : (inv.reconciler.fetched p c.cancelled (c.read s.store inv.key)).2 = .wait stage) :
    Founded s.store log id (inv.moved move) stage := by
  obtain ⟨snapshot, hread, ⟨rs, rfl, hw⟩ | ⟨w, rfl, hw⟩⟩ := Reconciler.reason_of_fetched hm
  · exact .deliver p snapshot rs _ hb (c.vouches_of_read h hread) hw
  · exact .write p snapshot w _ hb (c.vouches_of_read h hread) hw

/-- A delivery that was accepted gives a reason for the marker. -/
theorem founded_delivered {store : Store} {log : CallLog} {id : Nat} {inv : Invocation}
    {p : Progress} {snapshot : Snapshot} {rs : List RunResult} {now : Timestamp}
    {delivery : Delivery} {move : Move} {stage : Stage}
    (h : Founded store log id inv (.deliver p snapshot rs))
    (hm : (inv.reconciler.delivered p snapshot (Payload.new inv.key rs now) delivery).2
      = .wait stage) :
    Founded store (log ++ [(id, .deliver (Payload.new inv.key rs now) delivery)]) id
      (inv.moved move) stage := by
  obtain ⟨rfl, rfl⟩ := Reconciler.reason_of_delivered hm
  cases h with
  | deliver _ _ _ cancelled hb hv hw =>
    refine .write _ snapshot .setMarker cancelled ?_ hv
      ⟨hw.phase, fun _ => ⟨rs, hw.results, rfl⟩, fun hset => absurd rfl hset⟩
    intro rs' hrs'
    obtain rfl := Option.some.inj hrs'
    exact ⟨_, List.mem_append_right _ (List.mem_singleton_self _), rfl, rfl⟩

/-- An invocation that reads again remembers what it remembered. -/
theorem founded_written {store : Store} {log : CallLog} {id : Nat} {inv : Invocation}
    {p : Progress} {cancelled : Bool} {snapshot : Snapshot} {w : Write}
    {answer : Attempt PatchResult} {move : Move} {stage : Stage}
    (h : Founded store log id inv (.write p snapshot w))
    (hm : (inv.reconciler.written p cancelled snapshot w answer).2 = .wait stage) :
    Founded store log id (inv.moved move) stage := by
  obtain ⟨rfl, -⟩ := Reconciler.wait_of_written hm
  cases h with
  | write _ _ _ _ hb => exact .fetch _ hb

namespace System

/-- A system is coherent at the start. -/
theorem coherent_initial : Coherent initial where
  versioned := Store.versioned_empty
  founded := by
    intro id inv stage hi
    simp [initial] at hi

/-- Every act keeps the reasons of all invocations good. -/
theorem Effect.founded {s s' : System} {act : Act} (h : s.Coherent) (he : Effect s act s')
    {id : Nat} {inv : Invocation} {stage : Stage} (hi : s'.invocations[id]? = some inv)
    (hs : inv.stage = some stage) : Founded s'.store s'.log id inv stage := by
  have hchange := he.change
  have hlog := he.log_grows
  -- an invocation that the act does not concern keeps its reason
  have hold : s.invocations[id]? = some inv → Founded s'.store s'.log id inv stage :=
    fun hi => (h.founded id inv stage hi hs).mono hchange hlog
  cases he with
  | started r key cancelled =>
    rw [List.getElem?_append] at hi
    split at hi
    · exact hold hi
    · rw [List.getElem?_singleton] at hi
      split at hi
      · obtain rfl := Option.some.inj hi
        exact founded_started (Move.stage?_eq_some_iff.1 hs)
      · simp at hi
  | idle => exact hold hi
  | uncrashed => exact hold hi
  | outside => exact hold hi
  | crashed id' inv' hi' =>
    rcases getElem?_set_cases hi with ⟨rfl, rfl⟩ | hi
    · simp at hs
    · exact hold hi
  | applied id' c inv' p snapshot w change r hi' =>
    rcases getElem?_set_cases hi with ⟨rfl, rfl⟩ | hi
    · simp at hs
    · exact hold hi
  | fetched id' c inv' p answer hi' hs' ha =>
    rcases getElem?_set_cases hi with ⟨rfl, rfl⟩ | hi
    · obtain rfl := ha
      have hfounded := (h.founded id inv' _ hi' hs').mono hchange hlog
      cases hfounded with
      | fetch _ hb => exact founded_fetched h.versioned hb (Move.stage?_eq_some_iff.1 hs)
    · exact hold hi
  | delivered id' c inv' p snapshot rs payload hi' hs' hp =>
    rcases getElem?_set_cases hi with ⟨rfl, rfl⟩ | hi
    · obtain rfl := hp
      exact founded_delivered (h.founded id inv' _ hi' hs') (Move.stage?_eq_some_iff.1 hs)
    · exact hold hi
  | unapplied id' c inv' p snapshot w change answer hi' hs' =>
    rcases getElem?_set_cases hi with ⟨rfl, rfl⟩ | hi
    · have hfounded := (h.founded id inv' _ hi' hs').mono hchange hlog
      exact founded_written hfounded (Move.stage?_eq_some_iff.1 hs)
    · exact hold hi

/-- Every act keeps a system coherent. -/
theorem coherent_step {s : System} (h : s.Coherent) (act : Act) : (s.step act).Coherent where
  versioned := Store.versioned_change h.versioned (step_effect s act).change
  founded := fun _ _ _ hi hs => (step_effect s act).founded h hi hs

/-- A system is coherent after any acts in any order. -/
theorem coherent_run {s : System} (h : s.Coherent) (acts : List Act) : (s.run acts).Coherent := by
  induction acts generalizing s with
  | nil => exact h
  | cons act acts ih => exact ih (coherent_step h act)

/-! ## Patches that are applied -/

/-- What is behind a patch that is applied: the invocation that makes it, the change that it stands
for, and the record that it meets. -/
structure Application (s s' : System) (id : Nat) (key : RunKey) (p : Patch) (inv : Invocation)
    (w : Write) (record : Record) : Prop where
  invocation : s.invocations[id]? = some inv
  own : inv.key = key
  change : p = w.patch inv.reconciler.markers
  meets : s.store.records.get? key = some record
  phase : Phase.ofRun record.run inv.reconciler.markers = w.phase
  results : w = .setMarker →
    ∃ rs, record.run.readResults = .ok rs ∧ s.log.Accepted id key rs
  leaves : s'.store = s.store.writeBack key (p.apply record.run)

/-- A patch that is applied meets the very record that its invocation has read, however long ago. -/
theorem Effect.application {s s' : System} {act : Act} (h : s.Coherent) (he : Effect s act s')
    {id : Nat} {key : RunKey} {p : Patch} {expected version : String}
    (hlog : s'.log = s.log ++ [(id, .patch key expected p (.done (.applied version)))]) :
    ∃ inv w record, Application s s' id key p inv w record := by
  cases he with
  | applied id' c inv pr snapshot w change r hi hs hc hp hr hv =>
    obtain ⟨rfl, hcall⟩ := Prod.mk.inj (List.singleton_inj.1 (List.append_cancel_left hlog))
    obtain ⟨rfl, rfl, rfl, -⟩ := Call.patch.inj hcall
    cases h.founded id' inv _ hi hs with
    | write _ _ _ cancelled hb hvouch hw =>
      obtain ⟨n, hn, ha⟩ := hvouch
      -- the version that the record has is the one that was read, so the content is too
      have hversion : r.version = n := versionText_injective (hv.trans hn)
      obtain ⟨-, hrun⟩ := ha.only hp _ r hr hversion
      refine ⟨inv, w, r, hi, rfl, hc.symm, hr, ?_, ?_, rfl⟩
      · rw [hrun]
        exact hw.phase
      · intro hset
        obtain ⟨rs, hrs, hd⟩ := hw.delivered hset
        rw [hrun]
        exact ⟨rs, hrs, hb rs hd⟩
  | fetched => simp at hlog
  | delivered => simp at hlog
  | unapplied id' c inv pr snapshot w change answer hi hs hc ha =>
    obtain ⟨-, hcall⟩ := Prod.mk.inj (List.singleton_inj.1 (List.append_cancel_left hlog))
    exact absurd (Call.patch.inj hcall).2.2.2 (ha version)
  | _ => simp at hlog

/-- There is an `Application` behind every patch that is applied in a coherent system. -/
theorem exists_application {s : System} (h : s.Coherent) {act : Act} {id : Nat} {key : RunKey}
    {p : Patch} (ha : s.Applies act id key p) :
    ∃ inv w record, Application s (s.step act) id key p inv w record := by
  obtain ⟨expected, version, hlog⟩ := ha
  exact (step_effect s act).application h hlog

end System

end RunHerald
