import RunHerald.Proofs.Run.DecisionTable
import RunHerald.Proofs.Store.History

/-!
# Finalizers protect a record

A record goes in two ways only (`Removal`): its deletion is requested while it has no finalizer, or
its deletion has been requested before and a patch leaves it without one. `removed_iff` says that of
one call, in both directions and of every store.

So a record that has a finalizer whenever it is written (`KeepsFinalizer`) is never removed,
whatever else is done to the store: `protected_after`. A request to delete it is only noted, and
noted once (`requestDelete_of_finalizer`), unless an abort has left the store unusable: such a store
refuses the request like any other call.
-/

set_option autoImplicit false

namespace RunHerald.Store

/-- The two ways in which the record of a key goes. -/
inductive Removal (s : Store) (key : RunKey) : Operation → Answer → Prop
  | deleted (now : Timestamp) (r : Record) (hr : s.records.get? key = some r)
    (hf : r.run.finalizers.isEmpty = true) :
    Removal s key (.requestDelete now key) (.deleted (.ok .deleted))
  | completed (expected version : String) (p : Patch) (r : Record)
    (hr : s.records.get? key = some r) (hv : versionText r.version = expected)
    (hd : r.run.isDeletionRequested = true) (hf : (p.apply r.run).finalizers.isEmpty = true) :
    Removal s key (.patch key expected p) (.patched (.ok (.applied version)))

/-- What a call makes of the record of a key. A patch makes it before the store looks whether the
record goes. -/
inductive Writes (s : Store) (key : RunKey) : Operation → Run → Prop
  | inserted (run : Run) (hk : run.key = key) : Writes s key (.insert run) run
  | reworked (f : Run → Run × Option String) (r : Record) (hr : s.records.get? key = some r) :
    Writes s key (.rework key f) (f r.run).1
  | patched (expected : String) (p : Patch) (r : Record) (hr : s.records.get? key = some r)
    (hv : versionText r.version = expected) : Writes s key (.patch key expected p) (p.apply r.run)

/-- A call leaves the record of a key a finalizer, if it writes that record. -/
def KeepsFinalizer (s : Store) (key : RunKey) (op : Operation) : Prop :=
  ∀ run, Writes s key op run → run.finalizers.isEmpty = false

/-- A key has a record with a finalizer. -/
def Protected (s : Store) (key : RunKey) : Prop :=
  ∃ r, s.records.get? key = some r ∧ r.run.finalizers.isEmpty = false

/-- A patch leaves a noted deletion alone. -/
theorem isDeletionRequested_apply (p : Patch) (run : Run) :
    (p.apply run).isDeletionRequested = run.isDeletionRequested := by
  cases p <;> rfl

/-! ## One call -/

/-- What becomes of the record of a key in a call: it is left as it was, written, noted for
deletion, or removed. -/
inductive Fate (s : Store) (key : RunKey) (op : Operation) (answer : Answer) (s' : Store) : Prop
  | untouched (h : s'.records.get? key = s.records.get? key)
  | written (run : Run) (version : Nat) (hw : Writes s key op run)
    (h : s'.records.get? key = some ⟨run, version⟩)
  | noted (now : Timestamp) (r : Record) (version : Nat)
    (hf : r.run.finalizers.isEmpty = false)
    (h : s'.records.get? key = some ⟨{ r.run with deletionRequestedAt := some now }, version⟩)
  | removed (hremoval : Removal s key op answer) (h : s'.records.get? key = none)

/-- What an operation does to a store decides the fate of every record. -/
theorem Effect.fate {s s' : Store} {op : Operation} {answer : Answer}
    (he : Effect s op answer s') (key : RunKey) : Fate s key op answer s' := by
  cases he with
  | inserted run =>
    by_cases hk : key = run.key
    · exact .written run _ (.inserted run hk.symm) (by rw [get?_save, if_pos hk])
    · exact .untouched (by rw [get?_save, if_neg hk])
  | reworked key' f r run _ hr hrun =>
    by_cases hk : key = key'
    · subst hk
      have hw : Writes s key (.rework key f) (f r.run).1 := .reworked f r hr
      rw [hrun] at hw
      exact .written run _ hw (by rw [get?_save, if_pos rfl])
    · exact .untouched (by rw [get?_save, if_neg hk])
  | reworkAborted key' f r run _ _ hr hrun =>
    by_cases hk : key = key'
    · subst hk
      have hw : Writes s key (.rework key f) (f r.run).1 := .reworked f r hr
      rw [hrun] at hw
      exact .written run _ hw (by rw [get?_spoil, if_pos rfl])
    · exact .untouched (by rw [get?_spoil, if_neg hk])
  | patched key' expected p r _ hr hv =>
    by_cases hk : key = key'
    · subst hk
      cases hspent : isSpent (p.apply r.run) with
      | false =>
        exact .written _ (s.lastVersion + 1) (.patched expected p r hr hv)
          (by rw [get?_writeBack, if_pos rfl, hspent]; rfl)
      | true =>
        have hboth := Bool.and_eq_true_iff.1 hspent
        rw [isDeletionRequested_apply] at hboth
        exact .removed (.completed expected _ p r hr hv hboth.1 hboth.2)
          (by rw [get?_writeBack, if_pos rfl, hspent]; rfl)
    · exact .untouched (by rw [get?_writeBack, if_neg hk])
  | deleted now key' r _ hr hf =>
    by_cases hk : key = key'
    · subst hk
      exact .removed (.deleted now r hr hf) (by rw [get?_remove, if_pos rfl])
    · exact .untouched (by rw [get?_remove, if_neg hk])
  | deleteRequested now key' r _ _ hf =>
    by_cases hk : key = key'
    · exact .noted now r _ hf (by rw [get?_save, if_pos hk])
    · exact .untouched (by rw [get?_save, if_neg hk])
  | _ => exact .untouched rfl

/-- What becomes of the record of a key in a call that is performed. -/
theorem fate_perform (s : Store) (op : Operation) (key : RunKey) :
    Fate s key op (s.perform op).1 (s.perform op).2 :=
  (perform_effect s op).fate key

/-- After a removal the record is gone. -/
theorem Effect.get?_of_removal {s s' : Store} {op : Operation} {answer : Answer} {key : RunKey}
    (he : Effect s op answer s') (h : Removal s key op answer) : s'.records.get? key = none := by
  cases h with
  | deleted now r =>
    cases he with
    | refused _ _ _ ha => simp [Operation.refusal] at ha
    | deleted => rw [get?_remove, if_pos rfl]
  | completed expected version p r hr hv hd hf =>
    cases he with
    | refused _ _ _ ha => simp [Operation.refusal] at ha
    | patched _ _ _ r' _ hr' =>
      obtain rfl := Option.some.inj (hr.symm.trans hr')
      have hspent : isSpent (p.apply r.run) = true := by
        rw [isSpent, isDeletionRequested_apply, hd, hf]
        rfl
      rw [get?_writeBack, if_pos rfl, hspent]
      rfl

/-- A call removes the record of a key if and only if it does so in one of the two ways. -/
theorem removed_iff {s : Store} {key : RunKey} {r : Record} (hr : s.records.get? key = some r)
    (op : Operation) :
    (s.perform op).2.records.get? key = none ↔ Removal s key op (s.perform op).1 := by
  refine ⟨?_, (perform_effect s op).get?_of_removal⟩
  intro hgone
  cases fate_perform s op key with
  | untouched h =>
    rw [h, hr] at hgone
    cases hgone
  | written run version hw h =>
    rw [h] at hgone
    cases hgone
  | noted now r' version hf h =>
    rw [h] at hgone
    cases hgone
  | removed hremoval => exact hremoval

/-- The request to delete a record with a finalizer is noted, and noted once. -/
theorem requestDelete_of_finalizer {s : Store} (hp : s.poisoned = false) {key : RunKey} {r : Record}
    (hr : s.records.get? key = some r) (hf : r.run.finalizers.isEmpty = false) (now : Timestamp) :
    s.perform (.requestDelete now key) = (.deleted (.ok .pending),
      if r.run.isDeletionRequested then s
      else s.save key { r.run with deletionRequestedAt := some now }) := by
  cases hd : r.run.isDeletionRequested <;> simp [perform, requestDelete, hp, hr, hf, hd]

/-! ## Any number of calls -/

/-- A record with a finalizer is there after a call that leaves it one, and has one. -/
theorem protected_perform {s : Store} {key : RunKey} (h : s.Protected key) {op : Operation}
    (hop : s.KeepsFinalizer key op) : (s.perform op).2.Protected key := by
  obtain ⟨r, hr, hf⟩ := h
  cases fate_perform s op key with
  | untouched hget => exact ⟨r, hget.trans hr, hf⟩
  | written run version hw hget => exact ⟨_, hget, hop run hw⟩
  | noted now r' version hf' hget => exact ⟨_, hget, hf'⟩
  | removed hremoval =>
    -- both ways need a record without a finalizer, before the call or once it is written
    generalize (s.perform op).1 = answer at hremoval
    cases hremoval with
    | deleted now r' hr' hempty =>
      obtain rfl := Option.some.inj (hr.symm.trans hr')
      rw [hf] at hempty
      cases hempty
    | completed expected version p r' hr' hv _ hempty =>
      rw [hop _ (.patched expected p r' hr' hv)] at hempty
      cases hempty

/-- A record that keeps a finalizer through every call is there after all of them. -/
theorem protected_after {s : Store} {key : RunKey} (h : s.Protected key) {ops : List Operation}
    (hops : ∀ before op rest, ops = before ++ op :: rest →
      (s.after before).KeepsFinalizer key op) : (s.after ops).Protected key := by
  induction ops generalizing s with
  | nil => exact h
  | cons op ops ih =>
    refine ih (protected_perform h (hops [] op ops rfl)) ?_
    rintro before op' rest rfl
    exact hops (op :: before) op' rest rfl

/-- A record goes in two ways only, and one that keeps a finalizer never does. The request to delete
it is pending and notes the time, unless that has been noted before; a store that an abort has left
unusable refuses the request. -/
theorem finalizers_protect_record (s : Store) (key : RunKey) (r : Record)
    (hr : s.records.get? key = some r) :
    (∀ op, (s.perform op).2.records.get? key = none ↔ Removal s key op (s.perform op).1) ∧
    (r.run.finalizers.isEmpty = false →
      (∀ now, s.poisoned = false →
        (s.perform (.requestDelete now key)).1 = .deleted (.ok .pending) ∧
        (r.run.isDeletionRequested = true → (s.perform (.requestDelete now key)).2 = s) ∧
        (r.run.isDeletionRequested = false →
          ∀ k, (s.perform (.requestDelete now key)).2.records.get? k =
            if k = key then
              some ⟨{ r.run with deletionRequestedAt := some now }, s.lastVersion + 1⟩
            else s.records.get? k)) ∧
      (∀ now, s.poisoned = true →
        s.perform (.requestDelete now key) = (.deleted (.error poisonError), s)) ∧
      ∀ ops : List Operation,
        (∀ before op rest, ops = before ++ op :: rest → (s.after before).KeepsFinalizer key op) →
        ∀ mid, mid <+: ops → (s.after mid).Protected key) := by
  refine ⟨removed_iff hr, fun hf => ⟨?_, ?_, ?_⟩⟩
  · intro now hp
    rw [requestDelete_of_finalizer hp hr hf now]
    refine ⟨rfl, fun hd => if_pos hd, ?_⟩
    intro hd k
    simp only [hd, Bool.false_eq_true, if_false]
    exact get?_save s key _ k
  · intro now hp
    exact perform_of_poisoned hp _
  · rintro ops hops mid ⟨tail, rfl⟩
    refine protected_after ⟨r, hr, hf⟩ ?_
    rintro before op rest rfl
    exact hops before op (rest ++ tail) (by simp)

/-- A guarded record whose deletion has been requested. -/
def pendingGuarded : Store :=
  empty.after [.insert ((Run.new ⟨"ci", "r1"⟩).withFinalizer "notification.guard"),
    .requestDelete default ⟨"ci", "r1"⟩]

/-- A second request changes nothing, an annotation leaves the record where it is, and the patch
that takes the guard away removes it. -/
theorem finalizers_protect_pending_record :
    ∃ r, pendingGuarded.records.get? ⟨"ci", "r1"⟩ = some r ∧
      r.run.finalizers.isEmpty = false ∧ pendingGuarded.poisoned = false ∧
      r.run.isDeletionRequested = true ∧
      pendingGuarded.perform (.requestDelete default ⟨"ci", "r1"⟩) =
        (.deleted (.ok .pending), pendingGuarded) ∧
      pendingGuarded.KeepsFinalizer ⟨"ci", "r1"⟩
        (.patch ⟨"ci", "r1"⟩ "2" (.annotate "notification.sent" "true")) ∧
      (pendingGuarded.after
        [.patch ⟨"ci", "r1"⟩ "2" (.annotate "notification.sent" "true")]).Protected ⟨"ci", "r1"⟩ ∧
      (pendingGuarded.perform (.patch ⟨"ci", "r1"⟩ "2"
        (.removeFinalizer "notification.guard"))).2.records.get? ⟨"ci", "r1"⟩ = none := by
  have hfound : ∃ r, pendingGuarded.records.get? ⟨"ci", "r1"⟩ = some r ∧
      r.run.finalizers.isEmpty = false ∧ r.run.isDeletionRequested = true ∧
      versionText r.version = "2" ∧
      ((Patch.removeFinalizer "notification.guard").apply r.run).finalizers.isEmpty = true :=
    ⟨_, rfl, rfl, rfl, by cbv, by cbv⟩
  obtain ⟨r, hr, hf, hd, hv, htaken⟩ := hfound
  obtain ⟨hremoved, hprotected⟩ := finalizers_protect_record pendingGuarded ⟨"ci", "r1"⟩ r hr
  obtain ⟨hrequest, -, hkept⟩ := hprotected hf
  obtain ⟨hpending, hunchanged, -⟩ := hrequest default rfl
  have hannotated : pendingGuarded.KeepsFinalizer ⟨"ci", "r1"⟩
      (.patch ⟨"ci", "r1"⟩ "2" (.annotate "notification.sent" "true")) := by
    intro run hw
    cases hw with
    | patched _ _ r' hr' =>
      obtain rfl := Option.some.inj (hr.symm.trans hr')
      exact hf
  refine ⟨r, hr, hf, rfl, hd, Prod.ext hpending (hunchanged hd), hannotated, ?_, ?_⟩
  · refine hkept [_] ?_ _ (List.prefix_refl _)
    intro before op rest heq
    obtain ⟨rfl, rfl, -⟩ : before = [] ∧ op = _ ∧ rest = [] := by
      simpa [List.singleton_eq_append_iff] using heq
    exact hannotated
  · have happlied := patch_of_get? (s := pendingGuarded) rfl hr (.removeFinalizer "notification.guard")
    rw [Record.snapshot, hv] at happlied
    rw [hremoved]
    simp only [perform, happlied]
    exact .completed _ _ _ r hr hv hd htaken

/-- A guarded record whose rework aborts. -/
def abortedRework : List Operation :=
  [.insert ((Run.new ⟨"ci", "r1"⟩).withFinalizer "notification.guard"),
    .rework ⟨"ci", "r1"⟩ fun run => Edit.applyAll run [.abort "boom"]]

/-- So the request to delete a record with a finalizer is not pending in every store that calls can
lead to. -/
theorem request_not_pending_after_abort :
    ¬∀ (ops : List Operation) (now : Timestamp) (key : RunKey) (r : Record),
      (empty.after ops).records.get? key = some r → r.run.finalizers.isEmpty = false →
      ((empty.after ops).perform (.requestDelete now key)).1 = .deleted (.ok .pending) := by
  intro h
  have hanswer := h abortedRework default ⟨"ci", "r1"⟩ _ rfl rfl
  rw [perform_of_poisoned rfl] at hanswer
  cases hanswer

end RunHerald.Store
