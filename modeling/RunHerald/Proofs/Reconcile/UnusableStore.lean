import RunHerald.Proofs.Reconcile.Course
import RunHerald.Proofs.Store.Atomicity

/-!
# What an aborted rework leaves behind

An invocation whose read fails ends there, with the failure as its error, and tries no delivery. The
only invocation that ends otherwise is one that is cancelled before it begins: it does not even
read.

So an aborted rework stops everything that goes by its store, at once and for good:
`aborted_rework_is_never_seen`.
-/

set_option autoImplicit false

namespace RunHerald

variable {σ : Type}

/-- An environment whose reads and changes are calls of a store. -/
def Environment.onStore (env : Environment σ) : Environment (Store × σ) where
  cancelled s := env.cancelled s.2
  now s := env.now s.2
  emit e s := (s.1, env.emit e s.2)
  fetch key s := (.ofExcept (s.1.fetch key), s)
  patch key expected p s :=
    let (result, store) := s.1.patch key expected p
    (.ofExcept result, store, s.2)
  deliver payload s :=
    let (answer, t) := env.deliver payload s.2
    (answer, s.1, t)

/-- Reports leave the store alone. -/
@[simp] theorem Environment.emitAll_onStore (env : Environment σ) (events : List Event)
    (s : Store × σ) : env.onStore.emitAll events s = (s.1, env.emitAll events s.2) := by
  unfold emitAll
  induction events generalizing s with
  | nil => rfl
  | cons e events ih => exact ih _

namespace Reconciler

/-- An invocation that is cancelled before it begins makes no call. -/
theorem reconcile_of_cancelled (r : Reconciler) (env : Environment σ)
    {cancelled : σ × List Call → Bool} (key : RunKey) {s : σ} (hc : cancelled (s, []) = true) :
    r.reconcile (env.traced cancelled) key (s, []) =
      (.returned (.error .cancelled),
        env.emitAll (closing (.returned (.error .cancelled))) s, []) := by
  have hdrive : r.drive (env.traced cancelled) key (resume .start (cancelled (s, []))) (s, []) =
      (.returned (.error .cancelled), s, []) := by
    rw [hc]
    exact drive_finish _ _ _ _ _
  rw [reconcile_of_drive hdrive, Environment.emitAll_traced]

/-- An invocation whose first read fails makes no other call. -/
theorem reconcile_of_failed_read (r : Reconciler) {env : Environment σ}
    {cancelled : σ × List Call → Bool} {key : RunKey} {s t : σ} {e : ServiceError}
    (hread : env.fetch key s = (.failed e, t)) (hc : cancelled (s, []) = false) :
    r.reconcile (env.traced cancelled) key (s, []) =
      (.returned (.error (.store e)),
        env.emitAll (closing (.returned (.error (.store e)))) t, [.fetch key (.failed e)]) := by
  have hdrive : r.drive (env.traced cancelled) key (resume .start (cancelled (s, []))) (s, []) =
      (.returned (.error (.store e)), t, [.fetch key (.failed e)]) := by
    rw [hc]
    change r.drive (env.traced cancelled) key (.wait (.fetch .start)) (s, []) = _
    rw [drive_wait, advance_traced_fetch]
    simp only [hread, fetched, Move.fail, Environment.emitAll, List.foldl_nil, drive_finish,
      List.nil_append]
  rw [reconcile_of_drive hdrive, Environment.emitAll_traced]

/-- What an invocation on a store meets that is unusable: how it ends, the calls that it makes, and
the store that it leaves. -/
structure MeetsUnusable (r : Reconciler) (env : Environment σ)
    (cancelled : (Store × σ) × List Call → Bool) (key : RunKey) (store : Store) (s : σ) : Prop where
  ending : (r.reconcile (env.onStore.traced cancelled) key ((store, s), [])).1 =
    .returned (.error (if cancelled ((store, s), []) then .cancelled else .store Store.poisonError))
  calls : (r.reconcile (env.onStore.traced cancelled) key ((store, s), [])).2.2 =
    if cancelled ((store, s), []) then [] else [.fetch key (.failed Store.poisonError)]
  store : (r.reconcile (env.onStore.traced cancelled) key ((store, s), [])).2.1.1 = store

/-- An invocation on an unusable store fails with the error of the store unless it is cancelled
before it begins, tries no delivery and changes nothing. -/
theorem meetsUnusable_of_poisoned (r : Reconciler) (env : Environment σ)
    (cancelled : (Store × σ) × List Call → Bool) (key : RunKey) {store : Store} (s : σ)
    (hp : store.poisoned = true) : r.MeetsUnusable env cancelled key store s := by
  cases hc : cancelled ((store, s), []) with
  | true =>
    have hrun := r.reconcile_of_cancelled env.onStore key hc
    constructor <;> rw [hrun] <;> simp [hc]
  | false =>
    have hread : env.onStore.fetch key (store, s) = (.failed Store.poisonError, store, s) := by
      simp [Environment.onStore, Store.fetch, hp, Attempt.ofExcept]
    have hrun := r.reconcile_of_failed_read hread hc
    constructor <;> rw [hrun] <;> simp [hc]

end Reconciler

namespace Store

/-- The calls of a store are answered as if an aborted rework had changed nothing. From the abort on
every call is refused without effect and shows no version, and every invocation ends without trying
a delivery: with the error of the store, unless it is cancelled before it begins. Edits of a record
abort in this way after any of them, while a rework of an absent record is never tried. -/
theorem aborted_rework_is_never_seen (before : List Operation) (key : RunKey) :
    (∀ ops, empty.history ops = empty.wholeHistory ops) ∧
    (∀ f message rest,
      ((empty.after before).perform (.rework key f)).1 = .reworked (.aborted message) →
      let broken := empty.after (before ++ .rework key f :: rest)
      (∀ op, broken.perform op = (op.refusal, broken) ∧ op.refusal.shown = []) ∧
      empty.history (before ++ .rework key f :: rest) =
        empty.history before ++ (.rework key f, .reworked (.aborted message)) ::
          rest.map (fun op => (op, op.refusal)) ∧
      ∀ {σ : Type} (r : Reconciler) (env : Environment σ)
        (cancelled : (Store × σ) × List Call → Bool) (k : RunKey) (s : σ),
        r.MeetsUnusable env cancelled k broken s) ∧
    (∀ r edits message more, (empty.after before).poisoned = false →
      (empty.after before).records.get? key = some r → (Edit.applyAll r.run edits).2 = none →
      (empty.after before).perform (.update key (edits ++ .abort message :: more)) =
        (.reworked (.aborted message),
          (empty.after before).spoil key r (Edit.applyAll r.run edits).1)) ∧
    (∀ f, (empty.after before).poisoned = false →
      (empty.after before).records.get? key = none →
      (empty.after before).perform (.rework key f) =
        (.reworked (.done none), empty.after before)) := by
  refine ⟨history_eq_wholeHistory empty, ?_, ?_, ?_⟩
  · intro f message rest habort broken
    have hspoiled := poisoned_of_aborted habort
    have hbroken : broken.poisoned = true := by
      change (empty.after (before ++ .rework key f :: rest)).poisoned = true
      rw [after_append, after_cons]
      exact poisoned_after hspoiled rest
    refine ⟨fun op => ⟨perform_of_poisoned hbroken op, op.shown_refusal⟩, ?_, ?_⟩
    · rw [history_append, history, habort, history_of_poisoned hspoiled]
    · intro σ r env cancelled k s
      exact r.meetsUnusable_of_poisoned env cancelled k s hbroken
  · intro r edits message more hp hr hdone
    exact perform_update_aborted hp hr hdone message more
  · intro f hp hr
    exact perform_rework_absent hp hr f

/-- A list of edits aborts after the first one: the record has that edit and its old version, and
neither a read, an insertion nor an invocation gets to see it. The same list for an absent record
changes nothing. -/
theorem aborted_rework_is_never_seen_after_one_edit :
    let a : RunKey := ⟨"ci", "r1"⟩
    let edits : List Edit := [.annotate "step" "1", .abort "boom", .annotate "step" "2"]
    let before : List Operation := [.insert (Run.new a)]
    let rest : List Operation := [.read a, .insert (Run.new ⟨"ci", "r2"⟩)]
    let broken := empty.after (before ++ .update a edits :: rest)
    let r : Reconciler := ⟨"sink", .standard, 3, default, default⟩
    let env : Environment Unit :=
      { cancelled := fun _ => false
        now := fun _ => default
        emit := fun _ u => u
        fetch := fun _ u => (.done none, u)
        patch := fun _ _ _ u => (.done .notFound, u)
        deliver := fun _ u => (.result (.ok ()), u) }
    (empty.after before).perform (.update a edits) =
      (.reworked (.aborted "boom"),
        (empty.after before).spoil a ⟨Run.new a, 1⟩ ((Run.new a).annotated "step" "1")) ∧
    empty.history (before ++ .update a edits :: rest) =
      [(.insert (Run.new a), .inserted (.ok "1")),
        (.update a edits, .reworked (.aborted "boom")),
        (.read a, .read (.error poisonError)),
        (.insert (Run.new ⟨"ci", "r2"⟩), .inserted (.error poisonError))] ∧
    (r.reconcile (env.onStore.traced fun _ => false) a ((broken, ()), [])).1 =
      .returned (.error (.store poisonError)) ∧
    (r.reconcile (env.onStore.traced fun _ => false) a ((broken, ()), [])).2.2 =
      [.fetch a (.failed poisonError)] ∧
    (empty.after before).perform (.update ⟨"ci", "r2"⟩ edits) =
      (.reworked (.done none), empty.after before) := by
  intro a edits before rest broken r env
  obtain ⟨-, haborted, hedits, -⟩ := aborted_rework_is_never_seen before a
  obtain ⟨-, -, -, habsent⟩ := aborted_rework_is_never_seen before ⟨"ci", "r2"⟩
  have hhalf := hedits ⟨Run.new a, 1⟩ [.annotate "step" "1"] "boom" [.annotate "step" "2"] rfl
    (by cbv) rfl
  obtain ⟨-, hhistory, hinvocation⟩ :=
    haborted (fun run => Edit.applyAll run edits) "boom" rest (congrArg Prod.fst hhalf)
  have hmeets := hinvocation r env (fun _ => false) a ()
  exact ⟨hhalf, hhistory, hmeets.ending, hmeets.calls,
    habsent (fun run => Edit.applyAll run edits) rfl (by cbv)⟩

/-- An invocation that is cancelled before it begins does not report that the store is unusable. -/
theorem unusable_store_is_not_met_when_cancelled :
    ¬ ∀ (before : List Operation) (key : RunKey) (edits : List Edit) (message : String)
        (r : Reconciler) (env : Environment Unit)
        (cancelled : (Store × Unit) × List Call → Bool),
      ((empty.after before).perform (.update key edits)).1 = .reworked (.aborted message) →
      ∃ e, (r.reconcile (env.onStore.traced cancelled) key
        ((empty.after (before ++ [.update key edits]), ()), [])).1 =
          .returned (.error (.store e)) := by
  intro hclaim
  let a : RunKey := ⟨"ci", "r1"⟩
  let r : Reconciler := ⟨"sink", .standard, 3, default, default⟩
  let env : Environment Unit :=
    { cancelled := fun _ => false
      now := fun _ => default
      emit := fun _ u => u
      fetch := fun _ u => (.done none, u)
      patch := fun _ _ _ u => (.done .notFound, u)
      deliver := fun _ u => (.result (.ok ()), u) }
  obtain ⟨e, he⟩ := hclaim [.insert (Run.new a)] a [.abort "boom"] "boom" r env (fun _ => true)
    (by cbv)
  rw [r.reconcile_of_cancelled env.onStore a rfl] at he
  cases he

end Store

end RunHerald
