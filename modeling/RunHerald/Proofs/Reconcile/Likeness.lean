import RunHerald.Proofs.Reconcile.Course

/-!
# Two runs that are alike

Two environments are alike in a relation between their states if they answer alike in related
states, and leave related states behind. Then an invocation does the same in both: it ends alike and
leaves related states behind (`reconcile_alike`). By the step lemma `advance_alike`, this holds of
one call, and by induction on the way to the end, of all.
-/

set_option autoImplicit false

namespace RunHerald

variable {σ τ : Type}

/-- Two environments answer alike in related states, and leave related states behind. -/
structure Environment.Alike (env : Environment σ) (env' : Environment τ) (R : σ → τ → Prop) :
    Prop where
  cancelled : ∀ {s t}, R s t → env.cancelled s = env'.cancelled t
  now : ∀ {s t}, R s t → env.now s = env'.now t
  emit : ∀ e {s t}, R s t → R (env.emit e s) (env'.emit e t)
  fetch : ∀ key {s t}, R s t →
    (env.fetch key s).1 = (env'.fetch key t).1 ∧ R (env.fetch key s).2 (env'.fetch key t).2
  patch : ∀ key expected p {s t}, R s t →
    (env.patch key expected p s).1 = (env'.patch key expected p t).1 ∧
      R (env.patch key expected p s).2 (env'.patch key expected p t).2
  deliver : ∀ payload {s t}, R s t →
    (env.deliver payload s).1 = (env'.deliver payload t).1 ∧
      R (env.deliver payload s).2 (env'.deliver payload t).2

namespace Environment.Alike

variable {env : Environment σ} {env' : Environment τ} {R : σ → τ → Prop}

/-- Reports keep states alike. -/
theorem emitAll (h : env.Alike env' R) (events : List Event) {s : σ} {t : τ} (hR : R s t) :
    R (env.emitAll events s) (env'.emitAll events t) := by
  unfold Environment.emitAll
  induction events generalizing s t with
  | nil => exact hR
  | cons e events ih => exact ih (h.emit e hR)

/-- One call and what follows from its answer are the same in both. -/
theorem advance_alike (h : env.Alike env' R) (r : Reconciler) (key : RunKey) (stage : Stage) {s : σ}
    {t : τ} (hR : R s t) :
    (r.advance env key stage s).1 = (r.advance env' key stage t).1 ∧
      R (r.advance env key stage s).2 (r.advance env' key stage t).2 := by
  cases stage with
  | fetch p =>
    obtain ⟨hanswer, hnext⟩ := h.fetch key hR
    simp only [Reconciler.advance, hanswer, h.cancelled hnext]
    exact ⟨trivial, h.emitAll _ hnext⟩
  | deliver p snapshot rs =>
    obtain ⟨hanswer, hnext⟩ := h.deliver (Payload.new key rs (env'.now t)) hR
    simp only [Reconciler.advance, h.now hR, hanswer]
    exact ⟨trivial, h.emitAll _ hnext⟩
  | write p snapshot w =>
    obtain ⟨hanswer, hnext⟩ := h.patch key snapshot.version (w.patch r.markers) hR
    simp only [Reconciler.advance, hanswer, h.cancelled hnext]
    exact ⟨trivial, h.emitAll _ hnext⟩

/-- From any move on, an invocation ends alike in environments that are alike. -/
theorem drive_alike (h : env.Alike env' R) (r : Reconciler) (key : RunKey) (move : Move) (s : σ)
    (t : τ) (hR : R s t) :
    (r.drive env key move s).1 = (r.drive env' key move t).1 ∧
      R (r.drive env key move s).2 (r.drive env' key move t).2 := by
  induction move, s using Reconciler.drive_induction r env key generalizing t with
  | finish ending s =>
    rw [Reconciler.drive_finish, Reconciler.drive_finish]
    exact ⟨rfl, hR⟩
  | step stage s ih =>
    obtain ⟨hmove, hnext⟩ := h.advance_alike r key stage hR
    rw [Reconciler.drive_wait, Reconciler.drive_wait, ← hmove]
    exact ih _ hnext

/-- An invocation ends alike in both, and leaves related states behind. -/
theorem reconcile_alike (h : env.Alike env' R) (r : Reconciler) (key : RunKey) {s : σ} {t : τ}
    (hR : R s t) :
    (r.reconcile env key s).1 = (r.reconcile env' key t).1 ∧
      R (r.reconcile env key s).2 (r.reconcile env' key t).2 := by
  rw [Reconciler.reconcile_eq, Reconciler.reconcile_eq, h.cancelled hR]
  obtain ⟨hending, hnext⟩ :=
    h.drive_alike r key (Reconciler.resume .start (env'.cancelled t)) s t hR
  rw [hending]
  exact ⟨rfl, h.emitAll _ hnext⟩

end Environment.Alike

end RunHerald
