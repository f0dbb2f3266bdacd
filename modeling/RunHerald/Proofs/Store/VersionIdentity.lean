import RunHerald.Proofs.Store.History

/-!
# A version stands for one content of one record

What a version is good for, over any calls of a store that starts empty, deletions and new records
under old keys included:

* Two snapshots with one version show the same content under the same key, whenever they were taken.
* The version that a write gives is greater than every version given or shown before, for any key.
* A patch whose expected version was read from a snapshot is applied only to the record of that
  snapshot, and only if that record has stayed as it was, version included, at every moment since.
* A patch that is not applied leaves the store as it was.

Versions are compared as the numbers that their texts are read back to. The counter is a natural
number; `lastVersion_le_writes` bounds it by the number of writing calls, so 64 bits are enough for
fewer than `2 ^ 64` of those.
-/

set_option autoImplicit false

namespace RunHerald.Store

/-- The versions that an answer gives or shows. -/
def Answer.shown : Answer → List String
  | .inserted (.ok v) => [v]
  | .reworked (.done (some v)) => [v]
  | .patched (.ok (.applied v)) => [v]
  | .patched (.ok (.conflict v)) => [v]
  | .read (.ok (some snap)) => [snap.version]
  | _ => []

/-- The versions that an answer gives to a record just written. -/
def Answer.given : Answer → List String
  | .inserted (.ok v) => [v]
  | .reworked (.done (some v)) => [v]
  | .patched (.ok (.applied v)) => [v]
  | _ => []

/-- Whether a call may write. -/
def Operation.mayWrite : Operation → Bool
  | .read _ => false
  | .count => false
  | _ => true

/-! ## The counter -/

/-- A call raises the counter by at most one, and only if it may write. -/
theorem Effect.lastVersion_le {s s' : Store} {op : Operation} {answer : Answer}
    (he : Effect s op answer s') :
    s'.lastVersion ≤ s.lastVersion + (if op.mayWrite then 1 else 0) := by
  cases he <;> simp [Operation.mayWrite]

/-- The counter is at most the number of calls that may have written. -/
theorem lastVersion_le_writes (s : Store) (ops : List Operation) :
    (s.after ops).lastVersion ≤ s.lastVersion + ops.countP (·.mayWrite) := by
  induction ops generalizing s with
  | nil => exact le_rfl
  | cons op ops ih =>
    have hstep := (perform_effect s op).lastVersion_le
    have hrest := ih (s.perform op).2
    rw [List.countP_cons, after_cons]
    omega

/-- A version that is shown is one that the counter has reached. -/
theorem Effect.shown_le {s s' : Store} {op : Operation} {answer : Answer} (h : Versioned s)
    (he : Effect s op answer s') {v : String} (hv : v ∈ answer.shown) :
    ∃ n, n ≤ s'.lastVersion ∧ v = versionText n := by
  cases he with
  | refused op _ hp ha => cases op <;> simp [← ha, Operation.refusal, Answer.shown] at hv
  | inserted run => exact ⟨s.lastVersion + 1, by simp, by simpa [Answer.shown] using hv⟩
  | reworked key f r run => exact ⟨s.lastVersion + 1, by simp, by simpa [Answer.shown] using hv⟩
  | patchConflict key expected p r hp hr =>
    exact ⟨r.version, h.bounded key r hr, by simpa [Answer.shown] using hv⟩
  | patched key expected p r =>
    exact ⟨s.lastVersion + 1, by simp, by simpa [Answer.shown] using hv⟩
  | read key found hp hf =>
    obtain rfl := hf
    cases hr : s.records.get? key with
    | none => simp [hr, Answer.shown] at hv
    | some r =>
      exact ⟨r.version, h.bounded key r hr, by simpa [hr, Answer.shown, Record.snapshot] using hv⟩
  | _ => simp [Answer.shown] at hv

/-- A version that is given is the next one. -/
theorem Effect.given_eq {s s' : Store} {op : Operation} {answer : Answer}
    (he : Effect s op answer s') {v : String} (hv : v ∈ answer.given) :
    v = versionText (s.lastVersion + 1) := by
  cases he with
  | refused op _ hp ha => cases op <;> simp [← ha, Operation.refusal, Answer.given] at hv
  | inserted run => simpa [Answer.given] using hv
  | reworked key f r run => simpa [Answer.given] using hv
  | patched key expected p r => simpa [Answer.given] using hv
  | _ => simp [Answer.given] at hv

/-! ## Pairs of calls in one history -/

/-- An entry of a history is a call, made on the store that the calls before it left. -/
theorem mem_history {s : Store} {ops : List Operation} {e : Operation × Answer}
    (h : e ∈ s.history ops) : ∃ before op, e = (op, ((s.after before).perform op).1) := by
  induction ops generalizing s with
  | nil => simp [history] at h
  | cons op ops ih =>
    rcases List.mem_cons.1 h with rfl | h
    · exact ⟨[], op, rfl⟩
    · obtain ⟨before, op', rfl⟩ := ih h
      exact ⟨op :: before, op', rfl⟩

/-- What holds of any call and any later one holds of any two entries of a history in their order.
-/
theorem pairwise_history {R : Operation × Answer → Operation × Answer → Prop}
    (hR : ∀ (s : Store) (op : Operation) (between : List Operation) (op' : Operation),
      Versioned s → R (op, (s.perform op).1)
        (op', (((s.perform op).2.after between).perform op').1))
    {s : Store} (h : Versioned s) (ops : List Operation) : (s.history ops).Pairwise R := by
  induction ops generalizing s with
  | nil => exact .nil
  | cons op ops ih =>
    refine List.pairwise_cons.2 ⟨?_, ih (versioned_perform h op)⟩
    intro e he
    obtain ⟨between, op', rfl⟩ := mem_history he
    exact hR s op between op' h

/-- A later write gives a greater version than any that was shown before. -/
theorem shown_lt_given {s : Store} (h : Versioned s) (op : Operation) (between : List Operation)
    (op' : Operation) {v v' : String} (hv : v ∈ (s.perform op).1.shown)
    (hv' : v' ∈ (((s.perform op).2.after between).perform op').1.given) :
    ∃ m n, v.toNat? = some m ∧ v'.toNat? = some n ∧ m < n := by
  obtain ⟨m, hm, rfl⟩ := (perform_effect s op).shown_le h hv
  obtain rfl := (perform_effect _ op').given_eq hv'
  have hle := lastVersion_after (s.perform op).2 between
  exact ⟨m, _, toNat?_versionText m, toNat?_versionText _, by omega⟩

/-! ## Snapshots -/

/-- If two entries of a history show snapshots with one version, then they show the same content
under the same key. -/
def Agree (e e' : Operation × Answer) : Prop :=
  ∀ key snap key' snap', e = (.read key, .read (.ok (some snap))) →
    e' = (.read key', .read (.ok (some snap'))) → snap.version = snap'.version →
    key = key' ∧ snap.run = snap'.run

/-- Agreement goes both ways. -/
theorem Agree.symm {e e' : Operation × Answer} (h : Agree e e') : Agree e' e := by
  intro key snap key' snap' he he' hv
  obtain ⟨hkey, hrun⟩ := h key' snap' key snap he' he hv.symm
  exact ⟨hkey.symm, hrun.symm⟩

instance : Std.Symm Agree := ⟨fun _ _ => Agree.symm⟩

/-- An answer agrees with itself. -/
theorem agree_self (e : Operation × Answer) : Agree e e := by
  rintro key snap key' snap' rfl he' -
  obtain ⟨hop, hsnap⟩ := Prod.mk.inj he'
  refine ⟨Operation.read.inj hop, ?_⟩
  rw [Option.some.inj (Except.ok.inj (Answer.read.inj hsnap))]

/-- Two snapshots with one version show the same content under the same key. -/
theorem same_record_of_reads {s : Store} (h : Versioned s) (between : List Operation)
    {key key' : RunKey} {snap snap' : Snapshot}
    (hs : (s.perform (.read key)).1 = .read (.ok (some snap)))
    (hs' : ((s.after between).perform (.read key')).1 = .read (.ok (some snap')))
    (hv : snap.version = snap'.version) : key = key' ∧ snap.run = snap'.run := by
  obtain ⟨r, -, rfl, -, ha⟩ := assigned_of_read h hs
  obtain ⟨r', hr', rfl, hp', -⟩ := assigned_of_read (versioned_after h between) hs'
  have hv : r'.version = r.version := versionText_injective hv.symm
  obtain ⟨hkey, hrun⟩ := (assigned_after ha between).only hp' key' r' hr' hv
  exact ⟨hkey.symm, hrun.symm⟩

/-- Any two snapshots of one history agree. -/
theorem agree_of_mem_history {s : Store} (h : Versioned s) {ops : List Operation}
    {e e' : Operation × Answer} (he : e ∈ s.history ops) (he' : e' ∈ s.history ops) :
    Agree e e' := by
  have hpairs : (s.history ops).Pairwise Agree := by
    refine pairwise_history ?_ h ops
    intro s op between op' h key snap key' snap' he he' hv
    obtain ⟨rfl, hs⟩ := Prod.mk.inj he
    obtain ⟨rfl, hs'⟩ := Prod.mk.inj he'
    exact same_record_of_reads h between hs hs' hv
  exact hpairs.forall_of_forall (fun e _ => agree_self e) he he'

/-! ## Patches -/

/-- A patch that is applied meets a record with the expected version. -/
theorem record_of_patch {s : Store} {key : RunKey} {expected v : String} {p : Patch}
    (h : (s.perform (.patch key expected p)).1 = .patched (.ok (.applied v))) :
    s.poisoned = false ∧ ∃ r, s.records.get? key = some r ∧ versionText r.version = expected := by
  have he := perform_effect s (.patch key expected p)
  rw [h] at he
  generalize (s.perform (.patch key expected p)).2 = s' at he
  cases he with
  | refused _ _ hp ha => simp [Operation.refusal] at ha
  | patched _ _ _ r hp hr hv => exact ⟨hp, r, hr, hv⟩

/-- A patch that meets no record, or one with another version, changes nothing. -/
theorem store_of_unapplied_patch {s : Store} {key : RunKey} {expected : String} {p : Patch}
    {result : PatchResult} (h : (s.perform (.patch key expected p)).1 = .patched (.ok result))
    (hr : result.isApplied = false) : (s.perform (.patch key expected p)).2 = s := by
  have he := perform_effect s (.patch key expected p)
  rw [h] at he
  generalize (s.perform (.patch key expected p)).2 = s' at he
  cases he with
  | refused => rfl
  | patchAbsent => rfl
  | patchConflict => rfl
  | patched => simp [PatchResult.isApplied] at hr

/-- An unusable store stays unusable. -/
theorem poisoned_after {s : Store} (h : s.poisoned = true) (ops : List Operation) :
    (s.after ops).poisoned = true := by
  induction ops generalizing s with
  | nil => exact h
  | cons op ops ih =>
    rw [after_cons, perform_of_poisoned h]
    exact ih h

/-- A record with a version that the counter had reached before was there before. -/
theorem get?_of_change {s s' : Store} (hc : Change s s') (hp : s'.poisoned = false) {key : RunKey}
    {r : Record} (hr : s'.records.get? key = some r) (hv : r.version ≤ s.lastVersion) :
    s.records.get? key = some r := by
  have hsave : ∀ key' run, (s.save key' run).records.get? key = some r →
      s.records.get? key = some r := by
    intro key' run hr
    rw [get?_save] at hr
    split at hr
    · obtain rfl := Option.some.inj hr
      simp at hv
    · exact hr
  cases hc with
  | none => exact hr
  | save key' run => exact hsave key' run hr
  | remove key' =>
    rw [get?_remove] at hr
    split at hr
    · simp at hr
    · exact hr
  | saveRemove key' run =>
    rw [get?_remove] at hr
    split at hr
    · simp at hr
    · exact hsave key' run hr
  | spoil key' r' run hr' => simp [spoil] at hp

/-- A record with an old version has been there, with this version, all the time since. -/
theorem get?_of_after {s : Store} {ops : List Operation} (hp : (s.after ops).poisoned = false)
    {key : RunKey} {r : Record} (hr : (s.after ops).records.get? key = some r)
    (hv : r.version ≤ s.lastVersion) : s.records.get? key = some r := by
  induction ops generalizing s with
  | nil => exact hr
  | cons op ops ih =>
    have hc := perform_change s op
    have hr' := ih hp hr (hv.trans (lastVersion_change hc))
    refine get?_of_change hc ?_ hr' hv
    by_contra hpoisoned
    rw [Bool.not_eq_false] at hpoisoned
    rw [after_cons, poisoned_after hpoisoned ops] at hp
    simp at hp

/-- A patch with the version of an earlier snapshot is applied only to the record of that snapshot,
and only if it was that very record at every moment in between. -/
theorem unchanged_of_patch {s : Store} (h : Versioned s) {between : List Operation}
    {key key' : RunKey} {snap : Snapshot} {p : Patch} {v : String}
    (hs : (s.perform (.read key)).1 = .read (.ok (some snap)))
    (hpatch : ((s.after between).perform (.patch key' snap.version p)).1
      = .patched (.ok (.applied v))) :
    key' = key ∧ ∀ mid, mid <+: between →
      ((s.after mid).records.get? key).map Record.snapshot = some snap := by
  obtain ⟨r, hr, rfl, -, ha⟩ := assigned_of_read h hs
  obtain ⟨hp, r', hr', hv⟩ := record_of_patch hpatch
  have hv : r'.version = r.version := versionText_injective hv
  obtain ⟨rfl, hrun⟩ := (assigned_after ha between).only hp key' r' hr' hv
  refine ⟨rfl, ?_⟩
  rintro mid ⟨rest, rfl⟩
  rw [after_append] at hp hr'
  have hle : r'.version ≤ (s.after mid).lastVersion := by
    rw [hv]
    exact ha.bounded.trans (lastVersion_after s mid)
  rw [get?_of_after hp hr' hle, Option.map_some]
  simp [Record.snapshot, hrun, hv]

/-! ## The main statement -/

/-- A version stands for one content of one record, over all calls of a store that starts empty. -/
theorem version_identifies_record (ops : List Operation) :
    (∀ e ∈ empty.history ops, ∀ e' ∈ empty.history ops, Agree e e') ∧
    (empty.history ops).Pairwise (fun earlier later =>
      ∀ v ∈ earlier.2.shown, ∀ v' ∈ later.2.given,
        ∃ m n, v.toNat? = some m ∧ v'.toNat? = some n ∧ m < n) ∧
    (∀ before key snap between key' p v rest,
      ops = before ++ .read key :: between ++ .patch key' snap.version p :: rest →
      ((empty.after before).perform (.read key)).1 = .read (.ok (some snap)) →
      ((empty.after (before ++ .read key :: between)).perform (.patch key' snap.version p)).1
        = .patched (.ok (.applied v)) →
      key' = key ∧ ∀ mid, mid <+: between →
        ((empty.after (before ++ .read key :: mid)).records.get? key).map Record.snapshot
          = some snap) ∧
    (∀ before key expected p rest result,
      ops = before ++ .patch key expected p :: rest →
      ((empty.after before).perform (.patch key expected p)).1 = .patched (.ok result) →
      result.isApplied = false →
      empty.after (before ++ [.patch key expected p]) = empty.after before) := by
  have hreach : ∀ before, Versioned (empty.after before) := versioned_after versioned_empty
  refine ⟨fun e he e' he' => agree_of_mem_history versioned_empty he he', ?_, ?_, ?_⟩
  · refine pairwise_history ?_ versioned_empty ops
    intro s op between op' h v hv v' hv'
    exact shown_lt_given h op between op' hv hv'
  · intro before key snap between key' p v rest _ hs hpatch
    rw [after_append, after_cons, perform_read] at hpatch
    obtain ⟨hkey, hmid⟩ := unchanged_of_patch (hreach before) hs hpatch
    refine ⟨hkey, ?_⟩
    intro mid hprefix
    rw [after_append, after_cons, perform_read]
    exact hmid mid hprefix
  · intro before key expected p rest result _ h hr
    rw [after_append, after_cons, after_nil]
    exact store_of_unapplied_patch h hr

/-- A record is deleted and created anew. A patch with the version of its first snapshot meets a
conflict; one with the version of the second snapshot is applied, whatever happens to other keys in
between. -/
theorem version_identifies_recreated_record :
    let a : RunKey := ⟨"ci", "a"⟩
    let guard : Patch := .addFinalizer "guard"
    let before : List Operation :=
      [.insert (Run.new a), .requestDelete default a, .insert (Run.new a)]
    let between : List Operation := [.insert (Run.new ⟨"ci", "b"⟩)]
    ((empty.after before).perform (.read a)).1 = .read (.ok (some ⟨Run.new a, "2"⟩)) ∧
    ((empty.after (before ++ .read a :: between)).perform (.patch a "2" guard)).1
      = .patched (.ok (.applied "4")) ∧
    (∀ mid, mid <+: between →
      ((empty.after (before ++ .read a :: mid)).records.get? a).map Record.snapshot
        = some ⟨Run.new a, "2"⟩) ∧
    ((empty.after before).perform (.patch a "1" guard)).1 = .patched (.ok (.conflict "2")) ∧
    empty.after (before ++ [.patch a "1" guard]) = empty.after before := by
  intro a guard before between
  obtain ⟨-, -, happlied, -⟩ :=
    version_identifies_record (before ++ .read a :: between ++ [.patch a "2" guard])
  obtain ⟨-, -, -, hconflict⟩ := version_identifies_record (before ++ [.patch a "1" guard])
  have hread : ((empty.after before).perform (.read a)).1
      = .read (.ok (some ⟨Run.new a, "2"⟩)) := by cbv
  have hfresh : ((empty.after (before ++ .read a :: between)).perform (.patch a "2" guard)).1
      = .patched (.ok (.applied "4")) := by cbv
  have hstale : ((empty.after before).perform (.patch a "1" guard)).1
      = .patched (.ok (.conflict "2")) := by cbv
  refine ⟨hread, hfresh, ?_, hstale, ?_⟩
  · exact (happlied before a ⟨Run.new a, "2"⟩ between a guard "4" [] rfl hread hfresh).2
  · exact hconflict before a "1" guard [] (.conflict "2") rfl hstale rfl

end RunHerald.Store
