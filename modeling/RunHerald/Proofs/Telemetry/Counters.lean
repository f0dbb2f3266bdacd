import RunHerald.Telemetry

/-!
# Counters

A counter shows how many of the metrics among some events have its name, if there is any:
`get?_counts`. So the order of the metrics does not matter, nor do the reports between them:
`counts_eq_of_perm`. Different metrics have different names, labels included, so a counter shows how
often its own metric is among the events: `counter_eq_count`.
-/

set_option autoImplicit false

namespace RunHerald

/-- Actions are told apart by their labels. -/
theorem Action.label_injective {a a' : Action} (h : a.label = a'.label) : a = a' := by
  cases a <;> cases a' <;> first | rfl | exact absurd h (by decide)

namespace Metric

/-- The first letters of the name of a counter, by which it differs from the names of all others. -/
def stem : Metric → String
  | .reconciled _ => "notifier_reconcile_t"
  | .failed _ => "notifier_reconcile_e"
  | .timed => "notifier_reconcile_s"
  | .notification _ => "notifier_notificatio"
  | .conflict => "notifier_patch_confl"
  | .anomaly => "notifier_anomalies_t"

/-- All stems are of one length. -/
theorem length_stem (m : Metric) : m.stem.length = 20 := by
  cases m <;> simp only [stem] <;> decide

/-- A text that begins with a stem still does when more is added. -/
theorem exists_append_eq {text stem rest : String} (h : text = stem ++ rest)
    (label close : String) : ∃ rest, text ++ label ++ close = stem ++ rest :=
  ⟨rest ++ (label ++ close), by rw [h, String.append_assoc, String.append_assoc]⟩

/-- The name of a metric begins with its stem. -/
theorem exists_name_eq (m : Metric) : ∃ rest, m.name = m.stem ++ rest := by
  cases m with
  | reconciled action =>
    have h : "notifier_reconcile_total\x7baction="
        = "notifier_reconcile_t" ++ "otal\x7baction=" := by decide
    exact exists_append_eq h action.label "\x7d"
  | failed kind =>
    have h : "notifier_reconcile_errors_total\x7bkind="
        = "notifier_reconcile_e" ++ "rrors_total\x7bkind=" := by decide
    exact exists_append_eq h kind "\x7d"
  | notification result =>
    have h : "notifier_notifications_total\x7bresult="
        = "notifier_notificatio" ++ "ns_total\x7bresult=" := by decide
    exact exists_append_eq h result "\x7d"
  | timed => exact ⟨"econds", by decide⟩
  | conflict => exact ⟨"icts_total", by decide⟩
  | anomaly => exact ⟨"otal", by decide⟩

/-- Metrics with one name have one stem. -/
theorem stem_eq_of_name_eq {m m' : Metric} (h : m.name = m'.name) : m.stem = m'.stem := by
  obtain ⟨rest, hrest⟩ := m.exists_name_eq
  obtain ⟨rest', hrest'⟩ := m'.exists_name_eq
  rw [hrest, hrest', ← String.toList_inj, String.toList_append, String.toList_append] at h
  refine String.toList_inj.1 (List.append_inj h ?_).1
  rw [String.length_toList, String.length_toList, length_stem, length_stem]

/-- Different metrics have different names. -/
theorem name_injective {m m' : Metric} (h : m.name = m'.name) : m = m' := by
  have hstem := stem_eq_of_name_eq h
  cases m <;> cases m' <;> simp only [stem] at hstem
  case reconciled.reconciled action action' =>
    rw [Action.label_injective ((String.append_right_inj _).1 ((String.append_left_inj _).1 h))]
  case failed.failed kind kind' =>
    rw [(String.append_right_inj _).1 ((String.append_left_inj _).1 h)]
  case notification.notification result result' =>
    rw [(String.append_right_inj _).1 ((String.append_left_inj _).1 h)]
  case timed.timed => rfl
  case conflict.conflict => rfl
  case anomaly.anomaly => rfl
  all_goals exact absurd hstem (by decide)

end Metric

namespace Event

/-- The counters after one more metric. -/
def raise (d : Dictionary Nat) (m : Metric) : Dictionary Nat :=
  d.insert m.name ((d.get? m.name).getD 0 + 1)

/-- Counters are raised by one metric after another. -/
theorem counts_eq_foldl (events : List Event) :
    counts events = (metrics events).foldl raise ∅ := rfl

/-- The metrics of two parts are those of each. -/
theorem metrics_append (events events' : List Event) :
    metrics (events ++ events') = metrics events ++ metrics events' := List.filterMap_append

/-- A counter goes up by the number of metrics with its name, and is left alone if there are
none. -/
theorem get?_foldl_raise (ms : List Metric) (d : Dictionary Nat) (name : String) :
    (ms.foldl raise d).get? name =
      if ms.countP (·.name = name) = 0 then d.get? name
      else some ((d.get? name).getD 0 + ms.countP (·.name = name)) := by
  induction ms generalizing d with
  | nil => simp
  | cons m ms ih =>
    rw [List.foldl_cons, ih, raise, Dictionary.get?_insert]
    by_cases hname : m.name = name
    · subst hname
      by_cases hrest : ms.countP (·.name = m.name) = 0
      · simp [hrest]
      · simp [hrest]
        omega
    · have hname' : ¬ name = m.name := fun h => hname h.symm
      simp [hname, hname']

/-- A counter shows the number of metrics with its name, if there is any. -/
theorem get?_counts (events : List Event) (name : String) :
    (counts events).get? name =
      if (metrics events).countP (·.name = name) = 0 then none
      else some ((metrics events).countP (·.name = name)) := by
  have hempty : (∅ : Dictionary Nat).get? name = none := Dictionary.get?_empty name
  rw [counts_eq_foldl, get?_foldl_raise, hempty]
  simp

/-- The order in which metrics are counted does not matter. -/
theorem counts_eq_of_perm {events events' : List Event}
    (h : (metrics events).Perm (metrics events')) : counts events = counts events' := by
  apply Dictionary.ext
  intro name
  rw [get?_counts, get?_counts, h.countP_eq]

/-- What the counter of a metric shows after some events, from zero on. -/
def counter (events : List Event) (m : Metric) : Nat := ((counts events).get? m.name).getD 0

/-- A counter shows how often its metric is among the events. -/
theorem counter_eq_count (events : List Event) (m : Metric) :
    counter events m = (metrics events).count m := by
  have hnames : (metrics events).countP (·.name = m.name) = (metrics events).count m := by
    refine List.countP_congr fun m' _ => ?_
    rw [decide_eq_true_iff, beq_iff_eq]
    exact ⟨Metric.name_injective, congrArg Metric.name⟩
  rw [counter, get?_counts, hnames]
  split
  · rename_i hzero
    exact hzero.symm
  · rfl

end Event

end RunHerald
