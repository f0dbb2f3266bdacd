import Mathlib.Data.List.Forall2
import RunHerald.Json.Decode

/-!
# When decoding succeeds

For each step of a decoder, the values on which it succeeds and what it then gives: `..._eq_ok_iff`.
A decoder that is put together from these steps is described by rewriting with them; nobody needs to
open a step again.
-/

set_option autoImplicit false

namespace RunHerald.Json

variable {α : Type} {decode : Json → Except DecodeError α}

/-- A refusal is no success. -/
theorem refuse_ne_ok (v : Json) (expected : String) (a : α) : v.refuse expected ≠ .ok a := by
  simp [refuse]

/-- Only a text is decoded as a text. -/
theorem asText_eq_ok_iff {v : Json} {s : String} : asText v = .ok s ↔ v = .str s := by
  cases v <;> simp [asText, refuse]

/-- A field may be missing; if it is there, its value is decoded. -/
theorem field_eq_ok_iff {members : List (String × Json)} {name : String} {found : Option α} :
    field members name decode = .ok found ↔
      (lookup name members = none ∧ found = none) ∨
        ∃ v a, lookup name members = some v ∧ decode v = .ok a ∧ found = some a := by
  unfold field
  cases lookup name members with
  | none => simp [eq_comm]
  | some v => simp [map_eq_ok_iff, eq_comm (a := found)]

/-- What is needed must be found. -/
theorem need_eq_ok_iff {name : String} {found : Option α} {a : α} :
    need name found = .ok a ↔ found = some a := by
  cases found <;> simp [need]

/-- A field that is needed and found is the value of its member. -/
theorem lookup_of_field_of_need {members : List (String × Json)} {name shown : String}
    {found : Option α} {a : α} (hfield : field members name decode = .ok found)
    (hneed : need shown found = .ok a) : ∃ v, lookup name members = some v ∧ decode v = .ok a := by
  obtain rfl := need_eq_ok_iff.1 hneed
  obtain ⟨-, hnone⟩ | ⟨v, a', hv, ha, hsome⟩ := field_eq_ok_iff.1 hfield
  · cases hnone
  · obtain rfl := Option.some.inj hsome
    exact ⟨v, hv, ha⟩

/-- A member that decodes is a field that is found. -/
theorem field_of_lookup {members : List (String × Json)} {name : String} {v : Json} {a : α}
    (hv : lookup name members = some v) (ha : decode v = .ok a) :
    field members name decode = .ok (some a) :=
  field_eq_ok_iff.2 (Or.inr ⟨v, a, hv, ha, rfl⟩)

/-- An item must be there, and its value is decoded. -/
theorem item_eq_ok_iff {items : List Json} {i : Nat} {shape : String} {a : α} :
    item items i shape decode = .ok a ↔ ∃ v, items[i]? = some v ∧ decode v = .ok a := by
  unfold item
  cases items[i]? <;> simp

/-- An item that is not there stands for its default. -/
theorem itemOr_eq_ok_iff {items : List Json} {i : Nat} {default a : α} :
    itemOr items i default decode = .ok a ↔
      (items[i]? = none ∧ default = a) ∨ ∃ v, items[i]? = some v ∧ decode v = .ok a := by
  unfold itemOr
  cases items[i]? <;> simp

/-- There are no more items than are allowed. -/
theorem noMore_eq_ok_iff {items : List Json} {n : Nat} :
    noMore items n = .ok () ↔ items.length ≤ n := by
  simp [noMore]

/-- The items of a list decode one by one. -/
theorem eachItem_eq_ok_iff {items : List Json} {as : List α} :
    eachItem decode items = .ok as ↔ List.Forall₂ (fun v a => decode v = .ok a) items as := by
  induction items generalizing as with
  | nil =>
    rw [eachItem, List.forall₂_nil_left_iff]
    simp [eq_comm]
  | cons v vs ih =>
    rw [eachItem, bind_eq_ok_iff, List.forall₂_cons_left_iff]
    simp only [bind_eq_ok_iff, ih]
    constructor
    · rintro ⟨a, ha, as', has, h⟩
      obtain rfl := Except.ok.inj h
      exact ⟨a, as', ha, has, rfl⟩
    · rintro ⟨a, as', ha, has, rfl⟩
      exact ⟨a, ha, as', has, rfl⟩

/-- What decodes each item as it was written decodes the list as it was written. -/
theorem eachItem_map (write : α → Json) (h : ∀ a, decode (write a) = .ok a) (as : List α) :
    eachItem decode (as.map write) = .ok as := by
  rw [eachItem_eq_ok_iff, List.forall₂_map_left_iff, List.forall₂_same]
  exact fun a _ => h a

/-- What decodes each value as it was written decodes the members as they were written. -/
theorem eachMember_map (write : α → Json) (h : ∀ a, decode (write a) = .ok a)
    (as : List (String × α)) :
    eachMember decode (as.map fun p => (p.1, write p.2)) = .ok as := by
  induction as with
  | nil => rfl
  | cons p as ih =>
    rw [List.map_cons, eachMember, h, ih]
    rfl

/-- Only a list is decoded as a list, item by item. -/
theorem asList_eq_ok_iff {v : Json} {as : List α} :
    asList decode v = .ok as ↔
      ∃ items, v = .arr items ∧ List.Forall₂ (fun v a => decode v = .ok a) items as := by
  cases v <;> simp [asList, refuse, eachItem_eq_ok_iff]

end RunHerald.Json
