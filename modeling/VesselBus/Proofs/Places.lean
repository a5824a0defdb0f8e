import Mathlib.Data.List.Forall2

/-!
# Places in lists

A place is changed in one list, or in two lists at once of which one corresponds to the other.
-/

namespace VesselBus

variable {α β : Type}

/-! ## One list -/

theorem getElem?_concat_eq_some_iff {l : List α} {a b : α} {i : Nat} :
    (l ++ [a])[i]? = some b ↔ l[i]? = some b ∨ i = l.length ∧ a = b := by
  rw [List.getElem?_append]
  by_cases old : i < l.length
  · simp [old, Nat.ne_of_lt old]
  · rw [if_neg old, List.getElem?_eq_none (Nat.le_of_not_lt old), List.getElem?_singleton]
    have newest : i - l.length = 0 ↔ i = l.length := by omega
    simp [newest]

theorem modify_congr {xs : List α} {index : Nat} {f g : α → α} (same : ∀ x, xs[index]? = some x → f x = g x) :
    xs.modify index f = xs.modify index g := by
  refine List.ext_getElem? fun i => ?_
  rw [List.getElem?_modify, List.getElem?_modify]
  by_cases here : index = i
  · subst here
    cases there : xs[index]? with
    | none => rfl
    | some x => simp [same x there]
  · simp [here]

theorem modify_eq_self {xs : List α} {index : Nat} {f : α → α} (same : ∀ x, xs[index]? = some x → f x = x) :
    xs.modify index f = xs :=
  (modify_congr same).trans (List.modify_id index xs)

/-! ## Two lists -/

variable {R : α → β → Prop} {xs : List α} {ys : List β}

theorem forall₂_modify (h : List.Forall₂ R xs ys) (index : Nat) (f : α → α) (g : β → β)
    (step : ∀ x y, xs[index]? = some x → ys[index]? = some y → R x y → R (f x) (g y)) :
    List.Forall₂ R (xs.modify index f) (ys.modify index g) := by
  induction h generalizing index with
  | nil => simp
  | cons first rest ih =>
    cases index with
    | zero => exact .cons (step _ _ rfl rfl first) rest
    | succ index => exact .cons first (ih index step)

theorem exists_of_forall₂ (h : List.Forall₂ R xs ys) {index : Nat} {x : α} (there : xs[index]? = some x) :
    ∃ y, ys[index]? = some y ∧ R x y := by
  induction h generalizing index with
  | nil => cases there
  | cons first rest ih =>
    cases index with
    | zero =>
      cases there
      exact ⟨_, rfl, first⟩
    | succ index => exact ih there

/-- The place may be past the end of both. -/
theorem forall₂_toList_getElem? (h : List.Forall₂ R xs ys) (index : Nat) :
    List.Forall₂ R xs[index]?.toList ys[index]?.toList := by
  induction h generalizing index with
  | nil => exact .nil
  | cons first rest ih =>
    cases index with
    | zero => exact .cons first .nil
    | succ index => exact ih index

end VesselBus
