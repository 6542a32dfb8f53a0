import Mathlib.Data.List.Basic

set_option autoImplicit false

namespace OpenJax.Shared

variable {α : Type}

def maxByFrom (order : α → α → Ordering) (best : α) : List α → α
  | [] => best
  | next :: rest =>
      -- The standard library keeps the later of two equal maxima.
      maxByFrom order (match order best next with | .gt => best | _ => next) rest

def maxBy (order : α → α → Ordering) : List α → Option α
  | [] => none
  | first :: rest => some (maxByFrom order first rest)

variable (order : α → α → Ordering)

theorem maxByFrom_member (best : α) (items : List α) :
    maxByFrom order best items ∈ best :: items := by
  induction items generalizing best with
  | nil => simp [maxByFrom]
  | cons next rest ih =>
    rw [maxByFrom]
    have kept := ih (match order best next with | .gt => best | _ => next)
    split at kept <;> simp only [List.mem_cons] at kept ⊢ <;> tauto

theorem maxByFrom_bound [Std.TransCmp order] (best : α) (items : List α) :
    ∀ item ∈ best :: items, (order item (maxByFrom order best items)).isLE := by
  induction items generalizing best with
  | nil => simp [maxByFrom, Std.ReflCmp.compare_self]
  | cons next rest ih =>
    rw [maxByFrom]
    cases compared : order best next with
    | gt =>
      have below := ih best
      have swapped : order next best = (order best next).swap := Std.OrientedCmp.eq_swap
      have behind : (order next best).isLE := by rw [swapped, compared]; rfl
      intro item member
      rcases List.mem_cons.mp member with rfl | member
      · exact below _ (by simp)
      · rcases List.mem_cons.mp member with rfl | member
        · exact Std.TransCmp.isLE_trans behind (below best (by simp))
        · exact below _ (by simp [member])
    | lt | eq =>
      have below := ih next
      have behind : (order best next).isLE := by rw [compared]; rfl
      intro item member
      rcases List.mem_cons.mp member with rfl | member
      · exact Std.TransCmp.isLE_trans behind (below next (by simp))
      · exact below _ member

theorem maxBy_none (items : List α) : maxBy order items = none ↔ items = [] := by
  cases items <;> simp [maxBy]

theorem maxBy_member {items : List α} {best : α} (chosen : maxBy order items = some best) :
    best ∈ items := by
  cases items with
  | nil => cases chosen
  | cons first rest =>
    cases chosen
    exact maxByFrom_member order first rest

theorem maxBy_bound [Std.TransCmp order] {items : List α} {best : α}
    (chosen : maxBy order items = some best) : ∀ item ∈ items, (order item best).isLE := by
  cases items with
  | nil => cases chosen
  | cons first rest =>
    cases chosen
    exact maxByFrom_bound order first rest

end OpenJax.Shared
