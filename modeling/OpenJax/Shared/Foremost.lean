import Mathlib.Data.List.Count
import Mathlib.Data.List.Perm.Basic

set_option autoImplicit false

namespace OpenJax.Shared

variable {α : Type} [DecidableEq α]

structure TotalOrder (le : α → α → Bool) : Prop where
  trans : ∀ first second third, le first second → le second third → le first third
  total : ∀ first second, le first second || le second first
  antisymm : ∀ first second, le first second → le second first → first = second

def countBefore (le : α → α → Bool) (values : List α) (value : α) : Nat :=
  values.countP fun other => le other value && other != value

variable {le : α → α → Bool}

theorem countBefore_cons (first value : α) (rest : List α) :
    countBefore le (first :: rest) value =
      countBefore le rest value + if le first value && first != value then 1 else 0 := by
  simp [countBefore, List.countP_cons]

theorem countBefore_head (order : TotalOrder le) {first value : α} {rest : List α}
    (sorted : (first :: rest).Pairwise fun value other => le value other)
    (early : le value first) : countBefore le (first :: rest) value = 0 := by
  rw [countBefore, List.countP_eq_zero]
  intro other among
  simp only [Bool.and_eq_true, bne_iff_ne, not_and, not_not]
  intro before
  have least : le first other := by
    rcases List.mem_cons.mp among with rfl | later
    · simpa using order.total other other
    · exact List.rel_of_pairwise_cons sorted later
  exact order.antisymm _ _ before (order.trans _ _ _ early least)

theorem count_head (order : TotalOrder le) {first value : α} {rest : List α}
    (sorted : (first :: rest).Pairwise fun value other => le value other)
    (early : le value first) (other : value ≠ first) : (first :: rest).count value = 0 := by
  rw [List.count_eq_zero]
  intro among
  have least : le first value := by
    rcases List.mem_cons.mp among with rfl | later
    · exact absurd rfl other
    · exact List.rel_of_pairwise_cons sorted later
  exact other (order.antisymm _ _ early least)

theorem take_eq_iff_of_sorted (order : TotalOrder le) {first second : List α}
    (firstSorted : first.Pairwise fun value other => le value other)
    (secondSorted : second.Pairwise fun value other => le value other) (limit : Nat) :
    first.take limit = second.take limit ↔
      ∀ value, min (first.count value) (limit - countBefore le second value) =
        min (second.count value) (limit - countBefore le second value) := by
  induction limit generalizing first second with
  | zero => simp
  | succ limit ih =>
    cases first with
    | nil =>
      cases second with
      | nil => simp
      | cons b rest =>
        have head := countBefore_head order secondSorted (by simpa using order.total b b)
        simp only [List.take_nil, List.take_succ_cons, List.nil_eq, reduceCtorEq, false_iff]
        intro same
        have here := same b
        rw [head, List.count_cons_self, List.count_nil] at here
        omega
    | cons a values =>
      have reflexive : le a a := by simpa using order.total a a
      cases second with
      | nil =>
        simp only [List.take_nil, List.take_succ_cons, reduceCtorEq, false_iff]
        intro same
        have here := same a
        rw [List.count_cons_self, List.count_nil, countBefore, List.countP_nil] at here
        omega
      | cons b rest =>
        by_cases same : a = b
        · subst same
          rw [List.take_succ_cons, List.take_succ_cons, List.cons_inj_right,
            ih firstSorted.of_cons secondSorted.of_cons]
          apply forall_congr'
          intro value
          rw [countBefore_cons]
          by_cases equal : value = a
          · subst equal
            have head := countBefore_head order secondSorted reflexive
            rw [countBefore_cons] at head
            simp only [List.count_cons_self]
            omega
          · by_cases early : le a value
            · have counted : (le a value && a != value) = true := by
                simp [early, Ne.symm equal]
              rw [List.count_cons_of_ne (Ne.symm equal), List.count_cons_of_ne (Ne.symm equal),
                if_pos counted]
              omega
            · -- The value comes before all elements, so it is in neither list.
              have lower : le value a := by
                have either := order.total a value
                simpa [early] using either
              have none := count_head order firstSorted lower equal
              have absent := count_head order secondSorted lower equal
              rw [List.count_cons_of_ne (Ne.symm equal)] at none absent
              rw [none, absent, List.count_cons_of_ne (Ne.symm equal),
                List.count_cons_of_ne (Ne.symm equal), none, absent]
              simp
        · simp only [List.take_succ_cons, List.cons.injEq, same, false_and, false_iff]
          intro equal
          rcases Bool.or_eq_true _ _ ▸ order.total a b with early | early
          · have here := equal a
            rw [countBefore_head order secondSorted early, count_head order secondSorted early same,
              List.count_cons_self] at here
            omega
          · have here := equal b
            have reflexive : le b b := by simpa using order.total b b
            rw [countBefore_head order secondSorted reflexive,
              count_head order firstSorted early (Ne.symm same), List.count_cons_self] at here
            omega

theorem take_mergeSort_eq_iff (order : TotalOrder le) (first second : List α) (limit : Nat) :
    (first.mergeSort le).take limit = (second.mergeSort le).take limit ↔
      ∀ value, min (first.count value) (limit - countBefore le second value) =
        min (second.count value) (limit - countBefore le second value) := by
  have sorted (values : List α) :
      (values.mergeSort le).Pairwise fun value other => le value other :=
    List.pairwise_mergeSort order.trans order.total values
  rw [take_eq_iff_of_sorted order (sorted first) (sorted second)]
  simp only [countBefore, (List.mergeSort_perm first le).count_eq,
    (List.mergeSort_perm second le).count_eq, (List.mergeSort_perm second le).countP_eq]

end OpenJax.Shared
