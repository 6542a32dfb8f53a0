import Mathlib.Data.List.Chain
import Mathlib.Data.List.Infix

set_option autoImplicit false

/-! Streaks: entries at the end of a list that are all alike, and what a window over the last
entries shows of them. -/

namespace OpenJax.Shared

variable {α κ : Type}

def Streak (alike : α → α → Prop) (count : Nat) (items : List α) : Prop :=
  ∃ streak, streak <:+ items ∧ streak.length = count ∧
    ∀ first ∈ streak, ∀ second ∈ streak, alike first second

variable {keys : List κ} {count : Nat}

theorem streak_eq_iff :
    Streak (· = ·) (count + 1) keys ↔ ∃ key, List.replicate (count + 1) key <:+ keys := by
  constructor
  · rintro ⟨streak, suffix, length, same⟩
    cases streak with
    | nil => cases length
    | cons key rest =>
      have equal : ∀ other ∈ key :: rest, other = key := fun other among =>
        same other among key List.mem_cons_self
      refine ⟨key, ?_⟩
      rw [← length, ← List.eq_replicate_of_mem equal]
      exact suffix
  · rintro ⟨key, suffix⟩
    refine ⟨_, suffix, List.length_replicate, fun first left second right => ?_⟩
    rw [List.eq_of_mem_replicate left, List.eq_of_mem_replicate right]

theorem streak_map_iff (key : α → κ) {items : List α} :
    Streak (· = ·) count (items.map key) ↔
      Streak (fun first second => key first = key second) count items := by
  constructor
  · rintro ⟨streak, ⟨earlier, split⟩, length, same⟩
    obtain ⟨front, back, rfl, -, rfl⟩ := List.map_eq_append_iff.mp split.symm
    exact ⟨back, List.suffix_append front back, by simpa using length,
      fun first left second right => same _ (List.mem_map_of_mem left) _ (List.mem_map_of_mem right)⟩
  · rintro ⟨streak, suffix, length, same⟩
    refine ⟨streak.map key, suffix.map key, by simpa using length, ?_⟩
    simpa using same

theorem isChain_iff_all {alike : α → α → Prop} (equivalent : Equivalence alike) (items : List α) :
    items.IsChain alike ↔ ∀ first ∈ items, ∀ second ∈ items, alike first second := by
  induction items with
  | nil => simp
  | cons item rest ih =>
    rw [List.isChain_cons, ih]
    constructor
    · rintro ⟨next, all⟩ first left second right
      have joined : ∀ other ∈ rest, alike item other := by
        cases rest with
        | nil => nofun
        | cons head tail =>
          intro other among
          exact equivalent.trans (next head rfl) (all head List.mem_cons_self other among)
      rcases List.mem_cons.mp left with rfl | inside
      · rcases List.mem_cons.mp right with rfl | among
        · exact equivalent.refl _
        · exact joined second among
      · rcases List.mem_cons.mp right with rfl | among
        · exact equivalent.symm (joined first inside)
        · exact all first inside second among
    · intro all
      refine ⟨fun next head => all item List.mem_cons_self next ?_, fun first left second right => ?_⟩
      · exact List.mem_cons_of_mem _ (List.mem_of_head? head)
      · exact all first (List.mem_cons_of_mem _ left) second (List.mem_cons_of_mem _ right)

theorem streak_congr {alike same : α → α → Prop} (left : Equivalence alike)
    (right : Equivalence same) {items : List α}
    (agree : items.IsChain fun first second => alike first second ↔ same first second)
    (count : Nat) : Streak alike count items ↔ Streak same count items := by
  apply exists_congr
  intro streak
  apply and_congr_right
  intro suffix
  have chain := agree.suffix suffix
  rw [← isChain_iff_all left, ← isChain_iff_all right]
  apply and_congr_right
  intro _
  constructor
  · exact fun alikes => List.isChain_iff_getElem.mpr fun i bound =>
      (chain.getElem i bound).mp (alikes.getElem i bound)
  · exact fun sames => List.isChain_iff_getElem.mpr fun i bound =>
      (chain.getElem i bound).mpr (sames.getElem i bound)

theorem replicate_suffix_concat {key last : κ} :
    List.replicate (count + 1) key <:+ keys ++ [last] ↔
      key = last ∧ List.replicate count key <:+ keys := by
  rw [List.replicate_succ', List.suffix_concat_iff]
  constructor
  · rintro (impossible | ⟨front, same, suffix⟩)
    · simp at impossible
    · obtain ⟨rfl, rfl⟩ := List.append_inj' same rfl |>.imp id List.singleton_inj.mp
      exact ⟨rfl, suffix⟩
  · rintro ⟨rfl, suffix⟩
    exact .inr ⟨_, rfl, suffix⟩

theorem streak_concat_iff {last : κ} :
    Streak (· = ·) (count + 1) (keys ++ [last]) ↔ List.replicate count last <:+ keys := by
  simp [streak_eq_iff, replicate_suffix_concat]

def window (capacity : Nat) (keys : List κ) : List κ := keys.drop (keys.length - capacity)

theorem window_concat (capacity : Nat) (keys : List κ) (last : κ) :
    (if capacity < (window capacity keys ++ [last]).length
      then (window capacity keys ++ [last]).tail else window capacity keys ++ [last]) =
      window capacity (keys ++ [last]) := by
  simp only [window, List.length_append, List.length_drop, List.length_singleton]
  split
  · have one : keys.length + 1 - capacity = keys.length - capacity + 1 := by omega
    have within : keys.length - capacity ≤ keys.length := by omega
    rw [one, ← List.drop_drop, List.drop_append_of_le_length within, List.drop_one]
  · have none : keys.length + 1 - capacity = 0 := by omega
    have fewer : keys.length - capacity = 0 := by omega
    rw [none, fewer, List.drop_zero, List.drop_zero]

theorem replicate_suffix_window {capacity count : Nat} (fits : count ≤ capacity) {key : κ} :
    List.replicate count key <:+ window capacity keys ↔ List.replicate count key <:+ keys := by
  have among : window capacity keys <:+ keys := List.drop_suffix _ keys
  constructor
  · exact fun suffix => suffix.trans among
  · intro suffix
    have length := suffix.length_le
    rw [List.length_replicate] at length
    apply List.suffix_of_suffix_length_le suffix among
    rw [List.length_replicate, window, List.length_drop]
    omega

theorem le_consecutive_iff [BEq κ] [LawfulBEq κ] {key : κ} :
    count ≤ (keys.reverse.takeWhile (· == key)).length ↔ List.replicate count key <:+ keys := by
  have prefixed (count : Nat) (items : List κ) :
      count ≤ (items.takeWhile (· == key)).length ↔ List.replicate count key <+: items := by
    induction items generalizing count with
    | nil => cases count <;> simp [List.replicate_succ]
    | cons item rest ih =>
      cases count with
      | zero => simp
      | succ count =>
        rw [List.replicate_succ, List.cons_prefix_cons, ← ih count]
        by_cases same : item = key
        · subst same
          simp
        · have differs : key ≠ item := fun equal => same equal.symm
          simp [same, differs]
  rw [prefixed, ← List.reverse_replicate, List.reverse_prefix, List.reverse_replicate]

end OpenJax.Shared
