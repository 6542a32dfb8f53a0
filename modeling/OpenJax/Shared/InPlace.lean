import OpenJax.Shared.Rows
import Mathlib.Data.List.Basic

set_option autoImplicit false

/-! Searching a list from its end, and what a change at the place found does to the rows that
the list shows. -/

namespace OpenJax.Shared

section

variable {α ρ κ : Type}

def lastIndex (test : α → Bool) : List α → Option Nat
  | [] => none
  | item :: rest =>
      match lastIndex test rest with
      | some index => some (index + 1)
      | none => if test item then some 0 else none

variable {items : List α} {test : α → Bool} {index : Nat}

theorem lastIndex_some (found : lastIndex test items = some index) :
    ∃ item, items[index]? = some item ∧ test item := by
  induction items generalizing index with
  | nil => cases found
  | cons item rest ih =>
    simp only [lastIndex] at found
    cases later : lastIndex test rest with
    | some place =>
      rw [later] at found
      cases found
      exact ih later
    | none =>
      simp only [later] at found
      by_cases holds : test item = true
      · rw [if_pos holds] at found
        cases found
        exact ⟨item, rfl, holds⟩
      · rw [if_neg holds] at found
        cases found

theorem lastIndex_none : lastIndex test items = none ↔ ∀ item ∈ items, test item = false := by
  induction items with
  | nil => simp [lastIndex]
  | cons item rest ih =>
    rw [List.forall_mem_cons, ← ih, lastIndex]
    cases lastIndex test rest with
    | some place => simp
    | none => cases test item <;> simp

theorem findIdx?_item (found : items.findIdx? test = some index) :
    ∃ item, items[index]? = some item ∧ test item := by
  obtain ⟨inside, holds, -⟩ := List.findIdx?_eq_some_iff_getElem.mp found
  exact ⟨items[index], List.getElem?_eq_getElem inside, holds⟩

theorem filterMap_modify_same {view : α → Option ρ} {change : α → α}
    (same : ∀ item, items[index]? = some item → view (change item) = view item) :
    (items.modify index change).filterMap view = items.filterMap view := by
  induction items generalizing index with
  | nil => simp
  | cons item rest ih =>
    cases index with
    | zero =>
      rw [List.modify_zero_cons, List.filterMap_cons, List.filterMap_cons, same item rfl]
    | succ index =>
      rw [List.modify_succ_cons, List.filterMap_cons, List.filterMap_cons, ih fun other => same other]

theorem modify_at {item : α} (there : items[index]? = some item) :
    ∃ before after, items = before ++ item :: after ∧
      ∀ change : α → α, items.modify index change = before ++ change item :: after := by
  induction items generalizing index with
  | nil => simp at there
  | cons first rest ih =>
    cases index with
    | zero =>
      cases there
      exact ⟨[], rest, rfl, fun change => by rw [List.modify_zero_cons, List.nil_append]⟩
    | succ index =>
      obtain ⟨before, after, whole, changed⟩ := ih there
      refine ⟨first :: before, after, by rw [whole, List.cons_append], ?_⟩
      intro change
      rw [List.modify_succ_cons, changed, List.cons_append]

theorem filterMap_modify_row [DecidableEq κ] {view : α → Option ρ} {key : ρ → κ} {change : α → α}
    {update : ρ → ρ} {item : α} {row : ρ} (unique : ((items.filterMap view).map key).Nodup)
    (there : items[index]? = some item) (before : view item = some row)
    (after : view (change item) = some (update row)) :
    (items.modify index change).filterMap view =
      updateWhere (fun other => key other = key row) update (items.filterMap view) := by
  obtain ⟨front, back, rfl, changed⟩ := modify_at there
  rw [List.filterMap_append, List.filterMap_cons_some before, List.map_append, List.map_cons,
    List.nodup_middle, List.nodup_cons, List.mem_append, not_or] at unique
  rw [changed, List.filterMap_append, List.filterMap_cons_some after, List.filterMap_append,
    List.filterMap_cons_some before, updateWhere, List.map_append, List.map_cons,
    if_pos (decide_eq_true rfl)]
  -- No other row has this key.
  change _ = updateWhere _ update _ ++ update row :: updateWhere _ update _
  rw [updateWhere_absent update unique.1.1, updateWhere_absent update unique.1.2]

end

/-! Lists whose items are changed in place, seen through what each item shows. -/

section

variable {α β ρ : Type}

section

variable {holds : α → Prop} {items : List α}

theorem forall_push {item : α} (all : ∀ item ∈ items, holds item) (own : holds item) :
    ∀ other ∈ items ++ [item], holds other := by
  intro other member
  rcases List.mem_append.mp member with before | new
  · exact all other before
  · obtain rfl := List.mem_singleton.mp new
    exact own

theorem forall_modify {change : α → α} {item : α} {index : Nat} (all : ∀ item ∈ items, holds item)
    (there : items[index]? = some item) (own : holds (change item)) :
    ∀ other ∈ items.modify index change, holds other := by
  obtain ⟨before, after, whole, changed⟩ := modify_at there
  rw [changed]
  rw [whole] at all
  intro other member
  rcases List.mem_append.mp member with early | rest
  · exact all other (List.mem_append_left _ early)
  · rcases List.mem_cons.mp rest with rfl | late
    · exact own
    · exact all other (List.mem_append_right _ (List.mem_cons_of_mem _ late))

end

section

variable {view : α → List ρ} {items : List α} {index : Nat} {item : α} {change : α → α}

theorem flatMap_modify_same
    (same : ∀ item, items[index]? = some item → view (change item) = view item) :
    (items.modify index change).flatMap view = items.flatMap view := by
  cases there : items[index]? with
  | none => rw [List.modify_eq_self (List.getElem?_eq_none_iff.mp there)]
  | some item =>
    obtain ⟨before, after, whole, changed⟩ := modify_at there
    rw [changed, whole]
    simp only [List.flatMap_append, List.flatMap_cons, same item there]

theorem flatMap_modify_found (there : items[index]? = some item)
    (same : view (change item) = view item) :
    (items.modify index change).flatMap view = items.flatMap view := by
  apply flatMap_modify_same
  intro other inside
  cases there.symm.trans inside
  exact same

theorem flatMap_map_same (same : ∀ item, view (change item) = view item) :
    (items.map change).flatMap view = items.flatMap view := by
  induction items with
  | nil => rfl
  | cons item rest ih => rw [List.map_cons, List.flatMap_cons, List.flatMap_cons, same, ih]

theorem flatMap_map_each {update : ρ → ρ}
    (each : ∀ item ∈ items, view (change item) = (view item).map update) :
    (items.map change).flatMap view = (items.flatMap view).map update := by
  induction items with
  | nil => rfl
  | cons item rest ih =>
    rw [List.map_cons, List.flatMap_cons, List.flatMap_cons, List.map_append,
      each item List.mem_cons_self, ih fun other member => each other (List.mem_cons_of_mem _ member)]

theorem flatMap_modify_first (there : items[index]? = some item) (nothing : items.flatMap view = []) :
    (items.modify index change).flatMap view = view (change item) := by
  obtain ⟨before, after, whole, changed⟩ := modify_at there
  rw [whole, List.flatMap_append, List.flatMap_cons] at nothing
  simp only [List.append_eq_nil_iff] at nothing
  rw [changed, List.flatMap_append, List.flatMap_cons, nothing.1, nothing.2.2, List.nil_append,
    List.append_nil]

theorem flatMap_modify_only {row : ρ} (change : α → α) (there : items[index]? = some item) (own : view item ≠ [])
    (only : items.flatMap view = [row]) :
    view item = [row] ∧ (items.modify index change).flatMap view = view (change item) := by
  obtain ⟨before, after, whole, changed⟩ := modify_at there
  rw [whole, List.flatMap_append, List.flatMap_cons] at only
  have lengths := congrArg List.length only
  have some_own := List.length_pos_iff.mpr own
  simp only [List.length_append, List.length_singleton] at lengths
  have none_before : before.flatMap view = [] := List.eq_nil_of_length_eq_zero (by omega)
  have none_after : after.flatMap view = [] := List.eq_nil_of_length_eq_zero (by omega)
  rw [none_before, none_after, List.nil_append, List.append_nil] at only
  refine ⟨only, ?_⟩
  rw [changed, List.flatMap_append, List.flatMap_cons, none_before, none_after, List.nil_append,
    List.append_nil]

end

section

variable {look : α → Option β}

theorem look_push (items : List α) (item : α) (index : Nat) :
    ((items ++ [item])[index]?).bind look =
      ((items[index]?).bind look).or (if index = items.length then look item else none) := by
  rcases Nat.lt_trichotomy index items.length with inside | rfl | outside
  · rw [List.getElem?_append_left inside, if_neg (by omega), Option.or_none]
  · rw [List.getElem?_concat_length, List.getElem?_eq_none (Nat.le_refl _)]
    simp
  · rw [List.getElem?_eq_none (by simp; omega), List.getElem?_eq_none (by omega),
      if_neg (by omega)]
    rfl

theorem look_modify {items : List α} {place : Nat} {item : α} (there : items[place]? = some item)
    (change : α → α) (index : Nat) :
    ((items.modify place change)[index]?).bind look =
      if index = place then look (change item) else (items[index]?).bind look := by
  rw [List.getElem?_modify]
  by_cases same : place = index
  · subst same
    simp [there]
  · simp [same, Ne.symm same]

end

end

/-! Lists that are searched and changed in place, beside the same lists with some items left out. -/

section

variable {α : Type} {keep : α → Bool}

def keptIndex (keep : α → Bool) (items : List α) (index : Nat) : Nat :=
  ((items.take index).filter keep).length

section

variable {items : List α} {item first : α} {rest : List α} {index : Nat} {test : α → Bool}
  {change : α → α}

theorem keptIndex_zero : keptIndex keep items 0 = 0 := rfl

theorem keptIndex_succ :
    keptIndex keep (first :: rest) (index + 1) =
      keptIndex keep rest index + if keep first then 1 else 0 := by
  rw [keptIndex, List.take_succ_cons, List.filter_cons]
  split <;> rfl

theorem get_kept (there : items[index]? = some item) (kept : keep item) :
    (items.filter keep)[keptIndex keep items index]? = some item := by
  induction items generalizing index with
  | nil => simp at there
  | cons first rest ih =>
    cases index with
    | zero =>
      cases there
      rw [List.filter_cons_of_pos kept]
      rfl
    | succ index =>
      have later := ih there
      rw [keptIndex_succ, List.filter_cons]
      split
      · exact later
      · exact later

theorem filter_modify (there : items[index]? = some item) (kept : keep item)
    (still : keep (change item)) :
    (items.modify index change).filter keep =
      (items.filter keep).modify (keptIndex keep items index) change := by
  induction items generalizing index with
  | nil => simp at there
  | cons first rest ih =>
    cases index with
    | zero =>
      cases there
      rw [List.modify_zero_cons, List.filter_cons_of_pos still, List.filter_cons_of_pos kept,
        keptIndex_zero, List.modify_zero_cons]
    | succ index =>
      rw [List.modify_succ_cons, keptIndex_succ, List.filter_cons, List.filter_cons, ih there]
      split
      · rw [List.modify_succ_cons]
      · rfl

theorem lastIndex_filter (kept : ∀ item ∈ items, test item → keep item) :
    lastIndex test (items.filter keep) = (lastIndex test items).map (keptIndex keep items) := by
  induction items with
  | nil => rfl
  | cons first rest ih =>
    have later := ih fun item member => kept item (List.mem_cons_of_mem _ member)
    rw [List.filter_cons]
    split
    next own =>
      rw [lastIndex, lastIndex, later]
      cases lastIndex test rest with
      | none => cases test first <;> rfl
      | some place => simp [keptIndex_succ, own]
    next gone =>
      rw [lastIndex, later]
      cases lastIndex test rest with
      | none =>
        have missed : ¬test first = true := fun holds => gone (kept first List.mem_cons_self holds)
        simp [missed]
      | some place => simp [keptIndex_succ, gone]

theorem findIdx?_filter
    (kept : ∀ index item, items.findIdx? test = some index → items[index]? = some item →
      keep item) :
    (items.filter keep).findIdx? test = (items.findIdx? test).map (keptIndex keep items) := by
  induction items with
  | nil => rfl
  | cons first rest ih =>
    by_cases holds : test first = true
    · have own : keep first = true := kept 0 first (by simp [List.findIdx?_cons, holds]) rfl
      rw [List.filter_cons_of_pos own, List.findIdx?_cons, List.findIdx?_cons, if_pos holds,
        if_pos holds]
      rfl
    · have later := ih (by
        intro index item found there
        apply kept (index + 1) item ?_ there
        simp [List.findIdx?_cons, holds, found])
      rw [List.findIdx?_cons, if_neg holds, List.filter_cons, Option.map_map]
      split
      next own =>
        rw [List.findIdx?_cons, if_neg holds, later, Option.map_map]
        congr 1
        funext place
        simp [keptIndex_succ, own]
      next gone =>
        rw [later]
        congr 1
        funext place
        simp [keptIndex_succ, gone]

theorem filter_map_same (same : ∀ item, keep (change item) = keep item) :
    (items.map change).filter keep = (items.filter keep).map change := by
  rw [List.filter_map]
  congr 1
  exact List.filter_congr fun item _ => same item

end

end

end OpenJax.Shared
