import Mathlib.Data.List.DropRight
import Mathlib.Order.Monotone.Defs
import OpenJax.Shared.SlidingWindow

set_option autoImplicit false

/-! A memory of the keys that were asked for lately: bounded in number, first in first out, each
key forgotten when its time is over. -/

namespace OpenJax.Shared.RecentKeys

open SlidingWindow

variable {κ : Type} [DecidableEq κ] {cap : Nat} {expiry : Nat → Nat}

def fresh (expiry : Nat → Nat) (now : Nat) (live : List (Call κ)) : List (Call κ) :=
  live.filter fun call => now < expiry call.now

/-- The keys that are still remembered, oldest first, and whether the call's key is one. -/
def ask (cap : Nat) (expiry : Nat → Nat) (live : List (Call κ)) (call : Call κ) :
    List (Call κ) × Bool :=
  let kept := fresh expiry call.now live
  if call.key ∈ kept.map Call.key then (kept, true) else ((kept ++ [call]).rtake cap, false)

/-- The last admission of the key is not over, and fewer than `cap` came after it. -/
def Remembered (cap : Nat) (expiry : Nat → Nat) (admitted : List (Call κ)) (call : Call κ) : Prop :=
  ∃ before last after, admitted = before ++ last :: after ∧ last.key = call.key ∧
    (∀ other ∈ after, other.key ≠ call.key) ∧
    call.now < expiry last.now ∧ after.length < cap

omit [DecidableEq κ] in
@[simp] theorem fresh_append (now : Nat) (first second : List (Call κ)) :
    fresh expiry now (first ++ second) = fresh expiry now first ++ fresh expiry now second :=
  List.filter_append ..

omit [DecidableEq κ] in
@[simp] theorem mem_fresh {now : Nat} {live : List (Call κ)} {call : Call κ} :
    call ∈ fresh expiry now live ↔ call ∈ live ∧ now < expiry call.now := by
  simp [fresh]

omit [DecidableEq κ] in
theorem fresh_sublist (now : Nat) (live : List (Call κ)) : (fresh expiry now live).Sublist live :=
  List.filter_sublist

omit [DecidableEq κ] in
theorem fresh_fresh {now later : Nat} (order : now ≤ later) (live : List (Call κ)) :
    fresh expiry later (fresh expiry now live) = fresh expiry later live := by
  unfold fresh
  rw [List.filter_filter]
  apply List.filter_congr
  intro call _
  simp only [Bool.and_eq_left_iff_imp, decide_eq_true_eq]
  omega

variable {α : Type}

theorem rtake_of_le {items : List α} {count : Nat} (few : items.length ≤ count) :
    items.rtake count = items := by
  rw [List.rtake, Nat.sub_eq_zero_of_le few, List.drop_zero]

theorem rtake_sublist (items : List α) (count : Nat) : (items.rtake count).Sublist items :=
  List.drop_sublist ..

theorem rtake_length_le (items : List α) (count : Nat) : (items.rtake count).length ≤ count := by
  rw [List.rtake, List.length_drop]
  omega

theorem rtake_append_le (before after : List α) {count : Nat} (many : count ≤ after.length) :
    (before ++ after).rtake count = after.rtake count := by
  have rest : (before ++ after).length - count = before.length + (after.length - count) := by
    rw [List.length_append]
    omega
  rw [List.rtake, rest, ← List.drop_drop, List.drop_left, List.rtake]

theorem rtake_append_ge (before after : List α) {count : Nat} (few : after.length ≤ count) :
    (before ++ after).rtake count = before.rtake (count - after.length) ++ after := by
  have rest : (before ++ after).length - count = before.length - (count - after.length) := by
    rw [List.length_append]
    omega
  rw [List.rtake, rest, List.drop_append_of_le_length (by omega), List.rtake]

omit [DecidableEq κ] in
theorem fresh_rtake (increasing : Monotone expiry) {admitted : List (Call κ)}
    (clocked : Clocked admitted) (now count : Nat) :
    (fresh expiry now admitted).rtake count = fresh expiry now (admitted.rtake count) := by
  induction admitted with
  | nil => simp [fresh]
  | cons oldest rest ih =>
    obtain ⟨before, later⟩ := List.pairwise_cons.mp clocked
    by_cases room : rest.length < count
    · have whole : (oldest :: rest).rtake count = oldest :: rest := rtake_of_le room
      have short := (@fresh_sublist _ expiry now (oldest :: rest)).length_le
      rw [whole]
      exact rtake_of_le (Nat.le_trans short room)
    · have front : (oldest :: rest).rtake count = rest.rtake count :=
        rtake_append_le [oldest] rest (Nat.not_lt.mp room)
      rw [front, ← ih later]
      by_cases unexpired : now < expiry oldest.now
      · -- the oldest is fresh, so all are, and it is the one that the count leaves out
        have all : fresh expiry now rest = rest := by
          apply List.filter_eq_self.mpr
          intro call member
          exact decide_eq_true (Nat.lt_of_lt_of_le unexpired (increasing (before call member)))
        rw [fresh, List.filter_cons_of_pos (by simpa using unexpired)]
        change (oldest :: fresh expiry now rest).rtake count = _
        rw [all]
        exact front
      · rw [fresh, List.filter_cons_of_neg (by simpa using unexpired)]
        rfl

structure Tracks (cap : Nat) (expiry : Nat → Nat) (admitted live : List (Call κ))
    (clock : Nat) : Prop where
  clocked : Clocked admitted
  elapsed : ∀ call ∈ admitted, call.now ≤ clock
  nodup : (live.map Call.key).Nodup
  counted : ∀ now, clock ≤ now →
    fresh expiry now live = fresh expiry now (admitted.rtake cap)

theorem ask_nodup {live : List (Call κ)} (nodup : (live.map Call.key).Nodup) (call : Call κ) :
    ((ask cap expiry live call).1.map Call.key).Nodup := by
  have kept := nodup.sublist ((@fresh_sublist _ expiry call.now live).map Call.key)
  unfold ask
  dsimp only
  split
  · exact kept
  next absent =>
    apply List.Nodup.sublist ((rtake_sublist _ cap).map Call.key)
    rw [List.map_append, List.nodup_append]
    refine ⟨kept, by simp, fun key old other new same => ?_⟩
    rw [same, List.mem_singleton.mp new] at old
    exact absent old

theorem ask_length {live : List (Call κ)} (few : live.length ≤ cap) (call : Call κ) :
    (ask cap expiry live call).1.length ≤ cap := by
  unfold ask
  dsimp only
  split
  · exact Nat.le_trans (fresh_sublist call.now live).length_le few
  · exact rtake_length_le ..

theorem remembered_iff {admitted live : List (Call κ)} {clock : Nat}
    (tracks : Tracks cap expiry admitted live clock) (increasing : Monotone expiry)
    (call : Call κ) (order : clock ≤ call.now) :
    (ask cap expiry live call).2 = true ↔ Remembered cap expiry admitted call := by
  have answer : (ask cap expiry live call).2 = true ↔
      call.key ∈ (fresh expiry call.now (admitted.rtake cap)).map Call.key := by
    rw [← tracks.counted call.now order]
    unfold ask
    dsimp only
    split <;> simp_all
  rw [answer]
  have nodup : ((fresh expiry call.now (admitted.rtake cap)).map Call.key).Nodup := by
    rw [← tracks.counted call.now order]
    exact tracks.nodup.sublist ((fresh_sublist call.now live).map Call.key)
  constructor
  · intro member
    obtain ⟨last, inside, same⟩ := List.mem_map.mp member
    obtain ⟨recent, unexpired⟩ := mem_fresh.mp inside
    obtain ⟨front, after, split⟩ := List.append_of_mem recent
    have whole : admitted = admitted.take (admitted.length - cap) ++ (front ++ last :: after) := by
      rw [← split, List.rtake, List.take_append_drop]
    have few := rtake_length_le admitted cap
    refine ⟨admitted.take (admitted.length - cap) ++ front, last, after, ?_, same, ?_,
      unexpired, ?_⟩
    · rw [List.append_assoc]
      exact whole
    · -- a later admission of the key would be fresh too, and the key twice among the fresh
      intro other member again
      have clocked := tracks.clocked
      rw [whole] at clocked
      have later : last.now ≤ other.now :=
        (List.pairwise_cons.mp (List.pairwise_append.mp
          (List.pairwise_append.mp clocked).2.1).2.1).1 other member
      have still : other ∈ fresh expiry call.now after :=
        mem_fresh.mpr ⟨member, Nat.lt_of_lt_of_le unexpired (increasing later)⟩
      have head : fresh expiry call.now (last :: after) = last :: fresh expiry call.now after :=
        List.filter_cons_of_pos (by simpa using unexpired)
      rw [split, fresh_append, head, List.map_append, List.nodup_append, List.map_cons,
        List.nodup_cons] at nodup
      exact nodup.2.1.1 (List.mem_map.mpr ⟨other, still, again.trans same.symm⟩)
    · rw [split, List.length_append, List.length_cons] at few
      omega
  · rintro ⟨before, last, after, rfl, same, -, unexpired, few⟩
    have recent : last ∈ (before ++ last :: after).rtake cap := by
      have split := rtake_append_ge (before ++ [last]) after (Nat.le_of_lt few)
      rw [List.append_assoc, List.singleton_append] at split
      have one : cap - after.length = cap - after.length - 1 + 1 := by omega
      rw [split, one, List.rtake_concat_succ]
      simp
    exact List.mem_map.mpr ⟨last, mem_fresh.mpr ⟨recent, unexpired⟩, same⟩

theorem ask_tracks {admitted live : List (Call κ)} {clock : Nat}
    (tracks : Tracks cap expiry admitted live clock) (increasing : Monotone expiry)
    (room : 0 < cap) (call : Call κ) (order : clock ≤ call.now) :
    Tracks cap expiry
      (if (ask cap expiry live call).2 then admitted else admitted ++ [call])
      (ask cap expiry live call).1 call.now := by
  have nodup := @ask_nodup _ _ cap expiry _ tracks.nodup call
  have kept := tracks.counted call.now order
  by_cases known : call.key ∈ (fresh expiry call.now live).map Call.key
  · have asked : ask cap expiry live call = (fresh expiry call.now live, true) := if_pos known
    rw [asked] at nodup ⊢
    refine ⟨tracks.clocked, fun other member => Nat.le_trans (tracks.elapsed other member) order,
      nodup, fun later later_order => ?_⟩
    rw [fresh_fresh later_order]
    exact tracks.counted later (Nat.le_trans order later_order)
  · have asked : ask cap expiry live call =
        ((fresh expiry call.now live ++ [call]).rtake cap, false) := if_neg known
    rw [asked] at nodup ⊢
    refine ⟨?_, ?_, nodup, fun later later_order => ?_⟩
    · apply List.pairwise_append.mpr
      refine ⟨tracks.clocked, List.pairwise_singleton .., fun early member late new => ?_⟩
      rw [List.mem_singleton.mp new]
      exact Nat.le_trans (tracks.elapsed early member) order
    · intro other member
      rcases List.mem_append.mp member with old | new
      · exact Nat.le_trans (tracks.elapsed other old) order
      · rw [List.mem_singleton.mp new]
    · obtain ⟨rest, rfl⟩ : ∃ rest, cap = rest + 1 := ⟨cap - 1, by omega⟩
      have clocked : Clocked (admitted.rtake (rest + 1)) :=
        tracks.clocked.sublist (rtake_sublist ..)
      have narrowed : (admitted.rtake (rest + 1)).rtake rest = admitted.rtake rest := by
        rw [List.rtake, List.rtake, List.rtake, List.length_drop, List.drop_drop]
        congr 1
        omega
      simp only [Bool.false_eq_true, if_false, List.rtake_concat_succ, fresh_append]
      rw [kept, fresh_rtake increasing clocked, narrowed, fresh_fresh later_order]

end OpenJax.Shared.RecentKeys
