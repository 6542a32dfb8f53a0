import Mathlib.Algebra.GroupWithZero.Nat
import OpenJax.Shared.RecentKeys
import OpenJax.Shared.Rows

set_option autoImplicit false

namespace OpenJax.Gateway

open Shared SlidingWindow RecentKeys

/-- `u64::saturating_add`. -/
def saturatingAdd (first second : Nat) : Nat := min (first + second) (2 ^ 64 - 1)

def nextExpiry (ttlMs now : Nat) : Nat := saturatingAdd now ttlMs

structure AutoTitleDedupeCache where
  ttlMs : Nat
  cap : Nat
  expiresAt : Table String Nat
  order : List String

namespace AutoTitleDedupeCache

def new (ttlMs cap : Nat) : AutoTitleDedupeCache := ⟨ttlMs, max cap 1, ∅, []⟩

def evictExpiredLoop (now : Nat) (expiresAt : Table String Nat) (seen nextOrder : List String) :
    List String → Table String Nat × List String
  | [] => (expiresAt, nextOrder)
  | key :: order =>
      match expiresAt.lookup key with
      | none => evictExpiredLoop now expiresAt seen nextOrder order
      | some expiry =>
          if expiry ≤ now then evictExpiredLoop now (expiresAt.erase key) seen nextOrder order
          else if key ∈ seen then evictExpiredLoop now expiresAt seen nextOrder order
          else evictExpiredLoop now expiresAt (key :: seen) (nextOrder ++ [key]) order

def evictExpired (cache : AutoTitleDedupeCache) (now : Nat) : AutoTitleDedupeCache :=
  let evicted := evictExpiredLoop now cache.expiresAt [] [] cache.order
  { cache with expiresAt := evicted.1, order := evicted.2 }

def evictOverflowLoop (cap : Nat) (expiresAt : Table String Nat) :
    List String → Table String Nat × List String
  | [] => (expiresAt, [])
  | front :: order =>
      if expiresAt.entries.length > cap then evictOverflowLoop cap (expiresAt.erase front) order
      else (expiresAt, front :: order)

def evictOverflow (cache : AutoTitleDedupeCache) : AutoTitleDedupeCache :=
  let evicted := evictOverflowLoop cache.cap cache.expiresAt cache.order
  { cache with expiresAt := evicted.1, order := evicted.2 }

def remember (cache : AutoTitleDedupeCache) (key : String) (now : Nat) : AutoTitleDedupeCache :=
  evictOverflow
    { cache with
      expiresAt := cache.expiresAt.insert key (nextExpiry cache.ttlMs now)
      order := cache.order.filter (· ≠ key) ++ [key] }

def shouldSkip (cache : AutoTitleDedupeCache) (key : String) (now : Nat) :
    AutoTitleDedupeCache × Bool :=
  let cache := cache.evictExpired now
  match cache.expiresAt.lookup key with
  | none => (cache.remember key now, false)
  | some expiry =>
      if expiry > now then (cache, true)
      else ({ cache with expiresAt := cache.expiresAt.erase key }.remember key now, false)

def after (cache : AutoTitleDedupeCache) : List (Call String) → AutoTitleDedupeCache
  | [] => cache
  | call :: rest => (cache.shouldSkip call.key call.now).1.after rest

def admissions (cache : AutoTitleDedupeCache) : List (Call String) → List (Call String)
  | [] => []
  | call :: rest =>
      let asked := cache.shouldSkip call.key call.now
      if asked.2 then asked.1.admissions rest else call :: asked.1.admissions rest

theorem nextExpiry_monotone (ttlMs : Nat) : Monotone (nextExpiry ttlMs) := by
  intro early late order
  simp only [nextExpiry, saturatingAdd]
  omega

def Holds (ttlMs : Nat) (expiresAt : Table String Nat) (live : List (Call String)) : Prop :=
  ∀ key expiry, expiresAt.lookup key = some expiry ↔
    ∃ call ∈ live, call.key = key ∧ nextExpiry ttlMs call.now = expiry

variable {ttlMs : Nat} {expiresAt : Table String Nat} {live : List (Call String)}

theorem Holds.mem_keys (holds : Holds ttlMs expiresAt live) (key : String) :
    key ∈ expiresAt.keys ↔ key ∈ live.map Call.key := by
  rw [← AList.mem_keys, ← AList.lookup_isSome, Option.isSome_iff_exists, List.mem_map]
  constructor
  · rintro ⟨expiry, found⟩
    have ⟨call, member, same, _⟩ := (holds key expiry).mp found
    exact ⟨call, member, same⟩
  · rintro ⟨call, member, same⟩
    exact ⟨_, (holds key _).mpr ⟨call, member, same, rfl⟩⟩

theorem Holds.size (holds : Holds ttlMs expiresAt live) (nodup : (live.map Call.key).Nodup) :
    expiresAt.entries.length = live.length := by
  have same : expiresAt.keys.Perm (live.map Call.key) :=
    (List.perm_ext_iff_of_nodup expiresAt.nodupKeys nodup).mpr holds.mem_keys
  simpa [AList.keys, List.keys] using same.length_eq

theorem Holds.erase {before after : List (Call String)} {call : Call String}
    (holds : Holds ttlMs expiresAt (before ++ call :: after))
    (nodup : ((before ++ call :: after).map Call.key).Nodup) :
    Holds ttlMs (expiresAt.erase call.key) (before ++ after) := by
  have unique : ∀ other ∈ before ++ after, other.key ≠ call.key := by
    rw [(List.perm_middle.map Call.key).nodup_iff, List.map_cons, List.nodup_cons] at nodup
    intro other member same
    exact nodup.1 (List.mem_map.mpr ⟨other, member, same⟩)
  intro key expiry
  rw [Table.lookup_erase_eq]
  split_ifs with same
  · subst same
    simp only [false_iff, not_exists, not_and]
    intro other member again
    exact absurd again (unique other member)
  · rw [holds key expiry]
    have away : call.key ≠ key := fun again => same again.symm
    simp [or_and_right, exists_or, away]

theorem Holds.insert (holds : Holds ttlMs expiresAt live) {call : Call String}
    (absent : call.key ∉ live.map Call.key) :
    Holds ttlMs (expiresAt.insert call.key (nextExpiry ttlMs call.now)) (live ++ [call]) := by
  intro key expiry
  rw [Table.lookup_insert_eq]
  split_ifs with same
  · subst same
    constructor
    · rintro ⟨⟩
      exact ⟨call, List.mem_append_right _ List.mem_cons_self, rfl, rfl⟩
    · rintro ⟨other, member, again, rfl⟩
      rcases List.mem_append.mp member with old | new
      · exact absurd (List.mem_map.mpr ⟨other, old, again⟩) absent
      · rw [List.mem_singleton.mp new]
  · rw [holds key expiry]
    have away : call.key ≠ key := fun again => same again.symm
    simp [or_and_right, exists_or, away]

theorem evictExpiredLoop_correct (now : Nat) {kept rest : List (Call String)}
    (holds : Holds ttlMs expiresAt (kept ++ rest))
    (nodup : ((kept ++ rest).map Call.key).Nodup) {seen : List String}
    (same : ∀ key, key ∈ seen ↔ key ∈ kept.map Call.key) :
    ∃ remaining, evictExpiredLoop now expiresAt seen (kept.map Call.key) (rest.map Call.key) =
        (remaining, (kept ++ fresh (nextExpiry ttlMs) now rest).map Call.key) ∧
      Holds ttlMs remaining (kept ++ fresh (nextExpiry ttlMs) now rest) := by
  induction rest generalizing kept seen expiresAt with
  | nil => exact ⟨expiresAt, by simp [evictExpiredLoop, fresh], by simpa [fresh] using holds⟩
  | cons call rest ih =>
    have found : expiresAt.lookup call.key = some (nextExpiry ttlMs call.now) :=
      (holds _ _).mpr ⟨call, List.mem_append_right _ List.mem_cons_self, rfl, rfl⟩
    simp only [List.map_cons, evictExpiredLoop, found]
    split_ifs with expired known
    · have dropped : fresh (nextExpiry ttlMs) now (call :: rest) =
          fresh (nextExpiry ttlMs) now rest :=
        List.filter_cons_of_neg (by simpa using expired)
      rw [dropped]
      have fewer : (kept ++ rest).Sublist (kept ++ call :: rest) :=
        (List.sublist_cons_self call rest).append_left kept
      exact ih (holds.erase nodup) (nodup.sublist (fewer.map Call.key)) same
    · rw [same] at known
      rw [List.map_append, List.nodup_append] at nodup
      exact absurd rfl (nodup.2.2 _ known _ List.mem_cons_self)
    · have stays : fresh (nextExpiry ttlMs) now (call :: rest) =
          call :: fresh (nextExpiry ttlMs) now rest :=
        List.filter_cons_of_pos (by simpa using expired)
      rw [stays]
      have moved := @ih expiresAt (kept ++ [call]) (by simpa using holds)
        (by simpa using nodup) (call.key :: seen) (fun key => by simp [same, or_comm])
      simpa using moved

theorem evictOverflowLoop_correct (cap : Nat) (holds : Holds ttlMs expiresAt live)
    (nodup : (live.map Call.key).Nodup) :
    ∃ remaining, evictOverflowLoop cap expiresAt (live.map Call.key) =
        (remaining, (live.rtake cap).map Call.key) ∧ Holds ttlMs remaining (live.rtake cap) := by
  induction live generalizing expiresAt with
  | nil => exact ⟨expiresAt, by simp [evictOverflowLoop], by simpa using holds⟩
  | cons front live ih =>
    have size := holds.size nodup
    rw [List.map_cons, evictOverflowLoop]
    split_ifs with tooMany
    · have short : (front :: live).rtake cap = live.rtake cap :=
        rtake_append_le [front] live (by rw [size, List.length_cons] at tooMany; omega)
      rw [short]
      exact ih (@Holds.erase ttlMs expiresAt [] live front holds nodup) (List.nodup_cons.mp nodup).2
    · have whole : (front :: live).rtake cap = front :: live := rtake_of_le (by omega)
      rw [whole]
      exact ⟨expiresAt, rfl, holds⟩

structure Remembers (cache : AutoTitleDedupeCache) (live : List (Call String)) : Prop where
  order : cache.order = live.map Call.key
  holds : Holds cache.ttlMs cache.expiresAt live
  nodup : (live.map Call.key).Nodup
  few : live.length ≤ cache.cap

theorem new_remembers (ttlMs cap : Nat) : (new ttlMs cap).Remembers [] :=
  ⟨rfl, fun key expiry => by simp [new], List.nodup_nil, Nat.zero_le _⟩

variable {cache : AutoTitleDedupeCache}

theorem shouldSkip_correct {live : List (Call String)} (remembers : cache.Remembers live)
    (call : Call String) :
    (cache.shouldSkip call.key call.now).1.Remembers
        (ask cache.cap (nextExpiry cache.ttlMs) live call).1 ∧
      (cache.shouldSkip call.key call.now).2 =
        (ask cache.cap (nextExpiry cache.ttlMs) live call).2 ∧
      (cache.shouldSkip call.key call.now).1.ttlMs = cache.ttlMs ∧
      (cache.shouldSkip call.key call.now).1.cap = cache.cap := by
  have nodup := @ask_nodup _ _ cache.cap (nextExpiry cache.ttlMs) _ remembers.nodup call
  have few := @ask_length _ _ _ (nextExpiry cache.ttlMs) _ remembers.few call
  have keptNodup := remembers.nodup.sublist
    ((@fresh_sublist _ (nextExpiry cache.ttlMs) call.now live).map Call.key)
  obtain ⟨remaining, evicted, holds⟩ := @evictExpiredLoop_correct cache.ttlMs cache.expiresAt
    call.now [] live remembers.holds remembers.nodup [] (by simp)
  rw [List.map_nil, ← remembers.order, List.nil_append] at evicted
  rw [List.nil_append] at holds
  have cleaned : cache.evictExpired call.now = { cache with
      expiresAt := remaining
      order := (fresh (nextExpiry cache.ttlMs) call.now live).map
        Call.key } := by
    rw [evictExpired, evicted]
  by_cases known :
      call.key ∈ (fresh (nextExpiry cache.ttlMs) call.now live).map Call.key
  · have asked : ask cache.cap (nextExpiry cache.ttlMs) live call =
        (fresh (nextExpiry cache.ttlMs) call.now live, true) := if_pos known
    rw [asked] at nodup few ⊢
    obtain ⟨last, member, same⟩ := List.mem_map.mp known
    have found := (holds call.key _).mpr ⟨last, member, same, rfl⟩
    have unexpired := (mem_fresh.mp member).2
    simp only [shouldSkip, cleaned, found, gt_iff_lt, unexpired, if_true]
    exact ⟨⟨rfl, holds, nodup, few⟩, trivial, trivial, trivial⟩
  · have asked : ask cache.cap (nextExpiry cache.ttlMs) live call =
        ((fresh (nextExpiry cache.ttlMs) call.now live ++ [call]).rtake
          cache.cap, false) := if_neg known
    rw [asked] at nodup few ⊢
    have missing : remaining.lookup call.key = none := by
      rw [← holds.mem_keys, ← AList.mem_keys] at known
      exact AList.lookup_eq_none.mpr known
    have away : ((fresh (nextExpiry cache.ttlMs) call.now live).map
        Call.key).filter (· ≠ call.key) =
          (fresh (nextExpiry cache.ttlMs) call.now live).map Call.key := by
      apply List.filter_eq_self.mpr
      intro key member
      exact decide_eq_true fun same => known (same ▸ member)
    have together : ((fresh (nextExpiry cache.ttlMs) call.now live ++
        [call]).map Call.key).Nodup := by
      rw [List.map_append, List.nodup_append]
      refine ⟨keptNodup, by simp, fun key old other new same => ?_⟩
      rw [same, List.mem_singleton.mp new] at old
      exact known old
    obtain ⟨left, overflowed, leftHolds⟩ :=
      evictOverflowLoop_correct cache.cap (holds.insert known) together
    rw [List.map_append, List.map_singleton] at overflowed
    simp only [shouldSkip, cleaned, missing, remember, away, evictOverflow, overflowed]
    exact ⟨⟨rfl, leftHolds, nodup, few⟩, trivial, trivial, trivial⟩

theorem after_remembers {live : List (Call String)} (remembers : cache.Remembers live)
    (calls : List (Call String)) :
    ∃ later, (cache.after calls).Remembers later ∧ (cache.after calls).cap = cache.cap := by
  induction calls generalizing cache live with
  | nil => exact ⟨live, remembers, rfl⟩
  | cons call rest ih =>
    have ⟨kept, _, _, capKept⟩ := shouldSkip_correct remembers call
    have ⟨later, remembered, same⟩ := ih kept
    exact ⟨later, remembered, same.trans capKept⟩

theorem after_tracks {live admitted : List (Call String)} {clock : Nat}
    (remembers : cache.Remembers live) (room : 0 < cache.cap)
    (tracks : Tracks cache.cap (nextExpiry cache.ttlMs) admitted live clock)
    (calls : List (Call String)) (clocked : Clocked calls)
    (ahead : ∀ call ∈ calls, clock ≤ call.now) (next : Call String)
    (last : ∀ call ∈ calls, call.now ≤ next.now) (order : clock ≤ next.now) :
    ((cache.after calls).shouldSkip next.key next.now).2 = true ↔
      Remembered cache.cap (nextExpiry cache.ttlMs) (admitted ++ cache.admissions calls) next := by
  induction calls generalizing cache live admitted clock with
  | nil =>
    have ⟨_, answer, _, _⟩ := shouldSkip_correct remembers next
    rw [after, answer, admissions, List.append_nil]
    exact remembered_iff tracks (nextExpiry_monotone _) next order
  | cons call rest ih =>
    have ⟨kept, answer, ttlKept, capKept⟩ := shouldSkip_correct remembers call
    have ⟨before, later⟩ := List.pairwise_cons.mp clocked
    have tracked := ask_tracks tracks (nextExpiry_monotone _) room call
      (ahead call List.mem_cons_self)
    rw [← answer] at tracked
    rw [← ttlKept, ← capKept] at tracked kept
    rw [← capKept] at room
    have remaining := @ih (cache.shouldSkip call.key call.now).1 _ _ call.now kept room tracked
      later before (fun other member => last other (List.mem_cons_of_mem _ member))
      (last call List.mem_cons_self)
    rw [ttlKept, capKept] at remaining
    rw [after, remaining, admissions]
    split_ifs
    · rfl
    · rw [List.append_assoc, List.singleton_append]

theorem new_tracks (cap ttlMs : Nat) : @Tracks String cap (nextExpiry ttlMs) [] [] 0 :=
  ⟨List.Pairwise.nil, fun _ member => absurd member List.not_mem_nil, List.nodup_nil,
    fun _ _ => by simp⟩

/-- Whatever the clock does, the queue and the map have the same keys, once each and within the
capacity; when it does not go back, a key is skipped exactly when its last admission is neither
over nor pushed out. -/
theorem dedupe_exact (ttlMs cap : Nat) (calls : List (Call String)) :
    ((new ttlMs cap).after calls).order.Nodup ∧
      (∀ key, key ∈ ((new ttlMs cap).after calls).order ↔
        (((new ttlMs cap).after calls).expiresAt.lookup key).isSome) ∧
      ((new ttlMs cap).after calls).order.length ≤ max cap 1 ∧
      ∀ next, Clocked (calls ++ [next]) →
        ((((new ttlMs cap).after calls).shouldSkip next.key next.now).2 = true ↔
          Remembered (max cap 1) (nextExpiry ttlMs) ((new ttlMs cap).admissions calls) next) := by
  have ⟨live, remembers, capKept⟩ := after_remembers (new_remembers ttlMs cap) calls
  refine ⟨?_, fun key => ?_, ?_, fun next clocked => ?_⟩
  · rw [remembers.order]
    exact remembers.nodup
  · rw [remembers.order, ← remembers.holds.mem_keys, ← AList.mem_keys, AList.lookup_isSome]
  · rw [remembers.order, List.length_map]
    exact Nat.le_trans remembers.few (Nat.le_of_eq capKept)
  · obtain ⟨inner, _, last⟩ := List.pairwise_append.mp clocked
    exact after_tracks (new_remembers ttlMs cap) (Nat.lt_of_lt_of_le Nat.zero_lt_one
      (Nat.le_max_right cap 1)) (new_tracks _ ttlMs) calls inner (fun _ _ => Nat.zero_le _) next
      (fun call member => last call member next List.mem_cons_self) (Nat.zero_le _)

/-- A capacity of zero counts as one: a key is kept, and the next call for it is skipped. -/
theorem zero_capacity_keeps_one :
    ((new 10 0).after [⟨"k", 0⟩]).order = ["k"] ∧
      (((new 10 0).after [⟨"k", 0⟩]).shouldSkip "k" 1).2 = true ∧
      ¬ Remembered 0 (nextExpiry 10) ((new 10 0).admissions [⟨"k", 0⟩]) ⟨"k", 1⟩ := by
  refine ⟨by decide, by decide, ?_⟩
  rintro ⟨before, last, after, -, -, -, -, few⟩
  exact absurd few (Nat.not_lt_zero _)

end AutoTitleDedupeCache

end OpenJax.Gateway
