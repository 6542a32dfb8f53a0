import OpenJax.Shared.SlidingWindow
import OpenJax.Shared.Rows

set_option autoImplicit false

namespace OpenJax.Gateway

open Shared SlidingWindow

structure SlidingWindowRateLimiter where
  limit : Nat
  window : Nat
  buckets : Table String (List Nat)

namespace SlidingWindowRateLimiter

def new (limit window : Nat) : SlidingWindowRateLimiter := ⟨limit, window, ∅⟩

def bucket (limiter : SlidingWindowRateLimiter) (key : String) : List Nat :=
  (limiter.buckets.lookup key).getD []

def popExpired (window now : Nat) : List Nat → List Nat
  | [] => []
  | ts :: rest => if now - ts ≤ window then ts :: rest else popExpired window now rest

def allow (limiter : SlidingWindowRateLimiter) (key : String) (now : Nat) :
    SlidingWindowRateLimiter × Bool :=
  let bucket := popExpired limiter.window now (limiter.bucket key)
  if bucket.length ≥ limiter.limit then
    ({ limiter with buckets := limiter.buckets.insert key bucket }, false)
  else ({ limiter with buckets := limiter.buckets.insert key (bucket ++ [now]) }, true)

def serve (limiter : SlidingWindowRateLimiter) : List (Call String) → Log String
  | [] => []
  | call :: rest =>
      (call, (limiter.allow call.key call.now).2) ::
        (limiter.allow call.key call.now).1.serve rest

theorem popExpired_correct (window now : Nat) {bucket : List Nat}
    (sorted : bucket.Pairwise (· ≤ ·)) : popExpired window now bucket = recent window now bucket := by
  induction bucket with
  | nil => rfl
  | cons ts rest ih =>
    rw [List.pairwise_cons] at sorted
    by_cases kept : now - ts ≤ window
    · have all : recent window now rest = rest := by
        apply List.filter_eq_self.mpr
        intro later member
        have order := sorted.1 later member
        simp only [decide_eq_true_eq]
        omega
      rw [popExpired, if_pos kept, recent, List.filter_cons_of_pos (by simpa using kept)]
      exact congrArg (ts :: ·) all.symm
    · rw [popExpired, if_neg kept, recent, List.filter_cons_of_neg (by simpa using kept)]
      exact ih sorted.2

structure Tracks (limiter : SlidingWindowRateLimiter) (past : Log String) (clock : Nat) :
    Prop where
  sorted : ∀ key, (limiter.bucket key).Pairwise (· ≤ ·)
  elapsed : ∀ key, ∀ time ∈ limiter.bucket key, time ≤ clock
  counted : ∀ key now, clock ≤ now →
    recent limiter.window now (limiter.bucket key) =
      recent limiter.window now (admitted past key)

theorem allow_limit (limiter : SlidingWindowRateLimiter) (key : String) (now : Nat) :
    (limiter.allow key now).1.limit = limiter.limit ∧
      (limiter.allow key now).1.window = limiter.window := by
  unfold allow
  dsimp only
  split <;> exact ⟨rfl, rfl⟩

variable {limiter : SlidingWindowRateLimiter} {past : Log String} {clock : Nat}

theorem allow_answer (tracks : limiter.Tracks past clock) (call : Call String)
    (order : clock ≤ call.now) :
    (limiter.allow call.key call.now).2 = decides limiter.limit limiter.window past call := by
  rw [decides, ← tracks.counted call.key call.now order,
    ← popExpired_correct limiter.window call.now (tracks.sorted call.key)]
  unfold allow
  dsimp only
  split
  · rename_i full
    exact (decide_eq_false (Nat.not_lt.mpr full)).symm
  · rename_i few
    exact (decide_eq_true (Nat.not_le.mp few)).symm

theorem allow_bucket (tracks : limiter.Tracks past clock) (call : Call String)
    (order : clock ≤ call.now) (key : String) :
    (limiter.allow call.key call.now).1.bucket key =
      if key = call.key then recent limiter.window call.now (limiter.bucket key) ++
        admitted [(call, decides limiter.limit limiter.window past call)] key
      else limiter.bucket key := by
  rw [← allow_answer tracks call order]
  unfold allow
  dsimp only
  rw [popExpired_correct limiter.window call.now (tracks.sorted call.key)]
  split <;> simp only [bucket, Table.lookup_insert_eq, admitted_singleton]
  · split
    · rename_i same
      subst same
      simp
    · rfl
  · split
    · rename_i same
      subst same
      simp
    · rfl

theorem allow_tracks (tracks : limiter.Tracks past clock) (call : Call String)
    (order : clock ≤ call.now) :
    (limiter.allow call.key call.now).1.Tracks
      (past ++ [(call, decides limiter.limit limiter.window past call)]) call.now := by
  have added (key : String) :
      ∀ time ∈ admitted [(call, decides limiter.limit limiter.window past call)] key,
        time = call.now := by
    intro time member
    obtain ⟨entry, inside, rfl⟩ := mem_admitted member
    rw [List.mem_singleton.mp inside]
  refine ⟨fun key => ?_, fun key time member => ?_, fun key later later_order => ?_⟩
  · rw [allow_bucket tracks call order]
    split
    · rw [List.pairwise_append]
      refine ⟨(tracks.sorted key).sublist List.filter_sublist, ?_, ?_⟩
      · rw [admitted_singleton]
        split <;> simp
      · intro early old late new
        rw [added key late new]
        exact Nat.le_trans (tracks.elapsed key early (List.mem_of_mem_filter old)) order
    · exact tracks.sorted key
  · rw [allow_bucket tracks call order] at member
    split at member
    · rcases List.mem_append.mp member with old | new
      · exact Nat.le_trans (tracks.elapsed key time (List.mem_of_mem_filter old)) order
      · exact Nat.le_of_eq (added key time new)
    · exact Nat.le_trans (tracks.elapsed key time member) order
  · have counted := tracks.counted key later (Nat.le_trans order later_order)
    rw [(allow_limit limiter call.key call.now).2, allow_bucket tracks call order,
      admitted_append, recent_append, ← counted]
    split
    · rw [recent_append, recent_recent later_order]
    · rename_i other
      rw [admitted_singleton, if_neg fun both => other both.2.symm]
      simp [recent]

theorem serve_answers (tracks : limiter.Tracks past clock) {calls : List (Call String)}
    (clocked : Clocked calls) (order : ∀ call ∈ calls, clock ≤ call.now) :
    limiter.serve calls = answers limiter.limit limiter.window past calls := by
  induction calls generalizing limiter past clock with
  | nil => rfl
  | cons call rest ih =>
    have now := order call List.mem_cons_self
    have later := List.pairwise_cons.mp clocked
    have kept := allow_limit limiter call.key call.now
    have served := ih (allow_tracks tracks call now) later.2 later.1
    rw [kept.1, kept.2] at served
    rw [serve, served, allow_answer tracks call now]
    rfl

theorem new_tracks (limit window : Nat) : (new limit window).Tracks [] 0 :=
  ⟨fun _ => List.Pairwise.nil, nofun, fun _ _ _ => rfl⟩

theorem new_serve (limit window : Nat) {calls : List (Call String)} (clocked : Clocked calls) :
    (new limit window).serve calls = answers limit window [] calls :=
  serve_answers (new_tracks limit window) clocked fun _ _ => Nat.zero_le _

/-- What the limiter's answers to the calls of a clock that does not go back are. -/
structure Exact (limit window : Nat) (calls : List (Call String)) : Prop where
  bounded : ∀ key start length, length ≤ window →
    (within start length (admitted ((new limit window).serve calls) key)).length ≤ limit
  refused : ∀ before call after, (new limit window).serve calls = before ++ (call, false) :: after →
    limit ≤ (recent window call.now (admitted before call.key)).length
  unconsumed : ∀ before call after,
    (new limit window).serve calls = before ++ (call, false) :: after →
      (new limit window).serve (before.map Prod.fst ++ after.map Prod.fst) = before ++ after
  independent : ∀ key,
    ((new limit window).serve calls).filter (fun entry => entry.1.key = key) =
      (new limit window).serve (calls.filter fun call => call.key = key)

theorem rate_limiter_exact (limit window : Nat) (calls : List (Call String))
    (clocked : Clocked calls) : Exact limit window calls := by
  have served := new_serve limit window clocked
  have bounded (key : String) (start length : Nat) (short : length ≤ window) :
      (within start length (admitted ((new limit window).serve calls) key)).length ≤ limit := by
    rw [served]
    have empty : (within start length (admitted ([] : Log String) key)).length ≤ limit :=
      Nat.zero_le limit
    exact answers_bounded short empty calls
  refine ⟨bounded, fun before call after answered => ?_, fun before call after answered => ?_,
    fun key => ?_⟩
  · exact answers_refused (served.symm.trans answered)
  · have kept := answers_without (served.symm.trans answered)
    rw [new_serve limit window, kept]
    have sub : (before ++ after).Sublist (before ++ (call, false) :: after) :=
      (List.sublist_cons_self (call, false) after).append_left before
    have listed : calls = (before ++ (call, false) :: after).map Prod.fst := by
      rw [← answered, served, answers_calls]
    rw [← List.map_append]
    exact clocked.sublist (listed ▸ sub.map Prod.fst)
  · rw [served, new_serve limit window (clocked.sublist List.filter_sublist)]
    exact answers_filter key rfl calls

theorem rate_limiter_exact_minute :
    let calls : List (Call String) := [⟨"owner", 0⟩, ⟨"other", 10⟩, ⟨"owner", 60⟩, ⟨"owner", 61⟩]
    (new 1 60).serve calls = calls.zip [true, true, false, true] ∧ Exact 1 60 calls :=
  ⟨by decide +kernel, rate_limiter_exact 1 60 _ (by unfold Clocked; decide)⟩

end SlidingWindowRateLimiter

end OpenJax.Gateway
