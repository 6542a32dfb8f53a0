import Mathlib.Data.List.Basic

set_option autoImplicit false

/-! A numbered log that is delivered in runs of consecutive entries. A receiver that skips what
it has applied before holds, after runs that overlap and leave no gap, what it would hold had
every entry come once. -/

namespace OpenJax.Shared

variable {σ ε : Type}

def NumberedBy (seq : ε → Nat) (log : List ε) : Prop :=
  ∀ index entry, log[index]? = some entry → seq entry = index + 1

/-- The receiver skips an entry below its position, unless that one restarts the numbering, and
moves its position to each entry that it applies. -/
structure SkipsApplied (apply : σ → ε → σ) (position : σ → Nat) (seq : ε → Nat)
    (restarts : ε → Prop) : Prop where
  skips : ∀ state entry, seq entry ≤ position state → ¬restarts entry → apply state entry = state
  advances : ∀ state entry, position state < seq entry →
    position (apply state entry) = seq entry

namespace NumberedBy

variable {seq : ε → Nat} {log : List ε}

theorem of_mem_drop (numbered : NumberedBy seq log) {start : Nat} {entry : ε}
    (member : entry ∈ log.drop start) : start < seq entry := by
  obtain ⟨index, there⟩ := List.getElem?_of_mem member
  rw [List.getElem?_drop] at there
  have number := numbered _ _ there
  omega

theorem of_mem_take (numbered : NumberedBy seq log) {count : Nat} {entry : ε}
    (member : entry ∈ log.take count) : seq entry ≤ count := by
  obtain ⟨index, there⟩ := List.getElem?_of_mem member
  rw [List.getElem?_take] at there
  split at there
  next below =>
    have number := numbered _ _ there
    omega
  · cases there

theorem filter_take (numbered : NumberedBy seq log) (count position : Nat) :
    (log.take count).filter (fun entry => position < seq entry) =
      (log.drop position).take (count - position) := by
  have head : ((log.take count).take position).filter (fun entry => position < seq entry) = [] := by
    apply List.filter_eq_nil_iff.mpr
    intro entry member
    rw [List.take_take] at member
    have bound := numbered.of_mem_take member
    simp only [decide_eq_true_eq]
    omega
  have tail : ((log.take count).drop position).filter (fun entry => position < seq entry) =
      (log.take count).drop position := by
    apply List.filter_eq_self.mpr
    intro entry member
    rw [List.drop_take] at member
    exact decide_eq_true (numbered.of_mem_drop (List.mem_of_mem_take member))
  calc (log.take count).filter (fun entry => position < seq entry)
      = ((log.take count).take position ++ (log.take count).drop position).filter
          (fun entry => position < seq entry) := by rw [List.take_append_drop]
    _ = (log.drop position).take (count - position) := by
        rw [List.filter_append, head, tail, List.nil_append, List.drop_take]

theorem filter_drop (numbered : NumberedBy seq log) (start position : Nat) :
    (log.drop start).filter (fun entry => position < seq entry) =
      log.drop (max start position) := by
  rcases Nat.le_total position start with before | behind
  · rw [Nat.max_eq_left before]
    apply List.filter_eq_self.mpr
    intro entry member
    have bound := numbered.of_mem_drop member
    exact decide_eq_true (by omega)
  · rw [Nat.max_eq_right behind]
    have head : ((log.take position).drop start).filter (fun entry => position < seq entry) =
        [] := by
      apply List.filter_eq_nil_iff.mpr
      intro entry member
      have bound := numbered.of_mem_take (List.mem_of_mem_drop member)
      simpa using bound
    have tail : (log.drop position).filter (fun entry => position < seq entry) =
        log.drop position :=
      List.filter_eq_self.mpr fun entry member => decide_eq_true (numbered.of_mem_drop member)
    have split : log.drop start = (log.take position).drop start ++ log.drop position := by
      have rest : log.drop position = (log.drop start).drop (position - start) := by
        rw [List.drop_drop, Nat.add_sub_cancel' behind]
      rw [List.drop_take, rest, List.take_append_drop]
    rw [split, List.filter_append, head, tail, List.nil_append]

theorem append (numbered : NumberedBy seq log) {entry : ε} (next : seq entry = log.length + 1) :
    NumberedBy seq (log ++ [entry]) := by
  intro index other there
  rcases Nat.lt_trichotomy index log.length with inside | rfl | outside
  · rw [List.getElem?_append_left inside] at there
    exact numbered index other there
  · rw [List.getElem?_concat_length] at there
    cases there
    exact next
  · rw [List.getElem?_eq_none (by simp; omega)] at there
    cases there

theorem pairwise (numbered : NumberedBy seq log) :
    log.Pairwise fun first second => seq first < seq second := by
  rw [List.pairwise_iff_getElem]
  intro first second inside within before
  have left := numbered first _ (List.getElem?_eq_getElem inside)
  have right := numbered second _ (List.getElem?_eq_getElem within)
  omega

theorem max_eq (numbered : NumberedBy seq log) : (log.map seq).max?.getD 0 = log.length := by
  rcases List.eq_nil_or_concat' log with rfl | ⟨front, last, rfl⟩
  · rfl
  · have greatest := numbered front.length last List.getElem?_concat_length
    have found : ((front ++ [last]).map seq).max? = some (front.length + 1) := by
      apply List.max?_eq_some_iff.mpr
      refine ⟨by simp [greatest], fun number member => ?_⟩
      obtain ⟨entry, among, rfl⟩ := List.mem_map.mp member
      obtain ⟨index, inside, rfl⟩ := List.getElem_of_mem among
      have number := numbered index _ (List.getElem?_eq_getElem inside)
      rw [List.length_append, List.length_singleton] at inside
      omega
    rw [found, Option.getD_some, List.length_append, List.length_singleton]

end NumberedBy

section

variable {apply : σ → ε → σ} {position : σ → Nat} {seq : ε → Nat} {restarts : ε → Prop}
  {log : List ε} {initial : σ}

theorem SkipsApplied.position_take (receiver : SkipsApplied apply position seq restarts)
    (numbered : NumberedBy seq log) (fresh : position initial = 0) {count : Nat}
    (inside : count ≤ log.length) :
    position ((log.take count).foldl apply initial) = count := by
  induction count with
  | zero => simpa using fresh
  | succ count ih =>
    have there : log[count]? = some log[count] := List.getElem?_eq_getElem inside
    have number := numbered _ _ there
    rw [List.take_add_one, there, Option.toList_some, List.foldl_append, List.foldl_cons,
      List.foldl_nil, receiver.advances _ _ (by rw [ih (by omega)]; omega), number]

theorem SkipsApplied.foldl_run (receiver : SkipsApplied apply position seq restarts)
    (numbered : NumberedBy seq log) (fresh : position initial = 0) {entries : List ε}
    {start reached : Nat} (run : entries <+: log.drop start) (gapless : start ≤ reached)
    (inside : reached ≤ log.length)
    (ordinary : ∀ entry ∈ entries, seq entry ≤ reached → ¬restarts entry) :
    entries.foldl apply ((log.take reached).foldl apply initial) =
      (log.take (max reached (start + entries.length))).foldl apply initial := by
  induction entries generalizing start reached with
  | nil => rw [List.length_nil, Nat.add_zero, Nat.max_eq_left gapless, List.foldl_nil]
  | cons entry rest ih =>
    have position_reached := receiver.position_take numbered fresh inside
    obtain ⟨tail, split⟩ := run
    have there : log[start]? = some entry := by
      have first := congrArg (fun entries => entries[0]?) split
      simpa using first.symm
    have following : rest <+: log.drop (start + 1) := by
      refine ⟨tail, ?_⟩
      rw [← List.drop_drop, ← split]
      rfl
    have number := numbered _ _ there
    have within : start < log.length := (List.getElem?_eq_some_iff.mp there).1
    rw [List.foldl_cons, List.length_cons]
    by_cases before : start < reached
    · have skipped := receiver.skips ((log.take reached).foldl apply initial) entry
        (by omega) (ordinary entry List.mem_cons_self (by omega))
      rw [skipped, ih following before inside fun other member =>
        ordinary other (List.mem_cons_of_mem _ member)]
      congr 3
      omega
    · obtain rfl : start = reached := by omega
      have applied : apply ((log.take start).foldl apply initial) entry =
          (log.take (start + 1)).foldl apply initial := by
        rw [List.take_add_one, there, Option.toList_some, List.foldl_append, List.foldl_cons,
          List.foldl_nil]
      rw [applied, ih following (Nat.le_refl _) within]
      · congr 2
        omega
      next =>
        -- What follows is new.
        intro other member low
        have later := numbered.of_mem_drop (following.subset member)
        omega

end

end OpenJax.Shared
