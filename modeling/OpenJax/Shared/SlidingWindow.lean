import Mathlib.Data.List.Basic

set_option autoImplicit false

/-! Admission by the number of calls that were let in within the window before: what a limiter
that remembers every call would answer. -/

namespace OpenJax.Shared.SlidingWindow

variable {κ : Type} [DecidableEq κ] {limit window : Nat}

structure Call (κ : Type) where
  key : κ
  now : Nat
  deriving DecidableEq

abbrev Log (κ : Type) := List (Call κ × Bool)

def admitted (log : Log κ) (key : κ) : List Nat :=
  (log.filter fun entry => entry.2 && decide (entry.1.key = key)).map fun entry => entry.1.now

def recent (window now : Nat) (times : List Nat) : List Nat :=
  times.filter fun time => now - time ≤ window

def decides (limit window : Nat) (past : Log κ) (call : Call κ) : Bool :=
  (recent window call.now (admitted past call.key)).length < limit

def answers (limit window : Nat) (past : Log κ) : List (Call κ) → Log κ
  | [] => []
  | call :: rest =>
      let entry := (call, decides limit window past call)
      entry :: answers limit window (past ++ [entry]) rest

def Clocked (calls : List (Call κ)) : Prop :=
  calls.Pairwise fun earlier later => earlier.now ≤ later.now

omit [DecidableEq κ] in
theorem Clocked.sublist {calls kept : List (Call κ)} (clocked : Clocked calls)
    (sub : kept.Sublist calls) : Clocked kept :=
  List.Pairwise.sublist sub clocked

theorem admitted_append (first second : Log κ) (key : κ) :
    admitted (first ++ second) key = admitted first key ++ admitted second key := by
  simp [admitted]

theorem admitted_refused (call : Call κ) (key : κ) : admitted [(call, false)] key = [] := rfl

theorem admitted_singleton (call : Call κ) (allowed : Bool) (key : κ) :
    admitted [(call, allowed)] key =
      if allowed = true ∧ call.key = key then [call.now] else [] := by
  by_cases holds : allowed = true ∧ call.key = key
  · simp [admitted, holds]
  · rw [if_neg holds]
    simpa [admitted] using holds

theorem mem_admitted {log : Log κ} {key : κ} {time : Nat} (member : time ∈ admitted log key) :
    ∃ entry ∈ log, entry.1.now = time := by
  obtain ⟨entry, inside, rfl⟩ := List.mem_map.mp member
  exact ⟨entry, (List.mem_filter.mp inside).1, rfl⟩

theorem recent_append (window now : Nat) (first second : List Nat) :
    recent window now (first ++ second) = recent window now first ++ recent window now second :=
  List.filter_append ..

theorem recent_recent {now later : Nat} (order : now ≤ later) (times : List Nat) :
    recent window later (recent window now times) = recent window later times := by
  unfold recent
  rw [List.filter_filter]
  apply List.filter_congr
  intro time _
  simp only [Bool.and_eq_left_iff_imp, decide_eq_true_eq]
  omega

theorem answers_calls (past : Log κ) (calls : List (Call κ)) :
    (answers limit window past calls).map Prod.fst = calls := by
  induction calls generalizing past with
  | nil => rfl
  | cons call rest ih => simp [answers, ih]

theorem answers_append (past : Log κ) (first second : List (Call κ)) :
    answers limit window past (first ++ second) =
      answers limit window past first ++
        answers limit window (past ++ answers limit window past first) second := by
  induction first generalizing past with
  | nil => simp [answers]
  | cons call rest ih => simp [answers, ih]

variable {call : Call κ} {past other : Log κ}

theorem decides_congr (same : admitted past call.key = admitted other call.key) :
    decides limit window past call = decides limit window other call := by
  rw [decides, decides, same]

theorem answers_congr
    (same : ∀ key, admitted past key = admitted other key) (calls : List (Call κ)) :
    answers limit window past calls = answers limit window other calls := by
  induction calls generalizing past other with
  | nil => rfl
  | cons call rest ih =>
    simp only [answers, decides_congr (same call.key), List.cons.injEq, true_and]
    apply ih
    intro key
    rw [admitted_append, admitted_append, same]

theorem answers_filter (key : κ) (same : admitted past key = admitted other key)
    (calls : List (Call κ)) :
    (answers limit window past calls).filter (fun entry => entry.1.key = key) =
      answers limit window other (calls.filter fun call => call.key = key) := by
  induction calls generalizing past other with
  | nil => rfl
  | cons call rest ih =>
    by_cases own : call.key = key
    · have agree : decides limit window past call = decides limit window other call :=
        decides_congr (own ▸ same)
      rw [answers, List.filter_cons_of_pos (by simpa using own),
        List.filter_cons_of_pos (by simpa using own), answers, agree]
      congr 1
      apply ih
      rw [admitted_append, admitted_append, same]
    · rw [answers, List.filter_cons_of_neg (by simpa using own),
        List.filter_cons_of_neg (by simpa using own)]
      apply ih
      rw [admitted_append, admitted_singleton, if_neg (fun both => own both.2), List.append_nil,
        same]

def within (start length : Nat) (times : List Nat) : List Nat :=
  times.filter fun time => start ≤ time ∧ time ≤ start + length

theorem within_append (start length : Nat) (first second : List Nat) :
    within start length (first ++ second) = within start length first ++
      within start length second :=
  List.filter_append ..

theorem within_length_le {start length now : Nat} (short : length ≤ window)
    (inside : now ≤ start + length) (times : List Nat) :
    (within start length times).length ≤ (recent window now times).length := by
  apply List.Sublist.length_le
  apply List.monotone_filter_right
  intro time holds
  simp only [decide_eq_true_eq] at holds ⊢
  omega

theorem answers_bounded {past : Log κ} {key : κ} {start length : Nat} (short : length ≤ window)
    (bounded : (within start length (admitted past key)).length ≤ limit)
    (calls : List (Call κ)) :
    (within start length (admitted (past ++ answers limit window past calls) key)).length ≤
      limit := by
  induction calls generalizing past with
  | nil => simpa [answers] using bounded
  | cons call rest ih =>
    rw [answers, List.append_cons]
    apply ih
    rw [admitted_append, admitted_singleton, within_append, List.length_append]
    split
    · rename_i letIn
      by_cases inside : start ≤ call.now ∧ call.now ≤ start + length
      · -- The call is let in as the last one of the interval.
        have few := of_decide_eq_true letIn.1
        have before := within_length_le short inside.2 (admitted past key)
        rw [letIn.2] at few
        simp only [within, List.filter_cons, inside, and_self, decide_true, if_true,
          List.filter_nil, List.length_singleton] at before ⊢
        omega
      · simpa [within, inside] using bounded
    · simpa [within] using bounded

variable {past before after : Log κ} {calls : List (Call κ)}

theorem answers_split {allowed : Bool}
    (answered : answers limit window past calls = before ++ (call, allowed) :: after) :
    answers limit window past (before.map Prod.fst) = before ∧
      decides limit window (past ++ before) call = allowed ∧
      answers limit window (past ++ before ++ [(call, allowed)]) (after.map Prod.fst) = after := by
  have listed : calls = before.map Prod.fst ++ call :: after.map Prod.fst := by
    rw [← answers_calls past calls, answered, List.map_append, List.map_cons]
  rw [listed, answers_append] at answered
  have lengths : (answers limit window past (before.map Prod.fst)).length = before.length := by
    rw [← List.length_map, answers_calls, List.length_map]
  obtain ⟨same, rest⟩ := List.append_inj answered lengths
  rw [same, answers] at rest
  obtain ⟨entry, others⟩ := List.cons.inj rest
  have decided : decides limit window (past ++ before) call = allowed := congrArg Prod.snd entry
  rw [decided] at others
  exact ⟨same, decided, others⟩

theorem answers_refused
    (answered : answers limit window past calls = before ++ (call, false) :: after) :
    limit ≤ (recent window call.now (admitted (past ++ before) call.key)).length := by
  have refused := (answers_split answered).2.1
  exact Nat.le_of_not_lt (of_decide_eq_false refused)

theorem answers_without
    (answered : answers limit window past calls = before ++ (call, false) :: after) :
    answers limit window past (before.map Prod.fst ++ after.map Prod.fst) = before ++ after := by
  obtain ⟨same, -, others⟩ := answers_split answered
  rw [answers_append, same]
  congr 1
  refine (answers_congr (fun key => ?_) _).trans others
  rw [admitted_append _ [(call, false)], admitted_refused, List.append_nil]

end OpenJax.Shared.SlidingWindow
