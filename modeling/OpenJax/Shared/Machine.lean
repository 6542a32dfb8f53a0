import Mathlib.Data.Option.Basic
import Mathlib.Data.List.Nodup
import Mathlib.Data.List.Perm.Basic

set_option autoImplicit false

/-! Machines given by a partial step function: runs over a list of inputs and the invariants
of the runs whose every step meets a condition. -/

namespace OpenJax.Shared

section

variable {σ ι : Type}

def run (step : σ → ι → Option σ) (state : σ) : List ι → Option σ
  | [] => some state
  | input :: rest => (step state input).bind fun next => run step next rest

variable {step : σ → ι → Option σ}

theorem run_cons {state next : σ} {input : ι} (stepped : step state input = some next)
    (rest : List ι) : run step state (input :: rest) = run step next rest := by
  rw [run, stepped]
  rfl

variable {inputs : List ι}

theorem run_append {state next : σ} (ran : run step state inputs = some next) (rest : List ι) :
    run step state (inputs ++ rest) = run step next rest := by
  induction inputs generalizing state with
  | nil =>
    cases ran
    rfl
  | cons input inputs ih =>
    obtain ⟨middle, stepped, remaining⟩ := Option.bind_eq_some_iff.mp ran
    rw [List.cons_append, run_cons stepped, ih remaining]

def Meets (step : σ → ι → Option σ) (condition : σ → ι → Prop) (state : σ) : List ι → Prop
  | [] => True
  | input :: rest =>
      condition state input ∧
        ∀ next, step state input = some next → Meets step condition next rest

def Preserves (step : σ → ι → Option σ) (condition : σ → ι → Prop) (invariant : σ → Prop) : Prop :=
  ∀ state input next, invariant state → condition state input →
    step state input = some next → invariant next

variable {condition : σ → ι → Prop} {invariant : σ → Prop}

theorem run_invariant (preserves : Preserves step condition invariant) {state final : σ}
    (initial : invariant state) (meets : Meets step condition state inputs)
    (ran : run step state inputs = some final) : invariant final := by
  induction inputs generalizing state with
  | nil =>
    cases ran
    exact initial
  | cons input rest ih =>
    obtain ⟨next, stepped, remaining⟩ := Option.bind_eq_some_iff.mp ran
    have kept := preserves state input next initial meets.1 stepped
    exact ih kept (meets.2 next stepped) remaining

theorem run_length_le (preserves : Preserves step condition invariant) (measure : σ → Nat)
    (lessens : ∀ state input next, invariant state → condition state input →
      step state input = some next → measure next < measure state) {state final : σ}
    (initial : invariant state) (meets : Meets step condition state inputs)
    (ran : run step state inputs = some final) : inputs.length + measure final ≤ measure state := by
  induction inputs generalizing state with
  | nil =>
    cases ran
    simp
  | cons input rest ih =>
    obtain ⟨next, stepped, remaining⟩ := Option.bind_eq_some_iff.mp ran
    have later := ih (preserves state input next initial meets.1 stepped) (meets.2 next stepped)
      remaining
    have less := lessens state input next initial meets.1 stepped
    rw [List.length_cons]
    omega

instance decidableMeets {step : σ → ι → Option σ} {condition : σ → ι → Prop}
    [∀ state input, Decidable (condition state input)] :
    (state : σ) → (inputs : List ι) → Decidable (Meets step condition state inputs)
  | _, [] => inferInstanceAs (Decidable True)
  | state, input :: rest =>
      match stepped : step state input with
      | none => decidable_of_iff (condition state input) <| by
          simp [Meets, stepped]
      | some next =>
          have : Decidable (Meets step condition next rest) := decidableMeets next rest
          decidable_of_iff (condition state input ∧ Meets step condition next rest) <| by
            simp [Meets, stepped]

theorem Meets.of_inputs {condition : ι → Prop} {state : σ}
    (allowed : ∀ input ∈ inputs, condition input) :
    Meets step (fun _ input => condition input) state inputs := by
  induction inputs generalizing state with
  | nil => trivial
  | cons input rest ih =>
    exact ⟨allowed input List.mem_cons_self,
      fun _ _ => ih fun other member => allowed other (List.mem_cons_of_mem _ member)⟩

theorem Meets.mono {condition weaker : σ → ι → Prop}
    (implied : ∀ state input, condition state input → weaker state input) {state : σ}
    (meets : Meets step condition state inputs) : Meets step weaker state inputs := by
  induction inputs generalizing state with
  | nil => trivial
  | cons input rest ih =>
    exact ⟨implied state input meets.1, fun next stepped => ih (meets.2 next stepped)⟩

theorem Meets.append {state middle : σ} {inputs rest : List ι}
    (meets : Meets step condition state inputs) (ran : run step state inputs = some middle)
    (later : Meets step condition middle rest) : Meets step condition state (inputs ++ rest) := by
  induction inputs generalizing state with
  | nil =>
    cases ran
    exact later
  | cons input inputs ih =>
    refine ⟨meets.1, fun next stepped => ?_⟩
    rw [run_cons stepped] at ran
    exact ih (meets.2 next stepped) ran

theorem Meets.and {first second : σ → ι → Prop} {state : σ} (left : Meets step first state inputs)
    (right : Meets step second state inputs) :
    Meets step (fun state input => first state input ∧ second state input) state inputs := by
  induction inputs generalizing state with
  | nil => trivial
  | cons input rest ih =>
    exact ⟨⟨left.1, right.1⟩, fun next stepped => ih (left.2 next stepped) (right.2 next stepped)⟩

theorem Preserves.mono_condition {condition stronger : σ → ι → Prop}
    (preserves : Preserves step condition invariant)
    (implied : ∀ state input, stronger state input → condition state input) :
    Preserves step stronger invariant :=
  fun state input next held allowed stepped =>
    preserves state input next held (implied state input allowed) stepped

theorem Preserves.and {first second : σ → Prop} (left : Preserves step condition first)
    (right : ∀ state input next, first state → second state → condition state input →
      step state input = some next → second next) :
    Preserves step condition fun state => first state ∧ second state := by
  intro state input next held allowed stepped
  exact ⟨left state input next held.1 allowed stepped,
    right state input next held.1 held.2 allowed stepped⟩

theorem guard_bind_iff {α : Type} (condition : Prop) [Decidable condition] (rest : Option α)
    (result : α) :
    (if condition then rest else none) = some result ↔ condition ∧ rest = some result := by
  by_cases holds : condition <;> simp [holds]

end

/-! Tasks over one shared state, which take their steps one at a time and in any order. -/

/-- The task that a request starts as, and the step a task takes next: the state after it, and the
tasks that the task goes on as. A step that has to wait is none. -/
structure TaskSystem (σ τ ρ ι : Type) where
  launch : σ → ρ → σ × τ
  advance : σ → τ → ι → Option (σ × List τ)

structure Pool (σ τ : Type) where
  shared : σ
  tasks : List τ

inductive PoolInput (ρ ι : Type) where
  | start (request : ρ)
  | advance (index : Nat) (input : ι)

namespace TaskSystem

variable {σ τ ρ ι : Type} {system : TaskSystem σ τ ρ ι}

def step (system : TaskSystem σ τ ρ ι) (pool : Pool σ τ) : PoolInput ρ ι → Option (Pool σ τ)
  | .start request =>
      let (shared, task) := system.launch pool.shared request
      some ⟨shared, pool.tasks ++ [task]⟩
  | .advance index input =>
      pool.tasks[index]?.bind fun task =>
        (system.advance pool.shared task input).map fun next =>
          ⟨next.1, pool.tasks.eraseIdx index ++ next.2⟩

theorem step_advance {pool next : Pool σ τ} {index : Nat} {input : ι}
    (stepped : system.step pool (.advance index input) = some next) :
    ∃ task shared rest, pool.tasks[index]? = some task ∧
      system.advance pool.shared task input = some (shared, rest) ∧
      next = ⟨shared, pool.tasks.eraseIdx index ++ rest⟩ := by
  obtain ⟨task, chosen, stepped⟩ := Option.bind_eq_some_iff.mp stepped
  obtain ⟨advanced, taken, rfl⟩ := Option.map_eq_some_iff.mp stepped
  exact ⟨task, advanced.1, advanced.2, chosen, taken, rfl⟩

theorem perm_eraseIdx {tasks : List τ} {index : Nat} {task : τ}
    (chosen : tasks[index]? = some task) : (task :: tasks.eraseIdx index).Perm tasks := by
  obtain ⟨inside, rfl⟩ := List.getElem?_eq_some_iff.mp chosen
  exact List.getElem_cons_eraseIdx_perm inside

theorem mem_tasks {tasks : List τ} {index : Nat} {task other : τ}
    (chosen : tasks[index]? = some task) (member : other ∈ tasks) :
    other = task ∨ other ∈ tasks.eraseIdx index :=
  List.mem_cons.mp ((perm_eraseIdx chosen).mem_iff.mpr member)

section Tokens

variable {κ : Type} {token : τ → Option κ} {tasks : List τ} {index : Nat} {task : τ}

theorem token_alone (unique : (tasks.filterMap token).Nodup) (chosen : tasks[index]? = some task)
    {key : κ} (held : token task = some key) :
    ∀ other ∈ tasks.eraseIdx index, token other ≠ some key := by
  have perm := ((perm_eraseIdx chosen).filterMap token).nodup_iff.mpr unique
  rw [List.filterMap_cons_some held, List.nodup_cons] at perm
  intro other member same
  exact perm.1 (List.mem_filterMap.mpr ⟨other, member, same⟩)

theorem tokens_ended (unique : (tasks.filterMap token).Nodup) (index : Nat) :
    ((tasks.eraseIdx index).filterMap token).Nodup :=
  unique.sublist ((List.eraseIdx_sublist tasks index).filterMap token)

theorem tokens_append {next : τ} (unique : (tasks.filterMap token).Nodup)
    (alone : ∀ key, token next = some key → ∀ other ∈ tasks, token other ≠ some key) :
    ((tasks ++ [next]).filterMap token).Nodup := by
  rw [List.filterMap_append]
  cases held : token next with
  | none => simpa [held] using unique
  | some key =>
    rw [List.filterMap_cons_some held, List.filterMap_nil, ← List.concat_eq_append]
    apply unique.concat
    intro member
    obtain ⟨other, among, same⟩ := List.mem_filterMap.mp member
    exact alone key held other among same

end Tokens

theorem drain {input : ι} {shared : σ} (ends : ∀ task, system.advance shared task input =
    some (shared, [])) (tasks : List τ) :
    run system.step ⟨shared, tasks⟩ (List.replicate tasks.length (.advance 0 input)) =
      some ⟨shared, []⟩ := by
  induction tasks with
  | nil => rfl
  | cons task rest ih =>
    have first : system.step ⟨shared, task :: rest⟩ (.advance 0 input) = some ⟨shared, rest⟩ := by
      simp [step, ends]
    rw [List.length_cons, List.replicate_succ, run_cons first]
    exact ih

end TaskSystem

end OpenJax.Shared
