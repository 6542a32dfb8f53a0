import Mathlib.Data.List.Basic

set_option autoImplicit false

/-! Programs over a state that outlives them: a crash or a failed write may stop one after any
of its steps, and the state it leaves is what the next program starts from. -/

namespace OpenJax.Shared

structure Outcome (σ κ ε α : Type) where
  result : Except ε α
  final : σ
  steps : List (κ × σ)

structure Program (σ κ ε α : Type) where
  run : σ → Outcome σ κ ε α

namespace Program

variable {σ κ ε α β : Type}

def fail (error : ε) : Program σ κ ε α := ⟨fun state => ⟨.error error, state, []⟩⟩

instance : Monad (Program σ κ ε) where
  pure value := ⟨fun state => ⟨.ok value, state, []⟩⟩
  bind first rest := ⟨fun state =>
    let reached := first.run state
    match reached.result with
    | .error error => ⟨.error error, reached.final, reached.steps⟩
    | .ok value =>
        let last := (rest value).run reached.final
        ⟨last.result, last.final, reached.steps ++ last.steps⟩⟩

def ofExcept (outcome : Except ε α) : Program σ κ ε α := ⟨fun state => ⟨outcome, state, []⟩⟩

def inspect (look : σ → Except ε α) : Program σ κ ε α := ⟨fun state => ⟨look state, state, []⟩⟩

def lastState (state : σ) (steps : List (κ × σ)) : σ := (steps.getLast?.map Prod.snd).getD state

def perform (operation : σ → Except ε α × List (κ × σ)) : Program σ κ ε α :=
  ⟨fun state =>
    let done := operation state
    ⟨done.1, lastState state done.2, done.2⟩⟩

def mapError (wrap : ε → ε) (program : Program σ κ ε α) : Program σ κ ε α :=
  ⟨fun state =>
    let reached := program.run state
    ⟨reached.result.mapError wrap, reached.final, reached.steps⟩⟩

def map (convert : α → β) (program : Program σ κ ε α) : Program σ κ ε β :=
  ⟨fun state =>
    let reached := program.run state
    ⟨reached.result.map convert, reached.final, reached.steps⟩⟩

def attempt (program : Program σ κ ε α) : Program σ κ ε (Except ε α) :=
  ⟨fun state =>
    let reached := program.run state
    ⟨.ok reached.result, reached.final, reached.steps⟩⟩

def stoppedAfter (program : Program σ κ ε α) (state : σ) : Nat → Option (Option κ × σ)
  | 0 => some (none, state)
  | count + 1 => (program.run state).steps[count]?.map fun step => (some step.1, step.2)

/-- The program ends as the first predicate says, and every state in which it may be stopped
on its way is one of the second. -/
def Establishes (program : Program σ κ ε α) (state : σ) (post : Except ε α → σ → Prop)
    (stopped : κ → σ → Prop) : Prop :=
  post (program.run state).result (program.run state).final ∧
    ∀ step ∈ (program.run state).steps, stopped step.1 step.2

def Returns (program : Program σ κ ε α) (state : σ) (ends : α → σ → Prop)
    (stopped : κ → σ → Prop) : Prop :=
  program.Establishes state (fun result final => ∃ value, result = .ok value ∧ ends value final)
    stopped

section Rules

variable {state : σ} {post : Except ε α → σ → Prop} {stopped : κ → σ → Prop}

theorem establishes_pure {value : α} (holds : post (.ok value) state) :
    (pure value : Program σ κ ε α).Establishes state post stopped :=
  ⟨holds, by simp [pure]⟩

theorem establishes_fail {error : ε} (holds : post (.error error) state) :
    (fail error : Program σ κ ε α).Establishes state post stopped :=
  ⟨holds, by simp [fail]⟩

theorem establishes_inspect {look : σ → Except ε α} (holds : post (look state) state) :
    (inspect look : Program σ κ ε α).Establishes state post stopped :=
  ⟨holds, by simp [inspect]⟩

theorem establishes_perform {operation : σ → Except ε α × List (κ × σ)}
    (holds : post (operation state).1 (lastState state (operation state).2))
    (passes : ∀ step ∈ (operation state).2, stopped step.1 step.2) :
    (perform operation).Establishes state post stopped :=
  ⟨holds, passes⟩

variable {program : Program σ κ ε α}

theorem Establishes.mono {weaker : Except ε α → σ → Prop} {later : κ → σ → Prop}
    (established : program.Establishes state post stopped)
    (ends : ∀ result final, post result final → weaker result final)
    (passes : ∀ step next, stopped step next → later step next) :
    program.Establishes state weaker later :=
  ⟨ends _ _ established.1, fun step taken => passes _ _ (established.2 step taken)⟩

variable {rest : β → Program σ κ ε α} {first : Program σ κ ε β}

theorem Establishes.bind {middle : Except ε β → σ → Prop}
    (established : first.Establishes state middle stopped)
    (fails : ∀ error next, middle (.error error) next → post (.error error) next)
    (continues : ∀ value next, middle (.ok value) next →
      (rest value).Establishes next post stopped) :
    (first >>= rest).Establishes state post stopped := by
  obtain ⟨ends, passes⟩ := established
  simp only [Establishes, Bind.bind]
  cases reached : (first.run state).result with
  | error error =>
    rw [reached] at ends
    exact ⟨fails error _ ends, passes⟩
  | ok value =>
    rw [reached] at ends
    obtain ⟨finishes, later⟩ := continues value _ ends
    refine ⟨finishes, ?_⟩
    intro step taken
    rcases List.mem_append.mp taken with early | late
    · exact passes step early
    · exact later step late

theorem Returns.bind {middle : β → σ → Prop} (returned : first.Returns state middle stopped)
    (continues : ∀ value next, middle value next → (rest value).Establishes next post stopped) :
    (first >>= rest).Establishes state post stopped := by
  apply Establishes.bind returned
  · intro error next impossible
    simp at impossible
  · intro found next reached
    obtain ⟨value, equal, holds⟩ := reached
    cases equal
    exact continues found next holds

theorem Returns.mono {ends weaker : α → σ → Prop} {later : κ → σ → Prop}
    (returned : program.Returns state ends stopped)
    (implied : ∀ value final, ends value final → weaker value final)
    (passes : ∀ step next, stopped step next → later step next) :
    program.Returns state weaker later := by
  apply Establishes.mono returned _ passes
  intro result final reached
  obtain ⟨value, equal, holds⟩ := reached
  exact ⟨value, equal, implied value final holds⟩

theorem Returns.mapError {wrap : ε → ε} {ends : α → σ → Prop}
    (returned : program.Returns state ends stopped) :
    (program.mapError wrap).Returns state ends stopped := by
  obtain ⟨⟨value, equal, holds⟩, passes⟩ := returned
  exact ⟨⟨value, by simp [Program.mapError, equal, Except.mapError], holds⟩, passes⟩

theorem Returns.attempt {ends : α → σ → Prop} (returned : program.Returns state ends stopped) :
    program.attempt.Returns state
      (fun result final => ∃ value, result = .ok value ∧ ends value final) stopped :=
  ⟨⟨_, rfl, returned.1⟩, returned.2⟩

theorem bind_run_of_value {value : β} (known : first.run state = ⟨.ok value, state, []⟩) :
    (first >>= rest).run state = (rest value).run state := by
  simp [Bind.bind, known]

theorem bind_run_of_error {error : ε} (known : first.run state = ⟨.error error, state, []⟩) :
    (first >>= rest).run state = ⟨.error error, state, []⟩ := by
  simp [Bind.bind, known]

theorem bind_result_ok {value : α} :
    ((first >>= rest).run state).result = .ok value ↔
      ∃ middle, (first.run state).result = .ok middle ∧
        ((rest middle).run (first.run state).final).result = .ok value := by
  simp only [Bind.bind]
  cases (first.run state).result <;> simp

theorem establishes_bind_of_value {value : β} (known : first.run state = ⟨.ok value, state, []⟩)
    (continues : (rest value).Establishes state post stopped) :
    (first >>= rest).Establishes state post stopped := by
  rw [Establishes, bind_run_of_value known]
  exact continues

theorem establishes_of_run {outcome : Except ε α} (known : program.run state = ⟨outcome, state, []⟩)
    (holds : post outcome state) : program.Establishes state post stopped := by
  simp [Establishes, known, holds]

theorem Establishes.map {program : Program σ κ ε β} {convert : β → α}
    (established : program.Establishes state (fun result => post (result.map convert)) stopped) :
    (program.map convert).Establishes state post stopped :=
  established

theorem Establishes.stoppedAfter (established : program.Establishes state post stopped)
    {count : Nat} {label : Option κ} {left : σ}
    (stop : program.stoppedAfter state count = some (label, left)) :
    label = none ∧ left = state ∨ ∃ step, label = some step ∧ stopped step left := by
  cases count with
  | zero =>
    simp only [Program.stoppedAfter, Option.some.injEq, Prod.mk.injEq] at stop
    exact .inl ⟨stop.1.symm, stop.2.symm⟩
  | succ count =>
    simp only [Program.stoppedAfter, Option.map_eq_some_iff, Prod.mk.injEq] at stop
    obtain ⟨step, found, rfl, rfl⟩ := stop
    exact .inr ⟨step.1, rfl, established.2 step (List.mem_of_getElem? found)⟩

end Rules

def Reaches (program : Program σ κ ε α) (state : σ) (step : κ) (kind : σ → Prop) : Prop :=
  ∃ next, (step, next) ∈ (program.run state).steps ∧ kind next

section Stops

variable {state : σ} {step : κ} {kind : σ → Prop}

theorem reaches_perform {operation : σ → Except ε α × List (κ × σ)} {next : σ}
    (listed : (step, next) ∈ (operation state).2) (holds : kind next) :
    (perform operation).Reaches state step kind :=
  ⟨next, listed, holds⟩

variable {program : Program σ κ ε α}

theorem Reaches.mono {wider : σ → Prop} (reaches : program.Reaches state step kind)
    (implied : ∀ next, kind next → wider next) : program.Reaches state step wider := by
  obtain ⟨next, taken, holds⟩ := reaches
  exact ⟨next, taken, implied next holds⟩

variable {rest : β → Program σ κ ε α} {first : Program σ κ ε β}

theorem Reaches.bind (reaches : first.Reaches state step kind) :
    (first >>= rest).Reaches state step kind := by
  obtain ⟨next, taken, holds⟩ := reaches
  refine ⟨next, ?_, holds⟩
  simp only [Bind.bind]
  cases (first.run state).result with
  | error error => exact taken
  | ok value => exact List.mem_append_left _ taken

theorem Returns.reaches_bind {ends : β → σ → Prop} {stopped : κ → σ → Prop}
    (returned : first.Returns state ends stopped)
    (continues : ∀ value middle, ends value middle → (rest value).Reaches middle step kind) :
    (first >>= rest).Reaches state step kind := by
  obtain ⟨⟨value, equal, ended⟩, _⟩ := returned
  obtain ⟨next, taken, holds⟩ := continues value _ ended
  refine ⟨next, ?_, holds⟩
  simp only [Bind.bind, equal]
  exact List.mem_append_right _ taken

theorem reaches_bind_of_value {value : β} (known : first.run state = ⟨.ok value, state, []⟩)
    (continues : (rest value).Reaches state step kind) :
    (first >>= rest).Reaches state step kind := by
  rw [Reaches, bind_run_of_value known]
  exact continues

theorem Reaches.mapError {wrap : ε → ε} (reaches : program.Reaches state step kind) :
    (program.mapError wrap).Reaches state step kind :=
  reaches

theorem Reaches.map {convert : α → β} (reaches : program.Reaches state step kind) :
    (program.map convert).Reaches state step kind :=
  reaches

theorem Reaches.stoppedAfter (reaches : program.Reaches state step kind) :
    ∃ count next, program.stoppedAfter state count = some (some step, next) ∧ kind next := by
  obtain ⟨next, taken, holds⟩ := reaches
  obtain ⟨count, found⟩ := List.mem_iff_getElem?.mp taken
  exact ⟨count + 1, next, by simp [Program.stoppedAfter, found], holds⟩

end Stops

/-- The invariant survives the program, also where it is stopped after an allowed step. -/
def Keeps (allowed : κ → Prop) (invariant : σ → Prop) (program : Program σ κ ε α) : Prop :=
  ∀ state, invariant state →
    program.Establishes state (fun _ final => invariant final)
      (fun step next => allowed step → invariant next)

section Invariants

variable {allowed : κ → Prop} {invariant : σ → Prop}

theorem keeps_pure {value : α} : Keeps allowed invariant (pure value : Program σ κ ε α) :=
  fun _ held => establishes_pure held

theorem keeps_fail {error : ε} : Keeps allowed invariant (fail error : Program σ κ ε α) :=
  fun _ held => establishes_fail held

theorem keeps_ofExcept {outcome : Except ε α} :
    Keeps allowed invariant (ofExcept outcome : Program σ κ ε α) :=
  fun _ held => ⟨held, by simp [ofExcept]⟩

theorem keeps_inspect {look : σ → Except ε α} :
    Keeps allowed invariant (inspect look : Program σ κ ε α) :=
  fun _ held => establishes_inspect held

theorem Keeps.bind {first : Program σ κ ε β} {rest : β → Program σ κ ε α}
    (kept : Keeps allowed invariant first) (continues : ∀ value, Keeps allowed invariant (rest value)) :
    Keeps allowed invariant (first >>= rest) := by
  intro state held
  apply (kept state held).bind
  · exact fun _ _ still => still
  · exact fun value next still => continues value next still

theorem Keeps.mapError {program : Program σ κ ε α} {wrap : ε → ε}
    (kept : Keeps allowed invariant program) : Keeps allowed invariant (program.mapError wrap) :=
  kept

theorem Keeps.map {program : Program σ κ ε β} {convert : β → α}
    (kept : Keeps allowed invariant program) : Keeps allowed invariant (program.map convert) :=
  kept

theorem Keeps.attempt {program : Program σ κ ε α} (kept : Keeps allowed invariant program) :
    Keeps allowed invariant program.attempt :=
  kept

end Invariants

end Program

end OpenJax.Shared
