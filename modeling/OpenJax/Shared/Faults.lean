import Mathlib.Init

set_option autoImplicit false

/-! Programs that make calls on the world around them. A call may fail, or the whole program be
stopped in it, when the call is done in part; which of it happens is given for each call. -/

namespace OpenJax.Shared

/-- How a call goes, with how much of it is done where it does not go well. -/
inductive CallAnswer where
  | proceeds
  | fails (done : Nat)
  | stops (done : Nat)
  deriving DecidableEq

inductive Ending (ε α : Type) where
  | value (value : α)
  | failed (error : ε)
  | stopped

/-- `κ` names the calls. -/
structure FaultProgram (κ σ ε α : Type) where
  run : (κ → CallAnswer) → σ → Ending ε α × σ

namespace FaultProgram

variable {κ σ ε α β : Type}

instance : Monad (FaultProgram κ σ ε) where
  pure value := ⟨fun _ state => (.value value, state)⟩
  bind first rest := ⟨fun answers state =>
    match first.run answers state with
    | (.value value, next) => (rest value).run answers next
    | (.failed error, next) => (.failed error, next)
    | (.stopped, next) => (.stopped, next)⟩

def fail (error : ε) : FaultProgram κ σ ε α := ⟨fun _ state => (.failed error, state)⟩

def inspect (look : σ → α) : FaultProgram κ σ ε α := ⟨fun _ state => (.value (look state), state)⟩

def modify (change : σ → σ) : FaultProgram κ σ ε Unit :=
  ⟨fun _ state => (.value (), change state)⟩

def attempt (program : FaultProgram κ σ ε α) : FaultProgram κ σ ε (Except ε α) :=
  ⟨fun answers state =>
    match program.run answers state with
    | (.value value, next) => (.value (.ok value), next)
    | (.failed error, next) => (.value (.error error), next)
    | (.stopped, next) => (.stopped, next)⟩

def mapError (wrap : ε → ε) (program : FaultProgram κ σ ε α) : FaultProgram κ σ ε α :=
  ⟨fun answers state =>
    match program.run answers state with
    | (.failed error, next) => (.failed (wrap error), next)
    | other => other⟩

def ofExcept : Except ε α → FaultProgram κ σ ε α
  | .ok value => pure value
  | .error error => fail error

/-- The call does what it does to the state, unless it is cut short or the state forbids it. -/
def call (site : κ) (error : ε) (perform : σ → Except ε (α × σ)) (partly : Nat → σ → σ) :
    FaultProgram κ σ ε α :=
  ⟨fun answers state =>
    match answers site with
    | .proceeds =>
        match perform state with
        | .ok (value, next) => (.value value, next)
        | .error refused => (.failed refused, state)
    | .fails done => (.failed error, partly done state)
    | .stops done => (.stopped, partly done state)⟩

def atomicCall (site : κ) (error : ε) (perform : σ → Except ε (α × σ)) : FaultProgram κ σ ε α :=
  call site error perform fun _ state => state

def quietCall (site : κ) (error : ε) (look : σ → Except ε α) : FaultProgram κ σ ε α :=
  atomicCall site error fun state => (look state).map fun value => (value, state)

def within {ι τ δ : Type} (part : σ → τ) (put : τ → σ → σ) (site : ι → κ) (wrap : δ → ε)
    (program : FaultProgram ι τ δ α) : FaultProgram κ σ ε α :=
  ⟨fun answers state =>
    match program.run (answers ∘ site) (part state) with
    | (.value value, changed) => (.value value, put changed state)
    | (.failed error, changed) => (.failed (wrap error), put changed state)
    | (.stopped, changed) => (.stopped, put changed state)⟩

structure Ends (σ ε α : Type) where
  value : α → σ → Prop
  failed : ε → σ → Prop
  stopped : σ → Prop

def Ends.of (ends : Ends σ ε α) : Ending ε α × σ → Prop
  | (.value value, state) => ends.value value state
  | (.failed error, state) => ends.failed error state
  | (.stopped, state) => ends.stopped state

/-- From every state that meets the precondition the program ends as described, when its calls
go as given. -/
def Triple (answers : κ → CallAnswer) (pre : σ → Prop) (program : FaultProgram κ σ ε α)
    (ends : Ends σ ε α) : Prop :=
  ∀ state, pre state → ends.of (program.run answers state)

section Rules

variable {answers : κ → CallAnswer} {pre : σ → Prop} {ends : Ends σ ε α}

theorem triple_pure {value : α} (holds : ∀ state, pre state → ends.value value state) :
    Triple answers pre (pure value) ends :=
  holds

variable {error : ε}

theorem triple_fail (holds : ∀ state, pre state → ends.failed error state) :
    Triple answers pre (fail error) ends :=
  holds

theorem triple_inspect {look : σ → α} (holds : ∀ state, pre state → ends.value (look state) state) :
    Triple answers pre (inspect look) ends :=
  holds

theorem triple_modify {change : σ → σ} {ends : Ends σ ε Unit}
    (holds : ∀ state, pre state → ends.value () (change state)) :
    Triple answers pre (modify change) ends :=
  holds

theorem triple_ofExcept {outcome : Except ε α}
    (value : ∀ state found, outcome = .ok found → pre state → ends.value found state)
    (failed : ∀ state error, outcome = .error error → pre state → ends.failed error state) :
    Triple answers pre (ofExcept outcome) ends := by
  cases outcome with
  | ok found => exact fun state holds => value state found rfl holds
  | error error => exact fun state holds => failed state error rfl holds

variable {rest : β → FaultProgram κ σ ε α}

theorem Triple.bind {first : FaultProgram κ σ ε β} (middle : β → σ → Prop)
    (begun : Triple answers pre first ⟨middle, ends.failed, ends.stopped⟩)
    (continued : ∀ value, Triple answers (middle value) (rest value) ends) :
    Triple answers pre (first >>= rest) ends := by
  intro state holds
  have reached := begun state holds
  simp only [Bind.bind]
  generalize first.run answers state = outcome at reached ⊢
  match outcome, reached with
  | (.value value, next), reached => exact continued value next reached
  | (.failed error, next), reached => exact reached
  | (.stopped, next), reached => exact reached

variable {program : FaultProgram κ σ ε α}

theorem Triple.mono {weaker : Ends σ ε α} (triple : Triple answers pre program ends)
    (value : ∀ found state, ends.value found state → weaker.value found state)
    (failed : ∀ error state, ends.failed error state → weaker.failed error state)
    (stopped : ∀ state, ends.stopped state → weaker.stopped state) :
    Triple answers pre program weaker := by
  intro state holds
  have reached := triple state holds
  generalize program.run answers state = outcome at reached ⊢
  match outcome, reached with
  | (.value found, next), reached => exact value found next reached
  | (.failed error, next), reached => exact failed error next reached
  | (.stopped, next), reached => exact stopped next reached

theorem Triple.mono_value {weaker : α → σ → Prop} (triple : Triple answers pre program ends)
    (value : ∀ found state, ends.value found state → weaker found state) :
    Triple answers pre program ⟨weaker, ends.failed, ends.stopped⟩ :=
  triple.mono value (fun _ _ => id) fun _ => id

theorem Triple.strengthen {stronger : σ → Prop} (triple : Triple answers pre program ends)
    (implied : ∀ state, stronger state → pre state) : Triple answers stronger program ends :=
  fun state holds => triple state (implied state holds)

theorem Triple.attempt {after : Ends σ ε (Except ε α)} (triple : Triple answers pre program
      ⟨fun found => after.value (.ok found), fun error => after.value (.error error),
        after.stopped⟩) :
    Triple answers pre program.attempt after := by
  intro state holds
  have reached := triple state holds
  simp only [FaultProgram.attempt]
  generalize program.run answers state = outcome at reached ⊢
  match outcome, reached with
  | (.value found, next), reached => exact reached
  | (.failed error, next), reached => exact reached
  | (.stopped, next), reached => exact reached

variable {perform : σ → Except ε (α × σ)}

theorem triple_call {site : κ} {partly : Nat → σ → σ}
    (performs : ∀ state value next, answers site = .proceeds → pre state →
      perform state = .ok (value, next) → ends.value value next)
    (refuses : ∀ state refused, pre state → perform state = .error refused →
      ends.failed refused state) (fails : ∀ state done, answers site = .fails done → pre state →
      ends.failed error (partly done state))
    (stops : ∀ state done, answers site = .stops done → pre state →
      ends.stopped (partly done state)) :
    Triple answers pre (call site error perform partly) ends := by
  intro state holds
  simp only [call]
  cases answer : answers site with
  | proceeds =>
    cases done : perform state with
    | ok reached => exact performs state reached.1 reached.2 answer holds done
    | error refused => exact refuses state refused holds done
  | fails done => exact fails state done answer holds
  | stops done => exact stops state done answer holds

theorem triple_atomicCall {site : κ}
    (performs : ∀ state value next, pre state → perform state = .ok (value, next) →
      ends.value value next) (fails : ∀ state error, pre state → ends.failed error state)
    (stops : ∀ state, pre state → ends.stopped state) :
    Triple answers pre (atomicCall site error perform) ends :=
  triple_call (fun state value next _ holds done => performs state value next holds done)
    (fun state refused holds _ => fails state refused holds)
    (fun state _ _ holds => fails state error holds) (fun state _ _ holds => stops state holds)

theorem triple_quietCall_cases {site : κ} {look : σ → Except ε α}
    (looks : ∀ state value, pre state → look state = .ok value → ends.value value state)
    (refuses : ∀ state refused, pre state → look state = .error refused →
      ends.failed refused state)
    (fails : ∀ state done, answers site = .fails done → pre state → ends.failed error state)
    (stops : ∀ state done, answers site = .stops done → pre state → ends.stopped state) :
    Triple answers pre (quietCall site error look) ends := by
  apply triple_call
  · intro state value next _ holds done
    cases seen : look state with
    | error refused => simp [seen, Except.map] at done
    | ok found =>
      simp only [seen, Except.map, Except.ok.injEq, Prod.mk.injEq] at done
      obtain ⟨rfl, rfl⟩ := done
      exact looks state found holds seen
  · intro state refused holds done
    cases seen : look state with
    | error because =>
      simp only [seen, Except.map, Except.error.injEq] at done
      exact done ▸ refuses state because holds seen
    | ok found => simp [seen, Except.map] at done
  · exact fails
  · exact stops

theorem triple_quietCall {site : κ} {look : σ → Except ε α}
    (looks : ∀ state value, pre state → look state = .ok value → ends.value value state)
    (fails : ∀ state error, pre state → ends.failed error state)
    (stops : ∀ state, pre state → ends.stopped state) :
    Triple answers pre (quietCall site error look) ends :=
  triple_quietCall_cases looks (fun state refused holds _ => fails state refused holds)
    (fun state _ _ holds => fails state error holds) fun state _ _ holds => stops state holds

theorem Triple.either {other : σ → Prop} (first : Triple answers pre program ends)
    (second : Triple answers other program ends) :
    Triple answers (fun state => pre state ∨ other state) program ends :=
  fun state holds => holds.elim (first state) (second state)

theorem Triple.given {condition : Prop} (triple : condition → Triple answers pre program ends) :
    Triple answers (fun state => condition ∧ pre state) program ends :=
  fun state holds => triple holds.1 state holds.2

theorem Triple.look {look : σ → β}
    (continued : ∀ seen, Triple answers (fun state => pre state ∧ look state = seen) (rest seen)
      ends) :
    Triple answers pre (inspect look >>= rest) ends :=
  Triple.bind (fun seen state => pre state ∧ look state = seen)
    (triple_inspect fun _ holds => ⟨holds, rfl⟩) continued

theorem Triple.tried {program : FaultProgram κ σ ε β} {rest : Except ε β → FaultProgram κ σ ε α}
    (value : β → σ → Prop) (failed : ε → σ → Prop)
    (tried : Triple answers pre program ⟨value, failed, ends.stopped⟩)
    (done : ∀ found, Triple answers (value found) (rest (.ok found)) ends)
    (handled : ∀ error, Triple answers (failed error) (rest (.error error)) ends) :
    Triple answers pre (program.attempt >>= rest) ends := by
  apply Triple.bind fun
    | .ok found => value found
    | .error error => failed error
  · exact tried.attempt
  · intro outcome
    cases outcome with
    | ok found => exact done found
    | error error => exact handled error

theorem Triple.and {other : σ → Prop} {others : Ends σ ε α}
    (first : Triple answers pre program ends) (second : Triple answers other program others) :
    Triple answers (fun state => pre state ∧ other state) program
      ⟨fun found state => ends.value found state ∧ others.value found state,
        fun error state => ends.failed error state ∧ others.failed error state,
        fun state => ends.stopped state ∧ others.stopped state⟩ := by
  intro state holds
  have left := first state holds.1
  have right := second state holds.2
  generalize program.run answers state = outcome at left right ⊢
  match outcome, left, right with
  | (.value found, next), left, right => exact ⟨left, right⟩
  | (.failed error, next), left, right => exact ⟨left, right⟩
  | (.stopped, next), left, right => exact ⟨left, right⟩

theorem triple_ite {condition : Prop} [Decidable condition] {first second : FaultProgram κ σ ε α}
    (yes : condition → Triple answers pre first ends)
    (no : ¬ condition → Triple answers pre second ends) :
    Triple answers pre (if condition then first else second) ends := by
  split
  case isTrue holds => exact yes holds
  case isFalse fails => exact no fails

end Rules

def Leaves {β : Type} (view : σ → β) (program : FaultProgram κ σ ε α) : Prop :=
  ∀ answers state, view (program.run answers state).2 = view state

def Ends.always (invariant : σ → Prop) : Ends σ ε α :=
  ⟨fun _ => invariant, fun _ => invariant, invariant⟩

theorem Triple.always_run {answers : κ → CallAnswer} {pre invariant : σ → Prop}
    {program : FaultProgram κ σ ε α} (triple : Triple answers pre program (.always invariant))
    {state : σ} (holds : pre state) : invariant (program.run answers state).2 := by
  have reached := triple state holds
  generalize program.run answers state = outcome at reached ⊢
  match outcome, reached with
  | (.value _, next), reached => exact reached
  | (.failed _, next), reached => exact reached
  | (.stopped, next), reached => exact reached

section Leaves

variable {γ : Type} {view : σ → γ}

theorem leaves_pure (value : α) : Leaves view (pure value : FaultProgram κ σ ε α) :=
  fun _ _ => rfl

theorem leaves_fail (error : ε) : Leaves view (fail error : FaultProgram κ σ ε α) :=
  fun _ _ => rfl

theorem leaves_inspect (look : σ → α) : Leaves view (inspect look : FaultProgram κ σ ε α) :=
  fun _ _ => rfl

theorem leaves_modify {change : σ → σ} (same : ∀ state, view (change state) = view state) :
    Leaves view (modify change : FaultProgram κ σ ε Unit) :=
  fun _ => same

theorem Leaves.bind {first : FaultProgram κ σ ε β} {rest : β → FaultProgram κ σ ε α}
    (begun : Leaves view first) (continued : ∀ value, Leaves view (rest value)) :
    Leaves view (first >>= rest) := by
  intro answers state
  have same := begun answers state
  simp only [Bind.bind]
  generalize first.run answers state = outcome at same ⊢
  match outcome, same with
  | (.value value, next), same => exact (continued value answers next).trans same
  | (.failed error, next), same => exact same
  | (.stopped, next), same => exact same

variable {program : FaultProgram κ σ ε α}

theorem Leaves.attempt (leaves : Leaves view program) : Leaves view program.attempt := by
  intro answers state
  have same := leaves answers state
  simp only [FaultProgram.attempt]
  generalize program.run answers state = outcome at same ⊢
  match outcome, same with
  | (.value found, next), same => exact same
  | (.failed error, next), same => exact same
  | (.stopped, next), same => exact same

theorem leaves_ite {condition : Prop} [Decidable condition] {first second : FaultProgram κ σ ε α}
    (yes : Leaves view first) (no : Leaves view second) :
    Leaves view (if condition then first else second) := by
  split
  · exact yes
  · exact no

variable {perform : σ → Except ε (α × σ)}

theorem leaves_call {site : κ} {error : ε} {partly : Nat → σ → σ}
    (performs : ∀ state value next, perform state = .ok (value, next) → view next = view state)
    (cut : ∀ done state, view (partly done state) = view state) :
    Leaves view (call site error perform partly) := by
  intro answers state
  simp only [call]
  cases answers site with
  | proceeds =>
    cases done : perform state with
    | ok reached => exact performs state reached.1 reached.2 done
    | error refused => rfl
  | fails done => exact cut done state
  | stops done => exact cut done state

theorem leaves_atomicCall {site : κ} {error : ε}
    (performs : ∀ state value next, perform state = .ok (value, next) → view next = view state) :
    Leaves view (atomicCall site error perform) :=
  leaves_call performs fun _ _ => rfl

theorem leaves_quietCall {site : κ} {error : ε} {look : σ → Except ε α} :
    Leaves view (quietCall site error look) := by
  apply leaves_atomicCall
  intro state value next done
  cases seen : look state with
  | error refused => simp [seen, Except.map] at done
  | ok found =>
    simp only [seen, Except.map, Except.ok.injEq, Prod.mk.injEq] at done
    rw [done.2]

theorem Leaves.triple (leaves : Leaves view program) {pre : σ → Prop}
    (stable : ∀ state next, view next = view state → pre state → pre next)
    (answers : κ → CallAnswer) : Triple answers pre program (.always pre) := by
  intro state holds
  have kept := stable state _ (leaves answers state) holds
  generalize program.run answers state = outcome at kept ⊢
  match outcome, kept with
  | (.value found, next), kept => exact kept
  | (.failed error, next), kept => exact kept
  | (.stopped, next), kept => exact kept

theorem Triple.framed {answers : κ → CallAnswer} {pre : σ → Prop} {ends : Ends σ ε α}
    (triple : Triple answers pre program ends) (leaves : Leaves view program) (frame : γ → Prop) :
    Triple answers (fun state => pre state ∧ frame (view state)) program
      ⟨fun found state => ends.value found state ∧ frame (view state),
        fun error state => ends.failed error state ∧ frame (view state),
        fun state => ends.stopped state ∧ frame (view state)⟩ := by
  apply triple.and (leaves.triple _ answers)
  intro state next same holds
  exact same ▸ holds

end Leaves

end FaultProgram

end OpenJax.Shared
