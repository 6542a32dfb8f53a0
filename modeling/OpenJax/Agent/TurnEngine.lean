import OpenJax.Agent.ToolLifecycle

set_option autoImplicit false

namespace OpenJax.Agent

open Shared Protocol Model Tools

inductive TurnEnginePhase where
  | planning
  | streamingText
  | toolBatchRunning
  | streamingResumed
  | completed
  | failed
  deriving DecidableEq, Repr

structure TurnEngine where
  phase : TurnEnginePhase
  deriving DecidableEq, Repr

namespace TurnEngine

def new : TurnEngine := ⟨.planning⟩

def onResponseStarted (engine : TurnEngine) : TurnEngine := { engine with phase := .streamingText }

def onToolBatchStarted (engine : TurnEngine) : TurnEngine :=
  { engine with phase := .toolBatchRunning }

def onResponseResumed (engine : TurnEngine) : TurnEngine :=
  { engine with phase := .streamingResumed }

def onCompleted (engine : TurnEngine) : TurnEngine := { engine with phase := .completed }

def onFailed (engine : TurnEngine) : TurnEngine := { engine with phase := .failed }

end TurnEngine

structure EngineTurn where
  state : TurnState
  engine : TurnEngine
  committed : Option String

namespace Turn

variable (turn : Turn)

def limitReached (state : TurnState) : Prop :=
  ¬ (state.executedCount < turn.maxToolCallsPerTurn ∧
    state.plannerRounds < turn.maxPlannerRoundsPerTurn)

instance (state : TurnState) : Decidable (turn.limitReached state) :=
  inferInstanceAs (Decidable (¬ _))

def enginePlanRound (state : TurnState) (engine : TurnEngine) : EngineTurn :=
  { state := turn.planRound state
    engine :=
      if turn.limitReached state ∧ engine.phase = .planning then engine.onFailed else engine
    committed := none }

def engineStart (history : List HistoryItem) (loopDetector : LoopDetector) : EngineTurn :=
  let detector := loopDetector.reset
  turn.enginePlanRound
    { phase := .awaitingModel
      messages := buildTurnMessages turn.userInput history detector.recoveryPrompt
      requests := []
      events := [.turnStarted turn.turnId]
      executedCount := 0
      plannerRounds := 0
      consecutiveDuplicateSkips := 0
      recentToolCalls := []
      stateEpoch := 0
      loopDetector := detector } .new

def finalMessage (stream : PlannerStream) (response : ModelResponse) : String :=
  if stream.responseStarted then
    if stream.streamedText.isEmpty then response.text else stream.streamedText
  else response.text

def engineModel (world : EngineTurn) (answer : ModelAnswer) : EngineTurn :=
  let state := turn.answerModel world.state answer
  match answer.result with
  | .error _ => { state := state, engine := world.engine.onFailed, committed := none }
  | .ok response =>
      if response.hasToolUse then
        { state := state, engine := world.engine.onToolBatchStarted, committed := none }
      else
        { state := state
          engine := world.engine.onResponseStarted.onCompleted
          committed := some (finalMessage (PlannerStream.consume turn.formats turn.toolSpecs
            turn.turnId answer.deltas) response) }

/-- Every way to abort a batch fails the turn; after the last call of a batch the response is
resumed, and the loop goes on. -/
def engineTool (world : EngineTurn) (batch : ToolBatch) (use : ToolUse) (rest : List ToolUse)
    (answer : ToolAnswer) : EngineTurn :=
  match turn.executeNativeToolCall world.state use answer with
  | (next, .aborted) =>
      { state := turn.finish next, engine := world.engine.onFailed, committed := none }
  | (next, .result modelContent ok) =>
      let answered := batch.answer use rest modelContent ok
      if answered.pending.isEmpty then
        turn.enginePlanRound (turn.closeBatch next answered) world.engine.onResponseResumed
      else
        { state := turn.advanceBatch next answered, engine := world.engine, committed := none }

end Turn

def engineStep (turn : Turn) (world : EngineTurn) : TurnInput → Option EngineTurn
  | .model answer =>
      match world.state.phase with
      | .awaitingModel => some (turn.engineModel world answer)
      | _ => none
  | .tool answer =>
      match world.state.phase with
      | .running batch =>
          match batch.pending with
          | use :: rest => some (turn.engineTool world batch use rest answer)
          | [] => none
      | _ => none

namespace Turn

variable (turn : Turn)

@[simp] theorem enginePlanRound_state (state : TurnState) (engine : TurnEngine) :
    (turn.enginePlanRound state engine).state = turn.planRound state := rfl

theorem engineStep_state (world : EngineTurn) (input : TurnInput) :
    (engineStep turn world input).map EngineTurn.state = step turn world.state input := by
  unfold engineStep step
  cases input with
  | model answer =>
    dsimp only
    cases world.state.phase with
    | awaitingModel =>
      dsimp only [Option.map_some]
      unfold engineModel
      dsimp only
      split
      · rfl
      · split <;> rfl
    | running batch => rfl
    | finished => rfl
  | tool answer =>
    dsimp only
    cases world.state.phase with
    | running batch =>
      dsimp only
      cases batch.pending with
      | nil => rfl
      | cons use rest =>
        dsimp only [Option.map_some]
        unfold engineTool answerTool
        split
        next next aborted => rw [aborted]
        next next modelContent ok result =>
          rw [result]
          dsimp only
          split
          next last => rw [advanceBatch, if_pos last, enginePlanRound_state]
          · rfl
    | awaitingModel => rfl
    | finished => rfl

end Turn

/-- The phase is Completed when the turn was committed to the history, and Failed otherwise. -/
def PhaseTells (world : EngineTurn) : Prop :=
  (world.engine.phase = .completed ↔ world.committed.isSome) ∧
    (world.committed = none → world.engine.phase = .failed)

/-- The call that comes next is the last one of its batch, it does not stop the turn, and it leaves
the turn at one of its limits. -/
def LimitAfterBatch (turn : Turn) (world : EngineTurn) : TurnInput → Prop
  | .model _ => False
  | .tool answer =>
      ∃ batch use next modelContent ok, world.state.phase = .running batch ∧
        batch.pending = [use] ∧
        turn.executeNativeToolCall world.state use answer = (next, .result modelContent ok) ∧
        turn.limitReached next

section Phase

variable {turn : Turn} {state : TurnState}

theorem phaseTells_failed {engine : TurnEngine} : PhaseTells ⟨state, engine.onFailed, none⟩ := by
  simp [PhaseTells, TurnEngine.onFailed]

theorem planRound_finished (ended : (turn.planRound state).phase = .finished) :
    turn.limitReached state := by
  unfold Turn.planRound at ended
  split at ended
  · cases ended
  next reached => exact reached

theorem planRound_of_limit (reached : turn.limitReached state) :
    (turn.planRound state).phase = .finished := by
  rw [Turn.planRound, if_neg reached]
  rfl

theorem limitReached_closeBatch (state : TurnState) (batch : ToolBatch) :
    turn.limitReached (turn.closeBatch state batch) ↔ turn.limitReached state := by
  unfold Turn.closeBatch
  dsimp only
  split <;> rfl

theorem engineStart_tells (history : List HistoryItem) (loopDetector : LoopDetector)
    (ended : (turn.engineStart history loopDetector).state.phase = .finished) :
    PhaseTells (turn.engineStart history loopDetector) := by
  unfold Turn.engineStart at ended ⊢
  dsimp only at ended ⊢
  rw [Turn.enginePlanRound_state] at ended
  rw [Turn.enginePlanRound, if_pos ⟨planRound_finished ended, rfl⟩]
  exact phaseTells_failed

theorem engineStep_tells {world next : EngineTurn} {input : TurnInput}
    (stepped : engineStep turn world input = some next)
    (goesOn : ¬ LimitAfterBatch turn world input) (ended : next.state.phase = .finished) :
    PhaseTells next := by
  unfold engineStep at stepped
  cases input with
  | model answer =>
    dsimp only at stepped
    split at stepped
    · cases stepped
      unfold Turn.engineModel at ended ⊢
      dsimp only at ended ⊢
      cases result : answer.result with
      | error message => exact phaseTells_failed
      | ok response =>
        rw [result] at ended
        dsimp only at ended ⊢
        split_ifs at ended ⊢ with uses
        · -- the batch has begun, so the turn goes on
          simp [Turn.answerModel, result, uses, Turn.beginBatch] at ended
        · simp [PhaseTells, TurnEngine.onCompleted]
    · cases stepped
  | tool answer =>
    dsimp only at stepped
    split at stepped
    next batch running =>
      split at stepped
      next use rest pending =>
        cases stepped
        unfold Turn.engineTool at ended ⊢
        split at ended
        · exact phaseTells_failed
        next state modelContent ok result =>
          dsimp only at ended ⊢
          split_ifs at ended ⊢ with last
          · rw [Turn.enginePlanRound_state] at ended
            have reached := (limitReached_closeBatch _ _).mp (planRound_finished ended)
            have empty : rest = [] := List.isEmpty_iff.mp last
            have alone : batch.pending = [use] := by
              rw [pending, empty]
            exact absurd ⟨batch, use, state, modelContent, ok, running, alone, result, reached⟩
              goesOn
          · rw [Turn.advanceBatch, if_neg last] at ended
            cases ended
      · cases stepped
    · cases stepped

theorem limitAfterBatch_silent {world next : EngineTurn} {input : TurnInput}
    (stepped : engineStep turn world input = some next)
    (reached : LimitAfterBatch turn world input) :
    next.state.phase = .finished ∧ ¬ PhaseTells next := by
  cases input with
  | model answer => cases reached
  | tool answer =>
    obtain ⟨batch, use, state, modelContent, ok, running, alone, result, limit⟩ := reached
    unfold engineStep at stepped
    simp only [running, alone, Turn.engineTool, result] at stepped
    rw [if_pos (by rfl)] at stepped
    cases stepped
    refine ⟨planRound_of_limit ((limitReached_closeBatch _ _).mpr limit), ?_⟩
    rw [Turn.enginePlanRound, if_neg (by simp [TurnEngine.onResponseResumed])]
    simp [PhaseTells, TurnEngine.onResponseResumed]

theorem engineStep_finished {world : EngineTurn} (ended : world.state.phase = .finished)
    (input : TurnInput) : engineStep turn world input = none := by
  cases input <;> simp [engineStep, ended]

theorem run_tells_iff {inputs : List TurnInput} {world final : EngineTurn}
    (tells : world.state.phase = .finished → PhaseTells world)
    (ran : Shared.run (engineStep turn) world inputs = some final)
    (ended : final.state.phase = .finished) :
    PhaseTells final ↔
      Meets (engineStep turn) (fun world input => ¬ LimitAfterBatch turn world input) world
        inputs := by
  induction inputs generalizing world with
  | nil =>
    cases ran
    exact ⟨fun _ => trivial, fun _ => tells ended⟩
  | cons input rest ih =>
    obtain ⟨next, stepped, remaining⟩ := Option.bind_eq_some_iff.mp ran
    by_cases reached : LimitAfterBatch turn world input
    · have ⟨concluded, silent⟩ := limitAfterBatch_silent stepped reached
      cases rest with
      | nil =>
        cases remaining
        exact ⟨fun told => absurd told silent, fun meets => absurd reached meets.1⟩
      | cons another rest =>
        obtain ⟨_, later, -⟩ := Option.bind_eq_some_iff.mp remaining
        rw [engineStep_finished concluded] at later
        cases later
    · rw [ih (engineStep_tells stepped reached) remaining]
      constructor
      · intro meets
        refine ⟨reached, fun other again => ?_⟩
        rw [stepped] at again
        cases again
        exact meets
      · exact fun meets => meets.2 next stepped

end Phase

/-- When a turn is over, its phase tells whether it was committed, exactly when no batch left it at
a limit. -/
theorem engine_phase_iff (turn : Turn) (history : List HistoryItem) (loopDetector : LoopDetector)
    (inputs : List TurnInput) (final : EngineTurn)
    (ran : Shared.run (engineStep turn) (turn.engineStart history loopDetector) inputs =
      some final) (ended : final.state.phase = .finished) :
    PhaseTells final ↔
      Meets (engineStep turn) (fun world input => ¬ LimitAfterBatch turn world input)
        (turn.engineStart history loopDetector) inputs :=
  run_tells_iff (engineStart_tells history loopDetector) ran ended

theorem final_answer_tells :
    ∃ final, Shared.run (engineStep shortTurn) (shortTurn.engineStart [] .new) [answers] =
        some final ∧ final.committed = some "done" ∧ PhaseTells final :=
  ⟨_, rfl, by decide +kernel,
    (engine_phase_iff shortTurn [] .new [answers] _ rfl rfl).mpr ⟨id, fun _ _ => trivial⟩⟩

def oneCall : Turn := { shortTurn with maxToolCallsPerTurn := 1 }

theorem spent_budget_leaves_resumed :
    ¬ ∀ (turn : Turn) (history : List HistoryItem) (loopDetector : LoopDetector)
        (inputs : List TurnInput) (final : EngineTurn),
      Shared.run (engineStep turn) (turn.engineStart history loopDetector) inputs = some final →
      final.state.phase = .finished → PhaseTells final := by
  intro always
  have spent : (Shared.run (engineStep oneCall) (oneCall.engineStart [] .new)
      [modelCalls [listFiles "c1"], toolSucceeds]).any (fun world =>
        finishes (fun _ => true) world.state &&
          decide (world.engine.phase = .streamingResumed ∧ world.committed = none)) = true := by
    decide +kernel
  obtain ⟨final, ran, ended⟩ := (Option.any_eq_true _ _).mp spent
  rw [Bool.and_eq_true, decide_eq_true_iff] at ended
  obtain ⟨concluded, resumed, uncommitted⟩ := ended
  have told := always oneCall [] .new _ final ran (finishes_eq_true concluded).1
  rw [told.2 uncommitted] at resumed
  cases resumed

end OpenJax.Agent
