import OpenJax.Agent.LoopGuard

set_option autoImplicit false

namespace OpenJax.Agent

open Shared Protocol Model Tools

def Tallied : Event → Prop
  | .toolBatchCompleted _ total succeeded failed => total = succeeded + failed
  | _ => True

def AllTallied (events : List Event) : Prop := ∀ event ∈ events, Tallied event

def FewUses : TurnInput → Prop
  | .model answer =>
      ∀ response, answer.result = .ok response → response.toolUses.length < 0x100000000
  | .tool _ => True

namespace Turn

variable (turn : Turn)

structure WithinBudget (world : WatchedTurn) : Prop where
  requests : world.state.requests.length ≤ turn.maxPlannerRoundsPerTurn
  calls : world.calls.length ≤ turn.maxToolCallsPerTurn
  remaining : world.state.executedCount ≤ turn.maxToolCallsPerTurn
  batches : AllTallied world.state.events
  goesOn : world.state.phase = .finished ∨
    (∀ answer, (step turn world.state (.model answer)).isSome) ∨
    ∀ answer, (step turn world.state (.tool answer)).isSome

def fuel (state : TurnState) : Nat :=
  (turn.maxPlannerRoundsPerTurn - state.plannerRounds) * (turn.maxToolCallsPerTurn + 1) +
    match state.phase with
    | .awaitingModel => turn.maxToolCallsPerTurn + 1
    | .running batch => batch.pending.length
    | .finished => 0

end Turn

@[simp]
theorem allTallied_nil : AllTallied [] := fun _ member => absurd member List.not_mem_nil

@[simp]
theorem allTallied_cons {event : Event} {events : List Event} :
    AllTallied (event :: events) ↔ Tallied event ∧ AllTallied events :=
  List.forall_mem_cons

@[simp]
theorem allTallied_append {first second : List Event} :
    AllTallied (first ++ second) ↔ AllTallied first ∧ AllTallied second :=
  List.forall_mem_append

theorem allTallied_liveEvents (events : List LiveEvent) :
    AllTallied (events.map LiveEvent.event) := by
  intro event member
  obtain ⟨live, -, rfl⟩ := List.mem_map.mp member
  have approval := live.approval
  cases shape : live.event with
  | toolBatchCompleted turnId total succeeded failed =>
    rw [shape] at approval
    cases approval
  | _ => trivial

section Stream

variable (formats : TextFormats) (specs : List ToolSpec) (turnId : Nat)

theorem allTallied_onDelta {stream : PlannerStream} (all : AllTallied stream.events)
    (delta : StreamDelta) : AllTallied (stream.onDelta formats specs turnId delta).events := by
  cases delta with
  | text delta =>
    simp only [PlannerStream.onDelta, PlannerStream.onTextDelta]
    split
    · exact all
    · split <;> simp [PlannerStream.push, all, Tallied]
  | reasoning delta =>
    simp only [PlannerStream.onDelta]
    split
    · exact all
    · simp [PlannerStream.push, all, Tallied]
  | _ => simp [PlannerStream.onDelta, PlannerStream.push, all, Tallied]

theorem allTallied_consume (deltas : List StreamDelta) :
    AllTallied (PlannerStream.consume formats specs turnId deltas).events := by
  have folded (stream : PlannerStream) (all : AllTallied stream.events) :
      AllTallied (deltas.foldl (PlannerStream.onDelta formats specs turnId) stream).events := by
    induction deltas generalizing stream with
    | nil => exact all
    | cons delta rest ih => exact ih _ (allTallied_onDelta formats specs turnId all delta)
  exact folded _ allTallied_nil

end Stream

section Call

variable (turn : Turn) {state next : TurnState} {use : ToolUse} {answer : ToolAnswer}
  {outcome : NativeToolExecOutcome}

/-- What a call does to the budgets: it is counted, unless the turn ends with it. -/
structure CallCounts (state : TurnState) (executed : Bool) (next : TurnState)
    (outcome : NativeToolExecOutcome) : Prop where
  rounds : next.plannerRounds = state.plannerRounds
  requests : next.requests = state.requests
  tallied : AllTallied state.events → AllTallied next.events
  counted : next.executedCount = state.executedCount + executed.toNat ∨
    outcome = .aborted ∧ next.executedCount = state.executedCount

theorem skipped_counts
    (skipped : (Turn.unnamed use || turn.duplicates state use answer) = true) :
    CallCounts state false (turn.executeNativeToolCall state use answer).1
      (turn.executeNativeToolCall state use answer).2 := by
  obtain ⟨errors, skips, outcome, ended⟩ := executeNativeToolCall_skipped skipped
  rw [ended]
  refine ⟨rfl, rfl, fun all event among => ?_, .inl rfl⟩
  rcases List.mem_append.mp among with before | new
  · exact all event before
  · obtain ⟨error, -, rfl⟩ := List.mem_map.mp new
    trivial

theorem body_counts {args : List (String × String)} :
    CallCounts state true (turn.executeNativeToolCallBody state use args answer).1
      (turn.executeNativeToolCallBody state use args answer).2 := by
  have progress : AllTallied state.events → AllTallied (state.push
      (.toolCallProgress turn.turnId use.id use.name "executing"
        (displayNameFor turn.toolSpecs use.name) ::
          answer.liveEvents.map LiveEvent.event)).events := by
    intro all
    simp [TurnState.push, all, allTallied_liveEvents, Tallied]
  unfold Turn.executeNativeToolCallBody
  cases answer.result with
  | error errorText =>
    have reports {state : TurnState} (before : AllTallied state.events) :
        AllTallied (state.push [turn.toolCallFailed use (toolFailureCode errorText) errorText
            (toolFailureRetryable errorText),
          turn.toolCallCompleted use false errorText none]).events := by
      simp [TurnState.push, before, Turn.toolCallFailed, Turn.toolCallCompleted, Tallied]
    dsimp only [Turn.failCall]
    split
    · refine ⟨rfl, rfl, fun all => ?_, .inl rfl⟩
      have reported := reports (progress all)
      exact allTallied_append.mpr ⟨reported, by simp [Turn.responseError, Tallied]⟩
    · exact ⟨rfl, rfl, fun all => reports (progress all), .inl rfl⟩
  | ok outcome =>
    dsimp only [Turn.concludeCall]
    generalize bumpedEq : (if isMutatingTool use.name = true then _ else _ : TurnState) = bumped
    have same : bumped.plannerRounds = state.plannerRounds ∧ bumped.requests = state.requests ∧
        bumped.executedCount = state.executedCount ∧
        (AllTallied state.events → AllTallied bumped.events) := by
      rw [← bumpedEq]
      split <;> exact ⟨rfl, rfl, rfl, progress⟩
    obtain ⟨rounds, requests, count, tallied⟩ := same
    generalize bumped.loopDetector.checkAndAdvance use.name (argsJson turn.formats args) = checked
    obtain ⟨signal, detector⟩ := checked
    cases signal with
    | halt =>
      refine ⟨rounds, requests, fun all => ?_, .inr ⟨rfl, count⟩⟩
      simp [TurnState.push, tallied all, Turn.responseError, Tallied]
    | none =>
      refine ⟨rounds, requests, fun all => ?_, .inl (congrArg (· + 1) count)⟩
      simp [TurnState.push, Turn.record, Turn.countCall, tallied all, Turn.toolCallCompleted,
        Tallied]
    | warned =>
      refine ⟨rounds, requests, fun all => ?_, .inl (congrArg (· + 1) count)⟩
      simp [TurnState.push, Turn.record, Turn.countCall, tallied all, Turn.toolCallCompleted,
        Tallied]

end Call

def CountsCalls (turn : Turn) (state : TurnState) (calls : Nat) : Prop :=
  match state.phase with
  | .awaitingModel => calls = state.executedCount ∧ state.executedCount < turn.maxToolCallsPerTurn
  | .running batch =>
      calls = state.executedCount ∧ batch.pending ≠ [] ∧
        state.executedCount + batch.pending.length ≤ turn.maxToolCallsPerTurn ∧
        batch.succeeded + batch.failed + batch.pending.length =
          batch.executableCount + batch.droppedCount ∧
        batch.executableCount + batch.droppedCount < 0x100000000
  | .finished => calls ≤ turn.maxToolCallsPerTurn ∧ state.executedCount ≤ turn.maxToolCallsPerTurn

structure Paced (turn : Turn) (state : TurnState) : Prop where
  rounds : state.requests.length = state.plannerRounds
  within : state.plannerRounds ≤ turn.maxPlannerRoundsPerTurn
  tallied : AllTallied state.events

structure Budgeted (turn : Turn) (world : WatchedTurn) : Prop where
  paced : Paced turn world.state
  counts : CountsCalls turn world.state world.calls.length

section Budget

variable {turn : Turn} {state next : TurnState} {calls : List MadeCall}

def Turn.roundsFuel (turn : Turn) (state : TurnState) : Nat :=
  (turn.maxPlannerRoundsPerTurn - state.plannerRounds) * (turn.maxToolCallsPerTurn + 1)

theorem Budgeted.finish (paced : Paced turn state)
    (made : calls.length ≤ turn.maxToolCallsPerTurn)
    (counted : state.executedCount ≤ turn.maxToolCallsPerTurn) :
    Budgeted turn ⟨turn.finish state, calls⟩ ∧
      turn.fuel (turn.finish state) = turn.roundsFuel state :=
  ⟨⟨⟨paced.rounds, paced.within, by simp [Turn.finish, TurnState.push, paced.tallied, Tallied]⟩,
    made, counted⟩, rfl⟩

theorem Budgeted.planRound (paced : Paced turn state)
    (made : calls.length = state.executedCount)
    (counted : state.executedCount ≤ turn.maxToolCallsPerTurn) :
    Budgeted turn ⟨turn.planRound state, calls⟩ ∧
      turn.fuel (turn.planRound state) ≤ turn.roundsFuel state := by
  unfold Turn.planRound
  split
  · rename_i left
    refine ⟨⟨⟨?_, left.2, paced.tallied⟩, made, left.1⟩, ?_⟩
    · simp [paced.rounds]
    · have one : turn.maxPlannerRoundsPerTurn - state.plannerRounds =
          turn.maxPlannerRoundsPerTurn - (state.plannerRounds + 1) + 1 := by
        omega
      simp only [Turn.fuel, Turn.roundsFuel, one, Nat.succ_mul]
      exact Nat.le_refl _
  · have reported : Paced turn (state.push
        [turn.responseError "turn_limit_reached" (turn.limitMessage state) true]) :=
      ⟨paced.rounds, paced.within,
        by simp [TurnState.push, paced.tallied, Turn.responseError, Tallied]⟩
    have finished := Budgeted.finish reported (made.trans_le counted) counted
    exact ⟨finished.1, finished.2.le⟩

theorem saturatingSucc_eq {count : Nat} (small : count < 0xFFFFFFFF) :
    saturatingSucc count = count + 1 := by
  unfold saturatingSucc
  omega

variable {batch : ToolBatch}

theorem Budgeted.advanceBatch (paced : Paced turn state) (made : calls.length = state.executedCount)
    (counted : state.executedCount + batch.pending.length ≤ turn.maxToolCallsPerTurn)
    (tally : batch.succeeded + batch.failed + batch.pending.length =
      batch.executableCount + batch.droppedCount)
    (small : batch.executableCount + batch.droppedCount < 0x100000000) :
    Budgeted turn ⟨turn.advanceBatch state batch, calls⟩ ∧
      turn.fuel (turn.advanceBatch state batch) ≤
        turn.roundsFuel state + batch.pending.length := by
  unfold Turn.advanceBatch
  split
  · rename_i emptied
    have none : batch.pending.length = 0 := by simpa using emptied
    have event : Tallied (.toolBatchCompleted turn.turnId
        ((batch.executableCount + batch.droppedCount) % 0x100000000) batch.succeeded
        batch.failed) := by
      show _ % _ = _
      omega
    have closed : Paced turn (turn.closeBatch state batch) ∧
        (turn.closeBatch state batch).executedCount = state.executedCount ∧
        turn.roundsFuel (turn.closeBatch state batch) = turn.roundsFuel state := by
      unfold Turn.closeBatch
      dsimp only
      split <;> exact ⟨⟨paced.rounds, paced.within,
        by simp [TurnState.push, paced.tallied, event]⟩, rfl, rfl⟩
    obtain ⟨paced, count, fuel⟩ := closed
    have planned := Budgeted.planRound paced (made.trans count.symm) (by omega)
    exact ⟨planned.1, by omega⟩
  · rename_i more
    have pending : batch.pending ≠ [] := by simpa using more
    exact ⟨⟨⟨paced.rounds, paced.within, paced.tallied⟩, made, pending, counted, tally, small⟩,
      Nat.le_refl _⟩

theorem call_counts (turn : Turn) (state : TurnState) (use : ToolUse) (rest : List ToolUse)
    (running : state.phase = .running batch) (waiting : batch.pending = use :: rest)
    (answer : ToolAnswer) :
    ∃ executed : Bool, (turn.made state (.tool answer)).length = executed.toNat ∧
      CallCounts state executed (turn.executeNativeToolCall state use answer).1
        (turn.executeNativeToolCall state use answer).2 := by
  have pending : state.nextUse = some use := by
    simp [TurnState.nextUse, running, waiting]
  simp only [Turn.made, pending]
  cases skipped : Turn.unnamed use || turn.duplicates state use answer with
  | true => exact ⟨false, rfl, skipped_counts turn skipped⟩
  | false =>
    rw [execute_eq_body turn state use answer skipped]
    exact ⟨true, rfl, body_counts turn⟩

theorem Budgeted.answerTool (budgeted : Budgeted turn ⟨state, calls⟩)
    (running : state.phase = .running batch) {use : ToolUse} {rest : List ToolUse}
    (waiting : batch.pending = use :: rest) (answer : ToolAnswer) :
    Budgeted turn ⟨turn.answerTool state batch use rest answer,
        calls ++ turn.made state (.tool answer)⟩ ∧
      turn.fuel (turn.answerTool state batch use rest answer) < turn.fuel state := by
  obtain ⟨paced, counts⟩ := budgeted
  simp only [CountsCalls, running, waiting, List.length_cons] at counts
  obtain ⟨made, -, within, tally, small⟩ := counts
  have fuel : turn.fuel state = turn.roundsFuel state + (rest.length + 1) := by
    simp [Turn.fuel, Turn.roundsFuel, running, waiting]
  obtain ⟨executed, length, counted⟩ := call_counts turn state use rest running waiting answer
  have one : executed.toNat ≤ 1 := executed.toNat_le
  have grown : (calls ++ turn.made state (.tool answer)).length =
      state.executedCount + executed.toNat := by
    rw [List.length_append, length, made]
  unfold Turn.answerTool
  generalize turn.executeNativeToolCall state use answer = ended at counted ⊢
  obtain ⟨next, outcome⟩ := ended
  have counted : CallCounts state executed next outcome := counted
  have later : Paced turn next :=
    ⟨by rw [counted.requests, counted.rounds, paced.rounds],
      by rw [counted.rounds]; exact paced.within, counted.tallied paced.tallied⟩
  have same : turn.roundsFuel next = turn.roundsFuel state := by
    rw [Turn.roundsFuel, counted.rounds, Turn.roundsFuel]
  rw [fuel, ← same]
  cases outcome with
  | result content ok =>
    have count : next.executedCount = state.executedCount + executed.toNat :=
      counted.counted.resolve_right fun aborted => nomatch aborted.1
    have tallied : (batch.answer use rest content ok).succeeded +
        (batch.answer use rest content ok).failed + rest.length =
          batch.executableCount + batch.droppedCount := by
      cases ok with
      | true =>
        have one := @saturatingSucc_eq batch.succeeded (by omega)
        simp only [ToolBatch.answer, if_true, one]
        omega
      | false =>
        have one := @saturatingSucc_eq batch.failed (by omega)
        simp only [ToolBatch.answer, Bool.false_eq_true, if_false, one]
        omega
    have advanced := @Budgeted.advanceBatch turn next
      (calls ++ turn.made state (.tool answer)) (batch.answer use rest content ok) later
      (grown.trans count.symm) (by simp only [ToolBatch.answer]; omega) tallied small
    have length : (batch.answer use rest content ok).pending.length = rest.length := rfl
    exact ⟨advanced.1, by dsimp only; omega⟩
  | aborted =>
    have counted : next.executedCount ≤ state.executedCount + 1 := by
      rcases counted.counted with counted | ⟨-, counted⟩ <;> omega
    have finished := @Budgeted.finish turn next (calls ++ turn.made state (.tool answer)) later
      (by omega) (by omega)
    exact ⟨finished.1, by dsimp only; omega⟩

theorem Budgeted.beginBatch (paced : Paced turn state) (made : calls.length = state.executedCount)
    (left : state.executedCount < turn.maxToolCallsPerTurn) {uses : List ToolUse}
    (some : uses ≠ []) (few : uses.length < 0x100000000) :
    Budgeted turn ⟨turn.beginBatch state uses, calls⟩ ∧
      turn.fuel (turn.beginBatch state uses) ≤
        turn.roundsFuel state + turn.maxToolCallsPerTurn := by
  have positive : 0 < uses.length := List.length_pos_iff.mpr some
  have executable : turn.executableCount state uses =
      min uses.length (turn.maxToolCallsPerTurn - state.executedCount) := rfl
  have taken : (uses.take (turn.executableCount state uses)).length =
      turn.executableCount state uses := by
    rw [List.length_take]
    omega
  have dropped : (uses.drop (turn.executableCount state uses)).length =
      uses.length - turn.executableCount state uses := List.length_drop
  have reports (uses : List ToolUse) : AllTallied (uses.flatMap turn.droppedEvents) := by
    intro event member
    obtain ⟨use, -, among⟩ := List.mem_flatMap.mp member
    have each : AllTallied (turn.droppedEvents use) := by
      simp [Turn.droppedEvents, Turn.toolCallFailed, Turn.toolCallCompleted, Tallied]
    exact each event among
  refine ⟨⟨⟨paced.rounds, paced.within, ?_⟩, made, ?_, ?_, ?_, ?_⟩, ?_⟩
  · simp [Turn.beginBatch, TurnState.push, paced.tallied, reports, Tallied]
  · rw [← List.length_pos_iff, taken]
    omega
  · show state.executedCount + (uses.take _).length ≤ _
    omega
  · show 0 + min (uses.drop _).length 0xFFFFFFFF + (uses.take _).length =
      turn.executableCount state uses + (uses.drop _).length
    omega
  · show turn.executableCount state uses + (uses.drop _).length < _
    omega
  · show turn.roundsFuel state + (uses.take _).length ≤ _
    omega

theorem allTallied_contextEvents (usage : Option (ContextUsage × Option ContextCompaction)) :
    AllTallied (turn.contextEvents usage) := by
  rcases usage with - | ⟨usage, - | compaction⟩ <;> simp [Turn.contextEvents, Tallied]

theorem allTallied_finalEvents (stream : PlannerStream) (response : ModelResponse) :
    AllTallied (turn.finalEvents stream response) := by
  have synthetic (message : String) (size : Nat) :
      AllTallied (emitSyntheticResponseDeltas turn.turnId message size) := by
    intro event member
    obtain ⟨chunk, -, rfl⟩ := List.mem_map.mp member
    trivial
  unfold Turn.finalEvents
  dsimp only
  split <;> simp [synthetic, Tallied]

theorem Budgeted.answerModel (budgeted : Budgeted turn ⟨state, calls⟩)
    (awaiting : state.phase = .awaitingModel) {answer : ModelAnswer}
    (few : FewUses (.model answer)) :
    Budgeted turn ⟨turn.answerModel state answer, calls⟩ ∧
      turn.fuel (turn.answerModel state answer) < turn.fuel state := by
  obtain ⟨paced, counts⟩ := budgeted
  simp only [CountsCalls, awaiting] at counts
  obtain ⟨made, left⟩ := counts
  have fuel : turn.fuel state = turn.roundsFuel state + (turn.maxToolCallsPerTurn + 1) := by
    simp [Turn.fuel, Turn.roundsFuel, awaiting]
  have streamed := allTallied_consume turn.formats turn.toolSpecs turn.turnId answer.deltas
  have tallied := paced.tallied
  unfold Turn.answerModel
  dsimp only
  generalize PlannerStream.consume turn.formats turn.toolSpecs turn.turnId answer.deltas = stream
    at streamed ⊢
  cases answered : answer.result with
  | error message =>
    have failed : Paced turn ((state.push stream.events).push [turn.responseError "model_request_failed"
        s!"[model error] {message}" true]) :=
      ⟨paced.rounds, paced.within,
        by simp [TurnState.push, tallied, streamed, Turn.responseError, Tallied]⟩
    have finished := @Budgeted.finish turn _ calls failed (by omega) left.le
    refine ⟨finished.1, finished.2.trans_lt ?_⟩
    show turn.roundsFuel state < _
    omega
  | ok response =>
    have context := @allTallied_contextEvents turn answer.contextUsage
    dsimp only
    split
    · rename_i calling
      have uses : response.toolUses ≠ [] := by
        simpa [ModelResponse.hasToolUse_eq] using calling
      have begun := @Budgeted.beginBatch turn
        { (state.push stream.events).push (turn.contextEvents answer.contextUsage) with
          messages := state.messages ++ [.assistant response.assistantHistoryBlocks] } calls
        ⟨paced.rounds, paced.within, by simp [TurnState.push, tallied, streamed, context]⟩ made
        left response.toolUses uses (few response answered)
      refine ⟨begun.1, begun.2.trans_lt ?_⟩
      show turn.roundsFuel state + _ < _
      omega
    · have final := @allTallied_finalEvents turn stream response
      have finished := @Budgeted.finish turn
        (TurnState.push
          { (state.push stream.events).push (turn.contextEvents answer.contextUsage) with
            messages := state.messages ++ [.assistant response.assistantHistoryBlocks] }
          (turn.finalEvents stream response)) calls
        ⟨paced.rounds, paced.within, by simp [TurnState.push, tallied, streamed, context, final]⟩
        (by omega) left.le
      refine ⟨finished.1, finished.2.trans_lt ?_⟩
      show turn.roundsFuel state < _
      omega

end Budget

theorem budget_step (turn : Turn) {world next : WatchedTurn} {input : TurnInput}
    (budgeted : Budgeted turn world) (few : FewUses input)
    (stepped : turn.watchStep world input = some next) :
    Budgeted turn next ∧ turn.fuel next.state < turn.fuel world.state := by
  obtain ⟨state, calls⟩ := world
  obtain ⟨after, moved, rfl⟩ := Option.map_eq_some_iff.mp stepped
  dsimp only at moved ⊢
  cases input with
  | model answer =>
    rw [made_model, List.append_nil]
    rw [step] at moved
    split at moved
    · rename_i awaiting
      cases moved
      exact Budgeted.answerModel budgeted awaiting few
    · cases moved
  | tool answer =>
    rw [step] at moved
    split at moved
    · rename_i batch running
      split at moved
      · rename_i use rest waiting
        cases moved
        exact Budgeted.answerTool budgeted running waiting answer
      · cases moved
    · cases moved

theorem budgeted_start (turn : Turn) (history : List HistoryItem) (loopDetector : LoopDetector) :
    Budgeted turn ⟨turn.start history loopDetector, []⟩ ∧
      turn.fuel (turn.start history loopDetector) ≤
        turn.maxPlannerRoundsPerTurn * (turn.maxToolCallsPerTurn + 1) := by
  unfold Turn.start
  exact Budgeted.planRound ⟨rfl, Nat.zero_le _, by simp [Tallied]⟩ rfl (Nat.zero_le _)

theorem Budgeted.withinBudget {turn : Turn} {world : WatchedTurn}
    (budgeted : Budgeted turn world) : turn.WithinBudget world := by
  obtain ⟨⟨rounds, within, tallied⟩, counts⟩ := budgeted
  unfold CountsCalls at counts
  cases phase : world.state.phase with
  | awaitingModel =>
    simp only [phase] at counts
    exact ⟨by omega, by omega, by omega, tallied, .inr (.inl fun answer => by simp [step, phase])⟩
  | running batch =>
    simp only [phase] at counts
    obtain ⟨use, rest, waiting⟩ := List.exists_cons_of_ne_nil counts.2.1
    exact ⟨by omega, by omega, by omega, tallied,
      .inr (.inr fun answer => by simp [step, phase, waiting])⟩
  | finished =>
    simp only [phase] at counts
    exact ⟨by omega, counts.1, counts.2, tallied, .inl phase⟩

/-- Whatever the model and the tools answer, the turn ends within its budgets. -/
theorem turn_within_budget {turn : Turn} {history : List HistoryItem} {loopDetector : LoopDetector}
    {inputs : List TurnInput} {world : WatchedTurn} (few : ∀ input ∈ inputs, FewUses input)
    (ran : run turn.watchStep ⟨turn.start history loopDetector, []⟩ inputs = some world) :
    turn.WithinBudget world ∧
      inputs.length ≤ turn.maxPlannerRoundsPerTurn * (turn.maxToolCallsPerTurn + 1) := by
  have start := budgeted_start turn history loopDetector
  have meets : Meets turn.watchStep (fun _ input => FewUses input)
      ⟨turn.start history loopDetector, []⟩ inputs := Meets.of_inputs few
  have preserves : Preserves turn.watchStep (fun _ input => FewUses input) (Budgeted turn) :=
    fun _ _ _ budgeted few stepped => (budget_step turn budgeted few stepped).1
  have final := run_invariant preserves start.1 meets ran
  have length := run_length_le preserves (fun world => turn.fuel world.state)
    (fun _ _ _ budgeted few stepped => (budget_step turn budgeted few stepped).2) start.1 meets ran
  exact ⟨final.withinBudget, by dsimp only at length; omega⟩

section Example

theorem turn_within_budget_after_call : ∃ world,
    run shortTurn.watchStep ⟨shortTurn.start [] .new, []⟩
        [modelCalls [listFiles "c1"], toolSucceeds] = some world ∧
      world.calls.length = 1 ∧ shortTurn.WithinBudget world ∧
        2 ≤ shortTurn.maxPlannerRoundsPerTurn * (shortTurn.maxToolCallsPerTurn + 1) := by
  have reached : (run shortTurn.watchStep ⟨shortTurn.start [] .new, []⟩
      [modelCalls [listFiles "c1"], toolSucceeds]).any (fun world => world.calls.length == 1) =
      true := by
    decide +kernel
  obtain ⟨world, ran, calls⟩ := (Option.any_eq_true _ _).mp reached
  have few : ∀ input ∈ [modelCalls [listFiles "c1"], toolSucceeds], FewUses input := by
    simp only [List.forall_mem_cons]
    refine ⟨fun response answered => ?_, trivial, List.forall_mem_nil _⟩
    obtain rfl := Except.ok.inj answered
    decide
  exact ⟨world, ran, eq_of_beq calls, turn_within_budget few ran⟩

def oneCallTurn : Turn := { shortTurn with maxToolCallsPerTurn := 1 }

theorem oneCallTurn_begins {blocks : List AssistantContentBlock}
    (calling : blocks.filterMap AssistantContentBlock.toolUse? ≠ []) : ∃ state batch,
    step oneCallTurn (oneCallTurn.start [] .new) (modelCalls blocks) = some state ∧
      state.phase = .running batch ∧ state.recentToolCalls = [] ∧
      state.loopDetector = .new ∧
      batch.pending = (blocks.filterMap AssistantContentBlock.toolUse?).take
        (min (blocks.filterMap AssistantContentBlock.toolUse?).length 1) ∧
      batch.executableCount = min (blocks.filterMap AssistantContentBlock.toolUse?).length 1 ∧
      batch.droppedCount = ((blocks.filterMap AssistantContentBlock.toolUse?).drop
        (min (blocks.filterMap AssistantContentBlock.toolUse?).length 1)).length ∧
      batch.failed = min batch.droppedCount 0xFFFFFFFF := by
  have uses : ModelResponse.hasToolUse { content := blocks, stopReason := some .toolUse } =
      true := by
    rw [ModelResponse.hasToolUse_eq]
    simpa [ModelResponse.toolUses] using calling
  have awaiting : (oneCallTurn.start [] .new).phase = .awaitingModel := rfl
  simp only [step, modelCalls, awaiting, Turn.answerModel, if_pos uses]
  exact ⟨_, _, rfl, rfl, rfl, rfl, rfl, rfl, rfl, rfl⟩

theorem planRound_events (turn : Turn) (state : TurnState) :
    state.events <+: (turn.planRound state).events := by
  unfold Turn.planRound
  split
  · exact List.prefix_rfl
  · exact (List.prefix_append _ _).trans (List.prefix_append _ _)

theorem answerTool_reports (turn : Turn) {state : TurnState} {use : ToolUse}
    {answer : ToolAnswer} (batch : ToolBatch)
    (goesOn : turn.stops state use answer = false) : ∃ succeeded failed,
    min batch.failed 0xFFFFFFFF ≤ failed ∧ Event.toolBatchCompleted turn.turnId
      ((batch.executableCount + batch.droppedCount) % 0x100000000) succeeded failed ∈
        (turn.answerTool state batch use [] answer).events := by
  obtain ⟨next, outcome, added, executed, -, effect⟩ :=
    executeNativeToolCall_effect turn state use answer
  unfold Turn.answerTool
  rw [executed]
  have reports (content : String) (ok : Bool) : ∃ succeeded failed,
      min batch.failed 0xFFFFFFFF ≤ failed ∧ Event.toolBatchCompleted turn.turnId
        ((batch.executableCount + batch.droppedCount) % 0x100000000) succeeded failed ∈
          (turn.advanceBatch next (batch.answer use [] content ok)).events := by
    refine ⟨(batch.answer use [] content ok).succeeded, (batch.answer use [] content ok).failed,
      ?_, (planRound_events turn _).subset ?_⟩
    · cases ok <;> simp only [ToolBatch.answer, saturatingSucc, Bool.false_eq_true, if_true,
        if_false] <;> omega
    · unfold Turn.closeBatch
      dsimp only
      split <;> exact List.mem_append_right _ (List.mem_singleton_self _)
  cases effect with
  | executed => exact reports _ _
  | skipped => exact reports _ _
  | stopped completes leftOpen stops => simp [stops] at goesOn
  | blocked completes stops => simp [stops] at goesOn

theorem step_running (turn : Turn) {state : TurnState} {batch : ToolBatch} {use : ToolUse}
    {rest : List ToolUse} (running : state.phase = .running batch)
    (waiting : batch.pending = use :: rest) (answer : ToolAnswer) :
    step turn state (.tool answer) = some (turn.answerTool state batch use rest answer) := by
  simp only [step, running, waiting]

theorem watchStep_of_step {turn : Turn} {state next : TurnState} {input : TurnInput}
    (stepped : step turn state input = some next) (calls : List MadeCall) :
    turn.watchStep ⟨state, calls⟩ input = some ⟨next, calls ++ turn.made state input⟩ := by
  simp [Turn.watchStep, stepped]

theorem oneCallTurn_reports (count : Nat) : ∃ world succeeded failed,
    run oneCallTurn.watchStep ⟨oneCallTurn.start [] .new, []⟩
        [modelCalls (List.replicate (count + 1) (listFiles "c1")), toolSucceeds] = some world ∧
      min count 0xFFFFFFFF ≤ failed ∧
      Event.toolBatchCompleted 1 ((1 + count) % 0x100000000) succeeded failed ∈
        world.state.events := by
  have uses : (List.replicate (count + 1) (listFiles "c1")).filterMap
      AssistantContentBlock.toolUse? =
        ⟨"c1", "shell", .obj [("cmd", .str "ls")]⟩ ::
          List.replicate count ⟨"c1", "shell", .obj [("cmd", .str "ls")]⟩ := by
    have use : (listFiles "c1").toolUse? = some ⟨"c1", "shell", .obj [("cmd", .str "ls")]⟩ := rfl
    rw [List.filterMap_replicate_of_some use, List.replicate_succ]
  obtain ⟨state, batch, began, running, records, detector, pending, executable, dropped, failed⟩ :=
    @oneCallTurn_begins (List.replicate (count + 1) (listFiles "c1")) (by rw [uses]; nofun)
  simp only [uses, List.length_cons, List.drop_succ_cons, List.drop_zero, List.take_succ_cons,
    List.take_zero, Nat.le_add_left, Nat.min_eq_right, List.length_replicate]
      at pending executable dropped failed
  have goesOn : oneCallTurn.stops state ⟨"c1", "shell", .obj [("cmd", .str "ls")]⟩
      ⟨id, [], .ok ⟨"a.txt", "a.txt", none, true⟩⟩ = false := by
    have named : Turn.unnamed ⟨"c1", "shell", .obj [("cmd", .str "ls")]⟩ = false := by
      decide +kernel
    simp [Turn.stops, named, Turn.duplicates, isDuplicateToolCall, records, Turn.loops, detector,
      LoopDetector.halts, LoopDetector.new, Turn.approvalBlocked]
  obtain ⟨succeeded, failures, most, reported⟩ := answerTool_reports oneCallTurn batch goesOn
  have answered := step_running oneCallTurn running pending
    ⟨id, [], .ok ⟨"a.txt", "a.txt", none, true⟩⟩
  have ran := (run_cons (watchStep_of_step began []) [toolSucceeds]).trans
    (run_cons (watchStep_of_step answered _) [])
  rw [executable, dropped] at reported
  exact ⟨_, succeeded, failures, ran, by omega, reported⟩

/-- A batch of 2^32 calls is reported as one of none. -/
theorem batch_miscounted :
    ¬ ∀ (turn : Turn) (history : List HistoryItem) (loopDetector : LoopDetector)
      (inputs : List TurnInput) (world : WatchedTurn),
      run turn.watchStep ⟨turn.start history loopDetector, []⟩ inputs = some world →
      turn.WithinBudget world := by
  intro within
  obtain ⟨world, succeeded, failed, ran, most, reported⟩ := oneCallTurn_reports 0xFFFFFFFF
  have balanced : (1 + 0xFFFFFFFF) % 0x100000000 = succeeded + failed :=
    (within oneCallTurn [] .new _ world ran).batches _ reported
  omega

end Example

end OpenJax.Agent
