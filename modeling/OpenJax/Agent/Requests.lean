import OpenJax.Agent.CallEffects

set_option autoImplicit false

namespace OpenJax.Agent

open Shared Protocol Model Tools

def answersUse (id : String) : UserContentBlock → Bool
  | .toolResult useId _ _ => useId == id
  | .text _ => false

def toolUseIds (blocks : List AssistantContentBlock) : List String :=
  (blocks.filterMap AssistantContentBlock.toolUse?).map ToolUse.id

def Answered (ids : List String) : List ConversationMessage → Prop
  | .user blocks :: _ => ∀ id ∈ ids, blocks.countP (answersUse id) = 1
  | _ => ids = []

def WellFormed : List ConversationMessage → Prop
  | [] => True
  | .user _ :: rest => WellFormed rest
  | .assistant blocks :: rest => Answered (toolUseIds blocks) rest ∧ WellFormed rest

instance (ids : List String) : (messages : List ConversationMessage) →
    Decidable (Answered ids messages)
  | [] => inferInstanceAs (Decidable (ids = []))
  | .user blocks :: _ =>
      inferInstanceAs (Decidable (∀ id ∈ ids, blocks.countP (answersUse id) = 1))
  | .assistant _ :: _ => inferInstanceAs (Decidable (ids = []))

instance decidableWellFormed : (messages : List ConversationMessage) →
    Decidable (WellFormed messages)
  | [] => inferInstanceAs (Decidable True)
  | .user _ :: rest => decidableWellFormed rest
  | .assistant blocks :: rest =>
      have := decidableWellFormed rest
      inferInstanceAs (Decidable (Answered (toolUseIds blocks) rest ∧ WellFormed rest))

theorem answered_nil (messages : List ConversationMessage) : Answered [] messages := by
  rcases messages with _ | ⟨_ | _, _⟩ <;> simp [Answered]

theorem Answered.append {ids : List String} {first : List ConversationMessage}
    (answered : Answered ids first) (second : List ConversationMessage) :
    Answered ids (first ++ second) := by
  match first, answered with
  | [], answered =>
    obtain rfl : ids = [] := answered
    exact answered_nil _
  | .user _ :: _, answered => exact answered
  | .assistant _ :: _, answered => exact answered

theorem WellFormed.append {first second : List ConversationMessage}
    (before : WellFormed first) (after : WellFormed second) : WellFormed (first ++ second) := by
  induction first with
  | nil => exact after
  | cons message rest ih =>
    cases message with
    | user blocks => exact ih before
    | assistant blocks => exact ⟨before.1.append second, ih before.2⟩

theorem wellFormed_users {messages : List ConversationMessage}
    (users : ∀ message ∈ messages, ∃ blocks, message = .user blocks) : WellFormed messages := by
  induction messages with
  | nil => trivial
  | cons message rest ih =>
    obtain ⟨blocks, rfl⟩ := users message List.mem_cons_self
    exact ih fun other member => users other (List.mem_cons_of_mem _ member)

section Refresh

variable {text : String}

theorem refreshBlocks_countP {blocks changed : List UserContentBlock}
    (refreshed : refreshBlocks text blocks = some changed) (id : String) :
    changed.countP (answersUse id) = blocks.countP (answersUse id) := by
  induction blocks generalizing changed with
  | nil => simp [refreshBlocks] at refreshed
  | cons block rest ih =>
    cases block with
    | text shown =>
      cases refreshed
      simp [answersUse]
    | toolResult useId content isError =>
      obtain ⟨later, found, rfl⟩ := Option.map_eq_some_iff.mp refreshed
      rw [List.countP_cons, List.countP_cons, ih found]

theorem refreshLast_cases {message : ConversationMessage}
    {rest refreshed : List ConversationMessage}
    (changed : refreshLast text (message :: rest) = some refreshed) :
    (∃ later, refreshLast text rest = some later ∧ refreshed = message :: later) ∨
      ∃ blocks edited, message = .user blocks ∧ refreshBlocks text blocks = some edited ∧
        refreshed = .user edited :: rest := by
  unfold refreshLast at changed
  cases deeper : refreshLast text rest with
  | some later =>
    simp only [deeper, Option.some.injEq] at changed
    exact .inl ⟨later, rfl, changed.symm⟩
  | none =>
    cases message with
    | assistant blocks => simp [deeper] at changed
    | user blocks =>
      simp only [deeper, Option.map_eq_some_iff] at changed
      obtain ⟨edited, found, same⟩ := changed
      exact .inr ⟨blocks, edited, rfl, found, same.symm⟩

variable {messages refreshed : List ConversationMessage}

theorem Answered.refreshLast {ids : List String} (answered : Answered ids messages)
    (changed : refreshLast text messages = some refreshed) : Answered ids refreshed := by
  match messages with
  | [] => simp [Agent.refreshLast] at changed
  | message :: rest =>
    rcases refreshLast_cases changed with ⟨later, -, rfl⟩ | ⟨blocks, edited, rfl, found, rfl⟩
    · cases message <;> exact answered
    · intro id member
      rw [refreshBlocks_countP found]
      exact answered id member

theorem WellFormed.refreshLast (wellFormed : WellFormed messages)
    (changed : refreshLast text messages = some refreshed) : WellFormed refreshed := by
  induction messages generalizing refreshed with
  | nil => simp [Agent.refreshLast] at changed
  | cons message rest ih =>
    rcases refreshLast_cases changed with ⟨later, deeper, rfl⟩ | ⟨blocks, edited, rfl, -, rfl⟩
    · cases message with
      | user blocks => exact (ih wellFormed deeper : WellFormed later)
      | assistant blocks =>
        exact ⟨wellFormed.1.refreshLast deeper, ih wellFormed.2 deeper⟩
    · exact wellFormed

theorem WellFormed.refresh {messages : List ConversationMessage}
    (wellFormed : WellFormed messages) (userInput : String) (loopRecovery : Option String) :
    WellFormed (refreshLoopRecoveryInMessages messages userInput loopRecovery) := by
  unfold refreshLoopRecoveryInMessages
  cases changed : Agent.refreshLast (inputText userInput loopRecovery) messages with
  | none => exact wellFormed
  | some refreshed => exact wellFormed.refreshLast changed

end Refresh

def resultId? : UserContentBlock → Option String
  | .toolResult useId _ _ => some useId
  | .text _ => none

theorem countP_answersUse (id : String) (results : List UserContentBlock) :
    results.countP (answersUse id) = (results.filterMap resultId?).count id := by
  induction results with
  | nil => rfl
  | cons block rest ih =>
    cases block with
    | text shown => simpa [answersUse, resultId?, List.filterMap_cons] using ih
    | toolResult useId content isError =>
      simp [answersUse, resultId?, List.countP_cons, List.count_cons, ih]

/-- The results answer the last assistant message in the order of its calls, the pending calls
follow, then the dropped ones; where calls were dropped the pending ones use up the budget. -/
structure BatchPairing (turn : Turn) (state : TurnState) (batch : ToolBatch) : Prop where
  paired : ∃ earlier blocks dropped, state.messages = earlier ++ [.assistant blocks] ∧
    WellFormed earlier ∧ (toolUseIds blocks).Nodup ∧
    toolUseIds blocks =
      batch.results.filterMap resultId? ++ batch.pending.map ToolUse.id ++ dropped ∧
    dropped.length = batch.droppedCount
  inhabited : batch.results ≠ [] ∨ batch.pending ≠ []
  budget : batch.droppedCount = 0 ∨
    turn.maxToolCallsPerTurn ≤ state.executedCount + batch.pending.length ∨
    turn.maxPlannerRoundsPerTurn ≤ state.plannerRounds

def Paired (turn : Turn) (state : TurnState) : Prop :=
  (∀ request ∈ state.requests, WellFormed request.messages) ∧
    match state.phase with
    | .awaitingModel =>
        WellFormed state.messages ∧ state.executedCount < turn.maxToolCallsPerTurn
    | .running batch => BatchPairing turn state batch
    | .finished => True

variable {state : TurnState} {turn : Turn}

theorem Paired.finish (requests : ∀ request ∈ state.requests, WellFormed request.messages) :
    Paired turn (turn.finish state) :=
  ⟨requests, trivial⟩

theorem Paired.planRound (requests : ∀ request ∈ state.requests, WellFormed request.messages)
    (wellFormed : turn.maxToolCallsPerTurn ≤ state.executedCount ∨
      turn.maxPlannerRoundsPerTurn ≤ state.plannerRounds ∨ WellFormed state.messages) :
    Paired turn (turn.planRound state) := by
  unfold Turn.planRound
  split
  · rename_i continues
    have sent : WellFormed state.messages := by
      rcases wellFormed with exhausted | exhausted | sent
      · omega
      · omega
      · exact sent
    have refreshed := sent.refresh turn.userInput state.loopDetector.recoveryPrompt
    refine ⟨?_, refreshed, continues.1⟩
    intro request member
    rcases List.mem_append.mp member with old | new
    · exact requests request old
    · obtain rfl := List.mem_singleton.mp new
      exact refreshed
  · exact .finish requests

theorem Paired.advanceBatch {batch : ToolBatch}
    (requests : ∀ request ∈ state.requests, WellFormed request.messages)
    (pairing : BatchPairing turn state batch) : Paired turn (turn.advanceBatch state batch) := by
  unfold Turn.advanceBatch
  by_cases emptied : batch.pending = []
  · rw [if_pos (by simp [emptied])]
    have answered : batch.results ≠ [] := by
      rcases pairing.inhabited with answered | waiting
      · exact answered
      · exact absurd emptied waiting
    have closed : turn.closeBatch state batch =
        { state.push [.toolBatchCompleted turn.turnId
            ((batch.executableCount + batch.droppedCount) % 0x100000000)
            batch.succeeded batch.failed] with
          messages := state.messages ++ [.user batch.results] } := by
      simp [Turn.closeBatch, answered, TurnState.push]
    rw [closed]
    apply Paired.planRound
    · exact requests
    · obtain ⟨earlier, blocks, dropped, messages, wellFormed, distinct, ids, count⟩ :=
        pairing.paired
      rcases pairing.budget with none | exhausted | exhausted
      · -- Nothing was dropped: the results answer every call.
        right; right
        obtain rfl : dropped = [] := List.eq_nil_of_length_eq_zero (count.trans none)
        rw [emptied, List.map_nil, List.append_nil, List.append_nil] at ids
        dsimp only
        rw [messages, List.append_assoc]
        apply wellFormed.append
        refine ⟨?_, trivial⟩
        intro id member
        rw [countP_answersUse, ← ids]
        exact List.count_eq_one_of_mem distinct member
      · rw [emptied] at exhausted
        exact .inl exhausted
      · exact .inr (.inl exhausted)
  · rw [if_neg (by simp [emptied])]
    exact ⟨requests, pairing.paired, pairing.inhabited, pairing.budget⟩

def DistinctIds : TurnInput → Prop
  | .model answer => ∀ response, answer.result = .ok response →
      (response.toolUses.map ToolUse.id).Nodup
  | .tool _ => True

/-- In a batch from which calls were dropped, the next call is not skipped as a duplicate: the
skip would leave the budget open, and with rounds left the turn would go on. -/
def KeepsBudget (turn : Turn) (state : TurnState) : TurnInput → Prop
  | .model _ => True
  | .tool answer =>
      match state.phase with
      | .running batch =>
          batch.droppedCount = 0 ∨ turn.maxPlannerRoundsPerTurn ≤ state.plannerRounds ∨
            ∀ use ∈ batch.pending.head?, turn.duplicates state use answer = false ∨
              Turn.skipsRunOut state = true
      | _ => True

theorem Paired.answerTool {batch : ToolBatch} {use : ToolUse} {rest : List ToolUse}
    (answer : ToolAnswer) (requests : ∀ request ∈ state.requests, WellFormed request.messages)
    (pairing : BatchPairing turn state batch) (pending : batch.pending = use :: rest)
    (keeps : batch.droppedCount = 0 ∨ turn.maxPlannerRoundsPerTurn ≤ state.plannerRounds ∨
      turn.duplicates state use answer = false ∨ Turn.skipsRunOut state = true) :
    Paired turn (turn.answerTool state batch use rest answer) := by
  obtain ⟨next, outcome, added, executed, frame, effect⟩ :=
    executeNativeToolCall_effect turn state use answer
  have sent : ∀ request ∈ next.requests, WellFormed request.messages := by
    rw [frame.requests]
    exact requests
  unfold Turn.answerTool
  rw [executed]
  have advance : ∀ content ok,
      (batch.droppedCount = 0 ∨ turn.maxPlannerRoundsPerTurn ≤ state.plannerRounds ∨
        next.executedCount = state.executedCount + 1) →
      Paired turn (turn.advanceBatch next (batch.answer use rest content ok)) := by
    intro content ok counted
    apply Paired.advanceBatch sent
    obtain ⟨earlier, blocks, dropped, messages, wellFormed, distinct, ids, count⟩ :=
      pairing.paired
    refine ⟨⟨earlier, blocks, dropped, frame.messages.trans messages, wellFormed, distinct,
      ?_, count⟩, .inl (by simp [ToolBatch.answer]), ?_⟩
    · rw [ids, pending]
      simp [ToolBatch.answer, resultId?, List.filterMap_append]
    · rcases counted with kept | exhausted | counted
      · exact .inl kept
      · exact .inr (.inr (by rw [frame.plannerRounds]; exact exhausted))
      · rcases pairing.budget with kept | budget | exhausted
        · exact .inl kept
        · refine .inr (.inl ?_)
          rw [pending, List.length_cons] at budget
          rw [counted]
          simp only [ToolBatch.answer]
          omega
        · exact .inr (.inr (by rw [frame.plannerRounds]; exact exhausted))
  cases effect with
  | executed completes counted => exact advance _ _ (.inr (.inr counted))
  | skipped completes duplicate continues kept =>
    apply advance
    rcases keeps with none | exhausted | fresh | runOut
    · exact .inl none
    · exact .inr (.inl exhausted)
    · rw [duplicate] at fresh
      cases fresh
    · rw [continues] at runOut
      cases runOut
  | stopped => exact .finish sent
  | blocked => exact .finish sent

theorem Paired.beginBatch {earlier : List ConversationMessage} {blocks : List AssistantContentBlock}
    {uses : List ToolUse} (requests : ∀ request ∈ state.requests, WellFormed request.messages)
    (messages : state.messages = earlier ++ [.assistant blocks]) (wellFormed : WellFormed earlier)
    (ids : toolUseIds blocks = uses.map ToolUse.id) (distinct : (uses.map ToolUse.id).Nodup)
    (proposed : uses ≠ []) (budget : state.executedCount < turn.maxToolCallsPerTurn) :
    Paired turn (turn.beginBatch state uses) := by
  have positive : 0 < uses.length := List.length_pos_iff.mpr proposed
  refine ⟨requests, ⟨earlier, blocks,
    (uses.drop (turn.executableCount state uses)).map ToolUse.id, messages, wellFormed,
    ids ▸ distinct, ?_, ?_⟩, .inr ?_, ?_⟩
  · rw [ids, List.filterMap_nil, List.nil_append, ← List.map_append, List.take_append_drop]
  · exact List.length_map _
  · rw [← List.length_pos_iff, List.length_take]
    unfold Turn.executableCount
    omega
  · simp only [Turn.beginBatch, TurnState.push, List.length_drop, List.length_take]
    unfold Turn.executableCount
    omega

theorem Paired.answerModel {answer : ModelAnswer}
    (requests : ∀ request ∈ state.requests, WellFormed request.messages)
    (wellFormed : WellFormed state.messages) (distinct : DistinctIds (.model answer))
    (budget : state.executedCount < turn.maxToolCallsPerTurn) :
    Paired turn (turn.answerModel state answer) := by
  unfold Turn.answerModel
  cases answered : answer.result with
  | error message => exact .finish requests
  | ok response =>
    dsimp only
    cases used : response.hasToolUse with
    | false => exact .finish requests
    | true =>
      rw [if_pos rfl]
      refine Paired.beginBatch requests (rfl : _ = state.messages ++ _) wellFormed ?_
        (distinct response answered) ?_ budget
      · rw [toolUseIds, ModelResponse.assistantHistoryBlocks_toolUses]
      · rw [ModelResponse.hasToolUse_eq] at used
        simpa using used

theorem Paired.step (turn : Turn) :
    Preserves (step turn) (fun state input => DistinctIds input ∧ KeepsBudget turn state input)
      (Paired turn) := by
  intro state input next paired allowed stepped
  obtain ⟨requests, phase⟩ := paired
  obtain ⟨distinct, keeps⟩ := allowed
  cases shape : state.phase with
  | awaitingModel =>
    rw [shape] at phase
    cases input with
    | tool answer => simp [Agent.step, shape] at stepped
    | model answer =>
      simp only [Agent.step, shape, Option.some.injEq] at stepped
      rw [← stepped]
      exact .answerModel requests phase.1 distinct phase.2
  | running batch =>
    rw [shape] at phase
    cases input with
    | model answer => simp [Agent.step, shape] at stepped
    | tool answer =>
      cases pending : batch.pending with
      | nil => simp [Agent.step, shape, pending] at stepped
      | cons use rest =>
        simp only [Agent.step, shape, pending, Option.some.injEq] at stepped
        rw [← stepped]
        simp only [KeepsBudget, shape, pending, List.head?_cons, Option.mem_some,
          forall_eq'] at keeps
        exact .answerTool answer requests phase pending keeps
  | finished => cases input <;> simp [Agent.step, shape] at stepped

theorem Paired.start (turn : Turn) (history : List HistoryItem) (loopDetector : LoopDetector) :
    Paired turn (turn.start history loopDetector) := by
  apply Paired.planRound
  · intro request member
    cases member
  · right; right
    apply wellFormed_users
    intro message member
    unfold buildTurnMessages at member
    rcases List.mem_append.mp member with prior | input
    · split at prior
      · cases prior
      · exact ⟨_, List.mem_singleton.mp prior⟩
    · exact ⟨_, List.mem_singleton.mp input⟩

theorem requests_wellFormed (turn : Turn) (history : List HistoryItem)
    (loopDetector : LoopDetector) (inputs : List TurnInput) (final : TurnState)
    (meets : Meets (step turn)
      (fun state input => DistinctIds input ∧ KeepsBudget turn state input)
      (turn.start history loopDetector) inputs)
    (ran : run (step turn) (turn.start history loopDetector) inputs = some final) :
    ∀ request ∈ final.requests, WellFormed request.messages :=
  (run_invariant (Paired.step turn) (Paired.start turn history loopDetector) meets ran).1

section Example

def listFiles (id : String) : AssistantContentBlock :=
  .toolUse id "shell" (.obj [("cmd", .str "ls")])

def modelCalls (blocks : List AssistantContentBlock) : TurnInput :=
  .model ⟨[], .ok { content := blocks, stopReason := some .toolUse }, none⟩

def toolSucceeds : TurnInput :=
  .tool ⟨id, [], .ok ⟨"a.txt", "a.txt", none, true⟩⟩

def shortTurn : Turn :=
  { turnId := 1
    userInput := "list"
    maxToolCallsPerTurn := 2
    maxPlannerRoundsPerTurn := 10
    toolSpecs := []
    systemPrompt := "You are OpenJax."
    formats :=
      { jsonText := fun _ => "\x7b\"cmd\":\"ls\"\x7d"
        parseJson := fun _ => some (.obj [("cmd", .str "ls")])
        debugArgs := fun _ => "\x7b\"cmd\": \"ls\"\x7d" } }

def repeatedInputs : List TurnInput :=
  [modelCalls [listFiles "c1"], toolSucceeds,
    modelCalls [listFiles "c2", listFiles "c3"], toolSucceeds]

def sendsMalformed (state : TurnState) : Bool :=
  state.requests.any fun request => decide (¬ WellFormed request.messages)

theorem repeatedInputs_distinct : ∀ input ∈ repeatedInputs, DistinctIds input := by
  intro input member
  simp only [repeatedInputs, List.mem_cons, List.not_mem_nil, or_false] at member
  rcases member with rfl | rfl | rfl | rfl
  · intro response same
    cases same
    decide
  · trivial
  · intro response same
    cases same
    decide
  · trivial

theorem duplicate_skip_leaves_call_unanswered :
    ¬ ∀ (turn : Turn) (history : List HistoryItem) (loopDetector : LoopDetector)
        (inputs : List TurnInput) (final : TurnState),
      Meets (step turn) (fun _ input => DistinctIds input)
        (turn.start history loopDetector) inputs →
      run (step turn) (turn.start history loopDetector) inputs = some final →
      ∀ request ∈ final.requests, WellFormed request.messages := by
  intro always
  have malformed : (run (step shortTurn) (shortTurn.start [] LoopDetector.new)
      repeatedInputs).any sendsMalformed = true := by decide +kernel
  obtain ⟨final, ran, sends⟩ := (Option.any_eq_true _ _).mp malformed
  have wellFormed := always shortTurn [] LoopDetector.new repeatedInputs final
    (.of_inputs repeatedInputs_distinct) ran
  obtain ⟨request, sent, broken⟩ := List.any_eq_true.mp sends
  exact of_decide_eq_true broken (wellFormed request sent)

theorem requests_wellFormed_after_call :
    ∃ final, run (step shortTurn) (shortTurn.start [] LoopDetector.new)
        [modelCalls [listFiles "c1"], toolSucceeds] = some final ∧
      final.requests.length = 2 ∧ ∀ request ∈ final.requests, WellFormed request.messages := by
  have twice : (run (step shortTurn) (shortTurn.start [] LoopDetector.new)
      [modelCalls [listFiles "c1"], toolSucceeds]).any
      (fun final => final.requests.length == 2) = true := by decide +kernel
  obtain ⟨final, ran, sent⟩ := (Option.any_eq_true _ _).mp twice
  have meets : Meets (step shortTurn)
      (fun state input => DistinctIds input ∧ KeepsBudget shortTurn state input)
      (shortTurn.start [] LoopDetector.new) [modelCalls [listFiles "c1"], toolSucceeds] := by
    refine ⟨⟨repeatedInputs_distinct _ List.mem_cons_self, trivial⟩, ?_⟩
    intro next stepped
    obtain rfl := Option.some.inj stepped
    exact ⟨⟨trivial, Or.inl rfl⟩, fun _ _ => trivial⟩
  exact ⟨final, ran, eq_of_beq sent,
    requests_wellFormed shortTurn [] LoopDetector.new _ final meets ran⟩

end Example

end OpenJax.Agent
