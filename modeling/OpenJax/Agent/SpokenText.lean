import OpenJax.Agent.Planner

set_option autoImplicit false

namespace OpenJax.Agent

open Shared Protocol Model Tools

def silent : Event → Bool
  | .turnStarted _ | .turnCompleted _ | .assistantMessage .. | .responseStarted ..
  | .responseResumed .. | .responseTextDelta .. | .responseCompleted .. => false
  | _ => true

def streaming (turnId : Nat) : Event → Bool
  | .responseStarted other _ | .responseTextDelta other .. => other = turnId
  | event => silent event

def deltaOf : Event → List Char
  | .responseTextDelta _ contentDelta _ => contentDelta.toList
  | _ => []

def deltaText (events : List Event) : List Char := events.flatMap deltaOf

def spoken : StreamDelta → List Char
  | .text delta => delta.toList
  | .reasoning _ | .toolUseStart .. | .toolArgsDelta .. | .toolUseEnd _ => []

def answerText : TurnInput → List Char
  | .model answer => answer.deltas.flatMap spoken
  | .tool _ => []

def completes : TurnInput → Bool
  | .model ⟨_, .ok response, _⟩ => !response.hasToolUse
  | _ => false

section Events

variable {turnId : Nat} {first second : List Event}

@[simp] theorem deltaText_append (first second : List Event) :
    deltaText (first ++ second) = deltaText first ++ deltaText second := List.flatMap_append

theorem streaming_of_silent {event : Event} (quiet : silent event) : streaming turnId event := by
  cases event <;> first | exact quiet | cases quiet

theorem deltaOf_silent {event : Event} (quiet : silent event) : deltaOf event = [] := by
  cases event <;> first | rfl | cases quiet

structure Spoken (turnId : Nat) (events : List Event) (text : List Char) : Prop where
  streaming : events.all (streaming turnId)
  text : deltaText events = text

theorem Spoken.append {said more : List Char} (left : Spoken turnId first said)
    (right : Spoken turnId second more) : Spoken turnId (first ++ second) (said ++ more) where
  streaming := by rw [List.all_append, left.streaming, right.streaming]; rfl
  text := by rw [deltaText_append, left.text, right.text]

theorem spoken_silent (quiet : first.all silent) : Spoken turnId first [] where
  streaming := List.all_eq_true.mpr fun event member =>
    streaming_of_silent (List.all_eq_true.mp quiet event member)
  text := List.flatMap_eq_nil_iff.mpr fun event member =>
    deltaOf_silent (List.all_eq_true.mp quiet event member)

theorem Spoken.add {said : List Char} (left : Spoken turnId first said)
    (quiet : second.all silent) : Spoken turnId (first ++ second) said := by
  have whole := left.append (spoken_silent quiet)
  rwa [List.append_nil] at whole

end Events

section Stream

variable (formats : TextFormats) (specs : List ToolSpec) (turnId : Nat)

structure Streamed (stream : PlannerStream) (text : List Char) : Prop where
  spoken : Spoken turnId stream.events text
  streamed : stream.streamedText.toList = text
  started : stream.responseStarted = !text.isEmpty

variable {turnId} {stream : PlannerStream} {said : List Char}

theorem Streamed.silent (streamed : Streamed turnId stream said) {event : Event}
    (quiet : silent event) : Spoken turnId (stream.events ++ [event]) said :=
  streamed.spoken.add (by simp [quiet])

theorem Streamed.onTextDelta (streamed : Streamed turnId stream said) (delta : String) :
    Streamed turnId (stream.onTextDelta turnId delta) (said ++ delta.toList) := by
  unfold PlannerStream.onTextDelta
  by_cases empty : delta.isEmpty
  · rw [if_pos empty]
    have none : delta.toList = [] := by simpa using empty
    rwa [none, List.append_nil]
  · rw [if_neg empty]
    have some : delta.toList ≠ [] := by simpa using empty
    have own : Spoken turnId [.responseTextDelta turnId delta .modelLive] delta.toList :=
      ⟨by simp [streaming], by simp [deltaText, deltaOf]⟩
    have opened : Spoken turnId
        (if stream.orchestratorStarted then stream
          else stream.push (.responseStarted turnId .modelLive)).events said := by
      split
      · exact streamed.spoken
      · have begun : Spoken turnId [.responseStarted turnId .modelLive] [] :=
          ⟨by simp [streaming], rfl⟩
        have whole := streamed.spoken.append begun
        rwa [List.append_nil] at whole
    refine ⟨opened.append own, ?_, ?_⟩
    · rw [String.toList_append, streamed.streamed]
    · simp [some]

theorem Streamed.onDelta (streamed : Streamed turnId stream said) (delta : StreamDelta) :
    Streamed turnId (stream.onDelta formats specs turnId delta) (said ++ Agent.spoken delta) := by
  cases delta with
  | text delta => exact streamed.onTextDelta delta
  | reasoning delta =>
    rw [Agent.spoken, List.append_nil, PlannerStream.onDelta]
    split
    · exact streamed
    · exact ⟨streamed.silent rfl, streamed.streamed, streamed.started⟩
  | toolUseStart id name | toolArgsDelta id delta | toolUseEnd id =>
    rw [Agent.spoken, List.append_nil]
    exact ⟨streamed.silent rfl, streamed.streamed, streamed.started⟩

theorem streamed_consume (deltas : List StreamDelta) :
    Streamed turnId (PlannerStream.consume formats specs turnId deltas)
      (deltas.flatMap spoken) := by
  have empty : Streamed turnId PlannerStream.empty [] := ⟨⟨rfl, rfl⟩, rfl, rfl⟩
  have all (stream : PlannerStream) (said : List Char) (streamed : Streamed turnId stream said) :
      Streamed turnId (deltas.foldl (PlannerStream.onDelta formats specs turnId) stream)
        (said ++ deltas.flatMap spoken) := by
    induction deltas generalizing stream said with
    | nil => simpa using streamed
    | cons delta rest ih =>
      rw [List.foldl_cons, List.flatMap_cons, ← List.append_assoc]
      exact ih _ _ (streamed.onDelta formats specs delta)
  exact all _ _ empty

end Stream

section Calls

variable (turn : Turn) {state mid next : TurnState}

def Grown (state next : TurnState) : Prop :=
  ∃ added, next.events = state.events ++ added ∧ added.all silent

theorem Grown.refl (state : TurnState) : Grown state state := ⟨[], by simp, rfl⟩

theorem Grown.push (grown : Grown state mid) (events : List Event) (quiet : events.all silent) :
    Grown state (mid.push events) := by
  obtain ⟨added, same, before⟩ := grown
  refine ⟨added ++ events, ?_, by simp [before, quiet]⟩
  rw [TurnState.push, same, List.append_assoc]

theorem Grown.of_events (grown : Grown state mid) (same : next.events = mid.events) :
    Grown state next := by
  obtain ⟨added, whole, quiet⟩ := grown
  exact ⟨added, same.trans whole, quiet⟩

theorem silent_live (events : List LiveEvent) : (events.map LiveEvent.event).all silent := by
  rw [List.all_map]
  refine List.all_eq_true.mpr fun live _ => ?_
  have approval := live.approval
  cases shape : live.event <;> simp_all [isApprovalEvent, silent]

theorem grown_guard {toolName : String} {args : List (String × String)}
    {guarded : TurnState × NativeToolExecOutcome}
    (found : turn.guardDuplicateNativeToolCall state toolName args = some guarded) :
    Grown state guarded.1 := by
  unfold Turn.guardDuplicateNativeToolCall at found
  split at found
  · dsimp only at found
    have skipped := ((Grown.refl state).push [turn.responseError
      "duplicate_tool_call_skipped" (duplicateToolCallWarning turn.formats toolName args) true]
        rfl)
    split at found
    · cases found
      exact skipped.push _ rfl
    · cases found
      exact skipped
  · cases found

theorem grown_conclude {started : TurnState} (grown : Grown state started) (use : ToolUse)
    (args : List (String × String)) (outcome : ToolExecOutcome) :
    Grown state (turn.concludeCall started use args outcome).1 := by
  unfold Turn.concludeCall
  dsimp only
  generalize bumpedEq : (if isMutatingTool use.name = true then
    { started with stateEpoch := started.stateEpoch + 1 } else started) = bumped
  have same : bumped.events = started.events := by
    rw [← bumpedEq]
    split <;> rfl
  generalize bumped.loopDetector.checkAndAdvance use.name (argsJson turn.formats args) = checked
  obtain ⟨signal, detector⟩ := checked
  have advanced : Grown state { bumped with loopDetector := detector } := grown.of_events same
  cases signal with
  | halt => exact advanced.push _ rfl
  | none =>
    have ended := (advanced.push [] rfl).push [turn.toolCallCompleted use
      outcome.success outcome.displayOutput outcome.shellMetadata] rfl
    exact ended.of_events rfl
  | warned =>
    have ended := (advanced.push
      [Event.loopWarning turn.turnId use.name detector.warnThreshold] rfl).push
        [turn.toolCallCompleted use outcome.success outcome.displayOutput
          outcome.shellMetadata] rfl
    exact ended.of_events rfl

theorem grown_fail {started : TurnState} (grown : Grown state started) (use : ToolUse)
    (args : List (String × String)) (errorText : String) :
    Grown state (turn.failCall started use args errorText).1 := by
  unfold Turn.failCall
  dsimp only
  have failed := grown.push [turn.toolCallFailed use (toolFailureCode errorText)
    errorText (toolFailureRetryable errorText), turn.toolCallCompleted use false errorText none]
      rfl
  split
  · exact (failed.of_events rfl).push _ rfl
  · exact failed.of_events rfl

theorem grown_execute (state : TurnState) (use : ToolUse) (answer : ToolAnswer) :
    Grown state (turn.executeNativeToolCall state use answer).1 := by
  unfold Turn.executeNativeToolCall
  split
  · exact (Grown.refl state).push _ rfl
  · dsimp only
    split
    next guarded found => exact grown_guard turn found
    · have started : Grown state (state.push (.toolCallProgress turn.turnId use.id use.name
          "executing" (displayNameFor turn.toolSpecs use.name) ::
            answer.liveEvents.map LiveEvent.event)) := (Grown.refl state).push _ (silent_live _)
      unfold Turn.executeNativeToolCallBody
      dsimp only
      split
      · exact grown_conclude turn started use _ _
      · exact grown_fail turn started use _ _

theorem grown_closeBatch (grown : Grown state mid) (batch : ToolBatch) :
    Grown state (turn.closeBatch mid batch) := by
  have closed := grown.push [.toolBatchCompleted turn.turnId
    ((batch.executableCount + batch.droppedCount) % 0x100000000) batch.succeeded batch.failed] rfl
  unfold Turn.closeBatch
  dsimp only
  split
  · exact closed
  · exact closed.of_events rfl

theorem silent_dropped (uses : List ToolUse) : (uses.flatMap turn.droppedEvents).all silent := by
  rw [List.all_flatMap]
  exact List.all_eq_true.mpr fun use _ => rfl

theorem silent_context (report : Option (ContextUsage × Option ContextCompaction)) :
    (turn.contextEvents report).all silent := by
  rcases report with _ | ⟨usage, _ | done⟩ <;> rfl

end Calls

section Runs

variable (turn : Turn)

def Going (said : List Char) (events : List Event) : Prop :=
  ∃ body, events = .turnStarted turn.turnId :: body ∧ Spoken turn.turnId body said

def Broken (said : List Char) (events : List Event) : Prop :=
  ∃ body, events = .turnStarted turn.turnId :: (body ++ [.turnCompleted turn.turnId]) ∧
    Spoken turn.turnId body said

def Concluded (said : List Char) (events : List Event) : Prop :=
  ∃ body content source, events = .turnStarted turn.turnId ::
      (body ++ [.responseCompleted turn.turnId content source, .turnCompleted turn.turnId]) ∧
    Spoken turn.turnId body (said ++ content.toList)

variable {turn} {state next : TurnState} {said : List Char}

theorem Going.grown (going : Going turn said state.events) (grown : Grown state next) :
    Going turn said next.events := by
  obtain ⟨body, same, spoken⟩ := going
  obtain ⟨added, whole, quiet⟩ := grown
  exact ⟨body ++ added, by rw [whole, same]; rfl, spoken.add quiet⟩

theorem Going.finish (going : Going turn said state.events) :
    Broken turn said (turn.finish state).events := by
  obtain ⟨body, same, spoken⟩ := going
  exact ⟨body, by rw [Turn.finish, TurnState.push, same]; rfl, spoken⟩

def Told (turn : Turn) (said : List Char) (state : TurnState) : Prop :=
  match state.phase with
  | .finished => Broken turn said state.events
  | _ => Going turn said state.events

theorem told_planRound (going : Going turn said state.events) :
    Told turn said (turn.planRound state) := by
  unfold Turn.planRound
  split
  · exact going
  · exact (going.grown ((Grown.refl state).push _ rfl)).finish

theorem told_advance (going : Going turn said state.events) (batch : ToolBatch) :
    Told turn said (turn.advanceBatch state batch) := by
  unfold Turn.advanceBatch
  split
  · exact told_planRound (going.grown (grown_closeBatch turn (Grown.refl state) batch))
  · exact going

theorem told_tool (going : Going turn said state.events) (batch : ToolBatch) (use : ToolUse)
    (rest : List ToolUse) (answer : ToolAnswer) :
    Told turn said (turn.answerTool state batch use rest answer) := by
  have grown := grown_execute turn state use answer
  unfold Turn.answerTool
  split
  next next modelContent ok executed =>
    rw [executed] at grown
    exact told_advance (going.grown grown) _
  next next executed =>
    rw [executed] at grown
    exact (going.grown grown).finish

theorem toList_synthetic (turnId chunkLength : Nat) (message : String) :
    Spoken turnId (emitSyntheticResponseDeltas turnId message chunkLength) message.toList := by
  have chunks (chunk text : List Char) :
      (chunkChars chunkLength chunk text).flatten = chunk ++ text := by
    induction text generalizing chunk with
    | nil => cases chunk <;> simp [chunkChars]
    | cons c rest ih =>
      have grows : chunkChars chunkLength chunk (c :: rest) =
          if chunkLength ≤ (chunk ++ [c]).length then
            (chunk ++ [c]) :: chunkChars chunkLength [] rest
          else chunkChars chunkLength (chunk ++ [c]) rest := by
        cases chunk <;> rfl
      rw [grows]
      split
      · rw [List.flatten_cons, ih]
        simp
      · rw [ih]
        simp
  refine ⟨?_, ?_⟩
  · simp [emitSyntheticResponseDeltas, streaming]
  · have whole := chunks [] message.toList
    rw [List.nil_append] at whole
    have same : (fun chunk => deltaOf (.responseTextDelta turnId (String.ofList chunk) .synthetic)) =
        id := funext fun chunk => String.toList_ofList
    rw [← whole, deltaText, emitSyntheticResponseDeltas, List.flatMap_map, same, List.flatMap_id]

theorem concluded_final {stream : PlannerStream} {text : List Char}
    (streamed : Streamed turn.turnId stream text) (response : ModelResponse)
    {report : Option (ContextUsage × Option ContextCompaction)}
    (going : Going turn said state.events)
    (events : next.events = state.events ++ stream.events ++ turn.contextEvents report) :
    Concluded turn said (turn.finish (next.push (turn.finalEvents stream response))).events := by
  obtain ⟨body, same, spoken⟩ := going
  have heard := (spoken.append streamed.spoken).add (silent_context turn report)
  have whole : (turn.finish (next.push (turn.finalEvents stream response))).events =
      .turnStarted turn.turnId :: (body ++ stream.events ++ turn.contextEvents report ++
        turn.finalEvents stream response ++ [.turnCompleted turn.turnId]) := by
    simp [Turn.finish, TurnState.push, events, same]
  rw [whole]
  have started := streamed.started
  unfold Turn.finalEvents
  dsimp only
  split
  next begun =>
    rw [begun] at started
    have some : text ≠ [] := by simpa using started
    have filled : ¬ stream.streamedText.isEmpty := by
      rw [← streamed.streamed] at some
      simpa using some
    rw [if_neg filled]
    refine ⟨body ++ stream.events ++ turn.contextEvents report, stream.streamedText, .modelLive,
      by simp, ?_⟩
    rwa [streamed.streamed]
  next begun =>
    have none : text = [] := by
      rw [Bool.not_eq_true] at begun
      rw [begun] at started
      simpa using started
    rw [none, List.append_nil] at heard
    have opened : Spoken turn.turnId [.responseStarted turn.turnId .synthetic] [] :=
      ⟨by simp [streaming], rfl⟩
    have all := heard.append (opened.append (toList_synthetic turn.turnId
      syntheticAssistantDeltaChunkChars response.text))
    exact ⟨_, response.text, .synthetic, by simp, all⟩

def Ended (turn : Turn) (said : List Char) (inputs : List TurnInput) (events : List Event) : Prop :=
  (inputs.any completes = false ∧ Broken turn (said ++ inputs.flatMap answerText) events) ∨
    (inputs.any completes ∧ Concluded turn (said ++ inputs.dropLast.flatMap answerText) events)

theorem model_answer (going : Going turn said state.events) (answer : ModelAnswer) :
    (completes (.model answer) = false ∧
      Told turn (said ++ answerText (.model answer)) (turn.answerModel state answer)) ∨
    (completes (.model answer) ∧ (turn.answerModel state answer).phase = .finished ∧
      Concluded turn said (turn.answerModel state answer).events) := by
  obtain ⟨deltas, result, usage⟩ := answer
  have streamed : Streamed turn.turnId
      (PlannerStream.consume turn.formats turn.toolSpecs turn.turnId deltas)
      (deltas.flatMap spoken) := streamed_consume turn.formats turn.toolSpecs deltas
  have heard : Going turn (said ++ deltas.flatMap spoken) (state.push
      (PlannerStream.consume turn.formats turn.toolSpecs turn.turnId deltas).events).events := by
    obtain ⟨body, same, own⟩ := going
    exact ⟨_, by rw [TurnState.push, same]; rfl, own.append streamed.spoken⟩
  unfold Turn.answerModel
  cases result with
  | error message => exact .inl ⟨rfl, (heard.grown ((Grown.refl _).push _ rfl)).finish⟩
  | ok response =>
    have checked := heard.grown ((Grown.refl _).push _ (silent_context turn usage))
    dsimp only
    cases used : response.hasToolUse with
    | true =>
      refine .inl ⟨by simp [completes, used], ?_⟩
      rw [if_pos rfl]
      have proposed : (Event.toolCallsProposed turn.turnId (response.toolUses.map turn.proposal) ::
          (response.toolUses.drop (turn.executableCount state response.toolUses)).flatMap
            turn.droppedEvents).all silent := silent_dropped turn _
      obtain ⟨body, same, own⟩ := checked.grown ((Grown.refl _).push _ proposed)
      exact ⟨body, same, own⟩
    | false =>
      refine .inr ⟨by simp [completes, used], rfl, ?_⟩
      exact concluded_final streamed response going rfl

theorem told_step {input : TurnInput} (going : Going turn said state.events)
    (stepped : step turn state input = some next) :
    (completes input = false ∧ Told turn (said ++ answerText input) next) ∨
      (completes input ∧ next.phase = .finished ∧ Concluded turn said next.events) := by
  unfold step at stepped
  split at stepped
  next answer =>
    split at stepped
    · cases stepped
      exact model_answer going answer
    · cases stepped
  next answer =>
    split at stepped
    next batch _ =>
      split at stepped
      · cases stepped
        rw [answerText, List.append_nil]
        exact .inl ⟨rfl, told_tool going _ _ _ _⟩
      · cases stepped
    · cases stepped

theorem run_ended {inputs : List TurnInput} {final : TurnState} (told : Told turn said state)
    (ran : run (step turn) state inputs = some final) (finished : final.phase = .finished) :
    Ended turn said inputs final.events := by
  induction inputs generalizing state said with
  | nil =>
    cases ran
    rw [Told, finished] at told
    rw [Ended, List.flatMap_nil, List.append_nil]
    exact .inl ⟨rfl, told⟩
  | cons input rest ih =>
    obtain ⟨next, stepped, remaining⟩ := Option.bind_eq_some_iff.mp ran
    have active : state.phase ≠ .finished := by
      intro ended
      rw [step_finished turn ended input] at stepped
      cases stepped
    have going : Going turn said state.events := by
      unfold Told at told
      split at told
      · next ended => exact absurd ended active
      · exact told
    rcases told_step going stepped with ⟨goesOn, later⟩ | ⟨completing, ended, concluded⟩
    · rcases ih later remaining with ⟨none, broken⟩ | ⟨some, concluded⟩
      · refine .inl ⟨by simp [goesOn, none], ?_⟩
        rwa [List.flatMap_cons, ← List.append_assoc]
      · refine .inr ⟨by simp [some], ?_⟩
        have more : rest ≠ [] := by
          rintro rfl
          cases some
        rwa [List.dropLast_cons_of_ne_nil more, List.flatMap_cons, ← List.append_assoc]
    · cases rest with
      | nil =>
        cases remaining
        refine .inr ⟨by simp [completing], ?_⟩
        rwa [List.dropLast_singleton, List.flatMap_nil, List.append_nil]
      | cons other rest =>
        rw [run, step_finished turn ended other] at remaining
        cases remaining

theorem told_start (history : List HistoryItem) (loopDetector : LoopDetector) :
    Told turn [] (turn.start history loopDetector) :=
  told_planRound ⟨[], rfl, ⟨rfl, rfl⟩⟩

end Runs

end OpenJax.Agent
