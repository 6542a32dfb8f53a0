import OpenJax.Agent.Planner

set_option autoImplicit false

namespace OpenJax.Agent

open Shared Protocol Model Tools

def startedId? : Event → Option String
  | .toolCallStarted _ id .. => some id
  | _ => none

def completedId? : Event → Option String
  | .toolCallCompleted _ id .. => some id
  | _ => none

def isTurnCompleted : Event → Bool
  | .turnCompleted _ => true
  | _ => false

def startedIds (events : List Event) : List String := events.filterMap startedId?

def completedIds (events : List Event) : List String := events.filterMap completedId?

@[simp] theorem startedIds_append (first second : List Event) :
    startedIds (first ++ second) = startedIds first ++ startedIds second :=
  List.filterMap_append

@[simp] theorem completedIds_append (first second : List Event) :
    completedIds (first ++ second) = completedIds first ++ completedIds second :=
  List.filterMap_append

/-- Events added inside a turn: none of them starts a call or completes the turn, and they
complete the given calls. -/
structure Completes (ids : List String) (added : List Event) : Prop where
  started : startedIds added = []
  completed : completedIds added = ids
  unfinished : ∀ event ∈ added, isTurnCompleted event = false

theorem Completes.append {first second : List String} {added more : List Event}
    (left : Completes first added) (right : Completes second more) :
    Completes (first ++ second) (added ++ more) where
  started := by rw [startedIds_append, left.started, right.started, List.append_nil]
  completed := by rw [completedIds_append, left.completed, right.completed]
  unfinished event member := by
    rcases List.mem_append.mp member with inFirst | inSecond
    · exact left.unfinished event inFirst
    · exact right.unfinished event inSecond

theorem completes_liveEvents (events : List LiveEvent) :
    Completes [] (events.map LiveEvent.event) := by
  induction events with
  | nil => exact ⟨rfl, rfl, by simp⟩
  | cons live rest ih =>
    have quiet : Completes [] [live.event] := by
      have approval := live.approval
      cases shape : live.event <;> simp_all [isApprovalEvent] <;> constructor <;>
        simp [startedIds, completedIds, startedId?, completedId?, isTurnCompleted]
    exact quiet.append ih

theorem completes_error (turn : Turn) (code message : String) (retryable : Bool) :
    Completes [] [turn.responseError code message retryable] :=
  ⟨rfl, rfl, by simp [Turn.responseError, isTurnCompleted]⟩

theorem completes_completed (turn : Turn) (use : ToolUse) (ok : Bool) (output : String)
    (metadata : Option ShellExecutionMetadata) :
    Completes [use.id] [turn.toolCallCompleted use ok output metadata] :=
  ⟨rfl, rfl, by simp [Turn.toolCallCompleted, isTurnCompleted]⟩

theorem completes_failed (turn : Turn) (use : ToolUse) (code message : String)
    (retryable : Bool) : Completes [] [turn.toolCallFailed use code message retryable] :=
  ⟨rfl, rfl, by simp [Turn.toolCallFailed, isTurnCompleted]⟩

namespace Turn

variable (turn : Turn)

def unnamed (use : ToolUse) : Bool := (trim use.name).isEmpty

def duplicates (state : TurnState) (use : ToolUse) (answer : ToolAnswer) : Bool :=
  isDuplicateToolCall state.recentToolCalls state.stateEpoch use.name
    (stableArgsJson turn.formats (turn.callArgs use answer))

def skipsRunOut (state : TurnState) : Bool :=
  shouldAbortOnConsecutiveDuplicateSkips (state.consecutiveDuplicateSkips + 1)
    maxConsecutiveDuplicateSkips

def loops (state : TurnState) (use : ToolUse) (answer : ToolAnswer) : Bool :=
  answer.result.toBool &&
    state.loopDetector.halts use.name (argsJson turn.formats (turn.callArgs use answer))

def approvalBlocked (answer : ToolAnswer) : Bool :=
  match answer.result with
  | .error errorText => isApprovalBlockingError errorText
  | .ok _ => false

def leavesOpen (state : TurnState) (use : ToolUse) (answer : ToolAnswer) : Bool :=
  unnamed use || turn.duplicates state use answer || turn.loops state use answer

def stops (state : TurnState) (use : ToolUse) (answer : ToolAnswer) : Bool :=
  unnamed use ||
    if turn.duplicates state use answer then skipsRunOut state
    else turn.loops state use answer || approvalBlocked answer

end Turn

/-- Whatever the call did, it appended events and left the conversation alone. -/
structure CallFrame (state next : TurnState) (added : List Event) : Prop where
  events : next.events = state.events ++ added
  messages : next.messages = state.messages
  requests : next.requests = state.requests
  plannerRounds : next.plannerRounds = state.plannerRounds

section Frame

variable {state mid : TurnState} {before : List Event}

theorem CallFrame.push (frame : CallFrame state mid before) (more : List Event) :
    CallFrame state (mid.push more) (before ++ more) where
  events := by simp [TurnState.push, frame.events]
  messages := frame.messages
  requests := frame.requests
  plannerRounds := frame.plannerRounds

theorem CallFrame.record (frame : CallFrame state mid before) (turn : Turn) (use : ToolUse)
    (args : List (String × String)) (ok : Bool) (output : String) :
    CallFrame state (turn.record mid use args ok output) before :=
  ⟨frame.events, frame.messages, frame.requests, frame.plannerRounds⟩

theorem CallFrame.countCall (frame : CallFrame state mid before) :
    CallFrame state (Turn.countCall mid) before :=
  ⟨frame.events, frame.messages, frame.requests, frame.plannerRounds⟩

end Frame

inductive CallEffect (turn : Turn) (state : TurnState) (use : ToolUse) (answer : ToolAnswer)
    (next : TurnState) (added : List Event) : NativeToolExecOutcome → Prop where
  | executed {content : String} {ok : Bool} (completes : Completes [use.id] added)
      (counted : next.executedCount = state.executedCount + 1) :
      CallEffect turn state use answer next added (.result content ok)
  | skipped {content : String} (completes : Completes [] added)
      (duplicate : turn.duplicates state use answer = true)
      (continues : Turn.skipsRunOut state = false)
      (kept : next.executedCount = state.executedCount) :
      CallEffect turn state use answer next added (.result content false)
  | stopped (completes : Completes [] added)
      (leftOpen : turn.leavesOpen state use answer = true)
      (stops : turn.stops state use answer = true) :
      CallEffect turn state use answer next added .aborted
  | blocked (completes : Completes [use.id] added)
      (stops : turn.stops state use answer = true) :
      CallEffect turn state use answer next added .aborted

section Call

variable (turn : Turn) (state : TurnState) (use : ToolUse) (answer : ToolAnswer)

theorem guardDuplicate_none
    (fresh : turn.duplicates state use answer = false) :
    turn.guardDuplicateNativeToolCall state use.name (turn.callArgs use answer) = none := by
  unfold Turn.guardDuplicateNativeToolCall
  rw [if_neg]
  simpa [Turn.duplicates] using fresh

theorem guardDuplicate_effect
    (duplicate : turn.duplicates state use answer = true) :
    ∃ next outcome added,
      turn.guardDuplicateNativeToolCall state use.name (turn.callArgs use answer) =
          some (next, outcome) ∧
        CallFrame state next added ∧ CallEffect turn state use answer next added outcome := by
  unfold Turn.guardDuplicateNativeToolCall
  rw [if_pos (by simpa [Turn.duplicates] using duplicate)]
  dsimp only
  cases runOut : Turn.skipsRunOut state with
  | true =>
    rw [if_pos (by simpa [Turn.skipsRunOut] using runOut)]
    refine ⟨_, _, _, rfl, ⟨List.append_assoc .., rfl, rfl, rfl⟩, .stopped ?_ ?_ ?_⟩
    · exact (completes_error turn _ _ _).append (completes_error turn _ _ _)
    · simp [Turn.leavesOpen, duplicate]
    · simp [Turn.stops, duplicate, runOut]
  | false =>
    rw [if_neg (by simpa [Turn.skipsRunOut] using runOut)]
    exact ⟨_, _, _, rfl, ⟨rfl, rfl, rfl, rfl⟩,
      .skipped (completes_error turn _ _ _) duplicate runOut rfl⟩

theorem failCall_effect (named : Turn.unnamed use = false)
    (fresh : turn.duplicates state use answer = false) {errorText : String}
    (failed : answer.result = .error errorText) {started : TurnState} {before : List Event}
    (frame : CallFrame state started before) (quiet : Completes [] before)
    (counted : started.executedCount = state.executedCount) :
    ∃ next outcome added,
      turn.failCall started use (turn.callArgs use answer) errorText = (next, outcome) ∧
        CallFrame state next added ∧ CallEffect turn state use answer next added outcome := by
  have ended := ((completes_failed turn use (toolFailureCode errorText) errorText
    (toolFailureRetryable errorText)).append (completes_completed turn use false errorText none))
  have completes := quiet.append ended
  have recorded := (((frame.record turn use (turn.callArgs use answer) false errorText).push
    [turn.toolCallFailed use (toolFailureCode errorText) errorText
      (toolFailureRetryable errorText),
    turn.toolCallCompleted use false errorText none])).countCall
  unfold Turn.failCall
  dsimp only
  cases approval : isApprovalBlockingError errorText with
  | true =>
    rw [if_pos rfl]
    generalize (if containsText errorText.toLower "approval timed out" = true then
      approvalTimedOutStopMessage else approvalRejectedStopMessage) = stopMessage
    have reported := completes_error turn "approval_blocked" stopMessage false
    refine ⟨_, _, _, rfl, recorded.push _, .blocked (completes.append reported) ?_⟩
    simp [Turn.stops, Turn.approvalBlocked, failed, named, fresh, approval]
  | false =>
    rw [if_neg (by simp)]
    refine ⟨_, _, _, rfl, recorded, .executed completes ?_⟩
    simp [TurnState.push, Turn.record, Turn.countCall, counted]

theorem completes_warning (signal : LoopSignal) (threshold : Nat) :
    Completes [] (if signal = .warned then
      [Event.loopWarning turn.turnId use.name threshold] else []) := by
  split
  · exact ⟨rfl, rfl, by simp [isTurnCompleted]⟩
  · exact ⟨rfl, rfl, by simp⟩

theorem concludeCall_effect (named : Turn.unnamed use = false)
    (fresh : turn.duplicates state use answer = false) {outcome : ToolExecOutcome}
    (ran : answer.result = .ok outcome) {started : TurnState} {before : List Event}
    (frame : CallFrame state started before) (quiet : Completes [] before)
    (counted : started.executedCount = state.executedCount)
    (detected : started.loopDetector = state.loopDetector) :
    ∃ next ended added,
      turn.concludeCall started use (turn.callArgs use answer) outcome = (next, ended) ∧
        CallFrame state next added ∧ CallEffect turn state use answer next added ended := by
  unfold Turn.concludeCall
  dsimp only
  generalize bumpedEq : (if isMutatingTool use.name = true then
    { started with stateEpoch := started.stateEpoch + 1 } else started) = bumped
  have bumpedFrame : CallFrame state bumped before := by
    rw [← bumpedEq]
    split
    · exact ⟨frame.events, frame.messages, frame.requests, frame.plannerRounds⟩
    · exact frame
  have bumpedDetector : bumped.loopDetector = state.loopDetector := by
    rw [← bumpedEq, ← detected]
    split <;> rfl
  have bumpedCount : bumped.executedCount = state.executedCount := by
    rw [← bumpedEq, ← counted]
    split <;> rfl
  have halts := LoopDetector.checkAndAdvance_halt_iff state.loopDetector use.name
    (argsJson turn.formats (turn.callArgs use answer))
  rw [bumpedDetector]
  generalize state.loopDetector.checkAndAdvance use.name
    (argsJson turn.formats (turn.callArgs use answer)) = checked at halts ⊢
  obtain ⟨signal, detector⟩ := checked
  have advanced : CallFrame state { bumped with loopDetector := detector } before :=
    ⟨bumpedFrame.events, bumpedFrame.messages, bumpedFrame.requests,
      bumpedFrame.plannerRounds⟩
  by_cases halted : signal = .halt
  · have looped : turn.loops state use answer = true := by
      simp [Turn.loops, ran, Except.toBool, ← halts, halted]
    subst halted
    refine ⟨_, _, _, rfl, advanced.push _, .stopped (quiet.append (completes_error ..)) ?_ ?_⟩
    · simp [Turn.leavesOpen, looped]
    · simp [Turn.stops, named, fresh, looped]
  · have warned := completes_warning turn use signal detector.warnThreshold
    have ended := completes_completed turn use outcome.success outcome.displayOutput
      outcome.shellMetadata
    have completes := (quiet.append warned).append ended
    have final := (((advanced.push (if signal = .warned then
      [Event.loopWarning turn.turnId use.name detector.warnThreshold] else [])).record turn use (turn.callArgs use answer)
      outcome.success outcome.displayOutput).push
      [turn.toolCallCompleted use outcome.success outcome.displayOutput
        outcome.shellMetadata]).countCall
    cases signal with
    | halt => exact absurd rfl halted
    | none =>
      refine ⟨_, _, _, rfl, final, .executed completes ?_⟩
      simp [TurnState.push, Turn.record, Turn.countCall, bumpedCount]
    | warned =>
      refine ⟨_, _, _, rfl, final, .executed completes ?_⟩
      simp [TurnState.push, Turn.record, Turn.countCall, bumpedCount]

theorem executeNativeToolCallBody_effect (named : Turn.unnamed use = false)
    (fresh : turn.duplicates state use answer = false) :
    ∃ next outcome added,
      turn.executeNativeToolCallBody state use (turn.callArgs use answer) answer =
          (next, outcome) ∧
        CallFrame state next added ∧ CallEffect turn state use answer next added outcome := by
  have progress : Completes [] [Event.toolCallProgress turn.turnId use.id use.name "executing"
      (displayNameFor turn.toolSpecs use.name)] :=
    ⟨rfl, rfl, by simp [isTurnCompleted]⟩
  have quiet := progress.append (completes_liveEvents answer.liveEvents)
  have self : CallFrame state state [] := ⟨(List.append_nil _).symm, rfl, rfl, rfl⟩
  have started := self.push (Event.toolCallProgress turn.turnId use.id use.name "executing"
    (displayNameFor turn.toolSpecs use.name) :: answer.liveEvents.map LiveEvent.event)
  unfold Turn.executeNativeToolCallBody
  cases ran : answer.result with
  | ok outcome =>
    exact concludeCall_effect turn state use answer named fresh ran started quiet rfl rfl
  | error errorText =>
    exact failCall_effect turn state use answer named fresh ran started quiet rfl

theorem executeNativeToolCall_effect :
    ∃ next outcome added, turn.executeNativeToolCall state use answer = (next, outcome) ∧
      CallFrame state next added ∧ CallEffect turn state use answer next added outcome := by
  unfold Turn.executeNativeToolCall
  cases named : Turn.unnamed use with
  | true =>
    have self : CallFrame state state [] := ⟨(List.append_nil _).symm, rfl, rfl, rfl⟩
    rw [if_pos (by simpa [Turn.unnamed] using named)]
    refine ⟨_, _, _, rfl, self.push _, .stopped (completes_error ..) ?_ ?_⟩
    · simp [Turn.leavesOpen, named]
    · simp [Turn.stops, named]
  | false =>
    rw [if_neg (by simpa [Turn.unnamed] using named)]
    dsimp only
    cases duplicate : turn.duplicates state use answer with
    | true =>
      obtain ⟨next, outcome, added, guarded, frame, effect⟩ :=
        guardDuplicate_effect turn state use answer duplicate
      rw [guarded]
      exact ⟨next, outcome, added, rfl, frame, effect⟩
    | false =>
      rw [guardDuplicate_none turn state use answer duplicate]
      exact executeNativeToolCallBody_effect turn state use answer named duplicate

variable {turn state use answer}

/-- A call that is not run leaves error events and the number of duplicates in a row behind. -/
theorem executeNativeToolCall_skipped
    (skipped : (Turn.unnamed use || turn.duplicates state use answer) = true) :
    ∃ (errors : List (String × String × Bool)) (skips : Nat) (outcome : NativeToolExecOutcome),
      turn.executeNativeToolCall state use answer =
        ({ state.push (errors.map fun error => turn.responseError error.1 error.2.1 error.2.2) with
          consecutiveDuplicateSkips := skips }, outcome) := by
  unfold Turn.executeNativeToolCall
  split
  · exact ⟨[(_, _, _)], _, _, rfl⟩
  · rename_i named
    have duplicate : turn.duplicates state use answer = true := by
      rw [Bool.or_eq_true] at skipped
      exact skipped.resolve_left (by simpa [Turn.unnamed] using named)
    unfold Turn.guardDuplicateNativeToolCall
    dsimp only
    rw [if_pos (by simpa [Turn.duplicates] using duplicate)]
    split
    next guarded found =>
      split at found
      · cases found
        exact ⟨[(_, _, _), (_, _, _)], _, _, by
          simp only [TurnState.push, List.append_assoc]
          rfl⟩
      · cases found
        exact ⟨[(_, _, _)], _, _, rfl⟩
    next missing => split at missing <;> cases missing

end Call

end OpenJax.Agent
