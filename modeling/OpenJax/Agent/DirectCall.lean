import OpenJax.Agent.CallEffects
import OpenJax.Tools.Router

set_option autoImplicit false

namespace OpenJax.Agent

open Shared Protocol Policy Tools

def maxRetries : Nat := 2

def maxToolOutputCharsForPrompt : Nat := 4000

def truncateForPrompt (text : String) (maxChars : Nat) : String :=
  let limit := min (max maxChars 256) maxToolOutputCharsForPrompt
  if text.length ≤ limit then text else String.ofList (text.toList.take limit) ++ "..."

def nonRetryable (errorText : String) : Bool :=
  containsText errorText "invalid" || containsText errorText "permission denied" ||
    containsText errorText "Approval rejected"

structure DirectCall where
  turnId : Nat
  toolCallId : String
  name : String
  -- The entries in the iteration order of the argument map.
  args : List (String × String)
  sessionId : Option String
  cwd : String
  toolSpecs : List ToolSpec
  formats : TextFormats

structure DirectRun where
  actions : List CallAction
  events : List Event
  -- The trace and the output that go to the history.
  committed : Option (List String × String)

namespace DirectCall

variable (call : DirectCall) (attempts : Nat → ToolAttempt)

def invocation : ToolInvocation :=
  { toolName := call.name
    callId := call.toolCallId
    payload := .function (argsJson call.formats call.args)
    turn :=
      { turnId := call.turnId
        sessionId := call.sessionId
        cwd := call.cwd
        hasEventSink := true
        policyRuntime := none } }

def displayName : Option String := displayNameFor call.toolSpecs call.name

def startedSequence : List Event :=
  let target := extractToolTargetHint call.name call.args
  [.toolCallStarted call.turnId call.toolCallId call.name target call.displayName] ++
    (if call.args.isEmpty then [] else
      [.toolCallArgsDelta call.turnId call.toolCallId call.name
        (argsJson call.formats call.args) call.displayName]) ++
    [.toolCallReady call.turnId call.toolCallId call.name call.displayName target,
      .toolCallProgress call.turnId call.toolCallId call.name "executing" call.displayName]

def failed (errorText : String) : Event :=
  .toolCallFailed call.turnId call.toolCallId call.name (toolFailureCode errorText) errorText
    (toolFailureRetryable errorText) call.displayName

def completed (ok : Bool) (output : String) : Event :=
  .toolCallCompleted call.turnId call.toolCallId call.name ok output none call.displayName

def execute (orchestrator : ToolOrchestrator) (attempt : Nat) : ToolOrchestrator × ExecuteRun :=
  (attempts attempt).execute call.formats.parseJson orchestrator call.invocation

def retryLoop (orchestrator : ToolOrchestrator) (attempt retries : Nat) : ExecuteRun :=
  let ran := call.execute attempts orchestrator attempt
  match ran.2.result with
  | .ok _ => ran.2
  | .error errorText =>
      let reported := { ran.2 with events := ran.2.events ++ [call.failed errorText] }
      if nonRetryable errorText then reported
      else
        match retries with
        | 0 => reported
        | retries + 1 =>
            let later := retryLoop ran.1 (attempt + 1) retries
            { actions := reported.actions ++ later.actions
              events := reported.events ++ later.events
              result := later.result }

def trace (ok : Bool) (output : String) : String :=
  s!"tool={call.name}; ok={ok}; args=" ++ argsJson call.formats call.args ++
    "; output=" ++ truncateForPrompt output maxToolOutputCharsForPrompt

def executeSingleToolCall (orchestrator : ToolOrchestrator) : DirectRun :=
  let tried := call.retryLoop attempts orchestrator 0 maxRetries
  match tried.result with
  | .ok outcome =>
      { actions := tried.actions
        events := call.startedSequence ++ tried.events ++
          [call.completed outcome.success outcome.displayOutput]
        committed :=
          some ([call.trace outcome.success outcome.displayOutput], outcome.displayOutput) }
  | .error errorText =>
      { actions := tried.actions
        events := call.startedSequence ++ tried.events ++
          [call.completed false errorText,
            .responseError call.turnId (toolFailureCode errorText) errorText
              (toolFailureRetryable errorText)]
        committed := none }

def orchestratorAt (orchestrator : ToolOrchestrator) : Nat → ToolOrchestrator
  | 0 => orchestrator
  | attempt + 1 => (call.execute attempts (orchestratorAt orchestrator attempt) attempt).1

def attemptRun (orchestrator : ToolOrchestrator) (attempt : Nat) : ExecuteRun :=
  (call.execute attempts (call.orchestratorAt attempts orchestrator attempt) attempt).2

section Attempts

variable {call attempts} (orchestrator : ToolOrchestrator)

variable (call attempts) in
def Retried (attempt : Nat) : Prop :=
  ∃ errorText, (call.attemptRun attempts orchestrator attempt).result = .error errorText ∧
    nonRetryable errorText = false

variable (call attempts) in
def Reached (attempt : Nat) : Prop :=
  ∀ earlier < attempt, call.Retried attempts orchestrator earlier

variable (call attempts) in
def TimesOut (attempt : Nat) : Prop :=
  ∃ outcome, .approval outcome ∈ (call.attemptRun attempts orchestrator attempt).actions ∧
    outcome.timesOut = true

variable (call attempts) in
def deniedAt (attempt : Nat) : Prop :=
  decisionOf ((attempts attempt).environment call.formats.parseJson)
    ((attempts attempt).call call.invocation) = .deny

theorem retryLoop_last {attempt retries : Nat}
    (last : ¬ call.Retried attempts orchestrator attempt ∨ retries = 0) :
    (call.retryLoop attempts (call.orchestratorAt attempts orchestrator attempt) attempt
      retries).actions = (call.attemptRun attempts orchestrator attempt).actions := by
  rw [retryLoop]
  dsimp only
  split
  · rfl
  next errorText result =>
    split
    · rfl
    next retried =>
      have again : call.Retried attempts orchestrator attempt :=
        ⟨errorText, result, Bool.not_eq_true _ ▸ retried⟩
      obtain rfl := last.resolve_left fun absent => absent again
      rfl

theorem retryLoop_again {attempt retries : Nat}
    (retried : call.Retried attempts orchestrator attempt) :
    (call.retryLoop attempts (call.orchestratorAt attempts orchestrator attempt) attempt
      (retries + 1)).actions = (call.attemptRun attempts orchestrator attempt).actions ++
        (call.retryLoop attempts (call.orchestratorAt attempts orchestrator (attempt + 1))
          (attempt + 1) retries).actions := by
  obtain ⟨errorText, result, again⟩ := retried
  rw [attemptRun] at result
  rw [retryLoop]
  simp only [result, again]
  rfl

theorem retryLoop_actions (attempt retries : Nat) :
    ∃ made, (call.retryLoop attempts (call.orchestratorAt attempts orchestrator attempt) attempt
        retries).actions =
          (List.range' attempt made).flatMap (fun index =>
            (call.attemptRun attempts orchestrator index).actions) ∧
      ∀ later, attempt ≤ later → (later < attempt + made ↔ later ≤ attempt + retries ∧
        ∀ earlier, attempt ≤ earlier → earlier < later →
          call.Retried attempts orchestrator earlier) := by
  induction retries generalizing attempt with
  | zero =>
    refine ⟨1, by simp [retryLoop_last orchestrator (.inr rfl)], fun later order => ?_⟩
    constructor
    · intro below
      exact ⟨by omega, fun earlier low high => by omega⟩
    · intro reached
      omega
  | succ retries ih =>
    by_cases retried : call.Retried attempts orchestrator attempt
    · obtain ⟨made, actions, reached⟩ := ih (attempt + 1)
      refine ⟨made + 1, ?_, fun later order => ?_⟩
      · rw [retryLoop_again orchestrator retried, actions, List.range'_succ, List.flatMap_cons]
      · rcases Nat.eq_or_lt_of_le order with rfl | after
        · exact ⟨fun _ => ⟨by omega, fun earlier low high => by omega⟩, fun _ => by omega⟩
        · have rest := reached later after
          constructor
          · intro below
            have ⟨bound, all⟩ := rest.mp (by omega)
            refine ⟨by omega, fun earlier low high => ?_⟩
            rcases Nat.eq_or_lt_of_le low with rfl | more
            · exact retried
            · exact all earlier more high
          · rintro ⟨bound, all⟩
            have := rest.mpr ⟨by omega, fun earlier low high => all earlier (by omega) high⟩
            omega
    · refine ⟨1, by simp [retryLoop_last orchestrator (.inl retried)], fun later order => ?_⟩
      constructor
      · intro below
        exact ⟨by omega, fun earlier low high => by omega⟩
      · intro reached
        by_contra beyond
        exact retried (reached.2 attempt (Nat.le_refl _) (by omega))

theorem refused_not_retried {attempt : Nat} {before after : List CallAction}
    {outcome : ApprovalOutcome}
    (split : (call.attemptRun attempts orchestrator attempt).actions =
      before ++ .approval outcome :: after) (refused : outcome.refused = true) :
    ¬ call.Retried attempts orchestrator attempt := by
  rintro ⟨errorText, result, again⟩
  have own := split
  rw [attemptRun, execute] at own
  have ⟨_, error, failed, reports⟩ := ToolAttempt.execute_settled _ _ _ _ own (by
    rintro rfl
    cases refused)
  rw [attemptRun, execute, failed] at result
  cases result
  cases outcome with
  | answered approved =>
    cases approved with
    | true => cases refused
    | false =>
      obtain ⟨message, rfl⟩ := reports
      have stops : containsText ("error: " ++ (FunctionCallError.approvalRejected message).text)
          "Approval rejected" = true :=
        containsText_right _ (rejected_text message)
      rw [nonRetryable, stops, Bool.or_true] at again
      cases again
  | failed message | timedOut => cases refused

def StopsAtRefusal (actions : List CallAction) : Prop :=
  ∀ before outcome after, actions = before ++ .approval outcome :: after →
    outcome.closes = true → after = []

theorem flatMap_range'_split {α : Type} (block : Nat → List α) {start made : Nat}
    {before after : List α} {item : α}
    (split : (List.range' start made).flatMap block = before ++ item :: after) :
    ∃ index front back, start ≤ index ∧ index < start + made ∧
      block index = front ++ item :: back ∧
      after = back ++ (List.range' (index + 1) (start + made - (index + 1))).flatMap block := by
  induction made generalizing start before with
  | zero => simp at split
  | succ made ih =>
    rw [List.range'_succ, List.flatMap_cons] at split
    rcases List.append_eq_append_iff.mp split with ⟨middle, -, later⟩ | ⟨middle, here, later⟩
    · have ⟨index, front, back, low, high, found, rest⟩ := ih later
      exact ⟨index, front, back, by omega, by omega, found, by
        rw [rest, Nat.add_right_comm start 1 made, Nat.add_assoc start made 1]⟩
    · cases middle with
      | nil =>
        have ⟨index, front, back, low, high, found, rest⟩ := @ih _ [] later.symm
        exact ⟨index, front, back, by omega, by omega, found, by
          rw [rest, Nat.add_right_comm start 1 made, Nat.add_assoc start made 1]⟩
      | cons first middle =>
        obtain ⟨rfl, rest⟩ := List.cons.inj later
        refine ⟨start, before, middle, Nat.le_refl _, by omega, here, ?_⟩
        rw [rest, show start + (made + 1) - (start + 1) = made by omega]
        rfl

theorem completedIds_prompts {events : List Event}
    (prompts : ∀ event ∈ events, isApprovalEvent event = true) : completedIds events = [] := by
  apply List.filterMap_eq_nil_iff.mpr
  intro event member
  have prompt := prompts event member
  cases event <;> first | rfl | cases prompt

theorem acts_of_allowed {attempt : Nat}
    (idle : (call.attemptRun attempts orchestrator attempt).actions = []) :
    deniedAt call attempts attempt := by
  by_contra allowed
  exact (ToolAttempt.execute_acts_iff _ _ _ _).mpr allowed idle

theorem idle_of_denied {attempt : Nat} (denied : deniedAt call attempts attempt) :
    (call.attemptRun attempts orchestrator attempt).actions = [] := by
  by_contra acts
  exact (ToolAttempt.execute_acts_iff _ _ _ _).mp acts denied

theorem retryLoop_completes (start : ToolOrchestrator) (attempt retries : Nat) :
    completedIds (call.retryLoop attempts start attempt retries).events = [] := by
  have quiet (before : ToolOrchestrator) (index : Nat) :
      completedIds (call.execute attempts before index).2.events = [] :=
    completedIds_prompts (ToolAttempt.execute_prompts _ _ _ _)
  have reported (before : ToolOrchestrator) (index : Nat) (errorText : String) :
      completedIds ((call.execute attempts before index).2.events ++
        [call.failed errorText]) = [] := by
    rw [completedIds_append, quiet]
    rfl
  induction retries generalizing start attempt with
  | zero =>
    rw [retryLoop]
    dsimp only
    split
    · exact quiet _ _
    · split <;> exact reported _ _ _
  | succ retries ih =>
    rw [retryLoop]
    dsimp only
    split
    · exact quiet _ _
    · split
      · exact reported _ _ _
      · rw [completedIds_append, reported, ih]
        rfl

theorem executeSingleToolCall_actions :
    (call.executeSingleToolCall attempts orchestrator).actions =
      (call.retryLoop attempts orchestrator 0 maxRetries).actions := by
  unfold executeSingleToolCall
  dsimp only
  split <;> rfl

theorem completes_once :
    completedIds (call.executeSingleToolCall attempts orchestrator).events =
      [call.toolCallId] := by
  have started : completedIds call.startedSequence = [] := by
    unfold startedSequence
    dsimp only
    split <;> rfl
  unfold executeSingleToolCall
  dsimp only
  split
  · rw [completedIds_append, completedIds_append, started, retryLoop_completes]
    rfl
  · rw [completedIds_append, completedIds_append, started, retryLoop_completes]
    rfl

end Attempts

/-- A direct call does nothing after a refused or timed out approval, exactly when every attempt
that is made after one with a timeout is denied by the policy. Its completion is always told
once. -/
theorem single_call_stops_iff (call : DirectCall) (attempts : Nat → ToolAttempt)
    (orchestrator : ToolOrchestrator) :
    StopsAtRefusal (call.executeSingleToolCall attempts orchestrator).actions ∧
        completedIds (call.executeSingleToolCall attempts orchestrator).events =
          [call.toolCallId] ↔
      ∀ attempt later, attempt < later → later ≤ maxRetries →
        call.Reached attempts orchestrator later → call.TimesOut attempts orchestrator attempt →
        call.deniedAt attempts later := by
  obtain ⟨made, actions, reached⟩ := @retryLoop_actions call attempts orchestrator 0 maxRetries
  rw [executeSingleToolCall_actions]
  change (call.retryLoop attempts orchestrator 0 maxRetries).actions = _ at actions
  rw [actions]
  constructor
  next =>
    rintro ⟨stops, -⟩ attempt later order bound reachedLater ⟨outcome, member, times⟩
    have inside : later < 0 + made := (reached later (Nat.zero_le _)).mpr
      ⟨by omega, fun earlier _ high => reachedLater earlier high⟩
    obtain ⟨front, back, own⟩ := List.append_of_mem member
    have indexes : List.range' 0 made = List.range' 0 attempt ++
        attempt :: List.range' (attempt + 1) (made - (attempt + 1)) := by
      rw [← List.range'_succ, show made - (attempt + 1) + 1 = made - attempt by omega]
      have joined := @List.range'_append_1 0 attempt (made - attempt)
      rw [Nat.zero_add, show attempt + (made - attempt) = made by omega] at joined
      exact joined.symm
    rw [indexes, List.flatMap_append, List.flatMap_cons, own] at stops
    have ended := stops ((List.range' 0 attempt).flatMap (fun index =>
        (call.attemptRun attempts orchestrator index).actions) ++ front) outcome
      (back ++ (List.range' (attempt + 1) (made - (attempt + 1))).flatMap fun index =>
        (call.attemptRun attempts orchestrator index).actions)
      (by simp only [List.append_assoc, List.cons_append])
      (by rw [ApprovalOutcome.closes, times, Bool.or_true])
    exact acts_of_allowed orchestrator (List.flatMap_eq_nil_iff.mp
      (List.append_eq_nil_iff.mp ended).2 later (List.mem_range'_1.mpr (by omega)))
  next =>
    intro denied
    refine ⟨?_, completes_once orchestrator⟩
    intro before outcome after split closes
    obtain ⟨index, front, back, low, high, own, rest⟩ := flatMap_range'_split _ split
    have ⟨ended, _⟩ := ToolAttempt.execute_settled _ _ _ _ own
      (ApprovalOutcome.not_granted_of_closes closes)
    rw [rest, ended, List.nil_append, List.flatMap_eq_nil_iff]
    intro later member
    have ⟨above, below⟩ := List.mem_range'_1.mp member
    have ⟨bound, retried⟩ := (reached later (Nat.zero_le _)).mp (by omega)
    have arrived : call.Reached attempts orchestrator later :=
      fun earlier high => retried earlier (Nat.zero_le _) high
    rw [ApprovalOutcome.closes, Bool.or_eq_true] at closes
    rcases closes with refused | times
    next => exact absurd (arrived index (by omega)) (refused_not_retried orchestrator own refused)
    next =>
      exact idle_of_denied orchestrator (denied index later (by omega) (by omega) arrived
        ⟨outcome, by rw [own]; exact List.mem_append_right _ List.mem_cons_self, times⟩)

def editCall : DirectCall :=
  { turnId := 1
    toolCallId := "call_1"
    name := "Edit"
    args := []
    sessionId := none
    cwd := "/workspace"
    toolSpecs := []
    formats :=
      { jsonText := fun _ => "\x7b\x7d"
        parseJson := fun _ => none
        debugArgs := fun _ => "" } }

def unanswered : ToolAttempt :=
  { requestId := "request"
    approval := .failed "approval timed out"
    timeoutMs := 300000
    policyRuntime := some (.new (.new .ask []))
    handler := fun _ => .plain (.ok (.function "done" none)) }

theorem timeout_asks_again :
    ¬ (StopsAtRefusal (editCall.executeSingleToolCall (fun _ => unanswered) .new).actions ∧
      completedIds (editCall.executeSingleToolCall (fun _ => unanswered) .new).events =
        [editCall.toolCallId]) := by
  have asked : (editCall.executeSingleToolCall (fun _ => unanswered) .new).actions =
      [.approval (.failed "approval timed out"), .approval (.failed "approval timed out"),
        .approval (.failed "approval timed out")] := by
    decide +kernel
  rw [asked]
  rintro ⟨stops, -⟩
  cases stops [] _ _ rfl rfl

end DirectCall

end OpenJax.Agent
