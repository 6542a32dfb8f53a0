import Mathlib.Data.Finset.Insert
import OpenJax.Protocol.Event
import OpenJax.Sandbox.Policy

set_option autoImplicit false

namespace OpenJax.Tools

open Shared Policy Protocol Sandbox

structure ApprovalContext where
  toolName : String
  rawCommand : Option String
  normalizedCommand : Option String
  commandPreview : Option String
  riskTags : List String
  reason : String
  sandboxBackend : Option String
  degradeReason : Option String

inductive ApprovalOutcome where
  | answered (approved : Bool)
  | failed (message : String)
  | timedOut
  deriving DecidableEq, Repr

/-- What one call meets outside the orchestrator: the id drawn for an approval request, how
the approval handler answers it and the timeout in force. -/
structure ToolCall where
  invocation : ToolInvocation
  requestId : String
  approval : ApprovalOutcome
  timeoutMs : Nat

/-- The JSON reader of the third-party package and the registry's tools. -/
structure ToolEnvironment (Output : Type) where
  parseJson : String → Option Json
  dispatch : ToolInvocation → Except FunctionCallError Output

structure RunOutcome (Output : Type) where
  events : List Event
  approval : Option ApprovalOutcome
  dispatched : Bool
  result : Except FunctionCallError Output

structure ToolOrchestrator where
  approvedMutatingTurns : Finset Nat
  deriving DecidableEq

def truncatePreview (text : String) (limit : Nat) : String :=
  if text.length ≤ limit then text else String.ofList (text.toList.take limit) ++ "..."

def normalizeCommand (command : String) : String :=
  String.intercalate " " (splitWhitespace command)

def approvalTarget (invocation : ToolInvocation) (context : Option ApprovalContext) : String :=
  (context.bind fun context => context.rawCommand).getD invocation.toolName

def approvalReason (decision : PolicyDecision) (context : Option ApprovalContext) : String :=
  (context.map fun context => context.reason).getD decision.reason

def injectRiskTags (descriptor : PolicyDescriptor) (tags : List String) : PolicyDescriptor :=
  { descriptor with
    riskTags := tags.foldl (fun known tag =>
      if known.contains tag then known else known ++ [tag]) descriptor.riskTags }

def describe (parseJson : String → Option Json) (invocation : ToolInvocation) :
    Option PolicyDescriptor :=
  let descriptor := invocation.policyDescriptor
  if isShellLikeTool invocation.toolName then
    match extractShellCommand parseJson invocation with
    | some (command, requireEscalated) =>
        descriptor.map fun found =>
          injectRiskTags found (extractShellRiskTags (normalizeCommand command) requireEscalated)
    | none => descriptor
  else descriptor

def decideWith (runtime : PolicyRuntime) (invocation : ToolInvocation)
    (descriptor : Option PolicyDescriptor) : PolicyDecision :=
  PolicyHandle.decide ⟨runtime⟩ (invocation.toPolicyCenterInput descriptor runtime.version)

def evaluatePolicyCenterDecision (parseJson : String → Option Json)
    (invocation : ToolInvocation) : PolicyDecision :=
  let descriptor := describe parseJson invocation
  match invocation.turn.policyRuntime with
  | some runtime => decideWith runtime invocation descriptor
  | none =>
      let hasRisk := (descriptor.map fun found => !found.riskTags.isEmpty).getD true
      if hasRisk then decideWith (.new (.new .ask [])) invocation descriptor
      else
        let rules := (descriptor.map fun found =>
          [found.allowRuleForTool invocation.toolName]).getD []
        decideWith (.new (.new .ask rules)) invocation descriptor

def approvalContext (parseJson : String → Option Json) (invocation : ToolInvocation)
    (decision : PolicyDecision) : Option ApprovalContext :=
  if isShellLikeTool invocation.toolName then
    (extractShellCommand parseJson invocation).map fun (command, requireEscalated) =>
      let normalized := normalizeCommand command
      { toolName := invocation.toolName
        rawCommand := some command
        normalizedCommand := some normalized
        commandPreview := some (truncatePreview normalized 160)
        riskTags := extractShellRiskTags normalized requireEscalated
        reason := decision.reason
        sandboxBackend := none
        degradeReason := none }
  else none

def approvalKindOf : DecisionKind → Option ApprovalKind
  | .ask => some .normal
  | .escalate => some .escalation
  | _ => none

def approvalRequested (call : ToolCall) (decision : PolicyDecision)
    (context : Option ApprovalContext) : Event :=
  .approvalRequested call.invocation.turn.turnId call.requestId
    (approvalTarget call.invocation context) (approvalReason decision context)
    (some decision.policyVersion) decision.matchedRuleId (some call.invocation.toolName)
    (context.bind fun context => context.commandPreview)
    ((context.map fun context => context.riskTags).getD [])
    (context.bind fun context => context.sandboxBackend)
    (context.bind fun context => context.degradeReason) (approvalKindOf decision.kind)

def sharesApproval (invocation : ToolInvocation) : Bool :=
  isMutatingOperation invocation.toolName && !isShellLikeTool invocation.toolName

def requiresOwnApproval (kind : DecisionKind) : Bool :=
  match kind with
  | .ask | .escalate => true
  | _ => false

namespace ToolOrchestrator

def new : ToolOrchestrator := ⟨∅⟩

def shouldReuseMutatingApproval (orchestrator : ToolOrchestrator)
    (invocation : ToolInvocation) : Bool :=
  sharesApproval invocation && decide (invocation.turn.turnId ∈ orchestrator.approvedMutatingTurns)

def recordMutatingApproval (orchestrator : ToolOrchestrator) (invocation : ToolInvocation) :
    ToolOrchestrator :=
  if sharesApproval invocation then
    let approvedTurns := insert invocation.turn.turnId orchestrator.approvedMutatingTurns
    if approvedTurns.card > 256 then ⟨∅⟩ else ⟨approvedTurns⟩
  else orchestrator

variable {Output : Type}

def run (environment : ToolEnvironment Output) (orchestrator : ToolOrchestrator)
    (call : ToolCall) : ToolOrchestrator × RunOutcome Output :=
  let invocation := call.invocation
  let decision := evaluatePolicyCenterDecision environment.parseJson invocation
  if decision.kind = .deny then
    (orchestrator, ⟨[], none, false, .error (.internal decision.reason)⟩)
  else
    let hasReusableApproval := orchestrator.shouldReuseMutatingApproval invocation
    if requiresOwnApproval decision.kind && !hasReusableApproval then
      let context := approvalContext environment.parseJson invocation decision
      let sent (event : Event) := if invocation.turn.hasEventSink then [event] else []
      let requested := sent (approvalRequested call decision context)
      let resolved (approved : Bool) :=
        sent (.approvalResolved invocation.turn.turnId call.requestId approved)
      let refused (events : List Event) (error : FunctionCallError) : RunOutcome Output :=
        ⟨requested ++ events, some call.approval, false, .error error⟩
      match call.approval with
      | .failed message => (orchestrator, refused [] (.internal message))
      | .timedOut =>
          (orchestrator, refused (resolved false) (.approvalTimedOut
            s!"approval request timed out after {call.timeoutMs}ms ({call.requestId})"))
      | .answered false =>
          (orchestrator, refused (resolved false) (.approvalRejected "command rejected by user"))
      | .answered true =>
          (orchestrator.recordMutatingApproval invocation,
            ⟨requested ++ resolved true, some call.approval, true,
              environment.dispatch invocation⟩)
    else (orchestrator, ⟨[], none, true, environment.dispatch invocation⟩)

def runAll (environment : ToolEnvironment Output) (orchestrator : ToolOrchestrator) :
    List ToolCall → List (ToolCall × RunOutcome Output)
  | [] => []
  | call :: rest =>
      let ran := run environment orchestrator call
      (call, ran.2) :: runAll environment ran.1 rest

end ToolOrchestrator

variable {Output : Type}

def RunOutcome.granted (outcome : RunOutcome Output) : Prop :=
  outcome.approval = some (.answered true)

def GrantedEarlier (keeps : ToolInvocation → Bool) (earlier : List (ToolCall × RunOutcome Output))
    (turnId : Nat) : Prop :=
  ∃ entry ∈ earlier, entry.2.granted ∧ keeps entry.1.invocation = true ∧
    entry.1.invocation.turn.turnId = turnId

def decisionOf (environment : ToolEnvironment Output) (call : ToolCall) : DecisionKind :=
  (evaluatePolicyCenterDecision environment.parseJson call.invocation).kind

/-- What may let a call through when approvals carry over for the decisions in `reusable`. -/
def AuthorisedBy (reusable : List DecisionKind) (environment : ToolEnvironment Output)
    (earlier : List (ToolCall × RunOutcome Output)) (call : ToolCall)
    (outcome : RunOutcome Output) : Prop :=
  decisionOf environment call ≠ .deny ∧
    (decisionOf environment call = .allow ∨ outcome.granted ∨
      decisionOf environment call ∈ reusable ∧ sharesApproval call.invocation = true ∧
        GrantedEarlier (fun previous => isMutatingOperation previous.toolName) earlier
          call.invocation.turn.turnId)

theorem requiresOwnApproval_iff (kind : DecisionKind) :
    requiresOwnApproval kind = true ↔ kind ∈ [DecisionKind.ask, .escalate] := by
  cases kind <;> simp [requiresOwnApproval]

theorem allow_of_unasked {kind : DecisionKind} (allowed : kind ≠ .deny)
    (unasked : requiresOwnApproval kind = false) : kind = .allow := by
  cases kind <;> simp_all [requiresOwnApproval]

theorem recordMutatingApproval_turns (orchestrator : ToolOrchestrator)
    (invocation : ToolInvocation) (turnId : Nat)
    (present : turnId ∈ (orchestrator.recordMutatingApproval invocation).approvedMutatingTurns) :
    turnId ∈ orchestrator.approvedMutatingTurns ∨
      sharesApproval invocation = true ∧ invocation.turn.turnId = turnId := by
  unfold ToolOrchestrator.recordMutatingApproval at present
  by_cases shares : sharesApproval invocation = true
  · by_cases full :
        (insert invocation.turn.turnId orchestrator.approvedMutatingTurns).card > 256
    · simp [shares, full] at present
    · simp only [shares, if_true, full, if_false, Finset.mem_insert] at present
      rcases present with same | known
      · exact .inr ⟨shares, same.symm⟩
      · exact .inl known
  · simp only [shares] at present
    exact .inl present

variable (environment : ToolEnvironment Output) {outcome : RunOutcome Output}

variable {next : ToolOrchestrator}

theorem run_cases (orchestrator : ToolOrchestrator) (call : ToolCall)
    (ran : orchestrator.run environment call = (next, outcome)) :
    next = orchestrator ∧ outcome.dispatched = false ∧ ¬ outcome.granted ∨
    next = orchestrator ∧ outcome.dispatched = true ∧ outcome.approval = none ∧
      decisionOf environment call ≠ .deny ∧
      (requiresOwnApproval (decisionOf environment call) = false ∨
        orchestrator.shouldReuseMutatingApproval call.invocation = true) ∨
    next = orchestrator.recordMutatingApproval call.invocation ∧
      decisionOf environment call ≠ .deny ∧
      requiresOwnApproval (decisionOf environment call) = true ∧
      orchestrator.shouldReuseMutatingApproval call.invocation = false ∧
      call.approval = .answered true ∧ outcome.granted := by
  unfold ToolOrchestrator.run at ran
  by_cases denied : decisionOf environment call = .deny
  · rw [decisionOf] at denied
    simp only [denied, if_true, Prod.mk.injEq] at ran
    obtain ⟨rfl, rfl⟩ := ran
    exact .inl ⟨rfl, rfl, nofun⟩
  · by_cases asks : (requiresOwnApproval (decisionOf environment call) &&
        !orchestrator.shouldReuseMutatingApproval call.invocation) = true
    · have asked := asks
      rw [Bool.and_eq_true, Bool.not_eq_true'] at asked
      rw [decisionOf] at denied asks
      simp only [denied, asks, if_true, if_false] at ran
      cases answer : call.approval with
      | answered approved =>
        cases approved with
        | false =>
          simp only [answer, Prod.mk.injEq] at ran
          obtain ⟨rfl, rfl⟩ := ran
          exact .inl ⟨rfl, rfl, by simp [RunOutcome.granted]⟩
        | true =>
          simp only [answer, Prod.mk.injEq] at ran
          obtain ⟨rfl, rfl⟩ := ran
          exact .inr (.inr ⟨rfl, denied, asked.1, asked.2, rfl, rfl⟩)
      | failed message | timedOut =>
        simp only [answer, Prod.mk.injEq] at ran
        obtain ⟨rfl, rfl⟩ := ran
        exact .inl ⟨rfl, rfl, by simp [RunOutcome.granted]⟩
    · have unasked := asks
      rw [Bool.not_eq_true, Bool.and_eq_false_iff, Bool.not_eq_false'] at unasked
      rw [decisionOf] at denied asks
      simp only [denied, asks, if_false] at ran
      obtain ⟨rfl, rfl⟩ := ran
      exact .inr (.inl ⟨rfl, rfl, rfl, denied, unasked⟩)

theorem run_authorised (orchestrator : ToolOrchestrator)
    (earlier : List (ToolCall × RunOutcome Output))
    (known : ∀ turnId ∈ orchestrator.approvedMutatingTurns,
      GrantedEarlier sharesApproval earlier turnId) (call : ToolCall)
    (ran : orchestrator.run environment call = (next, outcome))
    (dispatched : outcome.dispatched = true) :
    AuthorisedBy [.ask, .escalate] environment earlier call outcome := by
  rcases run_cases environment orchestrator call ran with
    ⟨-, idle, -⟩ | ⟨-, -, -, allowed, started⟩ | ⟨-, allowed, -, -, -, granted⟩
  · rw [idle] at dispatched
    cases dispatched
  · refine ⟨allowed, ?_⟩
    rcases started with unasked | reused
    · exact .inl (allow_of_unasked allowed unasked)
    · rw [ToolOrchestrator.shouldReuseMutatingApproval, Bool.and_eq_true,
        decide_eq_true_iff] at reused
      obtain ⟨entry, member, granted, shares, same⟩ := known _ reused.2
      rw [sharesApproval, Bool.and_eq_true] at shares
      by_cases asks : requiresOwnApproval (decisionOf environment call) = true
      · rw [requiresOwnApproval_iff] at asks
        exact .inr (.inr ⟨asks, reused.1, entry, member, granted, shares.1, same⟩)
      · exact .inl (allow_of_unasked allowed (Bool.not_eq_true _ ▸ asks))
  · exact ⟨allowed, .inr (.inl granted)⟩

theorem run_keeps_granted (orchestrator : ToolOrchestrator)
    (earlier : List (ToolCall × RunOutcome Output))
    (known : ∀ turnId ∈ orchestrator.approvedMutatingTurns,
      GrantedEarlier sharesApproval earlier turnId) (call : ToolCall)
    (ran : orchestrator.run environment call = (next, outcome)) :
    ∀ turnId ∈ next.approvedMutatingTurns,
      GrantedEarlier sharesApproval (earlier ++ [(call, outcome)]) turnId := by
  intro turnId present
  have extended (old : turnId ∈ orchestrator.approvedMutatingTurns) :
      GrantedEarlier sharesApproval (earlier ++ [(call, outcome)]) turnId := by
    obtain ⟨entry, member, facts⟩ := known turnId old
    exact ⟨entry, List.mem_append_left _ member, facts⟩
  rcases run_cases environment orchestrator call ran with
    ⟨rfl, -⟩ | ⟨rfl, -⟩ | ⟨rfl, -, -, -, -, granted⟩
  · exact extended present
  · exact extended present
  · rcases recordMutatingApproval_turns orchestrator call.invocation turnId present with
      old | ⟨shares, same⟩
    · exact extended old
    · exact ⟨(call, outcome), by simp, granted, shares, same⟩

theorem runAll_authorised (calls : List ToolCall) (orchestrator : ToolOrchestrator)
    (before : List (ToolCall × RunOutcome Output))
    (known : ∀ turnId ∈ orchestrator.approvedMutatingTurns,
      GrantedEarlier sharesApproval before turnId)
    (earlier later : List (ToolCall × RunOutcome Output)) (call : ToolCall)
    (outcome : RunOutcome Output)
    (history : orchestrator.runAll environment calls = earlier ++ (call, outcome) :: later)
    (dispatched : outcome.dispatched = true) :
    AuthorisedBy [.ask, .escalate] environment (before ++ earlier) call outcome := by
  induction calls generalizing orchestrator before earlier with
  | nil => simp [ToolOrchestrator.runAll] at history
  | cons first rest ih =>
    rcases ran : orchestrator.run environment first with ⟨next, answer⟩
    simp only [ToolOrchestrator.runAll, ran] at history
    cases earlier with
    | nil =>
      simp only [List.nil_append, List.cons.injEq, Prod.mk.injEq] at history
      obtain ⟨⟨rfl, rfl⟩, -⟩ := history
      simpa using run_authorised environment orchestrator before known first ran dispatched
    | cons entry earlier =>
      simp only [List.cons_append, List.cons.injEq] at history
      obtain ⟨rfl, remaining⟩ := history
      have kept := run_keeps_granted environment orchestrator before known first ran
      simpa using ih next _ kept earlier remaining

theorem dispatched_authorised (environment : ToolEnvironment Output) (calls : List ToolCall)
    (earlier later : List (ToolCall × RunOutcome Output)) (call : ToolCall)
    (outcome : RunOutcome Output)
    (history : ToolOrchestrator.new.runAll environment calls = earlier ++ (call, outcome) :: later)
    (dispatched : outcome.dispatched = true) :
    AuthorisedBy [.ask, .escalate] environment earlier call outcome := by
  have := runAll_authorised environment calls .new [] (by simp [ToolOrchestrator.new]) earlier
    later call outcome history dispatched
  simpa using this

def escalatedEdit : PolicyRule :=
  { id := "user:edit"
    decision := .escalate
    priority := 10
    toolName := some "Edit"
    action := none
    sessionId := none
    actor := none
    resource := none
    capabilitiesAll := []
    riskTagsAll := []
    reason := "edits need an escalation" }

def editCall (approval : ApprovalOutcome) : ToolCall :=
  { invocation :=
      { toolName := "Edit"
        callId := "call_1"
        payload := .function "\x7b\x7d"
        turn :=
          { turnId := 1
            sessionId := none
            cwd := "/workspace"
            hasEventSink := false
            policyRuntime := some (.new (.new .ask [escalatedEdit])) } }
    requestId := "request"
    approval := approval
    timeoutMs := 300000 }

def idleEnvironment : ToolEnvironment Unit :=
  { parseJson := fun _ => none, dispatch := fun _ => .ok () }

theorem dispatched_authorised_witness :
    AuthorisedBy [.ask, .escalate] idleEnvironment [] (editCall (.answered true))
      ⟨[], some (.answered true), true, .ok ()⟩ :=
  dispatched_authorised idleEnvironment [editCall (.answered true)] [] [] _ _ (by rfl) rfl

theorem escalated_edit_reuses_approval :
    ¬ ∀ (environment : ToolEnvironment Unit) (calls : List ToolCall)
      (earlier later : List (ToolCall × RunOutcome Unit)) (call : ToolCall)
      (outcome : RunOutcome Unit),
      ToolOrchestrator.new.runAll environment calls = earlier ++ (call, outcome) :: later →
      outcome.dispatched = true → AuthorisedBy [.ask] environment earlier call outcome := by
  intro claimed
  have := claimed idleEnvironment [editCall (.answered true), editCall (.answered false)]
    [(editCall (.answered true), ⟨[], some (.answered true), true, .ok ()⟩)] []
    (editCall (.answered false)) ⟨[], none, true, .ok ()⟩ (by rfl) rfl
  have kind : decisionOf idleEnvironment (editCall (.answered false)) = .escalate := by rfl
  simp [AuthorisedBy, kind, RunOutcome.granted] at this

end OpenJax.Tools
