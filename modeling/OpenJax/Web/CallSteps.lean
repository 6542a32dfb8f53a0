import OpenJax.Web.Replays

set_option autoImplicit false

namespace OpenJax.Web

open Shared

variable (host : Host)

/-- The events that a call is known by; an error with the call's id only changes its step. -/
def isCallEvent (event : StreamEvent) : Bool :=
  isToolStepEvent event && event.type ≠ .error

def isApprovalEvent (event : StreamEvent) : Bool :=
  event.type = .approvalRequested || event.type = .approvalResolved

def approvalIdFromPayload (event : StreamEvent) : String :=
  event.payload.text host "approval_id" ""

def ofCall (turn : Option String) (call : String) (event : StreamEvent) : Bool :=
  isToolStepEvent event && event.turnId = turn && toolCallIdFromPayload host event = call

def opensCall (turn : Option String) (call : String) (event : StreamEvent) : Bool :=
  ofCall host turn call event && isCallEvent event

def interrupts (turn : Option String) (event : StreamEvent) : Bool :=
  event.type = .turnInterrupted && (truthy event.turnId).isSome && event.turnId = turn

structure CallRow where
  step : ToolStep
  startEventSeq : Option Nat
  lastEventSeq : Option Nat

def ChatMessage.callRow (turn : Option String) (call : String) (message : ChatMessage) :
    List CallRow :=
  if message.kind = .toolSteps && message.turnId = turn then
    (((message.toolSteps.getD []).head?.filter fun step => step.toolCallId = some call).map
      fun step => ⟨step, message.startEventSeq, message.lastEventSeq⟩).toList
  else []

def nextCall (turn : Option String) (call : String) (row : Option CallRow) (event : StreamEvent) :
    Option CallRow :=
  if ofCall host turn call event then
    match row with
    | some row =>
        some ⟨mergeToolStep host (some row.step) event,
          row.startEventSeq.or (some event.eventSeq), latest row.lastEventSeq event.eventSeq⟩
    | none =>
        if isCallEvent event then
          some ⟨createStepFromEvent host event {}, some event.eventSeq, some event.eventSeq⟩
        else none
  else if interrupts turn event then
    row.map fun row => { row with lastEventSeq := latest row.lastEventSeq event.eventSeq }
  else row

section

variable {host} {event : StreamEvent}

@[simp]
theorem withDuration_toolCallId (step : ToolStep) :
    (withDuration host step).toolCallId = step.toolCallId := by
  unfold withDuration
  split <;> rfl

@[simp]
theorem withDuration_approvalId (step : ToolStep) :
    (withDuration host step).approvalId = step.approvalId := by
  unfold withDuration
  split <;> rfl

theorem createStep_toolCallId (own : isToolStepEvent event) (under : ToolStep) :
    (createStepFromEvent host event under).toolCallId =
      if isCallEvent event then some (toolCallIdFromPayload host event) else under.toolCallId := by
  cases type : event.type <;> simp [isToolStepEvent, type] at own
  all_goals simp [createStepFromEvent, isCallEvent, isToolStepEvent, type]

theorem createStep_approvalId (own : isToolStepEvent event) (under : ToolStep) :
    (createStepFromEvent host event under).approvalId =
      if isApprovalEvent event then some (approvalIdFromPayload host event)
      else under.approvalId := by
  cases type : event.type <;> simp [isToolStepEvent, type] at own
  all_goals simp [createStepFromEvent, isApprovalEvent, approvalIdFromPayload, type]

theorem mergeToolStep_toolCallId (own : isToolStepEvent event) (previous : ToolStep) :
    (mergeToolStep host (some previous) event).toolCallId =
      if isCallEvent event then some (toolCallIdFromPayload host event)
      else previous.toolCallId := by
  simp only [mergeToolStep]
  split
  next approval =>
    simp only [withDuration_toolCallId, createStep_toolCallId own]
    split
    · rfl
    · rfl
  · simp only [withDuration_toolCallId, createStep_toolCallId own]

theorem mergeToolStep_approvalId (own : isToolStepEvent event) (previous : ToolStep) :
    (mergeToolStep host (some previous) event).approvalId =
      if isApprovalEvent event then some (approvalIdFromPayload host event)
      else previous.approvalId := by
  simp only [mergeToolStep]
  split
  · simp only [withDuration_approvalId, createStep_approvalId own]
    split
    · rfl
    · rfl
  · simp only [withDuration_approvalId, createStep_approvalId own]

end

structure StepView {ρ : Type} (view : ChatMessage → List ρ) : Prop where
  others : ∀ message, message.kind ≠ .toolSteps → view message = []
  drafts : ∀ message : ChatMessage, view { message with isDraft := false } = view message

def beforeSteps (messages : List ChatMessage) (event : StreamEvent) : List ChatMessage :=
  applyTextEvent host
    (closeReasoningOn (if event.type = .userMessage then applyUserMessage host messages event
      else messages) event) event

section

variable {host} {ρ : Type} {view : ChatMessage → List ρ} {messages : List ChatMessage}
  {event : StreamEvent}

theorem StepView.blind (stepView : StepView view) : Blind view := by
  intro message assistant
  simp only [isAssistantText, Bool.and_eq_true, decide_eq_true_eq] at assistant
  exact stepView.others message (by simp [assistant.1])

theorem StepView.user (stepView : StepView view) (messages : List ChatMessage)
    (event : StreamEvent) :
    (applyUserMessage host messages event).flatMap view = messages.flatMap view := by
  unfold applyUserMessage
  simp only
  split
  next found =>
    obtain ⟨message, there, holds⟩ := findIdx?_item found
    simp only [Bool.and_eq_true, decide_eq_true_eq] at holds
    have text : message.kind ≠ .toolSteps := by simp [holds.1.1.1]
    apply flatMap_modify_found there
    rw [stepView.others message text]
    exact stepView.others _ text
  · exact pushed_unseen (stepView.others _ (by simp)) messages

theorem StepView.closed (stepView : StepView view) (host : Host) (messages : List ChatMessage)
    (event : StreamEvent) :
    (closeReasoningOn (if event.type = .userMessage then applyUserMessage host messages event
      else messages) event).flatMap view = messages.flatMap view := by
  rw [closeReasoningOn_unseen stepView.blind]
  split
  · exact stepView.user messages event
  · rfl

theorem StepView.before (stepView : StepView view) (host : Host) (messages : List ChatMessage)
    (ongoing : event.type ≠ .turnInterrupted) :
    (beforeSteps host messages event).flatMap view = messages.flatMap view := by
  rw [beforeSteps, applyTextEvent_unseen host stepView.blind ongoing, stepView.closed]

theorem StepView.applyMessages (stepView : StepView view) :
    (applyMessages host messages event).flatMap view =
      (if isToolStepEvent event then upsertToolStepMessage host (beforeSteps host messages event) event
        else beforeSteps host messages event).flatMap view := by
  simp only [Web.applyMessages]
  rw [errors_unseen host _ (stepView.others _ (by simp [errorMessage])),
    finals_unseen _ stepView.drafts]
  rfl

end

structure StepIds where
  turnId : Option String
  role : MessageRole
  toolCallId : Option String
  approvalId : Option String

def ChatMessage.stepIds (message : ChatMessage) : List StepIds :=
  if message.kind = .toolSteps then
    ((message.toolSteps.getD []).head?.map fun step =>
      ⟨message.turnId, message.role, step.toolCallId, step.approvalId⟩).toList
  else []

def namesApproval (ids : StepIds) (call approval : String) (event : StreamEvent) : Bool :=
  isApprovalEvent event && event.turnId = ids.turnId && toolCallIdFromPayload host event = call &&
    approvalIdFromPayload host event = approval

def StepKnown (log : List StreamEvent) (ids : StepIds) : Prop :=
  ids.role = .assistant ∧
    ∀ call approval, call ≠ "" → ids.toolCallId = some call → ids.approvalId = some approval →
      ∃ event ∈ log, namesApproval host ids call approval event

def StepsKnown (log : List StreamEvent) (messages : List ChatMessage) : Prop :=
  ∀ ids ∈ messages.flatMap ChatMessage.stepIds, StepKnown host log ids

/-- The later event is an approval of the same turn and id as the earlier one, which names its
call where the later one does not. -/
def LosesCall (earlier later : StreamEvent) : Prop :=
  isApprovalEvent earlier ∧ isApprovalEvent later ∧ earlier.turnId = later.turnId ∧
    approvalIdFromPayload host earlier = approvalIdFromPayload host later ∧
    toolCallIdFromPayload host earlier ≠ "" ∧ toolCallIdFromPayload host later = ""

instance (earlier later : StreamEvent) : Decidable (LosesCall host earlier later) :=
  inferInstanceAs (Decidable (_ ∧ _))

section

variable {host} {messages : List ChatMessage} {event : StreamEvent} {log : List StreamEvent}
  {turn : Option String} {call : String}

theorem stepIds_view : StepView ChatMessage.stepIds where
  others message other := by simp [ChatMessage.stepIds, other]
  drafts _ := rfl

theorem callRow_view (turn : Option String) (call : String) :
    StepView (ChatMessage.callRow turn call) where
  others message other := by simp [ChatMessage.callRow, other]
  drafts _ := rfl

theorem StepKnown.more {ids : StepIds} (known : StepKnown host log ids) :
    StepKnown host (log ++ [event]) ids := by
  refine ⟨known.1, ?_⟩
  intro call approval some_call own approved
  obtain ⟨earlier, member, names⟩ := known.2 call approval some_call own approved
  exact ⟨earlier, List.mem_append_left _ member, names⟩

theorem stepIds_of {message : ChatMessage} (step : ToolStep) (kind : message.kind = .toolSteps)
    (first : (message.toolSteps.getD []).head? = some step) :
    message.stepIds = [⟨message.turnId, message.role, step.toolCallId, step.approvalId⟩] := by
  simp [ChatMessage.stepIds, kind, first]

theorem stepsKnown_interruptTurn {turnId : String} (known : StepsKnown host log messages) :
    StepsKnown host log (interruptTurn messages turnId event) := by
  have same : (interruptTurn messages turnId event).flatMap ChatMessage.stepIds =
      messages.flatMap ChatMessage.stepIds := by
    apply flatMap_map_same
    intro message
    split <;> rfl
  rw [StepsKnown, same]
  exact known

theorem stepsKnown_modify {index : Nat} {message : ChatMessage}
    {change : ChatMessage → ChatMessage} (known : StepsKnown host log messages)
    (there : messages[index]? = some message)
    (changed : ∀ ids ∈ (change message).stepIds, StepKnown host log ids) :
    StepsKnown host log (messages.modify index change) := by
  obtain ⟨before, after, whole, modified⟩ := modify_at there
  rw [StepsKnown, whole, List.flatMap_append, List.flatMap_cons] at known
  rw [StepsKnown, modified, List.flatMap_append, List.flatMap_cons]
  intro ids among
  rcases List.mem_append.mp among with early | rest
  · exact known ids (List.mem_append_left _ early)
  · rcases List.mem_append.mp rest with own | late
    · exact changed ids own
    · exact known ids (List.mem_append_right _ (List.mem_append_right _ late))

theorem matched_of_named {key : AggregateKey} {step : ToolStep}
    (keyed : resolveAggregationKey host event = some key) (matched : key.matchesStep step)
    (named : toolCallIdFromPayload host event ≠ "") :
    step.toolCallId = some (toolCallIdFromPayload host event) := by
  simp only [resolveAggregationKey, ne_eq, named, not_false_eq_true, if_true] at keyed
  cases keyed
  exact of_decide_eq_true matched

theorem matched_of_unnamed {key : AggregateKey} {step : ToolStep}
    (keyed : resolveAggregationKey host event = some key) (matched : key.matchesStep step)
    (unnamed : toolCallIdFromPayload host event = "") :
    isApprovalEvent event ∧ step.approvalId = some (approvalIdFromPayload host event) := by
  simp only [resolveAggregationKey, ne_eq, unnamed, not_true_eq_false, if_false] at keyed
  split at keyed
  next approves =>
    obtain ⟨approval, named, rfl⟩ := Option.map_eq_some_iff.mp keyed
    obtain ⟨same, -⟩ := Option.filter_eq_some_iff.mp named
    cases same
    refine ⟨?_, of_decide_eq_true matched⟩
    simpa [isApprovalEvent] using approves
  · cases keyed

theorem stepsKnown_upsertToolStepMessage (own : isToolStepEvent event)
    (known : StepsKnown host log messages) :
    StepsKnown host (log ++ [event]) (upsertToolStepMessage host messages event) := by
  have more : StepsKnown host (log ++ [event]) messages := fun ids among => (known ids among).more
  unfold upsertToolStepMessage
  split
  · rw [StepsKnown, List.flatMap_append, List.flatMap_singleton]
    intro ids among
    rcases List.mem_append.mp among with before | new
    · exact more ids before
    · rw [stepIds_of _ rfl rfl, List.mem_singleton] at new
      subst new
      refine ⟨rfl, ?_⟩
      intro call approval _ called approved
      rw [createStep_toolCallId own] at called
      rw [createStep_approvalId own] at approved
      split at approved
      next approves =>
        split at called
        · refine ⟨event, by simp, ?_⟩
          simp [namesApproval, approves, Option.some.inj called, Option.some.inj approved]
        · cases called
      · cases approved
  next found =>
    obtain ⟨message, key, step, there, keyed, kind, turnSame, first, matched⟩ :=
      findToolStepMessageIndex_some found
    apply stepsKnown_modify more there
    intro ids among
    have before := more ⟨message.turnId, message.role, step.toolCallId, step.approvalId⟩
      (List.mem_flatMap.mpr ⟨message, List.mem_of_getElem? there, by simp [stepIds_of step kind first]⟩)
    rw [stepIds_of (mergeToolStep host (some step) event) (by exact kind) (by simp [first]),
      List.mem_singleton] at among
    subst among
    refine ⟨before.1, ?_⟩
    intro call approval some_call called approved
    rw [mergeToolStep_toolCallId own] at called
    rw [mergeToolStep_approvalId own] at approved
    split at approved
    next approves =>
      split at called
      · refine ⟨event, by simp, ?_⟩
        simp [namesApproval, approves, turnSame, Option.some.inj called, Option.some.inj approved]
      next other =>
        cases type : event.type <;> simp [isApprovalEvent, isCallEvent, isToolStepEvent, type] at *
    · split at called
      · cases called
        exact before.2 _ approval some_call (matched_of_named keyed matched some_call) approved
      · exact before.2 call approval some_call called approved

theorem stepsKnown_messagesOf (host : Host) (log : List StreamEvent) :
    StepsKnown host log (messagesOf host log) := by
  induction log using List.reverseRecOn with
  | nil =>
    intro ids among
    cases among
  | append_singleton log event ih =>
    have before : StepsKnown host log (beforeSteps host (messagesOf host log) event) := by
      by_cases interrupted : event.type = .turnInterrupted
      · have closed : StepsKnown host log (closeReasoningOn (if event.type = .userMessage then
            applyUserMessage host (messagesOf host log) event else messagesOf host log) event) := by
          rw [StepsKnown, stepIds_view.closed]
          exact ih
        unfold beforeSteps applyTextEvent
        split
        · exact closed
        · rw [interrupted]
          rw [interrupted] at closed
          exact stepsKnown_interruptTurn closed
      · rw [StepsKnown, stepIds_view.before host _ interrupted]
        exact ih
    rw [StepsKnown, messagesOf_snoc, stepIds_view.applyMessages]
    split
    next own => exact stepsKnown_upsertToolStepMessage own before
    · exact fun ids among => (before ids among).more

end

end OpenJax.Web
