import OpenJax.Protocol.Event
import OpenJax.Tui.SlashCommands

set_option autoImplicit false

namespace OpenJax.Tui

open Shared Protocol

structure LiveMessage where
  role : String
  content : String

structure PendingApproval where
  requestId : String
  target : String
  reason : String
  toolName : Option String
  commandPreview : Option String
  riskTags : List String
  sandboxBackend : Option String
  degradeReason : Option String

inductive ApprovalSelection where
  | approve
  | deny
  | later

def ApprovalSelection.toIndex : ApprovalSelection → Nat
  | .approve => 0
  | .deny => 1
  | .later => 2

def ApprovalSelection.fromIndex (index : Nat) : ApprovalSelection :=
  match index % 3 with
  | 0 => .approve
  | 1 => .deny
  | _ => .later

structure SlashPalette where
  visible : Bool
  query : String
  found : List SlashMatch
  selectedIndex : Nat

def SlashPalette.closed : SlashPalette := ⟨false, "", [], 0⟩

structure App where
  input : List Char
  cursor : Nat
  inputHistory : List (List Char)
  historyNavIndex : Option Nat
  historyNavDraft : List Char
  liveMessages : List LiveMessage
  slashPalette : SlashPalette
  pendingApproval : Option PendingApproval
  approvalSelection : ApprovalSelection
  policyPicker : Option Nat
  activeTurnId : Option Nat
  streamTurnId : Option Nat
  streamText : String
  policyDefault : Option String

inductive SubmitAction where
  | userTurn (input : String)
  | approvalDecision (requestId : String) (approved : Bool)
  | compactSession

namespace App

def start (policyDefault : String) : App :=
  ⟨[], 0, [], none, [], [], .closed, none, .approve, none, none, none, "", some policyDefault⟩

def clearInput (app : App) : App := { app with input := [], cursor := 0 }

def setLiveStatus (app : App) (text : String) : App :=
  { app with liveMessages := [⟨"status", text⟩] }

def deferPendingApproval (app : App) : App :=
  app.clearInput.setLiveStatus "Approval pending: choose Approve or Deny when ready"

def dismissSlashPalette (app : App) : App := { app with slashPalette := .closed }

def activeSlashQuery (app : App) : Option String :=
  let trimmed := trimStart (app.input.take app.cursor)
  match trimmed with
  | '/' :: _ => if trimmed.any isWhitespace then none else some (String.ofList trimmed)
  | _ => none

variable (skills : List SlashCommand)

def refreshSlashPalette (app : App) : App :=
  if app.pendingApproval.isSome then app.dismissSlashPalette
  else
    match app.activeSlashQuery with
    | none => app.dismissSlashPalette
    | some query =>
        let found := matchCommands skills query 5
        { app with slashPalette :=
          ⟨true, query, found, min app.slashPalette.selectedIndex (found.length - 1)⟩ }

def completeSlashSelection (app : App) : App × Bool :=
  match app.slashPalette.found[app.slashPalette.selectedIndex]? with
  | none => (app, false)
  | some selected =>
      let input := '/' :: selected.commandName.toList
      let completed := { app with input, cursor := input.length }
      if (findExact skills (String.ofList input)).isSome then
        (completed.dismissSlashPalette, true)
      else (completed.refreshSlashPalette skills, true)

def cycle (current : Nat) (delta : Int) (count : Nat) : Nat := ((current + delta) % count).toNat

def moveSlashSelection (app : App) (delta : Int) : App :=
  if !app.slashPalette.visible || app.slashPalette.found.isEmpty then app
  else
    { app with slashPalette := { app.slashPalette with
      selectedIndex := cycle app.slashPalette.selectedIndex delta app.slashPalette.found.length } }

def openPolicyPicker (app : App) : App :=
  if app.pendingApproval.isSome then app
  else
    let current := app.policyDefault.getD "standard"
    let selected :=
      if current = "permissive" ∨ current = "allow" then 0
      else if current = "strict" ∨ current = "deny" then 2
      else 1
    { app with policyPicker := some selected }.dismissSlashPalette.clearInput

def movePolicySelection (app : App) (delta : Int) : App :=
  { app with policyPicker := app.policyPicker.map fun selected => cycle selected delta 3 }

def applyPolicyPick (app : App) (level : String) : App :=
  { app with policyDefault := some level, policyPicker := none }

def dismissPolicyPicker (app : App) : App := { app with policyPicker := none }

def appendInput (app : App) (text : List Char) : App :=
  let cursor := min app.cursor app.input.length
  { app with
    input := app.input.take cursor ++ text ++ app.input.drop cursor
    cursor := cursor + text.length }.refreshSlashPalette skills

def backspace (app : App) : App :=
  if app.input.isEmpty || app.cursor = 0 then app
  else
    { app with
      input := app.input.take (app.cursor - 1) ++ app.input.drop app.cursor
      cursor := app.cursor - 1 }.refreshSlashPalette skills

def moveCursorLeft (app : App) : App :=
  { app with cursor := app.cursor - 1 }.refreshSlashPalette skills

def moveCursorRight (app : App) : App :=
  { app with cursor := min (app.cursor + 1) app.input.length }.refreshSlashPalette skills

def browseTo (app : App) (index : Option Nat) (input : List Char) : App :=
  { app with historyNavIndex := index, input, cursor := input.length }.refreshSlashPalette skills

def historyPrev (app : App) : App :=
  if app.inputHistory.isEmpty then app
  else
    match app.historyNavIndex with
    | some index => app.browseTo skills (some (index - 1)) (app.inputHistory.getD (index - 1) [])
    | none =>
        let last := app.inputHistory.length - 1
        { app with historyNavDraft := app.input }.browseTo skills (some last)
          (app.inputHistory.getD last [])

def historyNext (app : App) : App :=
  match app.historyNavIndex with
  | none => app
  | some index =>
      if app.inputHistory.length ≤ index + 1 then app.browseTo skills none app.historyNavDraft
      else app.browseTo skills (some (index + 1)) (app.inputHistory.getD (index + 1) [])

def pushInputHistory (app : App) (input : List Char) : App :=
  if input.isEmpty then app
  else if app.inputHistory.getLast? = some input then
    { app with historyNavIndex := none, historyNavDraft := [] }
  else
    { app with
      inputHistory := app.inputHistory ++ [input], historyNavIndex := none, historyNavDraft := [] }

def clear (app : App) : App :=
  { app.clearInput.dismissSlashPalette with
    liveMessages := []
    historyNavIndex := none
    historyNavDraft := []
    pendingApproval := none
    approvalSelection := .approve
    activeTurnId := none
    streamTurnId := none
    streamText := "" }

def moveApprovalSelection (app : App) (delta : Int) : App :=
  if app.pendingApproval.isNone then app
  else
    { app with
      approvalSelection := .fromIndex (cycle app.approvalSelection.toIndex delta 3) }

def selectionOf (app : App) (input : String) : Option ApprovalSelection :=
  if input = "" then some app.approvalSelection
  else if input.toLower ∈ ["y", "yes"] then some .approve
  else if input.toLower ∈ ["n", "no"] then some .deny
  else if input.toLower ∈ ["l", "later", "cancel"] then some .later
  else none

def decideApproval (app : App) (pending : PendingApproval) : App × Option SubmitAction :=
  match app.selectionOf (String.ofList (trimChars app.input)) with
  | some .approve => (app.clearInput, some (.approvalDecision pending.requestId true))
  | some .deny => (app.clearInput, some (.approvalDecision pending.requestId false))
  | some .later => (app.clearInput.deferPendingApproval, none)
  | none =>
      (app.clearInput.setLiveStatus "Invalid approval input. Use y/n/l or arrow keys + Enter", none)

def submitSlashCommandIfExact (app : App) : App × Bool :=
  match findExact skills (String.ofList (trimChars app.input)) with
  | none => (app, false)
  | some found =>
      match found.kind with
      | .builtin message replacesInput =>
          if found.commandName = "help" then
            ((app.setLiveStatus message).clearInput.dismissSlashPalette, true)
          else if replacesInput then
            ({ app with input := message.toList, cursor := message.length }.refreshSlashPalette
              skills, true)
          else
            (((app.setLiveStatus message).clearInput.dismissSlashPalette).refreshSlashPalette
              skills, true)
      | .localPicker _ => (app.openPolicyPicker, true)
      | .sessionAction _ | .skill _ => (app, false)

def submitUserTurn (app : App) (input : List Char) : App × Option SubmitAction :=
  ((app.pushInputHistory input).clearInput.dismissSlashPalette,
    some (.userTurn (String.ofList input)))

def submitText (app : App) (input : List Char) : App × Option SubmitAction :=
  match (findExact skills (String.ofList input)).bind fun found => found.kind.sessionActionName with
  | some "compact" => (app.clearInput.dismissSlashPalette, some .compactSession)
  | some "clear" => (app.clear, none)
  | _ => app.submitUserTurn input

def submitInput (app : App) : App × Option SubmitAction :=
  match app.pendingApproval with
  | some pending => app.decideApproval pending
  | none =>
      match trimChars app.input with
      | [] => (app, none)
      | '/' :: rest =>
          match app.submitSlashCommandIfExact skills with
          | (submitted, true) => (submitted, none)
          | (unsubmitted, false) => unsubmitted.submitText skills ('/' :: rest)
      | input => app.submitUserTurn input

def refreshApprovalLiveMessage (app : App) : App :=
  match app.pendingApproval with
  | some pending =>
      { app with liveMessages :=
        [⟨"approval", s!"pending ({pending.requestId}) (input y/n + Enter)"⟩] }
  | none => app

/-- The request comes by two ways; the second one only fills in what the first left out. -/
def approvalRequested (app : App) (request : PendingApproval) : App :=
  match app.pendingApproval with
  | some existing =>
      if existing.requestId = request.requestId then
        { app with
          pendingApproval := some { existing with
            target := request.target
            reason := request.reason
            toolName := existing.toolName.or request.toolName
            commandPreview := existing.commandPreview.or request.commandPreview
            riskTags := if existing.riskTags.isEmpty then request.riskTags else existing.riskTags
            sandboxBackend := existing.sandboxBackend.or request.sandboxBackend
            degradeReason := existing.degradeReason.or request.degradeReason }
          approvalSelection := .approve }.refreshApprovalLiveMessage
      else
        { app.dismissSlashPalette with
          pendingApproval := some request
          approvalSelection := .approve }.refreshApprovalLiveMessage
  | none =>
      { app.dismissSlashPalette with
        pendingApproval := some request
        approvalSelection := .approve }.refreshApprovalLiveMessage

def approvalResolved (app : App) (requestId : String) : App :=
  if app.pendingApproval.any fun pending => pending.requestId ≠ requestId then app
  else { app with pendingApproval := none, liveMessages := [] }

def applyStreamDelta (app : App) (turnId : Nat) (contentDelta : String) : App :=
  let text := if app.streamTurnId = some turnId then app.streamText else ""
  { app with
    streamTurnId := some turnId
    streamText := text ++ contentDelta
    liveMessages := [⟨"assistant", text ++ contentDelta⟩] }

def applyCoreEvent (app : App) : Event → App
  | .turnStarted turnId =>
      { app with activeTurnId := some turnId, streamTurnId := none, streamText := "" }
  | .responseStarted turnId _ | .responseResumed turnId _ =>
      { app with
        activeTurnId := some turnId
        streamTurnId := some turnId
        streamText := if app.streamTurnId = some turnId then app.streamText else "" }
  | .responseTextDelta turnId contentDelta _ => app.applyStreamDelta turnId contentDelta
  | .responseCompleted turnId content _ =>
      { app with streamTurnId := some turnId, streamText := content, liveMessages := [] }
  | .assistantMessage turnId content =>
      { app with
        streamTurnId := some turnId
        streamText := if app.streamText = "" then content else app.streamText
        liveMessages := [] }
  | .approvalRequested _ requestId target reason _ _ toolName commandPreview riskTags
      sandboxBackend degradeReason _ =>
      app.approvalRequested ⟨requestId, target, reason, toolName, commandPreview, riskTags,
        sandboxBackend, degradeReason⟩
  | .approvalResolved _ requestId _ => app.approvalResolved requestId
  | .turnCompleted _ => { app with activeTurnId := none, streamText := "", liveMessages := [] }
  | .shutdownComplete => app.setLiveStatus "Shutdown complete"
  | .responseError .. => { app with liveMessages := [] }
  | .toolCallStarted .. | .toolCallCompleted .. | .toolCallArgsDelta .. | .toolCallReady ..
  | .toolCallProgress .. | .toolCallFailed .. | .toolCallsProposed .. | .toolBatchCompleted ..
  | .reasoningDelta .. | .loopWarning .. | .agentSpawned .. | .agentStatusChanged ..
  | .contextUsageUpdated .. | .contextCompacted .. => app

def overlay (app : App) : Option PendingApproval × Option Nat :=
  (app.pendingApproval, app.policyPicker)

section Overlays

variable (app : App)

@[simp] theorem overlay_clearInput : app.clearInput.overlay = app.overlay := rfl

@[simp] theorem overlay_dismissSlashPalette : app.dismissSlashPalette.overlay = app.overlay := rfl

@[simp] theorem overlay_refreshSlashPalette :
    (app.refreshSlashPalette skills).overlay = app.overlay := by
  unfold refreshSlashPalette
  repeat' split
  all_goals rfl

@[simp] theorem overlay_completeSlashSelection :
    (app.completeSlashSelection skills).1.overlay = app.overlay := by
  unfold completeSlashSelection
  split
  · rfl
  · dsimp only
    split
    · rfl
    · exact overlay_refreshSlashPalette skills _

@[simp] theorem overlay_moveSlashSelection (delta : Int) :
    (app.moveSlashSelection delta).overlay = app.overlay := by
  unfold moveSlashSelection
  split <;> rfl

@[simp] theorem overlay_appendInput (text : List Char) :
    (app.appendInput skills text).overlay = app.overlay :=
  overlay_refreshSlashPalette skills _

@[simp] theorem overlay_backspace : (app.backspace skills).overlay = app.overlay := by
  unfold backspace
  split
  · rfl
  · exact overlay_refreshSlashPalette skills _

@[simp] theorem overlay_moveCursorLeft : (app.moveCursorLeft skills).overlay = app.overlay :=
  overlay_refreshSlashPalette skills _

@[simp] theorem overlay_moveCursorRight : (app.moveCursorRight skills).overlay = app.overlay :=
  overlay_refreshSlashPalette skills _

@[simp] theorem overlay_browseTo (index : Option Nat) (input : List Char) :
    (app.browseTo skills index input).overlay = app.overlay :=
  overlay_refreshSlashPalette skills _

@[simp] theorem overlay_historyPrev : (app.historyPrev skills).overlay = app.overlay := by
  unfold historyPrev
  split
  · rfl
  · split
    · exact overlay_browseTo skills app _ _
    · exact overlay_browseTo skills { app with historyNavDraft := app.input } _ _

@[simp] theorem overlay_historyNext : (app.historyNext skills).overlay = app.overlay := by
  unfold historyNext
  split
  · rfl
  · split <;> exact overlay_browseTo skills app _ _

@[simp] theorem overlay_pushInputHistory (input : List Char) :
    (app.pushInputHistory input).overlay = app.overlay := by
  unfold pushInputHistory
  repeat' split
  all_goals rfl

@[simp] theorem overlay_moveApprovalSelection (delta : Int) :
    (app.moveApprovalSelection delta).overlay = app.overlay := by
  unfold moveApprovalSelection
  split <;> rfl

end Overlays

@[simp] theorem policyPicker_applyCoreEvent (app : App) (event : Event) :
    (app.applyCoreEvent event).policyPicker = app.policyPicker := by
  cases event
  case approvalRequested =>
    simp only [applyCoreEvent, approvalRequested]
    repeat' split
    all_goals rfl
  case approvalResolved =>
    simp only [applyCoreEvent, approvalResolved]
    split <;> rfl
  all_goals rfl

inductive Submission (app : App) : App × Option SubmitAction → Prop where
  | answered (pending : PendingApproval) (next : App) (approved : Bool) :
      app.pendingApproval = some pending → next.overlay = app.overlay →
        Submission app (next, some (.approvalDecision pending.requestId approved))
  | deferred (next : App) :
      app.pendingApproval.isSome → next.overlay = app.overlay → Submission app (next, none)
  | handled (next : App) :
      app.pendingApproval = none → next.pendingApproval = none → Submission app (next, none)
  | compact (next : App) : app.pendingApproval = none → next.overlay = app.overlay →
      Submission app (next, some .compactSession)
  | turn (next : App) (input : String) : app.pendingApproval = none →
      next.overlay = app.overlay → Submission app (next, some (.userTurn input))

theorem decideApproval_submission {app : App} {pending : PendingApproval}
    (shown : app.pendingApproval = some pending) :
    Submission app (app.decideApproval pending) := by
  unfold decideApproval
  split
  · exact .answered pending _ true shown rfl
  · exact .answered pending _ false shown rfl
  · exact .deferred _ (by simp [shown]) rfl
  · exact .deferred _ (by simp [shown]) rfl

theorem submitUserTurn_submission {app : App} (input : List Char)
    (nothing : app.pendingApproval = none) : Submission app (app.submitUserTurn input) :=
  .turn _ _ nothing (by simp)

theorem submitText_submission {app : App} (input : List Char)
    (nothing : app.pendingApproval = none) : Submission app (app.submitText skills input) := by
  unfold submitText
  split
  · exact .compact _ nothing (by simp)
  · exact .handled _ nothing rfl
  · exact submitUserTurn_submission input nothing

theorem submitSlashCommandIfExact_cases {app : App} (nothing : app.pendingApproval = none) :
    app.submitSlashCommandIfExact skills = (app, false) ∨
      ∃ next, app.submitSlashCommandIfExact skills = (next, true) ∧
        next.pendingApproval = none := by
  have kept : ∀ next : App, next.overlay = app.overlay → next.pendingApproval = none :=
    fun next same => (congrArg Prod.fst same).trans nothing
  unfold submitSlashCommandIfExact
  split
  · exact .inl rfl
  · split
    · refine .inr ?_
      split
      · exact ⟨_, rfl, kept _ rfl⟩
      · split
        · exact ⟨_, rfl, kept _ (overlay_refreshSlashPalette skills _)⟩
        · exact ⟨_, rfl, kept _ (overlay_refreshSlashPalette skills _)⟩
    · refine .inr ⟨_, rfl, ?_⟩
      unfold openPolicyPicker
      split <;> exact nothing
    · exact .inl rfl
    · exact .inl rfl

theorem submitInput_submission (app : App) : Submission app (app.submitInput skills) := by
  unfold submitInput
  split
  next pending shown => exact decideApproval_submission shown
  next nothing =>
    split
    · exact .handled _ nothing nothing
    next rest _ =>
      rcases submitSlashCommandIfExact_cases skills nothing with same | ⟨next, done, clean⟩
      · rw [same]
        exact submitText_submission skills _ nothing
      · rw [done]
        exact .handled _ nothing clean
    · exact submitUserTurn_submission _ nothing

end App

end OpenJax.Tui
