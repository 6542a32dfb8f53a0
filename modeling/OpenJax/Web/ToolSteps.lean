import OpenJax.Web.Types
import OpenJax.Shared.InPlace

set_option autoImplicit false

namespace OpenJax.Web

open Shared

def isToolStepEvent (event : StreamEvent) : Bool :=
  match event.type with
  | .toolCallStarted | .toolCallReady | .toolCallCompleted | .approvalRequested
  | .approvalResolved | .error => true
  | _ => false

variable (host : Host)

def toolCallIdFromPayload (event : StreamEvent) : String :=
  event.payload.text host "tool_call_id" ""

inductive AggregateKey where
  | toolCallId (value : String)
  | approvalId (value : String)
  deriving DecidableEq

def resolveAggregationKey (event : StreamEvent) : Option AggregateKey :=
  let toolCallId := toolCallIdFromPayload host event
  if toolCallId ≠ "" then some (.toolCallId toolCallId)
  else if event.type = .approvalRequested || event.type = .approvalResolved then
    (truthy (some (event.payload.text host "approval_id" ""))).map .approvalId
  else none

def AggregateKey.matchesStep : AggregateKey → ToolStep → Bool
  | .toolCallId value, step => step.toolCallId = some value
  | .approvalId value, step => step.approvalId = some value

def findToolStepMessageIndex (messages : List ChatMessage) (event : StreamEvent) : Option Nat :=
  (resolveAggregationKey host event).bind fun key =>
    lastIndex (fun message =>
      message.kind = .toolSteps && message.turnId = event.turnId &&
        ((message.toolSteps.getD []).head?.any key.matchesStep)) messages

def computeDurationSec (startedAt endedAt : Option String) : Option Int :=
  let parsed := fun value : Option String => (truthy value).bind host.parseDate
  (parsed startedAt).bind fun startMs =>
    (parsed endedAt).bind fun endMs =>
      if endMs < startMs then none else some ((endMs - startMs) / 1000)

def withDuration (step : ToolStep) : ToolStep :=
  match computeDurationSec host step.startedAt step.endedAt with
  | none => step
  | some durationSec => { step with durationSec := some durationSec }

def turnText (event : StreamEvent) : String := event.turnId.getD "unknown"

def resolveToolStepId (event : StreamEvent) (stem : String) : String :=
  if event.type = .approvalRequested || event.type = .approvalResolved then
    (truthy (some (event.payload.text host "approval_id" ""))).getD
      s!"{stem}:approval:{turnText event}:{event.eventSeq}"
  else
    (truthy (some (toolCallIdFromPayload host event))).getD
      s!"{stem}:{turnText event}:{event.eventSeq}"

def findOutputField (output : Option String) (field : String) : Option String :=
  output.bind fun text =>
    ((splitBy '\n' text.toList).find? fun line => (field ++ "=").toList.isPrefixOf line).map
      fun line => host.trim (String.ofList (line.drop (field.length + 1)))

def metadataText (shellMetadata : Option Json) (name : String) : Option String :=
  (shellMetadata.bind fun fields => fields.get? name).bind Json.asStr?

def backendLabel (backend : String) : String :=
  match backend with
  | "macos_seatbelt" => "sandbox-exec (macos_seatbelt)"
  | "linux_native" => "bwrap (linux_native)"
  | "none_escalated" => "none (degraded)"
  | other => other

def metadataOrOutput (shellMetadata : Option Json) (output : Option String) (name : String) :
    Option String :=
  (metadataText shellMetadata name).or (findOutputField host output name)

def extractBackendSummary (shellMetadata : Option Json) (output : Option String) : Option String :=
  (truthy (metadataOrOutput host shellMetadata output "backend")).map fun backend =>
    "sandbox: " ++ backendLabel backend

def isMutatingCommand (command : String) : Bool :=
  ["git add ", "git commit", "git merge", "git rebase", "git cherry-pick", "git reset --hard",
    "git clean -fd", "rm ", "mv ", "cp ", "chmod ", "chown ", "touch ", "mkdir ", "rmdir ",
    "sed -i", "perl -i", "truncate ", ">", ">>"].any fun token => containsText command token

def degradedRiskSummary (shellMetadata : Option Json) (output : Option String) : Option String :=
  if metadataOrOutput host shellMetadata output "backend" = some "none_escalated" then
    let command := host.toLowerCase ((findOutputField host output "command").getD "")
    let policyDecision := host.toLowerCase
      ((metadataOrOutput host shellMetadata output "policy_decision").getD "")
    if isMutatingCommand command || containsText policyDecision "askapproval" then
      some "risk: mutating command ran unsandboxed"
    else some "degraded: executed outside sandbox"
  else none

def skillTriggerGuardHint (shellMetadata : Option Json) (output : Option String) : Option String :=
  if metadataOrOutput host shellMetadata output "runtime_deny_reason" =
      some "skill_trigger_not_shell_command" then
    some "hint: detected skill trigger string in shell; use skill workflow steps"
  else none

def isPartialResult (shellMetadata : Option Json) (output : Option String) : Bool :=
  metadataText shellMetadata "result_class" = some "partial_success" ||
    containsText (output.getD "") "result_class=partial_success"

def partialDescription (shellMetadata : Option Json) : String :=
  match shellMetadata with
  | none => "Partial success"
  | some fields =>
      let exitCode := ((fields.get? "exit_code").map host.text).getD "undefined"
      s!"Partial success (exit code {exitCode})"

def buildToolStepMeta (rawPayload : Payload) (shellMetadata : Option Json) (isPartial : Bool)
    (output : Option String) : ToolStepMeta :=
  { rawPayload := some rawPayload
    shellMetadata := shellMetadata
    backendSummary := extractBackendSummary host shellMetadata output
    riskSummary := degradedRiskSummary host shellMetadata output
    hint := skillTriggerGuardHint host shellMetadata output
    isPartial := some isPartial }

def toolTitle (event : StreamEvent) : String :=
  (event.payload.string "display_name").getD (event.payload.text host "tool_name" "tool")

def approvalDescription (reason target : String) : String :=
  if reason ≠ "" && target ≠ "" then s!"{reason} ({target})"
  else if reason ≠ "" then reason
  else target

def createStepFromEvent (event : StreamEvent) (under : ToolStep) : ToolStep :=
  match event.type with
  | .toolCallStarted =>
      { under with
        id := resolveToolStepId host event "tool_call_started"
        type := .tool
        title := some (toolTitle host event)
        target := some (event.payload.text host "target" "")
        status := some .running
        time := some event.timestamp
        startEventSeq := some event.eventSeq
        lastEventSeq := some event.eventSeq
        startedAt := some event.timestamp
        toolCallId := some (toolCallIdFromPayload host event)
        info := some { rawPayload := some event.payload } }
  | .toolCallReady =>
      { under with
        id := (truthy (some (toolCallIdFromPayload host event))).getD
          s!"tool_call_ready:{turnText event}:{event.eventSeq}"
        type := .tool
        target := some ((event.payload.string "target").getD "")
        toolCallId := some (toolCallIdFromPayload host event) }
  | .toolCallCompleted =>
      let shellMetadata := event.payload.field "shell_metadata"
      let output := event.payload.string "output"
      let isPartial := isPartialResult shellMetadata output
      { under with
        id := resolveToolStepId host event "tool_call_completed"
        type := .tool
        title := some (toolTitle host event)
        status :=
          some (if (event.payload.field "ok").bind Json.asBool? = some false then .failed
            else .success)
        description := if isPartial then some (partialDescription host shellMetadata) else none
        output := some (event.payload.text host "output" "")
        time := some event.timestamp
        startEventSeq := some event.eventSeq
        lastEventSeq := some event.eventSeq
        endEventSeq := some event.eventSeq
        endedAt := some event.timestamp
        toolCallId := some (toolCallIdFromPayload host event)
        info := some (buildToolStepMeta host event.payload shellMetadata isPartial output) }
  | .approvalRequested =>
      { under with
        id := resolveToolStepId host event "approval_requested"
        type := .approval
        title := some (event.payload.text host "tool_name" "approval")
        status := some .waiting
        description := some (approvalDescription (event.payload.text host "reason" "")
          (event.payload.text host "target" ""))
        time := some event.timestamp
        startEventSeq := some event.eventSeq
        lastEventSeq := some event.eventSeq
        startedAt := some event.timestamp
        approvalId := some (event.payload.text host "approval_id" "")
        toolCallId := some (toolCallIdFromPayload host event)
        info := some { rawPayload := some event.payload } }
  | .approvalResolved =>
      { under with
        id := resolveToolStepId host event "approval_resolved"
        type := .approval
        title := some (event.payload.text host "tool_name" "approval")
        status := some .success
        time := some event.timestamp
        startEventSeq := some event.eventSeq
        lastEventSeq := some event.eventSeq
        endEventSeq := some event.eventSeq
        endedAt := some event.timestamp
        approvalId := some (event.payload.text host "approval_id" "")
        toolCallId := some (toolCallIdFromPayload host event)
        info := some { rawPayload := some event.payload } }
  | _ =>
      { under with
        id := s!"error:{turnText event}:{event.eventSeq}"
        type := .summary
        title := some "error"
        status := some .failed
        output := some (event.payload.text host "message" "turn failed")
        time := some event.timestamp
        startEventSeq := some event.eventSeq
        lastEventSeq := some event.eventSeq
        endEventSeq := some event.eventSeq
        info := some { rawPayload := some event.payload } }

def mergeToolStep (previous : Option ToolStep) (event : StreamEvent) : ToolStep :=
  let next := createStepFromEvent host event {}
  match previous with
  | none => next
  | some previous =>
      let lastEventSeq :=
        some (max ((previous.lastEventSeq.or next.lastEventSeq).getD 0) (next.lastEventSeq.getD 0))
      let endEventSeq := next.endEventSeq.or previous.endEventSeq
      if previous.type = .tool && next.type = .approval then
        withDuration host
          { previous with
            status := next.status
            time := next.time
            description := next.description.or previous.description
            approvalId := next.approvalId.or previous.approvalId
            toolCallId := next.toolCallId.or previous.toolCallId
            endedAt := next.endedAt.or previous.endedAt
            lastEventSeq := lastEventSeq
            endEventSeq := endEventSeq
            info := next.info }
      else
        withDuration host
          { createStepFromEvent host event previous with
            startEventSeq := previous.startEventSeq
            lastEventSeq := lastEventSeq
            endEventSeq := endEventSeq }

def upsertToolStepMessage (messages : List ChatMessage) (event : StreamEvent) : List ChatMessage :=
  match findToolStepMessageIndex host messages event with
  | none =>
      messages ++ [
        { id := .generated, kind := .toolSteps, role := .assistant, content := ""
          timestamp := event.timestamp, startEventSeq := some event.eventSeq
          lastEventSeq := some event.eventSeq, turnId := event.turnId
          toolSteps := some [createStepFromEvent host event {}] }]
  | some index =>
      messages.modify index fun message =>
        { message with
          timestamp := event.timestamp
          startEventSeq := message.startEventSeq.or (some event.eventSeq)
          lastEventSeq := latest message.lastEventSeq event.eventSeq
          toolSteps :=
            some [mergeToolStep host (message.toolSteps.getD []).head? event] }

end OpenJax.Web
