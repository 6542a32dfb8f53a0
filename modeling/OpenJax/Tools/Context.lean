import OpenJax.Policy.Runtime

set_option autoImplicit false

namespace OpenJax.Tools

open Policy

inductive ToolPayload where
  | function (arguments : String)
  | custom (input : String)
  | localShell (command : String) (args : List String)
  | mcp (server tool rawArguments : String)
  deriving DecidableEq, Repr

inductive SandboxPolicy where
  | none
  | readOnly
  | write
  | dangerFullAccess
  deriving DecidableEq, Repr

structure PolicyDescriptor where
  action : String
  capabilities : List String
  riskTags : List String
  deriving DecidableEq, Repr

def PolicyDescriptor.allowRuleForTool (descriptor : PolicyDescriptor) (toolName : String) :
    PolicyRule :=
  { id := s!"descriptor:{toolName}:{descriptor.action}"
    decision := .allow
    priority := 100
    toolName := some toolName
    action := some descriptor.action
    sessionId := none
    actor := none
    resource := none
    capabilitiesAll := descriptor.capabilities
    riskTagsAll := descriptor.riskTags
    reason := "tool \x60" ++ toolName ++ "\x60 is declared in policy descriptor" }

/-- The part of a turn's context that the orchestrator reads; the approval handler answers
through the call's environment. -/
structure ToolTurnContext where
  turnId : Nat
  sessionId : Option String
  cwd : String
  hasEventSink : Bool
  policyRuntime : Option PolicyRuntime

structure ToolInvocation where
  toolName : String
  callId : String
  payload : ToolPayload
  turn : ToolTurnContext

namespace ToolInvocation

def policyDescriptor (invocation : ToolInvocation) : Option PolicyDescriptor :=
  match invocation.toolName with
  | "Read" | "list_dir" | "grep_files" => some ⟨"read", ["fs_read"], []⟩
  | "Edit" => some ⟨"write", ["fs_write"], ["mutating"]⟩
  | "process_snapshot" | "system_load" | "disk_usage" =>
      some ⟨"observe", ["process_exec"], []⟩
  | "shell" | "exec_command" => some ⟨"exec", ["process_exec"], []⟩
  | _ => none

def toPolicyCenterInput (invocation : ToolInvocation) (descriptor : Option PolicyDescriptor)
    (policyVersion : Nat) : PolicyInput :=
  let described := descriptor.getD ⟨"invoke", [], ["unknown_tool_descriptor"]⟩
  { toolName := invocation.toolName
    action := described.action
    sessionId := invocation.turn.sessionId <|> some (toString invocation.turn.turnId)
    actor := some "user"
    resource := some invocation.turn.cwd
    capabilities := described.capabilities
    riskTags := described.riskTags
    policyVersion := policyVersion }

end ToolInvocation

def isMutatingOperation (toolName : String) : Bool :=
  match toolName with
  | "shell" | "exec_command" | "Edit" => true
  | _ => false

def isShellLikeTool (toolName : String) : Bool :=
  match toolName with
  | "shell" | "exec_command" => true
  | _ => false

inductive FunctionCallError where
  | respondToModel (message : String)
  | toolNotFound (message : String)
  | invalidPayload (message : String)
  | approvalRejected (message : String)
  | approvalTimedOut (message : String)
  | internal (message : String)
  deriving DecidableEq, Repr

end OpenJax.Tools
