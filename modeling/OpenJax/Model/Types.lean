import OpenJax.Tools.Schema

set_option autoImplicit false

namespace OpenJax.Model

open Shared Tools

inductive ModelStage where
  | planner
  | finalWriter
  | toolReasoning
  deriving DecidableEq, Repr

structure ModelRequestOptions where
  maxOutputTokens : Option Nat := none
  thinkingBudgetTokens : Option Nat := none
  requireReasoning : Option Bool := none
  deriving DecidableEq, Repr

inductive UserContentBlock where
  | text (text : String)
  | toolResult (toolUseId content : String) (isError : Bool)
  deriving DecidableEq, Repr

inductive AssistantContentBlock where
  | reasoning (text : String)
  | text (text : String)
  | toolUse (id name : String) (input : Json)

inductive ConversationMessage where
  | user (blocks : List UserContentBlock)
  | assistant (blocks : List AssistantContentBlock)

inductive StopReason where
  | endTurn
  | toolUse
  | maxTokens
  | other (text : String)
  deriving DecidableEq, Repr

def StopReason.fromApiStr : String → StopReason
  | "end_turn" | "stop" => .endTurn
  | "tool_use" | "tool_calls" => .toolUse
  | "max_tokens" | "length" => .maxTokens
  | text => .other text

structure ModelRequest where
  stage : ModelStage
  messages : List ConversationMessage
  systemPrompt : Option String
  tools : List ToolSpec
  options : ModelRequestOptions

structure ModelUsage where
  inputTokens : Option Nat
  outputTokens : Option Nat
  totalTokens : Option Nat
  deriving DecidableEq, Repr

structure ModelResponse where
  content : List AssistantContentBlock := []
  reasoning : Option String := none
  usage : Option ModelUsage := none
  stopReason : Option StopReason := none
  raw : Option Json := none

inductive StreamDelta where
  | text (delta : String)
  | reasoning (delta : String)
  | toolUseStart (id name : String)
  | toolArgsDelta (id delta : String)
  | toolUseEnd (id : String)
  deriving DecidableEq, Repr

structure ToolUse where
  id : String
  name : String
  input : Json

namespace AssistantContentBlock

def toolUse? : AssistantContentBlock → Option ToolUse
  | .toolUse id name input => some ⟨id, name, input⟩
  | _ => none

def text? : AssistantContentBlock → Option String
  | .text shown => some shown
  | _ => none

end AssistantContentBlock

namespace ModelResponse

def assistantHistoryBlocks (response : ModelResponse) : List AssistantContentBlock :=
  match response.reasoning with
  | some reasoning =>
      if reasoning.isEmpty then response.content
      else .reasoning reasoning :: response.content
  | none => response.content

def text (response : ModelResponse) : String :=
  String.join (response.content.filterMap AssistantContentBlock.text?)

def toolUses (response : ModelResponse) : List ToolUse :=
  response.content.filterMap AssistantContentBlock.toolUse?

def hasToolUse (response : ModelResponse) : Bool :=
  response.content.any fun block => block.toolUse?.isSome

theorem assistantHistoryBlocks_toolUses (response : ModelResponse) :
    response.assistantHistoryBlocks.filterMap AssistantContentBlock.toolUse? =
      response.toolUses := by
  unfold assistantHistoryBlocks toolUses
  cases response.reasoning with
  | none => rfl
  | some reasoning =>
    dsimp only
    split
    · rfl
    · rw [List.filterMap_cons_none]
      rfl

theorem hasToolUse_eq (response : ModelResponse) :
    response.hasToolUse = !response.toolUses.isEmpty := by
  unfold hasToolUse toolUses
  induction response.content with
  | nil => rfl
  | cons block rest ih =>
    cases found : block.toolUse? with
    | none => rw [List.any_cons, found, List.filterMap_cons_none found, ih]; rfl
    | some use => simp [found]

end ModelResponse

end OpenJax.Model
