import OpenJax.Model.Types
import OpenJax.Streaming.Sse
import Mathlib.Data.List.Forall2

set_option autoImplicit false

namespace OpenJax.Model

open Shared Streaming

def responseSnippet (body : String) : String :=
  let shown := body.toList
  if shown.length ≤ 400 then body else String.ofList (shown.take 400) ++ "..."

structure HttpAnswer where
  status : String
  success : Bool
  body : String

inductive StreamEnd where
  | eof
  | failed
  | timedOut
  deriving DecidableEq, Repr

def readInput (readJson : String → Except String Json) (arguments : String) : Json :=
  match readJson arguments with
  | .ok input => input
  | .error _ => .obj []

def textBlocks (text : String) : List AssistantContentBlock :=
  if text.isEmpty then [] else [.text text]

/-- Both paths fail, or both extract the same text, tool uses and stop reason. -/
inductive Agree :
    Except String ModelResponse → Except String (ModelResponse × List StreamDelta) → Prop where
  | same {whole streamed : ModelResponse} {sent : List StreamDelta}
      (text : whole.text = streamed.text) (toolUses : whole.toolUses = streamed.toolUses)
      (reasoning : whole.reasoning = streamed.reasoning)
      (stopReason : whole.stopReason = streamed.stopReason) :
      Agree (.ok whole) (.ok (streamed, sent))
  | failed {first second : String} : Agree (.error first) (.error second)

section Fields

def Holds (field : Option Json) : Option String → Prop
  | some text => field = some (.str text)
  | none => field = none ∨ field = some .null

def HoldsList (field : Option Json) (entries : List Json) : Prop :=
  field = some (.arr entries) ∨ (entries = [] ∧ (field = none ∨ field = some .null))

theorem holds_asStr {field : Option Json} {text : Option String} (held : Holds field text) :
    field.bind Json.asStr? = text := by
  cases text with
  | some text =>
    obtain rfl : field = some (.str text) := held
    rfl
  | none => rcases held with rfl | rfl <;> rfl

end Fields

section Blocks

def useBlocks (uses : List ToolUse) : List AssistantContentBlock :=
  uses.map fun use => .toolUse use.id use.name use.input

theorem text_blocks (text : String) (uses : List ToolUse) (response : ModelResponse)
    (content : response.content = textBlocks text ++ useBlocks uses) :
    response.text = text ∧ response.toolUses = uses := by
  have nothing : (useBlocks uses).filterMap AssistantContentBlock.text? = [] := by
    simp [useBlocks, AssistantContentBlock.text?]
  have back : (useBlocks uses).filterMap AssistantContentBlock.toolUse? = uses := by
    have same : (AssistantContentBlock.toolUse? ∘
        fun use : ToolUse => AssistantContentBlock.toolUse use.id use.name use.input) = some := by
      funext use
      rfl
    rw [useBlocks, List.filterMap_map, same, List.filterMap_some]
  unfold ModelResponse.text ModelResponse.toolUses textBlocks at *
  rw [content, List.filterMap_append, List.filterMap_append, nothing, back]
  by_cases empty : text = ""
  · simp [empty, String.join]
  · simp [empty, AssistantContentBlock.text?, AssistantContentBlock.toolUse?, String.join]

theorem blocks_eq_nil {text : String} {uses : List ToolUse} :
    textBlocks text ++ useBlocks uses = [] ↔ text = "" ∧ uses = [] := by
  unfold textBlocks
  by_cases empty : text = "" <;> simp [empty, useBlocks]

end Blocks

end OpenJax.Model
