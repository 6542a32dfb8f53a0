import Mathlib.Algebra.GroupWithZero.Nat
import Mathlib.Data.List.TakeWhile
import OpenJax.Shared.Json
import OpenJax.Shared.Text

set_option autoImplicit false

namespace OpenJax.Web

open Shared

structure Host where
  /-- `String(value)` of a number. -/
  numberText : Json → String
  /-- `Date.parse`, without its `NaN`. -/
  parseDate : String → Option Int
  trim : String → String
  toLowerCase : String → String

/-- The white space and line ends of `trim` and of `\s`. -/
def isWhiteSpace (c : Char) : Bool :=
  c.toNat ∈ [0x9, 0xA, 0xB, 0xC, 0xD, 0x20, 0xA0, 0x1680, 0x2028, 0x2029, 0x202F, 0x205F, 0x3000,
    0xFEFF] || 0x2000 ≤ c.toNat && c.toNat ≤ 0x200A

def trimmedText (text : List Char) : List Char :=
  ((text.dropWhile isWhiteSpace).reverse.dropWhile isWhiteSpace).reverse

section Trimming

variable {text : List Char} {c : Char}

theorem mem_trimmedText (black : isWhiteSpace c = false) (member : c ∈ text) :
    c ∈ trimmedText text := by
  have kept (text : List Char) (member : c ∈ text) : c ∈ text.dropWhile isWhiteSpace := by
    rw [← List.takeWhile_append_dropWhile (p := isWhiteSpace) (l := text)] at member
    rcases List.mem_append.mp member with early | late
    · rw [List.mem_takeWhile_imp early] at black
      cases black
    · exact late
  rw [trimmedText, List.mem_reverse]
  exact kept _ (List.mem_reverse.mpr (kept _ member))

theorem black_of_trimmedText (filled : trimmedText text ≠ []) :
    ∃ c ∈ trimmedText text, isWhiteSpace c = false := by
  unfold trimmedText at filled ⊢
  rw [ne_eq, List.reverse_eq_nil_iff] at filled
  refine ⟨_, List.mem_reverse.mpr (List.head_mem filled), ?_⟩
  exact List.head_dropWhile_not isWhiteSpace filled

end Trimming

mutual

/-- `String(value)` -/
def Host.text (host : Host) : Json → String
  | .null => "null"
  | .bool value => if value then "true" else "false"
  | .int value => host.numberText (.int value)
  | .float bits => host.numberText (.float bits)
  | .str value => value
  | .arr items => ",".intercalate (host.elements items)
  | .obj _ => "[object Object]"

def Host.elements (host : Host) : List Json → List String
  | [] => []
  | .null :: rest => "" :: host.elements rest
  | item :: rest => host.text item :: host.elements rest

end

abbrev Payload := List (String × Json)

namespace Payload

/-- `payload.field ?? undefined`: a field that is null counts as absent. -/
def field (payload : Payload) (name : String) : Option Json :=
  match payload.lookup name with
  | none | some .null => none
  | some value => some value

/-- `String(payload.field ?? fallback)` -/
def text (host : Host) (payload : Payload) (name fallback : String) : String :=
  ((payload.field name).map host.text).getD fallback

def string (payload : Payload) (name : String) : Option String :=
  (payload.field name).bind Json.asStr?

end Payload

/-- `text.length`, in UTF-16 units. -/
def textLength (text : String) : Nat :=
  (text.toList.map fun c => if c.toNat < 0x10000 then 1 else 2).sum

def truthy (text : Option String) : Option String := text.filter fun value => value ≠ ""

inductive EventType where
  | userMessage
  | turnStarted
  | assistantMessage
  | responseStarted
  | reasoningDelta
  | responseTextDelta
  | toolCallsProposed
  | toolBatchCompleted
  | responseResumed
  | responseCompleted
  | responseError
  | toolCallStarted
  | toolCallReady
  | toolCallCompleted
  | approvalRequested
  | approvalResolved
  | contextUsageUpdated
  | turnCompleted
  | turnInterrupted
  | sessionShutdown
  | error
  -- A type that the client has no branch for.
  | other (name : String)
  deriving DecidableEq

structure StreamEvent where
  turnId : Option String := none
  eventSeq : Nat
  turnSeq : Option Nat := none
  timestamp : String := ""
  type : EventType
  payload : Payload := []

inductive SessionConnection where
  | idle | connecting | active | closing | closed
  deriving DecidableEq

inductive TurnPhase where
  | draft | submitting | streaming | completed | failed
  deriving DecidableEq

inductive MessageRole where
  | user | assistant | tool | error | system
  deriving DecidableEq

inductive MessageKind where
  | text | toolSteps
  deriving DecidableEq

inductive ToolStepStatus where
  | running | success | waiting | failed
  deriving DecidableEq

inductive ToolStepType where
  | think | tool | shell | approval | summary
  deriving DecidableEq

structure ToolStepMeta where
  rawPayload : Option Payload := none
  shellMetadata : Option Json := none
  backendSummary : Option String := none
  riskSummary : Option String := none
  hint : Option String := none
  isPartial : Option Bool := none

structure ReasoningBlock where
  blockId : String
  turnId : String
  reasoningSegmentId : Option String
  content : String
  collapsed : Bool
  startedAt : String
  endedAt : Option String := none
  closed : Bool
  startEventSeq : Option Nat
  lastEventSeq : Option Nat
  endEventSeq : Option Nat := none
  deriving DecidableEq

/-- What is absent from the object is none: `title`, `status` and `time` of a step whose call is
only ready are. -/
structure ToolStep where
  id : String := ""
  type : ToolStepType := .tool
  title : Option String := none
  status : Option ToolStepStatus := none
  time : Option String := none
  startEventSeq : Option Nat := none
  lastEventSeq : Option Nat := none
  endEventSeq : Option Nat := none
  startedAt : Option String := none
  endedAt : Option String := none
  durationSec : Option Int := none
  description : Option String := none
  output : Option String := none
  target : Option String := none
  approvalId : Option String := none
  toolCallId : Option String := none
  info : Option ToolStepMeta := none

/-- Identifiers drawn with `crypto.randomUUID` are not told apart. -/
inductive MessageId where
  | named (text : String)
  | generated
  deriving DecidableEq

structure ChatMessage where
  id : MessageId
  kind : MessageKind
  role : MessageRole
  content : String
  timestamp : String
  startEventSeq : Option Nat := none
  lastEventSeq : Option Nat := none
  textStartEventSeq : Option Nat := none
  textLastEventSeq : Option Nat := none
  textEndEventSeq : Option Nat := none
  turnId : Option String := none
  responseSegmentId : Option String := none
  isDraft : Bool := false
  hasCanonicalDelta : Bool := false
  interrupted : Bool := false
  toolSteps : Option (List ToolStep) := none
  reasoningBlocks : Option (List ReasoningBlock) := none

structure PendingApproval where
  approvalId : String
  toolCallId : Option String
  turnId : Option String
  target : Option String
  reason : Option String
  toolName : Option String
  deriving DecidableEq

structure SessionStreamingState where
  turnId : Option String
  assistantMessageId : Option MessageId
  content : String
  lastEventSeq : Nat
  active : Bool
  deriving DecidableEq

structure ChatSession where
  connection : SessionConnection := .idle
  turnPhase : TurnPhase := .draft
  lastEventSeq : Nat := 0
  messages : List ChatMessage := []
  pendingApprovals : List PendingApproval := []
  -- The event whose numbers the gauge shows.
  contextUsage : Option StreamEvent := none
  streaming : Option SessionStreamingState := none

/-- `Math.max(previous ?? seq, seq)` -/
def latest (previous : Option Nat) (seq : Nat) : Option Nat := some (max (previous.getD seq) seq)

end OpenJax.Web
