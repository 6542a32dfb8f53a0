import OpenJax.Shared.Json
import OpenJax.Shared.Text
import Mathlib.Data.List.Sort

set_option autoImplicit false

namespace OpenJax.Agent

open Shared

/-- The texts that third-party code prints and reads: JSON values through `serde_json`, and the
`Debug` form of a string map. -/
structure TextFormats where
  jsonText : Json → String
  parseJson : String → Option Json
  debugArgs : List (String × String) → String

/-- The entries of the string map; where its iteration order shows, the caller passes the
entries in that order. -/
def toolInputToArgs (formats : TextFormats) : Json → List (String × String)
  | .obj fields =>
      fields.map fun
        | (key, .str text) => (key, text)
        | (key, other) => (key, formats.jsonText other)
  | _ => []

def argsJson (formats : TextFormats) (args : List (String × String)) : String :=
  formats.jsonText (.obj (args.map fun entry => (entry.1, .str entry.2)))

def stableArgsJson (formats : TextFormats) (args : List (String × String)) : String :=
  argsJson formats (args.insertionSort fun first second => first.1 ≤ second.1)

structure ToolCallKey where
  name : String
  args : String
  deriving DecidableEq, Repr

structure ToolCallRecord where
  key : ToolCallKey
  ok : Bool
  epoch : Nat
  output : String
  deriving DecidableEq, Repr

def shouldSkipDuplicateDetection (toolName : String) : Bool :=
  match toolName with
  | "Read" | "list_dir" | "grep_files" | "process_snapshot" | "system_load" | "disk_usage" =>
      true
  | _ => false

def isDuplicateToolCall (recent : List ToolCallRecord) (epoch : Nat) (toolName args : String) :
    Bool :=
  if shouldSkipDuplicateDetection toolName then false
  else recent.any fun record =>
    record.key == ⟨toolName, args⟩ && record.ok && record.epoch == epoch

def recordToolCall (recent : List ToolCallRecord) (record : ToolCallRecord) : List ToolCallRecord :=
  let grown := recent ++ [record]
  grown.drop (grown.length - 16)

def isMutatingTool (toolName : String) : Bool :=
  match toolName with
  | "Edit" | "shell" | "exec_command" => true
  | _ => false

def toolFailureCode (errorText : String) : String :=
  let lower := errorText.toLower
  if containsText lower "approval timed out" then "approval_timeout"
  else if containsText lower "approval rejected" then "approval_rejected"
  else if containsText lower "timed out" then "tool_timeout"
  else if containsText lower "cancel" then "tool_canceled"
  else "tool_execution_failed"

def toolFailureRetryable (errorText : String) : Bool :=
  let lower := errorText.toLower
  containsText lower "timed out" || containsText lower "cancel"

def extractToolTargetHint (toolName : String) (args : List (String × String)) : Option String :=
  let keys :=
    match toolName with
    | "Read" | "Edit" | "write_file" => ["file_path", "path", "filepath"]
    | "disk_usage" => ["path"]
    | "shell" | "exec_command" => ["cmd", "command"]
    | _ => []
  keys.findSome? fun key => args.lookup key

def maxConsecutiveDuplicateSkips : Nat := 2

def duplicateToolCallWarning (formats : TextFormats) (toolName : String)
    (args : List (String × String)) : String :=
  s!"[warning] tool {toolName} with args " ++ formats.debugArgs args ++
    " was already called recently, skipping"

def shouldAbortOnConsecutiveDuplicateSkips (count maxSkips : Nat) : Bool :=
  decide (maxSkips ≤ count)

def duplicateSkipAbortMessage (maxSkips : Nat) : String :=
  s!"检测到连续 {maxSkips} 次重复工具调用，已提前结束本回合以避免循环。请继续下一轮或换一种指令。"

def isApprovalBlockingError (errorText : String) : Bool :=
  let lower := errorText.toLower
  containsText lower "approval rejected" || containsText lower "approval timed out"

def approvalRejectedStopMessage : String :=
  "操作已取消：用户拒绝了工具调用，本回合已停止。"

def approvalTimedOutStopMessage : String :=
  "审批超时：本次工具调用未在限定时间内确认，本回合已停止。请继续给出下一步指令。"

inductive LoopSignal where
  | none
  | warned
  | halt
  deriving DecidableEq, Repr

structure LoopDetector where
  window : List (String × String)
  state : LoopSignal
  warnedTool : Option (String × String)
  windowCapacity : Nat
  warnThreshold : Nat
  deriving DecidableEq, Repr

namespace LoopDetector

def new : LoopDetector :=
  { window := [], state := .none, warnedTool := none, windowCapacity := 16, warnThreshold := 5 }

def reset (detector : LoopDetector) : LoopDetector :=
  { detector with window := [], state := .none, warnedTool := none }

def halts (detector : LoopDetector) (toolName argsHash : String) : Bool :=
  detector.state == .warned && detector.warnedTool == some (toolName, argsHash)

def observe (detector : LoopDetector) (key : String × String) : LoopSignal × LoopDetector :=
  let pushed := detector.window ++ [key]
  let window := if detector.windowCapacity < pushed.length then pushed.tail else pushed
  let consecutiveCount := (window.reverse.takeWhile (· == key)).length
  if detector.warnThreshold ≤ consecutiveCount then
    (.warned, { detector with window := window, state := .warned, warnedTool := some key })
  else (.none, { detector with window := window })

def checkAndAdvance (detector : LoopDetector) (toolName argsHash : String) :
    LoopSignal × LoopDetector :=
  let key := (toolName, argsHash)
  if detector.state = .warned then
    if detector.warnedTool = some key then (.halt, { detector with state := .halt })
    else observe { detector with state := .none, warnedTool := none } key
  else observe detector key

def recoveryPrompt (detector : LoopDetector) : Option String :=
  if detector.state = .warned then
    some ("[系统警告] 检测到你最近连续多次以完全相同的参数调用了同一工具，这可能是陷入了循环。" ++
      "请评估当前执行策略是否有效，并明确下一步将如何调整（可更换工具、改变参数、或给出阶段性结论）。")
  else none

theorem observe_signal_ne_halt (detector : LoopDetector) (key : String × String) :
    (detector.observe key).1 ≠ .halt := by
  unfold observe
  dsimp only
  split <;> split <;> simp

theorem checkAndAdvance_halt_iff (detector : LoopDetector) (toolName argsHash : String) :
    (detector.checkAndAdvance toolName argsHash).1 = .halt ↔
      detector.halts toolName argsHash = true := by
  unfold checkAndAdvance halts
  by_cases warned : detector.state = .warned
  · by_cases same : detector.warnedTool = some (toolName, argsHash)
    · simp [warned, same]
    · simp [warned, same, observe_signal_ne_halt]
  · simp [warned, observe_signal_ne_halt]

end LoopDetector

end OpenJax.Agent
