import Mathlib.Algebra.GroupWithZero.Nat
import OpenJax.Agent.Prompt
import OpenJax.Protocol.Event
import OpenJax.Shared.Machine

set_option autoImplicit false

namespace OpenJax.Agent

open Shared Protocol Model

def maxConversationHistoryTurns : Nat := 100

def HistoryItem.turn? : HistoryItem → Option TurnRecord
  | .turn record => some record
  | .summary _ => none

def HistoryItem.summary? : HistoryItem → Option String
  | .turn _ => none
  | .summary text => some text

def HistoryItem.isTurn (item : HistoryItem) : Bool := item.turn?.isSome

@[simp]
theorem isTurn_turn (record : TurnRecord) : (HistoryItem.turn record).isTurn = true := rfl

@[simp]
theorem isTurn_summary (text : String) : (HistoryItem.summary text).isTurn = false := rfl

def turnCount (history : List HistoryItem) : Nat := history.countP HistoryItem.isTurn

def dropTurns : Nat → List HistoryItem → List HistoryItem
  | 0, history => history
  | _ + 1, [] => []
  | overflow + 1, .turn _ :: rest => dropTurns overflow rest
  | overflow + 1, .summary text :: rest => .summary text :: dropTurns (overflow + 1) rest

def commitTurn (history : List HistoryItem) (record : TurnRecord) : List HistoryItem :=
  let grown := history ++ [.turn record]
  let turns := turnCount grown
  -- Only turns count against the quota.
  if maxConversationHistoryTurns < turns then
    dropTurns (turns - maxConversationHistoryTurns) grown
  else grown

def turnIndices (history : List HistoryItem) : List Nat :=
  (history.zipIdx.filter fun entry => entry.1.isTurn).map Prod.snd

def splitForCompression (history : List HistoryItem) :
    Option (List HistoryItem × List HistoryItem) :=
  let indices := turnIndices history
  if indices.length ≤ 4 then none
  else indices[indices.length - 3]?.map fun cutoff => (history.take cutoff, history.drop cutoff)

def formatItem : HistoryItem → String
  | .turn record =>
      let tools :=
        if record.toolTraces.isEmpty then ""
        else "Tools:\n" ++ String.join (record.toolTraces.map fun trace => s!"  - {trace}\n")
      s!"User: {record.userInput}\n" ++ tools ++ s!"Assistant: {record.assistantOutput}\n\n"
  | .summary text => s!"[PREVIOUS SUMMARY]\n{text}\n\n"

def formatForPrompt (items : List HistoryItem) : String := String.join (items.map formatItem)

def buildCompressionPrompt (historyText : String) (turnCount : Nat) : String :=
  "You are a context compressor for an AI assistant session. " ++
    s!"Given the following conversation history ({turnCount} turns), produce a concise summary " ++
    "in this EXACT format (omit Key Decisions section if none exist):\n\n" ++
    s!"[CONTEXT SUMMARY - covers {turnCount} turns]\n\n" ++
    "**Objective**: <one sentence describing the user's main goal>\n\n" ++
    "**Key Decisions**:  (omit if none)\n" ++
    "- <decision>\n\n" ++
    "**Execution Steps**:\n" ++
    "1. tool_name(args_summary) → result ✓/✗\n\n" ++
    "**Current State**: <one sentence on current status and what remains>\n\n" ++
    "Keep the total summary under 400 tokens. Be factual. Preserve tool names and outcomes.\n\n" ++
    s!"--- HISTORY ---\n{historyText}"

def compressionRequest (items : List HistoryItem) : ModelRequest :=
  let prompt := buildCompressionPrompt (formatForPrompt items) (turnCount items)
  { stage := .planner
    messages := [.user [.text prompt]]
    systemPrompt := none
    tools := []
    options := {} }

abbrev Completion := ModelRequest → Except String ModelResponse

def tryCompact (history : List HistoryItem) (complete : Completion) : Option (List HistoryItem) :=
  (splitForCompression history).bind fun (toSummarize, recent) =>
    if turnCount toSummarize = 0 then none
    else
      match complete (compressionRequest toSummarize) with
      | .ok response => some (.summary response.text :: recent)
      | .error _ => none

structure AgentContext where
  history : List HistoryItem
  lastInputTokens : Option Nat
  contextWindowSize : Nat

def doCompact (complete : Completion) (turnId : Nat) (agent : AgentContext) :
    AgentContext × List Event :=
  match tryCompact agent.history complete with
  | none => (agent, [])
  | some newHistory =>
      let turnsBefore := turnCount agent.history
      let turnsAfter := turnCount newHistory
      let preview := (newHistory.findSome? HistoryItem.summary?).elim "" fun text =>
        String.ofList (text.toList.take 120)
      ({ agent with history := newHistory, lastInputTokens := none },
        [.contextCompacted turnId ((turnsBefore - turnsAfter) % 0x100000000)
          (turnsAfter % 0x100000000) preview])

structure TokenGauge where
  fromChars : Nat → Nat
  ratio : Nat → Nat → UInt64
  -- Not below 0.75.
  crowded : UInt64 → Bool

def itemSize : HistoryItem → Nat
  | .turn record =>
      record.userInput.utf8ByteSize + record.assistantOutput.utf8ByteSize +
        (record.toolTraces.map String.utf8ByteSize).sum
  | .summary text => text.utf8ByteSize

def checkAndAutoCompact (gauge : TokenGauge) (complete : Completion) (turnId : Nat)
    (agent : AgentContext) : AgentContext × List Event :=
  if agent.contextWindowSize = 0 then (agent, [])
  else
    let tokenEstimate :=
      agent.lastInputTokens.getD (gauge.fromChars (agent.history.map itemSize).sum)
    let ratio := gauge.ratio tokenEstimate agent.contextWindowSize
    let reported :=
      Event.contextUsageUpdated turnId tokenEstimate agent.contextWindowSize ratio
    if gauge.crowded ratio then
      let (next, events) := doCompact complete turnId agent
      (next, reported :: events)
    else (agent, [reported])

structure Conversation where
  agent : AgentContext
  committed : List TurnRecord

inductive ConversationInput where
  | commitTurn (record : TurnRecord)
  -- What the last answer said of the tokens it took.
  | reportUsage (inputTokens : Nat)
  | compact (complete : Completion)
  | checkAndAutoCompact (turnId : Nat) (complete : Completion)

def Conversation.step (gauge : TokenGauge) (world : Conversation) :
    ConversationInput → Option Conversation
  | .commitTurn record =>
      some
        { agent := { world.agent with history := Agent.commitTurn world.agent.history record }
          committed := world.committed ++ [record] }
  | .reportUsage inputTokens =>
      some { world with agent := { world.agent with lastInputTokens := some inputTokens } }
  | .compact complete => some { world with agent := (doCompact complete 0 world.agent).1 }
  | .checkAndAutoCompact turnId complete =>
      some { world with agent := (Agent.checkAndAutoCompact gauge complete turnId world.agent).1 }

def Conversation.start (contextWindowSize : Nat) : Conversation :=
  ⟨⟨[], none, contextWindowSize⟩, []⟩

def historyOf (summary : Option String) (turns : List TurnRecord) : List HistoryItem :=
  (summary.map HistoryItem.summary).toList ++ turns.map HistoryItem.turn

structure Shaped (committed : List TurnRecord) (history : List HistoryItem) : Prop where
  recent : ∃ summary turns, history = historyOf summary turns ∧ turns <:+ committed
  limit : turnCount history ≤ maxConversationHistoryTurns

structure CompactsTo (complete : Completion) (turnId : Nat) (agent next : AgentContext)
    (events : List Event) : Prop where
  failed : ∀ toSummarize recent, splitForCompression agent.history = some (toSummarize, recent) →
    (complete (compressionRequest toSummarize)).toBool = false → next.history = agent.history
  kept : next.history = agent.history ∨ ∃ summary old recent,
    next.history = historyOf (some summary) recent ∧ recent.length = 3 ∧
      agent.history.filterMap HistoryItem.turn? = old ++ recent
  reported : ∀ compressed retained preview,
    Event.contextCompacted turnId compressed retained preview ∈ events →
      retained = turnCount next.history ∧ compressed + retained = turnCount agent.history

variable (summary : Option String) (turns : List TurnRecord)

theorem turnCount_historyOf : turnCount (historyOf summary turns) = turns.length := by
  have counted : turnCount (turns.map HistoryItem.turn) = turns.length := by
    induction turns with
    | nil => rfl
    | cons record rest ih =>
      rw [turnCount] at ih ⊢
      rw [List.map_cons, List.countP_cons_of_pos (isTurn_turn record), ih, List.length_cons]
  cases summary with
  | none => exact counted
  | some text => exact (List.countP_cons_of_neg (by simp)).trans counted

theorem filterMap_historyOf : (historyOf summary turns).filterMap HistoryItem.turn? = turns := by
  have recovered : (turns.map HistoryItem.turn).filterMap HistoryItem.turn? = turns := by
    rw [List.filterMap_map]
    exact List.filterMap_some
  cases summary with
  | none => exact recovered
  | some text => exact (List.filterMap_cons_none rfl).trans recovered

theorem dropTurns_historyOf (overflow : Nat) (summary : Option String)
    (turns : List TurnRecord) :
    dropTurns overflow (historyOf summary turns) = historyOf summary (turns.drop overflow) := by
  have dropped (overflow : Nat) (turns : List TurnRecord) :
      dropTurns overflow (turns.map HistoryItem.turn) =
        (turns.drop overflow).map HistoryItem.turn := by
    induction turns generalizing overflow with
    | nil => cases overflow <;> rfl
    | cons record rest ih =>
      cases overflow with
      | zero => rfl
      | succ overflow => exact ih overflow
  cases summary with
  | none => exact dropped overflow turns
  | some text =>
    cases overflow with
    | zero => rfl
    | succ overflow => exact congrArg (HistoryItem.summary text :: ·) (dropped _ turns)

variable {committed : List TurnRecord} {history : List HistoryItem}

theorem commitTurn_shaped (shaped : Shaped committed history) (record : TurnRecord) :
    Shaped (committed ++ [record]) (commitTurn history record) := by
  obtain ⟨⟨summary, turns, rfl, suffix⟩, -⟩ := shaped
  have grown : historyOf summary turns ++ [.turn record] = historyOf summary (turns ++ [record]) := by
    simp [historyOf]
  have kept : turns ++ [record] <:+ committed ++ [record] := by
    obtain ⟨older, rfl⟩ := suffix
    exact ⟨older, by simp⟩
  simp only [commitTurn, grown, turnCount_historyOf]
  split
  · rename_i concluded
    rw [dropTurns_historyOf]
    refine ⟨⟨summary, _, rfl, (List.drop_suffix _ _).trans kept⟩, ?_⟩
    rw [turnCount_historyOf, List.length_drop]
    omega
  · rename_i within
    refine ⟨⟨summary, _, rfl, kept⟩, ?_⟩
    rw [turnCount_historyOf]
    omega

theorem turnIndices_historyOf :
    turnIndices (historyOf summary turns) =
      List.range' (historyOf summary []).length turns.length := by
  have indexed (start : Nat) :
      (((turns.map HistoryItem.turn).zipIdx start).filter fun entry => entry.1.isTurn).map
        Prod.snd = List.range' start turns.length := by
    induction turns generalizing start with
    | nil => rfl
    | cons record rest ih =>
      rw [List.map_cons, List.zipIdx_cons, List.length_cons, List.range'_succ, ← ih]
      rfl
  cases summary with
  | none => exact indexed 0
  | some text =>
    simpa [turnIndices, historyOf] using indexed 1

variable {turns : List TurnRecord}

theorem split_historyOf (enough : 4 < turns.length) :
    splitForCompression (historyOf summary turns) =
      some (historyOf summary (turns.take (turns.length - 3)),
        historyOf none (turns.drop (turns.length - 3))) := by
  have inside : turns.length - 3 < turns.length := by omega
  simp only [splitForCompression, turnIndices_historyOf, List.length_range']
  rw [if_neg (by omega), List.getElem?_range' inside, Option.map_some]
  cases summary with
  | none => simp [historyOf, List.map_take, List.map_drop]
  | some text =>
    have cut : (historyOf (some text) []).length + 1 * (turns.length - 3) =
        turns.length - 3 + 1 := by
      simp [historyOf, Nat.add_comm]
    rw [cut]
    simp [historyOf, List.map_take, List.map_drop]

theorem split_of_few {summary : Option String} (same : history = historyOf summary turns)
    (few : turns.length ≤ 4) : splitForCompression history = none := by
  subst same
  simp only [splitForCompression, turnIndices_historyOf, List.length_range']
  rw [if_pos few]

theorem tryCompact_historyOf {summary : Option String} {complete : Completion}
    (compacted : tryCompact (historyOf summary turns) complete = some history) :
    4 < turns.length ∧ ∃ text,
      history = historyOf (some text) (turns.drop (turns.length - 3)) := by
  by_cases enough : 4 < turns.length
  · rw [tryCompact, split_historyOf summary enough] at compacted
    simp only [Option.bind_some] at compacted
    split at compacted
    · cases compacted
    · split at compacted
      · rename_i response answered
        cases compacted
        exact ⟨enough, response.text, rfl⟩
      · cases compacted
  · rw [tryCompact, split_of_few rfl (by omega)] at compacted
    cases compacted

theorem tryCompact_failed {complete : Completion} {history toSummarize recent : List HistoryItem}
    (cut : splitForCompression history = some (toSummarize, recent))
    (failed : (complete (compressionRequest toSummarize)).toBool = false) :
    tryCompact history complete = none := by
  rw [tryCompact, cut, Option.bind_some]
  cases answered : complete (compressionRequest toSummarize) with
  | error message => simp [answered]
  | ok response =>
    rw [answered] at failed
    cases failed

theorem doCompact_shaped {agent : AgentContext} (shaped : Shaped committed agent.history)
    (complete : Completion) (turnId : Nat) :
    Shaped committed (doCompact complete turnId agent).1.history ∧
      CompactsTo complete turnId agent (doCompact complete turnId agent).1
        (doCompact complete turnId agent).2 := by
  obtain ⟨summary, turns, same, suffix⟩ := shaped.recent
  have limit := shaped.limit
  rw [same, turnCount_historyOf, maxConversationHistoryTurns] at limit
  unfold doCompact
  cases compacted : tryCompact agent.history complete with
  | none => exact ⟨shaped, fun _ _ _ _ => rfl, .inl rfl, nofun⟩
  | some history =>
    rw [same] at compacted
    obtain ⟨enough, text, rfl⟩ := tryCompact_historyOf compacted
    have three : (turns.drop (turns.length - 3)).length = 3 := by
      rw [List.length_drop]
      omega
    refine ⟨⟨⟨some text, _, rfl, (List.drop_suffix _ turns).trans suffix⟩, ?_⟩, ?_, ?_, ?_⟩
    · dsimp only
      rw [turnCount_historyOf, three]
      decide
    · intro toSummarize recent cut failed
      rw [← same, tryCompact_failed cut failed] at compacted
      cases compacted
    · refine .inr ⟨text, turns.take (turns.length - 3), _, rfl, three, ?_⟩
      rw [same, filterMap_historyOf, List.take_append_drop]
    · intro compressed retained preview event
      obtain ⟨-, rfl, rfl, -⟩ := Event.contextCompacted.inj (List.mem_singleton.mp event)
      rw [same]
      dsimp only
      rw [turnCount_historyOf, turnCount_historyOf, three]
      omega

theorem checkAndAutoCompact_shaped {agent : AgentContext} (shaped : Shaped committed agent.history)
    (gauge : TokenGauge) (complete : Completion) (turnId : Nat) :
    Shaped committed (checkAndAutoCompact gauge complete turnId agent).1.history ∧
      CompactsTo complete turnId agent (checkAndAutoCompact gauge complete turnId agent).1
        (checkAndAutoCompact gauge complete turnId agent).2 := by
  unfold checkAndAutoCompact
  split
  · exact ⟨shaped, fun _ _ _ _ => rfl, .inl rfl, nofun⟩
  · dsimp only
    split
    · obtain ⟨kept, compacts⟩ := doCompact_shaped shaped complete turnId
      refine ⟨kept, compacts.failed, compacts.kept, fun compressed retained preview event => ?_⟩
      rcases List.mem_cons.mp event with other | reported
      · cases other
      · exact compacts.reported compressed retained preview reported
    · refine ⟨shaped, fun _ _ _ _ => rfl, .inl rfl, fun compressed retained preview event => ?_⟩
      cases List.mem_singleton.mp event

theorem conversation_shaped (gauge : TokenGauge) :
    Preserves (Conversation.step gauge) (fun _ _ => True)
      fun world => Shaped world.committed world.agent.history := by
  intro world input next shaped _ stepped
  cases input with
  | commitTurn record =>
    cases stepped
    exact commitTurn_shaped shaped record
  | reportUsage inputTokens =>
    cases stepped
    exact shaped
  | compact complete =>
    cases stepped
    exact (doCompact_shaped shaped complete 0).1
  | checkAndAutoCompact turnId complete =>
    cases stepped
    exact (checkAndAutoCompact_shaped shaped gauge complete turnId).1

theorem conversation_runs (gauge : TokenGauge) (world : Conversation)
    (inputs : List ConversationInput) :
    ∃ final, run (Conversation.step gauge) world inputs = some final := by
  induction inputs generalizing world with
  | nil => exact ⟨world, rfl⟩
  | cons input rest ih => cases input <;> exact ih _

/-- Whatever the model answers, and however commits and compactions follow each other. -/
theorem history_keeps_shape (gauge : TokenGauge) (contextWindowSize : Nat)
    (inputs : List ConversationInput) :
    ∃ world, run (Conversation.step gauge) (.start contextWindowSize) inputs = some world ∧
      Shaped world.committed world.agent.history ∧ ∀ complete turnId,
        let manual := doCompact complete turnId world.agent
        let automatic := checkAndAutoCompact gauge complete turnId world.agent
        CompactsTo complete turnId world.agent manual.1 manual.2 ∧
          CompactsTo complete turnId world.agent automatic.1 automatic.2 := by
  obtain ⟨world, ran⟩ := conversation_runs gauge (.start contextWindowSize) inputs
  have initial : Shaped [] [] := ⟨⟨none, [], rfl, List.suffix_rfl⟩, Nat.zero_le _⟩
  have shaped := run_invariant (conversation_shaped gauge) initial
    (Meets.of_inputs fun _ _ => trivial) ran
  exact ⟨world, ran, shaped, fun complete turnId => ⟨(doCompact_shaped shaped complete turnId).2,
    (checkAndAutoCompact_shaped shaped gauge complete turnId).2⟩⟩

end OpenJax.Agent
