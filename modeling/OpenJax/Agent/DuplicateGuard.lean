import OpenJax.Agent.Requests

set_option autoImplicit false

namespace OpenJax.Agent

open Shared Protocol Model Tools

/-- A call whose tool was reached or refused; `changed` if it was reached and can change the
workspace. -/
structure ExecutedCall where
  key : ToolCallKey
  ok : Bool
  changed : Bool
  deriving DecidableEq

structure GuardedTurn where
  state : TurnState
  calls : List ExecutedCall

/-- An answer, with whether the tool's handler was reached: an approval may have been refused. -/
structure GuardInput where
  input : TurnInput
  dispatched : Bool

def TurnState.nextUse (state : TurnState) : Option ToolUse :=
  match state.phase with
  | .running batch => batch.pending.head?
  | _ => none

namespace Turn

variable (turn : Turn)

def callKey (use : ToolUse) (answer : ToolAnswer) : ToolCallKey :=
  ⟨use.name, stableArgsJson turn.formats (turn.callArgs use answer)⟩

def succeeded (answer : ToolAnswer) : Bool :=
  match answer.result with
  | .ok outcome => outcome.success
  | .error _ => false

def executed (changes : String → Bool) (state : TurnState) (input : GuardInput) :
    List ExecutedCall :=
  match state.nextUse, input.input with
  | some use, .tool answer =>
      if unnamed use || turn.duplicates state use answer then []
      else
        [{ key := turn.callKey use answer
           ok := succeeded answer
           changed := input.dispatched && changes use.name }]
  | _, _ => []

def guardStep (changes : String → Bool) (world : GuardedTurn) (input : GuardInput) :
    Option GuardedTurn :=
  (step turn world.state input.input).map fun next =>
    { state := next, calls := world.calls ++ turn.executed changes world.state input }

end Turn

/-- A successful call of the key was executed, and nothing has changed the workspace since. -/
def Fresh (calls : List ExecutedCall) (key : ToolCallKey) : Prop :=
  ∃ earlier call later, calls = earlier ++ call :: later ∧ call.key = key ∧ call.ok = true ∧
    ∀ other ∈ later, other.changed = false

def SkipsFresh (turn : Turn) (world : GuardedTurn) : Prop :=
  ∀ use answer, turn.duplicates world.state use answer = true →
    Fresh world.calls (turn.callKey use answer)

/-- A tool that is reached and can change the workspace is one of those that raise the epoch,
and it returns an outcome. -/
def ChangesBump (changes : String → Bool) (world : GuardedTurn) (input : GuardInput) : Prop :=
  match world.state.nextUse, input.input with
  | some use, .tool answer =>
      input.dispatched = true → changes use.name = true →
        isMutatingTool use.name = true ∧ answer.result.toBool = true
  | _, _ => True

def changesWorkspace (toolName : String) : Bool :=
  [BuiltinTool.edit, .writeFile, .shell, .execCommand].any fun tool => tool.name == toolName

theorem Fresh.append {calls : List ExecutedCall} {key : ToolCallKey} (fresh : Fresh calls key)
    {more : List ExecutedCall} (harmless : ∀ other ∈ more, other.changed = false) :
    Fresh (calls ++ more) key := by
  obtain ⟨earlier, call, later, split, same, ok, quiet⟩ := fresh
  refine ⟨earlier, call, later ++ more, by simp [split], same, ok, ?_⟩
  intro other member
  rcases List.mem_append.mp member with old | new
  · exact quiet other old
  · exact harmless other new

theorem fresh_last (calls : List ExecutedCall) {call : ExecutedCall} (ok : call.ok = true) :
    Fresh (calls ++ [call]) call.key :=
  ⟨calls, call, [], rfl, rfl, ok, fun _ absent => absurd absent List.not_mem_nil⟩

theorem Fresh.key_of_changed {calls : List ExecutedCall} {call : ExecutedCall} {key : ToolCallKey}
    (fresh : Fresh (calls ++ [call]) key) (changed : call.changed = true) : call.key = key := by
  obtain ⟨earlier, found, later, split, same, -, quiet⟩ := fresh
  rcases List.eq_nil_or_concat later with rfl | ⟨front, last, rfl⟩
  · obtain ⟨-, rfl⟩ := List.append_inj' split rfl |>.imp id List.singleton_inj.mp
    exact same
  · have joined : calls ++ [call] = (earlier ++ found :: front) ++ [last] := by simpa using split
    obtain rfl := List.singleton_inj.mp (List.append_inj' joined rfl).2
    rw [quiet call (by simp)] at changed
    cases changed

/-- The records of the current epoch stand for fresh calls, and none is of a later epoch. -/
structure GuardTracks (calls : List ExecutedCall) (records : List ToolCallRecord)
    (epoch : Nat) : Prop where
  bounded : ∀ record ∈ records, record.epoch ≤ epoch
  fresh : ∀ record ∈ records, record.epoch = epoch → record.ok = true → Fresh calls record.key

theorem GuardTracks.skips {turn : Turn} {world : GuardedTurn}
    (tracks : GuardTracks world.calls world.state.recentToolCalls world.state.stateEpoch) :
    SkipsFresh turn world := by
  intro use answer duplicate
  unfold Turn.duplicates isDuplicateToolCall at duplicate
  split at duplicate
  · cases duplicate
  · obtain ⟨record, member, found⟩ := List.any_eq_true.mp duplicate
    simp only [Bool.and_eq_true, beq_iff_eq] at found
    obtain ⟨⟨same, ok⟩, current⟩ := found
    have fresh := tracks.fresh record member current ok
    rw [same] at fresh
    exact fresh

section Tracking

variable {calls : List ExecutedCall} {records : List ToolCallRecord} {epoch : Nat}

theorem GuardTracks.harmless (tracks : GuardTracks calls records epoch) {call : ExecutedCall}
    (harmless : call.changed = false) : GuardTracks (calls ++ [call]) records epoch where
  bounded := tracks.bounded
  fresh record member current ok := by
    apply (tracks.fresh record member current ok).append
    intro other last
    obtain rfl := List.mem_singleton.mp last
    exact harmless

theorem GuardTracks.bump (tracks : GuardTracks calls records epoch) (call : ExecutedCall) :
    GuardTracks (calls ++ [call]) records (epoch + 1) where
  bounded record member := Nat.le_succ_of_le (tracks.bounded record member)
  fresh record member current := by
    have old := tracks.bounded record member
    omega

theorem mem_recordToolCall {record other : ToolCallRecord}
    (member : other ∈ recordToolCall records record) : other ∈ records ∨ other = record := by
  have grown := List.mem_of_mem_drop member
  rcases List.mem_append.mp grown with old | new
  · exact .inl old
  · exact .inr (List.mem_singleton.mp new)

theorem GuardTracks.record {call : ExecutedCall}
    (tracks : GuardTracks (calls ++ [call]) records epoch) {record : ToolCallRecord}
    (key : record.key = call.key) (ok : record.ok = call.ok) (current : record.epoch = epoch) :
    GuardTracks (calls ++ [call]) (recordToolCall records record) epoch where
  bounded other member := by
    rcases mem_recordToolCall member with old | rfl
    · exact tracks.bounded other old
    · exact Nat.le_of_eq current
  fresh other member epochs succeeded := by
    rcases mem_recordToolCall member with old | rfl
    · exact tracks.fresh other old epochs succeeded
    · rw [key]
      exact fresh_last calls (ok ▸ succeeded)

end Tracking

def SameGuard (state next : TurnState) : Prop :=
  next.recentToolCalls = state.recentToolCalls ∧ next.stateEpoch = state.stateEpoch

section Frames

variable (turn : Turn) (state : TurnState)

theorem sameGuard_planRound : SameGuard state (turn.planRound state) := by
  unfold Turn.planRound
  split <;> exact ⟨rfl, rfl⟩

theorem sameGuard_answerModel (answer : ModelAnswer) :
    SameGuard state (turn.answerModel state answer) := by
  unfold Turn.answerModel
  cases answer.result with
  | error message => exact ⟨rfl, rfl⟩
  | ok response =>
    dsimp only
    split <;> exact ⟨rfl, rfl⟩

theorem sameGuard_advanceBatch (batch : ToolBatch) :
    SameGuard state (turn.advanceBatch state batch) := by
  unfold Turn.advanceBatch
  split
  · have planned := sameGuard_planRound turn (turn.closeBatch state batch)
    have closed : SameGuard state (turn.closeBatch state batch) := by
      unfold Turn.closeBatch
      dsimp only
      split <;> exact ⟨rfl, rfl⟩
    exact ⟨planned.1.trans closed.1, planned.2.trans closed.2⟩
  · exact ⟨rfl, rfl⟩

theorem sameGuard_answerTool (batch : ToolBatch) (use : ToolUse) (rest : List ToolUse)
    (answer : ToolAnswer) :
    SameGuard (turn.executeNativeToolCall state use answer).1
      (turn.answerTool state batch use rest answer) := by
  unfold Turn.answerTool
  generalize turn.executeNativeToolCall state use answer = executed
  obtain ⟨next, outcome⟩ := executed
  cases outcome with
  | result content ok => exact sameGuard_advanceBatch turn next _
  | aborted => exact ⟨rfl, rfl⟩

end Frames

section Call

variable (turn : Turn) (state : TurnState) (use : ToolUse) (answer : ToolAnswer)

theorem sameGuard_skipped (skipped : (Turn.unnamed use || turn.duplicates state use answer) = true) :
    SameGuard state (turn.executeNativeToolCall state use answer).1 := by
  obtain ⟨errors, skips, outcome, ended⟩ := executeNativeToolCall_skipped skipped
  rw [ended]
  exact ⟨rfl, rfl⟩

theorem execute_eq_body
    (executed : (Turn.unnamed use || turn.duplicates state use answer) = false) :
    turn.executeNativeToolCall state use answer =
      turn.executeNativeToolCallBody state use (turn.callArgs use answer) answer := by
  rw [Bool.or_eq_false_iff] at executed
  unfold Turn.executeNativeToolCall
  rw [if_neg (by simpa [Turn.unnamed] using executed.1)]
  dsimp only
  rw [guardDuplicate_none turn state use answer executed.2]

theorem body_guard {next : TurnState}
    (stepped : (turn.executeNativeToolCallBody state use (turn.callArgs use answer) answer).1 =
      next) :
    next.stateEpoch =
        (if answer.result.toBool && isMutatingTool use.name then state.stateEpoch + 1
          else state.stateEpoch) ∧
      (next.recentToolCalls = state.recentToolCalls ∨
        ∃ output, next.recentToolCalls = recordToolCall state.recentToolCalls
          ⟨turn.callKey use answer, Turn.succeeded answer, next.stateEpoch, output⟩) := by
  unfold Turn.executeNativeToolCallBody at stepped
  cases ran : answer.result with
  | error errorText =>
    simp only [ran, Turn.failCall] at stepped
    have ok : Turn.succeeded answer = false := by simp [Turn.succeeded, ran]
    subst stepped
    rw [ok]
    split <;> exact ⟨rfl, .inr ⟨errorText, rfl⟩⟩
  | ok outcome =>
    have ok : Turn.succeeded answer = outcome.success := by simp [Turn.succeeded, ran]
    simp only [ran, Turn.concludeCall] at stepped
    subst stepped
    rw [ok]
    cases mutating : isMutatingTool use.name <;>
      · simp only [Except.toBool, Bool.true_and, if_true, if_false, Bool.false_eq_true]
        split
        · exact ⟨rfl, .inl rfl⟩
        · exact ⟨rfl, .inr ⟨outcome.displayOutput, rfl⟩⟩

end Call

theorem guardTracks_call (turn : Turn) (changes : String → Bool) {world : GuardedTurn}
    (tracks : GuardTracks world.calls world.state.recentToolCalls world.state.stateEpoch)
    {use : ToolUse} {answer : ToolAnswer} {input : GuardInput}
    (pending : world.state.nextUse = some use) (given : input.input = .tool answer)
    (bumps : ChangesBump changes world input) {next : TurnState}
    (stepped : (turn.executeNativeToolCall world.state use answer).1 = next) :
    GuardTracks (world.calls ++ turn.executed changes world.state input) next.recentToolCalls
      next.stateEpoch := by
  simp only [Turn.executed, pending, given]
  cases skipped : Turn.unnamed use || turn.duplicates world.state use answer with
  | true =>
    have same := sameGuard_skipped turn world.state use answer skipped
    rw [stepped] at same
    simpa [same.1, same.2] using tracks
  | false =>
    rw [execute_eq_body turn world.state use answer skipped] at stepped
    obtain ⟨epoch, records⟩ := body_guard turn world.state use answer stepped
    simp only [Bool.false_eq_true, if_false]
    generalize ran : (ExecutedCall.mk (turn.callKey use answer) (Turn.succeeded answer)
      (input.dispatched && changes use.name)) = call
    -- Either the epoch was raised, or the call has changed nothing.
    have advanced : GuardTracks (world.calls ++ [call]) world.state.recentToolCalls
        next.stateEpoch := by
      rw [epoch]
      split
      · exact tracks.bump call
      · rename_i unmoved
        apply tracks.harmless
        rw [← ran]
        by_contra changed
        rw [Bool.not_eq_false, Bool.and_eq_true] at changed
        simp only [ChangesBump, pending, given] at bumps
        have both := bumps changed.1 changed.2
        exact unmoved (by rw [both.1, both.2]; rfl)
    rcases records with kept | ⟨output, recorded⟩
    · rw [kept]
      exact advanced
    · rw [recorded]
      exact advanced.record (by rw [← ran]) (by rw [← ran]) rfl

theorem guardTracks_step (turn : Turn) (changes : String → Bool) :
    Preserves (turn.guardStep changes) (ChangesBump changes) fun world =>
      GuardTracks world.calls world.state.recentToolCalls world.state.stateEpoch := by
  intro world input next tracks bumps stepped
  obtain ⟨state, moved, rfl⟩ := Option.map_eq_some_iff.mp stepped
  cases given : input.input with
  | model answer =>
    have none : turn.executed changes world.state input = [] := by
      unfold Turn.executed
      rw [given]
      split
      · rename_i impossible
        cases impossible
      · rfl
    rw [given, step] at moved
    split at moved
    · cases moved
      have same := sameGuard_answerModel turn world.state answer
      simpa [none, same.1, same.2] using tracks
    · cases moved
  | tool answer =>
    rw [given, step] at moved
    split at moved
    · rename_i batch running
      split at moved
      · rename_i use rest waiting
        cases moved
        have pending : world.state.nextUse = some use := by
          simp [TurnState.nextUse, running, waiting]
        have called := guardTracks_call turn changes tracks pending given bumps rfl
        have same := sameGuard_answerTool turn world.state batch use rest answer
        rw [← same.1, ← same.2] at called
        exact called
      · cases moved
    · cases moved

theorem guardTracks_start (turn : Turn) (history : List HistoryItem)
    (loopDetector : LoopDetector) :
    GuardTracks [] (turn.start history loopDetector).recentToolCalls
      (turn.start history loopDetector).stateEpoch := by
  have same := sameGuard_planRound turn
  unfold Turn.start
  dsimp only
  rw [(same _).1, (same _).2]
  exact ⟨fun _ absent => absurd absent List.not_mem_nil, fun _ absent => absurd absent List.not_mem_nil⟩

theorem duplicate_skips_fresh (turn : Turn) (changes : String → Bool)
    (history : List HistoryItem) (loopDetector : LoopDetector) (inputs : List GuardInput)
    (reached : GuardedTurn)
    (bumps : Meets (turn.guardStep changes) (ChangesBump changes)
      ⟨turn.start history loopDetector, []⟩ inputs)
    (ran : run (turn.guardStep changes) ⟨turn.start history loopDetector, []⟩ inputs =
      some reached) :
    SkipsFresh turn reached :=
  (run_invariant (guardTracks_step turn changes) (guardTracks_start turn history loopDetector)
    bumps ran).skips

section Example

def writeNote (id : String) : AssistantContentBlock :=
  .toolUse id "write_file" (.obj [("content", .str "x"), ("file_path", .str "a.txt")])

def quoted (text : String) : String := "\"" ++ text ++ "\""

def plainJsonText : Json → String
  | .obj fields =>
      "\x7b" ++ ",".intercalate (fields.map fun
        | (key, .str text) => quoted key ++ ":" ++ quoted text
        | (key, _) => quoted key) ++ "\x7d"
  | _ => ""

def roomyTurn : Turn :=
  { shortTurn with
    maxToolCallsPerTurn := 10
    formats := { shortTurn.formats with jsonText := plainJsonText } }

def guarded (input : TurnInput) : GuardInput := ⟨input, true⟩

def listAgain : ToolUse := ⟨"c9", "shell", .obj [("cmd", .str "ls")]⟩

def listAnswer : ToolAnswer := ⟨id, [], .ok ⟨"a.txt", "a.txt", none, true⟩⟩

def skipsListing (world : GuardedTurn) : Bool :=
  roomyTurn.duplicates world.state listAgain listAnswer

def listingInputs : List GuardInput := [guarded (modelCalls [listFiles "c1"]), guarded toolSucceeds]

theorem duplicate_skips_fresh_listing :
    ∃ reached, run (roomyTurn.guardStep changesWorkspace)
        ⟨roomyTurn.start [] LoopDetector.new, []⟩ listingInputs = some reached ∧
      skipsListing reached = true ∧ SkipsFresh roomyTurn reached := by
  have skipped : (run (roomyTurn.guardStep changesWorkspace)
      ⟨roomyTurn.start [] LoopDetector.new, []⟩ listingInputs).any skipsListing = true := by
    decide +kernel
  obtain ⟨reached, ran, skips⟩ := (Option.any_eq_true _ _).mp skipped
  have bumps : Meets (roomyTurn.guardStep changesWorkspace) (ChangesBump changesWorkspace)
      ⟨roomyTurn.start [] LoopDetector.new, []⟩ listingInputs := by
    refine ⟨trivial, ?_⟩
    intro next stepped
    obtain rfl := Option.some.inj stepped
    exact ⟨fun _ _ => ⟨rfl, rfl⟩, fun _ _ => trivial⟩
  exact ⟨reached, ran, skips, duplicate_skips_fresh roomyTurn changesWorkspace [] LoopDetector.new
    listingInputs reached bumps ran⟩

def lastChangedElse (world : GuardedTurn) : Bool :=
  world.calls.getLast?.any fun call =>
    call.changed && call.key != roomyTurn.callKey listAgain listAnswer

theorem duplicate_skipped_after_write :
    ¬ ∀ (turn : Turn) (history : List HistoryItem) (loopDetector : LoopDetector)
      (inputs : List GuardInput) (reached : GuardedTurn),
      run (turn.guardStep changesWorkspace) ⟨turn.start history loopDetector, []⟩ inputs =
        some reached → SkipsFresh turn reached := by
  intro sound
  have stale : (run (roomyTurn.guardStep changesWorkspace)
      ⟨roomyTurn.start [] LoopDetector.new, []⟩
      [guarded (modelCalls [listFiles "c1"]), guarded toolSucceeds,
        guarded (modelCalls [writeNote "c2"]), guarded toolSucceeds]).any
      (fun world => skipsListing world && lastChangedElse world) = true := by
    decide +kernel
  obtain ⟨reached, ran, both⟩ := (Option.any_eq_true _ _).mp stale
  rw [Bool.and_eq_true] at both
  have fresh := sound roomyTurn [] LoopDetector.new _ reached ran listAgain listAnswer both.1
  obtain ⟨call, last, found⟩ := (Option.any_eq_true _ _).mp both.2
  simp only [Bool.and_eq_true, bne_iff_ne, ne_eq] at found
  obtain ⟨front, split⟩ := List.getLast?_eq_some_iff.mp last
  rw [split] at fresh
  exact found.2 (fresh.key_of_changed found.1)

end Example

end OpenJax.Agent
