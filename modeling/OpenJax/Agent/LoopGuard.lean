import OpenJax.Agent.DuplicateGuard
import OpenJax.Shared.Streaks

set_option autoImplicit false

namespace OpenJax.Agent

open Shared Protocol Model Tools

namespace LoopDetector

variable {detector : LoopDetector} {keys : List (String × String)}

/-- The detector after calls of these keys, at none of which it halted. -/
structure Sees (detector : LoopDetector) (keys : List (String × String)) : Prop where
  capacity : detector.windowCapacity = 16
  threshold : detector.warnThreshold = 5
  window : detector.window = Shared.window 16 keys
  running : detector.state ≠ .halt
  warned : detector.state = .warned ↔ Streak (· = ·) 5 keys
  tool : detector.state = .warned → detector.warnedTool = keys.getLast?

theorem sees_new : LoopDetector.new.Sees [] where
  capacity := rfl
  threshold := rfl
  window := rfl
  running := nofun
  warned := by
    refine ⟨nofun, ?_⟩
    rintro ⟨streak, suffix, length, -⟩
    rw [List.suffix_nil.mp suffix] at length
    cases length
  tool := nofun

theorem observe_sees (capacity : detector.windowCapacity = 16)
    (threshold : detector.warnThreshold = 5) (window : detector.window = Shared.window 16 keys)
    (idle : detector.state = .none) (key : String × String) :
    (detector.observe key).2.Sees (keys ++ [key]) := by
  have pushed := window_concat 16 keys key
  rw [← window, ← capacity] at pushed
  have counted : detector.warnThreshold ≤
      ((Shared.window detector.windowCapacity (keys ++ [key])).reverse.takeWhile
        (· == key)).length ↔ Streak (· = ·) 5 (keys ++ [key]) := by
    rw [threshold, capacity, le_consecutive_iff, replicate_suffix_window (by decide),
      replicate_suffix_concat, streak_concat_iff]
    simp
  unfold observe
  dsimp only
  rw [pushed]
  split
  · rename_i reached
    exact ⟨capacity, threshold, by rw [capacity], nofun, iff_of_true rfl (counted.mp reached),
      fun _ => by simp⟩
  · rename_i fewer
    have silent : detector.state ≠ .warned := by simp [idle]
    refine ⟨capacity, threshold, by rw [capacity], by simp [idle], ?_, ?_⟩
    · exact iff_of_false silent fun streak => fewer (counted.mpr streak)
    · exact fun warned => absurd warned silent

theorem getLast_of_replicate {count : Nat} {key : String × String}
    (suffix : List.replicate (count + 1) key <:+ keys) : keys.getLast? = some key := by
  obtain ⟨earlier, rfl⟩ := suffix
  rw [List.replicate_succ', ← List.append_assoc, List.getLast?_concat]

theorem Sees.halts_iff (sees : detector.Sees keys) (toolName argsHash : String) :
    detector.halts toolName argsHash = true ↔
      Streak (· = ·) 6 (keys ++ [(toolName, argsHash)]) := by
  rw [streak_concat_iff, halts, Bool.and_eq_true, beq_iff_eq, beq_iff_eq]
  constructor
  · rintro ⟨warned, same⟩
    obtain ⟨key, suffix⟩ := streak_eq_iff.mp (sees.warned.mp warned)
    have last := (sees.tool warned).symm.trans same
    cases (getLast_of_replicate suffix).symm.trans last
    exact suffix
  · intro suffix
    have warned := sees.warned.mpr (streak_eq_iff.mpr ⟨_, suffix⟩)
    exact ⟨warned, (sees.tool warned).trans (getLast_of_replicate suffix)⟩

theorem Sees.observes (sees : detector.Sees keys) {toolName argsHash : String}
    (goesOn : detector.halts toolName argsHash = false) :
    ∃ idle : LoopDetector, (idle.windowCapacity = 16 ∧ idle.warnThreshold = 5 ∧
        idle.window = Shared.window 16 keys ∧ idle.state = .none) ∧
      detector.checkAndAdvance toolName argsHash = idle.observe (toolName, argsHash) := by
  unfold checkAndAdvance
  dsimp only
  by_cases warned : detector.state = .warned
  · have other : detector.warnedTool ≠ some (toolName, argsHash) := by
      simpa [halts, warned] using goesOn
    rw [if_pos warned, if_neg other]
    exact ⟨{ detector with state := .none, warnedTool := none },
      ⟨sees.capacity, sees.threshold, sees.window, rfl⟩, rfl⟩
  · have idle : detector.state = .none := by
      cases state : detector.state with
      | none => rfl
      | warned => exact absurd state warned
      | halt => exact absurd state sees.running
    rw [if_neg warned]
    exact ⟨_, ⟨sees.capacity, sees.threshold, sees.window, idle⟩, rfl⟩

theorem Sees.advance (sees : detector.Sees keys) {toolName argsHash : String}
    (goesOn : detector.halts toolName argsHash = false) :
    (detector.checkAndAdvance toolName argsHash).2.Sees (keys ++ [(toolName, argsHash)]) := by
  obtain ⟨idle, ⟨capacity, threshold, window, state⟩, observed⟩ := sees.observes goesOn
  rw [observed]
  exact observe_sees capacity threshold window state _

end LoopDetector

structure MadeCall where
  toolName : String
  -- In the order in which the argument map is iterated.
  args : List (String × String)
  -- The tool gave an outcome rather than an error.
  returned : Bool
  deriving DecidableEq

def MadeCall.Alike (first second : MadeCall) : Prop :=
  first.toolName = second.toolName ∧ first.args.Perm second.args

instance (first second : MadeCall) : Decidable (first.Alike second) :=
  inferInstanceAs (Decidable (_ ∧ _))

theorem alike_equivalence : Equivalence MadeCall.Alike where
  refl _ := ⟨rfl, .refl _⟩
  symm alike := ⟨alike.1.symm, alike.2.symm⟩
  trans left right := ⟨left.1.trans right.1, left.2.trans right.2⟩

structure WatchedTurn where
  state : TurnState
  calls : List MadeCall

namespace Turn

variable (turn : Turn)

def made (state : TurnState) (input : TurnInput) : List MadeCall :=
  match state.nextUse, input with
  | some use, .tool answer =>
      if unnamed use || turn.duplicates state use answer then []
      else [⟨use.name, turn.callArgs use answer, answer.result.toBool⟩]
  | _, _ => []

def watchStep (world : WatchedTurn) (input : TurnInput) : Option WatchedTurn :=
  (step turn world.state input).map fun next =>
    { state := next, calls := world.calls ++ turn.made world.state input }

def loopKey (call : MadeCall) : String × String :=
  (call.toolName, argsJson turn.formats call.args)

def Told (first second : MadeCall) : Prop :=
  turn.loopKey first = turn.loopKey second ↔ first.Alike second

def Steady (world : WatchedTurn) (input : TurnInput) : Prop :=
  ∀ call ∈ turn.made world.state input, call.returned = true ∧
    ∀ last ∈ world.calls.getLast?, turn.Told last call

instance (first second : MadeCall) : Decidable (turn.Told first second) :=
  inferInstanceAs (Decidable (_ ↔ _))

instance (world : WatchedTurn) (input : TurnInput) : Decidable (turn.Steady world input) :=
  inferInstanceAs (Decidable (∀ call ∈ turn.made world.state input, call.returned = true ∧
    ∀ last ∈ world.calls.getLast?, turn.Told last call))

def loopHalt : Event :=
  turn.responseError "loop_halt" "检测到持续重复调用，已强制终止本回合。" true

def Halted (state : TurnState) : Prop :=
  state.phase = .finished ∧ turn.loopHalt ∈ state.events

/-- A turn is warned at the fifth of the calls that are alike, and over at the sixth. -/
structure LoopGuarded (world : WatchedTurn) : Prop where
  warns : Streak MadeCall.Alike 5 world.calls → ¬ Streak MadeCall.Alike 6 world.calls →
    world.state.loopDetector.state = .warned
  halts : Streak MadeCall.Alike 6 world.calls → turn.Halted world.state

end Turn

section Frames

variable (turn : Turn) (state : TurnState)

theorem planRound_loopDetector : (turn.planRound state).loopDetector = state.loopDetector := by
  unfold Turn.planRound
  split <;> rfl

theorem answerModel_loopDetector (answer : ModelAnswer) :
    (turn.answerModel state answer).loopDetector = state.loopDetector := by
  unfold Turn.answerModel
  cases answer.result with
  | error message => rfl
  | ok response =>
    dsimp only
    split <;> rfl

theorem advanceBatch_loopDetector (batch : ToolBatch) :
    (turn.advanceBatch state batch).loopDetector = state.loopDetector := by
  unfold Turn.advanceBatch
  split
  · rw [planRound_loopDetector]
    unfold Turn.closeBatch
    dsimp only
    split <;> rfl
  · rfl

theorem answerTool_loopDetector (batch : ToolBatch) (use : ToolUse) (rest : List ToolUse)
    (answer : ToolAnswer) :
    (turn.answerTool state batch use rest answer).loopDetector =
      (turn.executeNativeToolCall state use answer).1.loopDetector := by
  unfold Turn.answerTool
  generalize turn.executeNativeToolCall state use answer = executed
  obtain ⟨next, outcome⟩ := executed
  cases outcome with
  | result content ok => exact advanceBatch_loopDetector turn next _
  | aborted => rfl

theorem skipped_loopDetector {use : ToolUse} {answer : ToolAnswer}
    (skipped : (Turn.unnamed use || turn.duplicates state use answer) = true) :
    (turn.executeNativeToolCall state use answer).1.loopDetector = state.loopDetector := by
  obtain ⟨errors, skips, outcome, ended⟩ := executeNativeToolCall_skipped skipped
  rw [ended]
  rfl

theorem body_detects {use : ToolUse} {answer : ToolAnswer} {args : List (String × String)}
    (returned : answer.result.toBool = true) :
    (turn.executeNativeToolCallBody state use args answer).1.loopDetector =
        (state.loopDetector.checkAndAdvance use.name (argsJson turn.formats args)).2 ∧
      (state.loopDetector.halts use.name (argsJson turn.formats args) = true →
        (turn.executeNativeToolCallBody state use args answer).2 = .aborted ∧
          turn.loopHalt ∈ (turn.executeNativeToolCallBody state use args answer).1.events) := by
  unfold Turn.executeNativeToolCallBody
  cases ran : answer.result with
  | error message =>
    rw [ran] at returned
    cases returned
  | ok outcome =>
    dsimp only [Turn.concludeCall]
    generalize bumpedEq : (if isMutatingTool use.name = true then _ else _ : TurnState) = bumped
    have detected : bumped.loopDetector = state.loopDetector := by
      rw [← bumpedEq]
      split <;> rfl
    have halts := LoopDetector.checkAndAdvance_halt_iff state.loopDetector use.name
      (argsJson turn.formats args)
    rw [detected]
    generalize state.loopDetector.checkAndAdvance use.name (argsJson turn.formats args) = checked
      at halts ⊢
    obtain ⟨signal, detector⟩ := checked
    cases signal with
    | halt => exact ⟨rfl, fun _ => ⟨rfl, List.mem_append_right _ (List.mem_singleton_self _)⟩⟩
    | none => exact ⟨rfl, fun halted => absurd (halts.mpr halted) nofun⟩
    | warned => exact ⟨rfl, fun halted => absurd (halts.mpr halted) nofun⟩

end Frames

theorem made_model (turn : Turn) (state : TurnState) (answer : ModelAnswer) :
    turn.made state (.model answer) = [] := by
  unfold Turn.made
  split
  · rename_i impossible
    cases impossible
  · rfl

/-- The calls up to now: either the detector has seen them all, or the last six were alike and the
turn is over. -/
structure Watching (turn : Turn) (world : WatchedTurn) : Prop where
  told : world.calls.IsChain turn.Told
  seen : world.state.loopDetector.Sees (world.calls.map turn.loopKey) ∧
      ¬ Streak (· = ·) 6 (world.calls.map turn.loopKey) ∨
    Streak (· = ·) 6 (world.calls.map turn.loopKey) ∧ turn.Halted world.state

theorem Watching.streak_iff {turn : Turn} {world : WatchedTurn} (watching : Watching turn world)
    (count : Nat) :
    Streak (· = ·) count (world.calls.map turn.loopKey) ↔
      Streak MadeCall.Alike count world.calls :=
  (streak_map_iff turn.loopKey).trans
    (streak_congr (eq_equivalence.comap turn.loopKey) alike_equivalence watching.told count)

theorem Watching.guarded {turn : Turn} {world : WatchedTurn} (watching : Watching turn world) :
    turn.LoopGuarded world := by
  constructor
  · intro five notSix
    rw [← watching.streak_iff] at five notSix
    rcases watching.seen with ⟨sees, -⟩ | ⟨six, -⟩
    · exact sees.warned.mpr five
    · exact absurd six notSix
  · intro six
    rw [← watching.streak_iff] at six
    rcases watching.seen with ⟨-, fewer⟩ | ⟨-, halted⟩
    · exact absurd six fewer
    · exact halted

section Step

variable {turn : Turn} {world : WatchedTurn}

theorem Watching.of_made_nil (watching : Watching turn world) {next : TurnState}
    (goesOn : ¬ turn.Halted world.state)
    (same : next.loopDetector = world.state.loopDetector) :
    Watching turn ⟨next, world.calls ++ []⟩ := by
  rw [List.append_nil]
  refine ⟨watching.told, .inl ?_⟩
  rw [same]
  exact watching.seen.resolve_right fun halted => goesOn halted.2

theorem Watching.call (watching : Watching turn world) {use : ToolUse} {answer : ToolAnswer}
    {batch : ToolBatch} {rest : List ToolUse} (goesOn : ¬ turn.Halted world.state)
    (returned : answer.result.toBool = true)
    (executed : (Turn.unnamed use || turn.duplicates world.state use answer) = false)
    (told : ∀ last ∈ world.calls.getLast?,
      turn.Told last ⟨use.name, turn.callArgs use answer, answer.result.toBool⟩) :
    Watching turn ⟨turn.answerTool world.state batch use rest answer,
      world.calls ++ [⟨use.name, turn.callArgs use answer, answer.result.toBool⟩]⟩ := by
  obtain ⟨sees, fewer⟩ := watching.seen.resolve_right fun halted => goesOn halted.2
  generalize made : MadeCall.mk use.name (turn.callArgs use answer) answer.result.toBool = call
    at told ⊢
  have key : turn.loopKey call = (use.name, argsJson turn.formats (turn.callArgs use answer)) := by
    rw [← made]
    rfl
  obtain ⟨detector, halts⟩ := @body_detects turn world.state use answer
    (turn.callArgs use answer) returned
  rw [← execute_eq_body turn world.state use answer executed] at detector halts
  constructor
  · apply watching.told.append (List.isChain_singleton call)
    intro last among first head
    cases head
    exact told last among
  · have six := sees.halts_iff use.name (argsJson turn.formats (turn.callArgs use answer))
    rw [List.map_append, List.map_singleton, key]
    cases looping : world.state.loopDetector.halts use.name
      (argsJson turn.formats (turn.callArgs use answer)) with
    | true =>
      obtain ⟨aborted, reported⟩ := halts looping
      refine .inr ⟨six.mp looping, ?_⟩
      unfold Turn.answerTool
      generalize turn.executeNativeToolCall world.state use answer = ended at aborted reported ⊢
      obtain ⟨next, outcome⟩ := ended
      subst aborted
      exact ⟨rfl, List.mem_append_left _ reported⟩
    | false =>
      refine .inl ⟨?_, fun streak => ?_⟩
      · rw [answerTool_loopDetector, detector]
        exact sees.advance looping
      · rw [six.mpr streak] at looping
        cases looping

end Step

theorem watching_step (turn : Turn) : Preserves turn.watchStep turn.Steady (Watching turn) := by
  intro world input next watching steady stepped
  obtain ⟨state, moved, rfl⟩ := Option.map_eq_some_iff.mp stepped
  have goesOn : ¬ turn.Halted world.state := by
    intro halted
    rw [step_finished turn halted.1] at moved
    cases moved
  cases input with
  | model answer =>
    rw [made_model]
    rw [step] at moved
    split at moved
    · cases moved
      exact watching.of_made_nil goesOn (answerModel_loopDetector turn world.state answer)
    · cases moved
  | tool answer =>
    rw [step] at moved
    split at moved
    · rename_i batch running
      split at moved
      · rename_i use rest waiting
        cases moved
        have pending : world.state.nextUse = some use := by
          simp [TurnState.nextUse, running, waiting]
        simp only [Turn.Steady, Turn.made, pending] at steady ⊢
        cases executed : Turn.unnamed use || turn.duplicates world.state use answer with
        | true =>
          apply watching.of_made_nil goesOn
          rw [answerTool_loopDetector, skipped_loopDetector turn world.state executed]
        | false =>
          simp only [executed, Bool.false_eq_true, if_false, List.mem_singleton,
            forall_eq] at steady ⊢
          exact watching.call goesOn steady.1 executed steady.2
      · cases moved
    · cases moved

theorem watching_start (turn : Turn) (history : List HistoryItem) {loopDetector : LoopDetector}
    (made : loopDetector.reset = .new) :
    Watching turn ⟨turn.start history loopDetector, []⟩ := by
  refine ⟨List.isChain_nil, .inl ⟨?_, ?_⟩⟩
  · unfold Turn.start
    dsimp only
    rw [planRound_loopDetector, made]
    exact LoopDetector.sees_new
  · rintro ⟨streak, suffix, length, -⟩
    rw [List.suffix_nil.mp suffix] at length
    cases length

theorem observe_reset (detector : LoopDetector) (key : String × String) :
    (detector.observe key).2.reset = detector.reset := by
  unfold LoopDetector.observe
  dsimp only
  generalize (if detector.windowCapacity < (detector.window ++ [key]).length then
    (detector.window ++ [key]).tail else detector.window ++ [key]) = window
  split <;> rfl

theorem checkAndAdvance_reset (detector : LoopDetector) (toolName argsHash : String) :
    (detector.checkAndAdvance toolName argsHash).2.reset = detector.reset := by
  unfold LoopDetector.checkAndAdvance
  dsimp only
  split
  · split
    · rfl
    · exact observe_reset _ _
  · exact observe_reset detector _

namespace LoopDetector

/-- How many calls up to the last one have its key. -/
def currentRun (keys : List (String × String)) : Nat :=
  match keys.getLast? with
  | none => 0
  | some key => (keys.reverse.takeWhile (· == key)).length

inductive Use where
  | call (toolName argsHash : String)
  | reset
  deriving DecidableEq

def used (detector : LoopDetector) : Use → LoopDetector
  | .call toolName argsHash => (detector.checkAndAdvance toolName argsHash).2
  | .reset => detector.reset

/-- A call at which the detector does not halt. -/
def goOn (detector : LoopDetector) (key : String × String) : Option LoopDetector :=
  if (detector.checkAndAdvance key.1 key.2).1 = .halt then none
  else some (detector.checkAndAdvance key.1 key.2).2

theorem used_reset (uses : List Use) {detector : LoopDetector} (made : detector.reset = .new) :
    (uses.foldl used detector).reset = .new := by
  induction uses generalizing detector with
  | nil => exact made
  | cons use rest ih =>
    rw [List.foldl_cons]
    apply ih
    cases use with
    | call toolName argsHash => exact (checkAndAdvance_reset _ _ _).trans made
    | reset => exact made

variable {detector : LoopDetector} {keys : List (String × String)}

theorem Sees.of_run (sees : detector.Sees keys) (fewer : ¬ Streak (· = ·) 6 keys)
    {more : List (String × String)} {reached : LoopDetector}
    (ran : run goOn detector more = some reached) :
    reached.Sees (keys ++ more) ∧ ¬ Streak (· = ·) 6 (keys ++ more) := by
  induction more generalizing detector keys with
  | nil =>
    cases ran
    rw [List.append_nil]
    exact ⟨sees, fewer⟩
  | cons key rest ih =>
    obtain ⟨next, called, later⟩ := Option.bind_eq_some_iff.mp ran
    rw [goOn] at called
    split at called
    · cases called
    next goesOn =>
      cases called
      rw [checkAndAdvance_halt_iff] at goesOn
      have seen := ih (sees.advance (Bool.not_eq_true _ ▸ goesOn))
        (fun streak => goesOn ((sees.halts_iff _ _).mpr streak)) later
      rwa [List.append_assoc] at seen

theorem le_currentRun_iff (keys : List (String × String)) (count : Nat) (key : String × String) :
    count + 1 ≤ currentRun (keys ++ [key]) ↔ Streak (· = ·) (count + 1) (keys ++ [key]) := by
  rw [currentRun, List.getLast?_concat]
  dsimp only
  rw [le_consecutive_iff, replicate_suffix_concat, streak_concat_iff]
  simp

theorem Sees.signal (sees : detector.Sees keys) {toolName argsHash : String}
    (goesOn : detector.halts toolName argsHash = false) :
    (detector.checkAndAdvance toolName argsHash).1 =
      (detector.checkAndAdvance toolName argsHash).2.state := by
  obtain ⟨idle, ⟨-, -, -, state⟩, observed⟩ := sees.observes goesOn
  rw [observed]
  unfold observe
  dsimp only
  generalize (if idle.windowCapacity < (idle.window ++ [(toolName, argsHash)]).length then
    (idle.window ++ [(toolName, argsHash)]).tail
    else idle.window ++ [(toolName, argsHash)]) = window
  split
  · rfl
  · exact state.symm

/-- Whatever came before the reset: up to the first halt the detector warns where the run of equal
calls has just reached the threshold, and halts at the next equal call. -/
theorem signals_runs (before : List Use) (calls : List (String × String))
    (detector : LoopDetector)
    (ran : run goOn (before.foldl used .new).reset calls = some detector)
    (toolName argsHash : String) :
    ((detector.checkAndAdvance toolName argsHash).1 = .warned ↔
        currentRun (calls ++ [(toolName, argsHash)]) = detector.warnThreshold) ∧
      ((detector.checkAndAdvance toolName argsHash).1 = .halt ↔
        currentRun (calls ++ [(toolName, argsHash)]) = detector.warnThreshold + 1) ∧
      currentRun (calls ++ [(toolName, argsHash)]) ≤ detector.warnThreshold + 1 := by
  have started : (before.foldl used .new).reset.Sees [] := by
    rw [used_reset before rfl]
    exact sees_new
  have empty : ¬ Streak (· = ·) 6 ([] : List (String × String)) := by
    simp [streak_eq_iff]
  obtain ⟨sees, fewer⟩ := started.of_run empty ran
  rw [List.nil_append] at sees fewer
  rw [sees.threshold]
  have five := le_currentRun_iff calls 4 (toolName, argsHash)
  have six := le_currentRun_iff calls 5 (toolName, argsHash)
  have seven := le_currentRun_iff calls 6 (toolName, argsHash)
  have most : ¬ Streak (· = ·) 7 (calls ++ [(toolName, argsHash)]) := by
    rw [streak_concat_iff]
    exact fun suffix => fewer (streak_eq_iff.mpr ⟨_, suffix⟩)
  have halts := sees.halts_iff toolName argsHash
  rw [checkAndAdvance_halt_iff, halts]
  cases looping : detector.halts toolName argsHash with
  | true =>
    have halted := (checkAndAdvance_halt_iff detector toolName argsHash).mpr looping
    have streak := halts.mp looping
    rw [halted]
    have long := six.mpr streak
    have short : ¬ 7 ≤ currentRun (calls ++ [(toolName, argsHash)]) :=
      fun more => most (seven.mp more)
    refine ⟨iff_of_false nofun (by omega), iff_of_true streak (by omega), by omega⟩
  | false =>
    have short : ¬ 6 ≤ currentRun (calls ++ [(toolName, argsHash)]) := fun long => by
      rw [halts.mpr (six.mp long)] at looping
      cases looping
    rw [sees.signal looping, (sees.advance looping).warned, ← five, ← six]
    omega

theorem signals_runs_after_reset : ∃ detector : LoopDetector,
    run goOn ([.call "Read" "a", .call "Read" "b"].foldl used .new).reset
        (List.replicate 5 ("Read", "b")) = some detector ∧
      (detector.checkAndAdvance "Read" "b").1 = .halt := by
  have reached : (run goOn ([.call "Read" "a", .call "Read" "b"].foldl used .new).reset
      (List.replicate 5 ("Read", "b"))).any (fun detector => detector.warnThreshold == 5) = true := by
    decide +kernel
  obtain ⟨detector, ran, threshold⟩ := (Option.any_eq_true _ _).mp reached
  refine ⟨detector, ran, (signals_runs _ _ detector ran "Read" "b").2.1.mpr ?_⟩
  rw [eq_of_beq threshold]
  decide

end LoopDetector

theorem loops_guarded {turn : Turn} {history : List HistoryItem} {loopDetector : LoopDetector}
    {inputs : List TurnInput} {world : WatchedTurn} (made : loopDetector.reset = .new)
    (steady : Meets turn.watchStep turn.Steady ⟨turn.start history loopDetector, []⟩ inputs)
    (ran : run turn.watchStep ⟨turn.start history loopDetector, []⟩ inputs = some world) :
    turn.LoopGuarded world :=
  (run_invariant (watching_step turn) (watching_start turn history made) steady ran).guarded

section Example

def readLines (id : String) : AssistantContentBlock :=
  .toolUse id "Read" (.obj [("file_path", .str "a.txt"), ("limit", .str "10")])

def readsSix : TurnInput :=
  modelCalls [readLines "c1", readLines "c2", readLines "c3", readLines "c4", readLines "c5",
    readLines "c6"]

def readsIn (arrangement : List (String × String) → List (String × String)) : TurnInput :=
  .tool ⟨arrangement, [], .ok ⟨"one line", "one line", none, true⟩⟩

def Arranged : TurnInput → Prop
  | .model _ => True
  | .tool answer => ∀ args, (answer.arrangement args).Perm args

def sameOrder : List TurnInput := readsSix :: List.replicate 6 (readsIn id)

def changingOrder : List TurnInput :=
  [readsSix, readsIn id, readsIn List.reverse, readsIn id, readsIn List.reverse, readsIn id,
    readsIn List.reverse]

def readCall (arrangement : List (String × String) → List (String × String)) : MadeCall :=
  ⟨"Read", arrangement [("file_path", "a.txt"), ("limit", "10")], true⟩

theorem loops_guarded_same : ∃ world,
    run roomyTurn.watchStep ⟨roomyTurn.start [] .new, []⟩ sameOrder = some world ∧
      world.calls = List.replicate 6 (readCall id) ∧ roomyTurn.LoopGuarded world := by
  have reached : (run roomyTurn.watchStep ⟨roomyTurn.start [] .new, []⟩ sameOrder).any
      (fun world => world.calls == List.replicate 6 (readCall id)) = true := by
    decide +kernel
  obtain ⟨world, ran, calls⟩ := (Option.any_eq_true _ _).mp reached
  have steady : Meets roomyTurn.watchStep roomyTurn.Steady ⟨roomyTurn.start [] .new, []⟩
      sameOrder := by
    decide +kernel
  exact ⟨world, ran, eq_of_beq calls, loops_guarded rfl steady ran⟩

/-- Six equal calls go through where the argument map is iterated in changing order. -/
theorem loops_unnoticed :
    ¬ ∀ (turn : Turn) (history : List HistoryItem) (inputs : List TurnInput) (world : WatchedTurn),
      (∀ input ∈ inputs, Arranged input) →
      run turn.watchStep ⟨turn.start history .new, []⟩ inputs = some world →
      turn.LoopGuarded world := by
  intro guarded
  have reached : (run roomyTurn.watchStep ⟨roomyTurn.start [] .new, []⟩ changingOrder).any
      (fun world => world.calls == [readCall id, readCall .reverse, readCall id,
          readCall .reverse, readCall id, readCall .reverse] &&
        decide (roomyTurn.loopHalt ∉ world.state.events)) = true := by
    decide +kernel
  obtain ⟨world, ran, both⟩ := (Option.any_eq_true _ _).mp reached
  obtain ⟨calls, unhalted⟩ := Bool.and_eq_true_iff.mp both
  have arranged : ∀ input ∈ changingOrder, Arranged input := by
    simp [changingOrder, readsSix, modelCalls, readsIn, Arranged, List.reverse_perm]
  have six : Streak MadeCall.Alike 6 world.calls := by
    rw [eq_of_beq calls]
    exact ⟨_, List.suffix_rfl, rfl, by decide⟩
  have halted := (guarded roomyTurn [] changingOrder world arranged ran).halts six
  exact of_decide_eq_true unhalted halted.2

end Example

end OpenJax.Agent
