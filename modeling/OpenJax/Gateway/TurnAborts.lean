import OpenJax.Gateway.TurnSafety

set_option autoImplicit false

namespace OpenJax.Gateway

open Shared Protocol Transcript

/-- `aborting` holds what the aborts that are not answered yet took; `acknowledged` the turns that
were in flight, with the core task not over, when an abort was answered. -/
structure AbortWorld where
  world : World
  aborting : List (Option TaskId)
  acknowledged : List TaskId

inductive AbortInput where
  | turn (step : TurnStep)
  | takeHandle
  | acknowledge (index : Nat)

namespace World

def takeHandle (world : World) : World :=
  match world.live.runtime.currentTurnAbortHandle with
  | none => world
  | some _ =>
      world.setRuntime
        { world.live.runtime with currentTurnAbortHandle := none, turnAbortRequested := true }

def useHandle (world : World) : Option TaskId → World
  | none => world
  | some task => world.requestAbort task

def inFlight (world : World) : List TaskId :=
  (world.workers.entries.filter fun entry =>
    entry.2.phase ≠ .finished && entry.2.core.phase.outcome?.isNone).map Sigma.fst

theorem mem_inFlight {world : World} {task : TaskId} :
    task ∈ world.inFlight ↔
      ∃ worker, Unfinished world task worker ∧ worker.core.phase.outcome? = none := by
  simp only [inFlight, List.mem_map, List.mem_filter, Sigma.exists, Unfinished,
    Table.entry_iff, Bool.and_eq_true, decide_eq_true_eq, Option.isNone_iff_eq_none]
  constructor
  · rintro ⟨_, worker, ⟨found, unfinished, running⟩, rfl⟩
    exact ⟨worker, ⟨found, unfinished⟩, running⟩
  · rintro ⟨worker, ⟨found, unfinished⟩, running⟩
    exact ⟨task, worker, ⟨found, unfinished, running⟩, rfl⟩

end World

namespace AbortWorld

def start (sessionId : String) (replayCapacity : Nat) (transcript : Journal Json) : AbortWorld :=
  ⟨.start sessionId replayCapacity transcript, [], []⟩

def step (state : AbortWorld) : AbortInput → Option AbortWorld
  -- An abort is the two steps below, and a restart ends every request.
  | .turn .abort => none
  | .turn .restart => some ⟨state.world.restart, [], []⟩
  | .turn step => (state.world.step step).map fun world => { state with world := world }
  | .takeHandle =>
      some { state with
        world := state.world.takeHandle
        aborting := state.aborting ++ [state.world.live.runtime.currentTurnAbortHandle] }
  | .acknowledge index =>
      state.aborting[index]?.map fun handle =>
        { world := state.world.useHandle handle
          aborting := state.aborting.eraseIdx index
          acknowledged := state.acknowledged ++ state.world.inFlight }

def Reached (handle : Option TaskId) (task : TaskId) (worker : Worker) : Prop :=
  worker.core.phase.holdsAgent = true ∧
    (worker.core.abortRequested = true ∨ handle = some task)

/-- An answered abort reaches every turn in flight, and a core task that was told to abort comes to
an await point before it comes to its end. -/
def AbortLands (state : AbortWorld) : AbortInput → Prop
  | .acknowledge index => ∀ handle ∈ state.aborting[index]?, ∀ task worker,
      Unfinished state.world task worker → worker.core.phase.outcome? = none →
        Reached handle task worker
  | .turn (.core task .complete) => ∀ worker ∈ state.world.workers.lookup task,
      worker.core.abortRequested = false
  | _ => True

end AbortWorld

def Completed (worker : Worker) : Prop :=
  ∃ events, worker.core.phase = .ended (.completed events)

structure WorkerHeld (worker : Worker) : Prop where
  abortRequested : worker.core.abortRequested = true
  spawned : worker.phase ≠ .starting
  uncompleted : ¬ Completed worker

structure AbortsHeld (state : AbortWorld) : Prop where
  fresh : ∀ task, state.world.nextTask ≤ task → state.world.workers.lookup task = none
  starting : ∀ task worker, state.world.workers.lookup task = some worker →
    worker.phase = .starting → worker.core.phase = .unspawned
  held : ∀ task ∈ state.acknowledged, ∃ worker,
    state.world.workers.lookup task = some worker ∧ WorkerHeld worker

theorem abortsHeld_start (sessionId : String) (replayCapacity : Nat) (transcript : Journal Json) :
    AbortsHeld (.start sessionId replayCapacity transcript) where
  fresh _ _ := rfl
  starting _ _ found := by cases found
  held _ member := by cases member

structure Moves (worker worker' : Worker) : Prop where
  starting : worker'.phase = .starting → worker'.core.phase = .unspawned
  held : WorkerHeld worker → WorkerHeld worker'

theorem moves_of_core {worker worker' : Worker} (spawned : worker'.phase ≠ .starting)
    (same : worker'.core = worker.core) : Moves worker worker' where
  starting starts := absurd starts spawned
  held held := ⟨same ▸ held.abortRequested, spawned, fun completed => held.uncompleted (by
    obtain ⟨events, ended⟩ := completed
    exact ⟨events, same ▸ ended⟩)⟩

theorem moves_of_spawned {worker worker' : Worker}
    (starting : worker.phase = .starting → worker.core.phase = .unspawned)
    (spawned : worker.core.phase ≠ .unspawned) (phase : worker'.phase = worker.phase)
    (held : WorkerHeld worker → worker'.core.abortRequested = true ∧ ¬ Completed worker') :
    Moves worker worker' where
  starting starts := absurd (starting (phase ▸ starts)) spawned
  held before := ⟨(held before).1, phase ▸ before.spawned, (held before).2⟩

section Steps

variable {world next : World} {task : TaskId} {worker : Worker}

theorem workerStep_moves {step : WorkerStep}
    (stepped : world.workerStep task worker step = some next) :
    ∃ worker', next.workers = world.workers.insert task worker' ∧
      next.nextTask = world.nextTask ∧ Moves worker worker' := by
  cases step with
  | begin =>
    obtain ⟨starting, rfl⟩ := begin_some stepped
    exact ⟨_, rfl, rfl, nofun, fun held => absurd starting held.spawned⟩
  | publishHandle =>
    obtain ⟨-, result⟩ := (guard_bind_iff _ _ _).mp stepped
    cases result
    exact ⟨_, rfl, rfl, nofun, fun held => ⟨by simp [held.abortRequested], nofun, held.uncompleted⟩⟩
  | receive first second =>
    obtain ⟨receiving, event, rest, live, mapped, reply, -, -, rfl⟩ := receive_some stepped
    exact ⟨_, rfl, rfl, moves_of_core (by simp [receiving]) rfl⟩
  | join =>
    obtain ⟨-, -, -, outcome, phase, -, left, rfl⟩ := join_some stepped
    have spawned : phase ≠ .starting := by
      rcases left with rfl | ⟨rfl, -⟩ <;> decide
    exact ⟨_, rfl, rfl, moves_of_core spawned rfl⟩
  | conclude attempt =>
    obtain ⟨-, live, worker', rfl, finished, same, -⟩ := conclude_cases stepped
    exact ⟨worker', rfl, rfl, moves_of_core (by simp [finished]) same⟩

theorem coreStep_moves {step : CoreStep} (stepped : world.coreStep task worker step = some next)
    (starting : worker.phase = .starting → worker.core.phase = .unspawned)
    (lands : step = .complete → worker.core.abortRequested = false) :
    ∃ worker', next.workers = world.workers.insert task worker' ∧
      next.nextTask = world.nextTask ∧ Moves worker worker' := by
  cases step with
  | acquire =>
    obtain ⟨waiting, rfl⟩ := acquire_some stepped
    exact ⟨_, rfl, rfl, moves_of_spawned starting (by simp [waiting]) rfl fun held =>
      ⟨held.abortRequested, by simp [Completed]⟩⟩
  | emitEvent event =>
    obtain ⟨turnId, events, running, -, rfl⟩ := emitEvent_some stepped
    exact ⟨_, rfl, rfl, moves_of_spawned starting (by simp [running]) rfl fun held =>
      ⟨held.abortRequested, by simp [Completed]⟩⟩
  | complete =>
    obtain ⟨turnId, events, running, rfl⟩ := complete_some stepped
    exact ⟨_, rfl, rfl, moves_of_spawned starting (by simp [running]) rfl fun held =>
      absurd held.abortRequested (by simp [lands rfl])⟩
  | cancel =>
    obtain ⟨holds, rfl⟩ := cancel_some stepped
    have frame := dropCore_frame world .cancelled task worker
    refine ⟨_, frame.workers, frame.nextTask, moves_of_spawned starting ?_ rfl fun held =>
      ⟨held.abortRequested, by simp [Completed]⟩⟩
    intro unspawned
    simp [unspawned, CorePhase.holdsAgent] at holds
  | panic =>
    obtain ⟨turnId, events, running, rfl⟩ := panic_some stepped
    have frame := dropCore_frame world .panicked task worker
    exact ⟨_, frame.workers, frame.nextTask, moves_of_spawned starting (by simp [running]) rfl
      fun held => ⟨held.abortRequested, by simp [Completed]⟩⟩

end Steps

section Worlds

variable {state : AbortWorld} {world : World}

theorem AbortsHeld.advance (held : AbortsHeld state) {task : TaskId} {worker worker' : Worker}
    (present : state.world.workers.lookup task = some worker)
    (workers : world.workers = state.world.workers.insert task worker')
    (tasks : world.nextTask = state.world.nextTask) (moves : Moves worker worker') :
    AbortsHeld { state with world := world } := by
  constructor
  case fresh =>
    intro other later
    have absent := held.fresh other (tasks ▸ later)
    dsimp only
    rw [workers, Table.lookup_insert_eq]
    split
    · rename_i same
      rw [same, present] at absent
      cases absent
    · exact absent
  case starting =>
    intro other found lookup
    dsimp only at lookup
    rw [workers, Table.lookup_insert_eq] at lookup
    split at lookup
    · cases lookup
      exact moves.starting
    · exact held.starting other found lookup
  case held =>
    intro other member
    obtain ⟨found, lookup, kept⟩ := held.held other member
    dsimp only
    rw [workers, Table.lookup_insert_eq]
    split
    · rename_i same
      rw [same, present] at lookup
      cases lookup
      exact ⟨worker', rfl, moves.held kept⟩
    · exact ⟨found, lookup, kept⟩

theorem AbortsHeld.same (held : AbortsHeld state) (workers : world.workers = state.world.workers)
    (tasks : world.nextTask = state.world.nextTask) (aborting : List (Option TaskId)) :
    AbortsHeld { state with world := world, aborting := aborting } where
  fresh task later := workers ▸ held.fresh task (tasks ▸ later)
  starting task worker found := held.starting task worker (workers ▸ found)
  held task member := by
    obtain ⟨worker, found, kept⟩ := held.held task member
    exact ⟨worker, workers ▸ found, kept⟩

theorem AbortsHeld.joined (held : AbortsHeld state) {route : EventRoute}
    (workers : world.workers = state.world.workers.insert state.world.nextTask { route := route })
    (tasks : world.nextTask = state.world.nextTask + 1) :
    AbortsHeld { state with world := world } := by
  constructor
  case fresh =>
    intro task later
    dsimp only at later ⊢
    rw [tasks] at later
    rw [workers, Table.lookup_insert_eq, if_neg (Nat.ne_of_gt (Nat.lt_of_succ_le later))]
    exact held.fresh task (Nat.le_of_succ_le later)
  case starting =>
    intro task worker lookup
    dsimp only at lookup
    rw [workers, Table.lookup_insert_eq] at lookup
    split at lookup
    · cases lookup
      exact fun _ => rfl
    · exact held.starting task worker lookup
  case held =>
    intro task member
    obtain ⟨worker, found, kept⟩ := held.held task member
    refine ⟨worker, ?_, kept⟩
    dsimp only
    rw [workers, Table.lookup_insert_eq]
    split
    · rename_i same
      rw [same, held.fresh _ (Nat.le_refl _)] at found
      cases found
    · exact found

theorem AbortsHeld.turn (held : AbortsHeld state) {step : TurnStep}
    (lands : state.AbortLands (.turn step)) (notAbort : step ≠ .abort) (notRestart : step ≠ .restart)
    (stepped : state.world.step step = some world) :
    AbortsHeld { state with world := world } := by
  cases step with
  | submit requestId input messageFailure attempt =>
    cases stepped
    rcases submit_cases state.world requestId input messageFailure attempt with
      refused | ⟨-, ⟨-, stopped⟩ | ⟨live, -, started⟩⟩
    · rw [refused]
      exact held
    · rw [stopped]
      exact @AbortsHeld.same state (state.world.setRuntime (markSubmitted _)) held rfl rfl _
    · rw [started]
      exact held.joined rfl rfl
  | abort => exact absurd rfl notAbort
  | restart => exact absurd rfl notRestart
  | clear =>
    cases stepped
    exact @AbortsHeld.same state state.world.clear held rfl rfl _
  | worker task step =>
    obtain ⟨worker, present, stepped⟩ := Option.bind_eq_some_iff.mp stepped
    obtain ⟨worker', workers, tasks, moves⟩ := workerStep_moves stepped
    exact held.advance present workers tasks moves
  | core task step =>
    obtain ⟨worker, present, stepped⟩ := Option.bind_eq_some_iff.mp stepped
    have uncompleted : step = .complete → worker.core.abortRequested = false := by
      rintro rfl
      exact lands worker present
    obtain ⟨worker', workers, tasks, moves⟩ :=
      coreStep_moves stepped (held.starting task worker present) uncompleted
    exact held.advance present workers tasks moves

theorem takeHandle_workers (world : World) :
    world.takeHandle.workers = world.workers ∧ world.takeHandle.nextTask = world.nextTask := by
  unfold World.takeHandle
  split <;> exact ⟨rfl, rfl⟩

theorem useHandle_lookup (world : World) (handle : Option TaskId) {task : TaskId} {worker : Worker}
    (present : world.workers.lookup task = some worker) :
    (world.useHandle handle).workers.lookup task =
      some (if handle = some task then
        { worker with core := { worker.core with abortRequested := true } } else worker) := by
  cases handle with
  | none => simpa [World.useHandle] using present
  | some other =>
    simp only [World.useHandle, World.requestAbort, Option.some.injEq]
    by_cases same : other = task
    · subst same
      rw [present, if_pos rfl, World.setWorker_lookup, if_pos rfl]
    · rw [if_neg same]
      split
      · rw [World.setWorker_lookup, if_neg (Ne.symm same), present]
      · exact present

theorem AbortsHeld.useHandle (held : AbortsHeld state) (handle : Option TaskId) :
    AbortsHeld { state with world := state.world.useHandle handle } := by
  cases handle with
  | none => exact held
  | some task =>
    cases present : state.world.workers.lookup task with
    | none =>
      simp only [World.useHandle, World.requestAbort, present]
      exact held
    | some worker =>
      simp only [World.useHandle, World.requestAbort, present]
      exact held.advance present rfl rfl
        ⟨held.starting task worker present, fun before => ⟨rfl, before.spawned, before.uncompleted⟩⟩

theorem abortsHeld_preserved : Preserves AbortWorld.step AbortWorld.AbortLands AbortsHeld := by
  intro state input next held lands stepped
  cases input with
  | turn step =>
    by_cases abort : step = .abort
    · subst abort
      cases stepped
    · by_cases restart : step = .restart
      · subst restart
        cases stepped
        exact abortsHeld_start _ _ _
      · have stepped : (state.world.step step).map (fun world => { state with world := world }) =
            some next := by
          cases step <;> first | exact stepped | exact absurd rfl abort | exact absurd rfl restart
        obtain ⟨world, advanced, rfl⟩ := Option.map_eq_some_iff.mp stepped
        exact held.turn lands abort restart advanced
  | takeHandle =>
    cases stepped
    obtain ⟨workers, tasks⟩ := takeHandle_workers state.world
    exact held.same workers tasks _
  | acknowledge index =>
    obtain ⟨handle, taken, rfl⟩ := Option.map_eq_some_iff.mp stepped
    have used := held.useHandle handle
    refine ⟨used.fresh, used.starting, fun task member => ?_⟩
    rcases List.mem_append.mp member with before | new
    · exact used.held task before
    · obtain ⟨worker, unfinished, running⟩ := World.mem_inFlight.mp new
      obtain ⟨spawned, told⟩ := lands handle taken task worker unfinished running
      have phase : worker.phase ≠ .starting := by
        intro starting
        rw [held.starting task worker unfinished.1 starting] at spawned
        cases spawned
      refine ⟨_, useHandle_lookup state.world handle unfinished.1, ?_, ?_, ?_⟩
      · split
        · rfl
        · rename_i other
          exact told.resolve_right other
      · split <;> exact phase
      · rintro ⟨events, ended⟩
        have concluded : worker.core.phase = .ended (.completed events) := by
          revert ended
          split <;> exact id
        simp [concluded, CorePhase.outcome?] at running

end Worlds

def abortWhileRunning : List AbortInput :=
  [.turn submitHello, .turn (.worker 0 .begin), .turn (.worker 0 .publishHandle),
    .turn (.core 0 .acquire), .takeHandle, .acknowledge 0, .turn (.core 0 .cancel)]

def abortBeforeHandle : List AbortInput :=
  [.turn submitHello, .takeHandle, .acknowledge 0, .turn (.worker 0 .begin),
    .turn (.worker 0 .publishHandle), .turn (.core 0 .acquire), .turn (.core 0 .complete)]

end OpenJax.Gateway
