import OpenJax.Gateway.TurnTasks

set_option autoImplicit false

namespace OpenJax.Gateway

open Shared Protocol Transcript

def Unfinished (world : World) (task : TaskId) (worker : Worker) : Prop :=
  world.workers.lookup task = some worker ∧ worker.phase ≠ .finished

def AtMostOneTask (world : World) : Prop :=
  ∀ first second one other, Unfinished world first one → Unfinished world second other →
    first = second

/-- When a worker leaves its event loop, the markers it is about to clear are its own. -/
def ClearsOwnMarkers (world : World) : Prop :=
  ∀ task worker, world.workers.lookup task = some worker → worker.phase = .receiving →
    world.live.runtime.turnSubmitInFlight = false ∧
      (world.live.runtime.currentTurnAbortHandle = none ∨
        world.live.runtime.currentTurnAbortHandle = some task)

/-- A clear finds no unfinished task. A submit that finds one which was told to abort, or whose
markers are cleared already, finds a turn marked as running as well. -/
def KeepsTasksApart (world : World) : TurnStep → Prop
  | .clear => ∀ task worker, ¬ Unfinished world task worker
  | .submit .. => ∀ task worker, Unfinished world task worker →
      worker.core.abortRequested = true ∨ worker.phase = .joined →
        world.live.runtime.hasRunningTurn = true
  | _ => True

def MarkersFit (runtime : SessionRuntime) (task : TaskId) (worker : Worker) : Prop :=
  match worker.phase with
  | .starting | .spawned =>
      runtime.turnSubmitInFlight = true ∧ runtime.currentTurnAbortHandle = none
  | .receiving =>
      runtime.turnSubmitInFlight = false ∧
        (runtime.currentTurnAbortHandle = some task ∨
          runtime.currentTurnAbortHandle = none ∧ worker.core.abortRequested = true)
  | .joined => runtime.turnSubmitInFlight = false ∧ runtime.currentTurnAbortHandle = none
  | .finished => True

structure Exclusive (world : World) : Prop where
  fresh : ∀ task, world.nextTask ≤ task → world.workers.lookup task = none
  single : AtMostOneTask world
  markers : ∀ task worker, world.workers.lookup task = some worker →
    MarkersFit world.live.runtime task worker
  handled : world.live.runtime.currentTurnAbortHandle ≠ none →
    ∃ task worker, Unfinished world task worker

variable {task : TaskId} {worker worker' : Worker}

theorem markersFit_congr {runtime other : SessionRuntime} (same : other.markers = runtime.markers)
    (phase : worker'.phase = worker.phase)
    (abort : worker'.core.abortRequested = worker.core.abortRequested)
    (fits : MarkersFit runtime task worker) : MarkersFit other task worker' := by
  obtain ⟨-, inFlight, handle⟩ := submitGate_markers same
  unfold MarkersFit at *
  rw [phase, abort, inFlight, handle]
  exact fits

variable {world next : World}

theorem Exclusive.frame (exclusive : Exclusive world)
    (present : world.workers.lookup task = some worker)
    (workers : next.workers = world.workers.insert task worker')
    (tasks : next.nextTask = world.nextTask)
    (markers : next.live.runtime.markers = world.live.runtime.markers)
    (phase : worker'.phase = worker.phase)
    (abort : worker'.core.abortRequested = worker.core.abortRequested) : Exclusive next := by
  have back (other : TaskId) (found : Worker) (lookup : next.workers.lookup other = some found) :
      ∃ old, world.workers.lookup other = some old ∧ found.phase = old.phase ∧
        found.core.abortRequested = old.core.abortRequested := by
    rw [workers, Table.lookup_insert_eq] at lookup
    by_cases same : other = task
    · rw [if_pos same, Option.some.injEq] at lookup
      subst lookup same
      exact ⟨worker, present, phase, abort⟩
    · rw [if_neg same] at lookup
      exact ⟨found, lookup, rfl, rfl⟩
  have unfinished (other : TaskId) (found : Worker) (open' : Unfinished next other found) :
      ∃ old, Unfinished world other old := by
    obtain ⟨old, lookup, samePhase, -⟩ := back other found open'.1
    exact ⟨old, lookup, samePhase ▸ open'.2⟩
  constructor
  · intro other later
    rw [tasks] at later
    rw [workers, Table.lookup_insert_eq]
    have absent := exclusive.fresh other later
    by_cases same : other = task
    · subst same
      rw [present] at absent
      cases absent
    · rw [if_neg same, absent]
  · intro first second one other left right
    obtain ⟨oldLeft, left⟩ := unfinished first one left
    obtain ⟨oldRight, right⟩ := unfinished second other right
    exact exclusive.single first second oldLeft oldRight left right
  · intro other found lookup
    obtain ⟨old, oldLookup, samePhase, sameAbort⟩ := back other found lookup
    exact markersFit_congr markers samePhase sameAbort (exclusive.markers other old oldLookup)
  · intro handle
    rw [(submitGate_markers markers).2.2] at handle
    obtain ⟨other, old, lookup, openPhase⟩ := exclusive.handled handle
    by_cases same : other = task
    · subst same
      cases present.symm.trans lookup
      exact ⟨other, worker', by rw [workers, Table.lookup_insert_eq, if_pos rfl],
        by rw [phase]; exact openPhase⟩
    · exact ⟨other, old, by rw [workers, Table.lookup_insert_eq, if_neg same]; exact lookup,
        openPhase⟩

theorem Exclusive.advance (exclusive : Exclusive world) (unfinished : Unfinished world task worker)
    (workers : next.workers = world.workers.insert task worker')
    (tasks : next.nextTask = world.nextTask) (fits : MarkersFit next.live.runtime task worker')
    (released : worker'.phase = .finished →
      next.live.runtime.currentTurnAbortHandle = none) :
    Exclusive next := by
  have others (other : TaskId) (found : Worker) (different : other ≠ task)
      (lookup : next.workers.lookup other = some found) : found.phase = .finished := by
    rw [workers, Table.lookup_insert_eq, if_neg different] at lookup
    by_contra openPhase
    exact different (exclusive.single other task found worker ⟨lookup, openPhase⟩ unfinished)
  have own : next.workers.lookup task = some worker' := by
    rw [workers, Table.lookup_insert_eq, if_pos rfl]
  have only (other : TaskId) (found : Worker) (open' : Unfinished next other found) :
      other = task := by
    by_contra different
    exact open'.2 (others other found different open'.1)
  constructor
  · intro other later
    rw [tasks] at later
    have absent := exclusive.fresh other later
    rw [workers, Table.lookup_insert_eq]
    by_cases same : other = task
    · subst same
      rw [unfinished.1] at absent
      cases absent
    · rw [if_neg same, absent]
  · intro first second one other left right
    rw [only first one left, only second other right]
  · intro other found lookup
    by_cases same : other = task
    · subst same
      cases own.symm.trans lookup
      exact fits
    · have done := others other found same lookup
      simp [MarkersFit, done]
  · intro handle
    refine ⟨task, worker', own, ?_⟩
    intro done
    exact handle (released done)

theorem Exclusive.rest (exclusive : Exclusive world)
    (alone : ∀ task worker, ¬ Unfinished world task worker) (workers : next.workers = world.workers)
    (tasks : next.nextTask = world.nextTask)
    (free : next.live.runtime.currentTurnAbortHandle = none) : Exclusive next := by
  constructor
  · intro task later
    rw [workers]
    exact exclusive.fresh task (tasks ▸ later)
  · intro first second one other left
    exact absurd ⟨workers ▸ left.1, left.2⟩ (alone first one)
  · intro task worker lookup
    have done : worker.phase = .finished := by
      by_contra openPhase
      exact alone task worker ⟨workers ▸ lookup, openPhase⟩
    simp [MarkersFit, done]
  · intro handle
    exact absurd free handle

variable {world : World}

theorem accepted_alone (exclusive : Exclusive world)
    (gate : submitGate world.live.runtime world.sessionId = .ok ())
    (apart : ∀ task worker, Unfinished world task worker →
      worker.core.abortRequested = true ∨ worker.phase = .joined →
        world.live.runtime.hasRunningTurn = true) (task : TaskId) (worker : Worker) :
    ¬ Unfinished world task worker := by
  intro unfinished
  obtain ⟨-, inFlight, handle, idle⟩ := (submitGate_iff _ _).mp gate
  have fits := exclusive.markers task worker unfinished.1
  have running := apart task worker unfinished
  rw [idle] at running
  unfold MarkersFit at fits
  cases phase : worker.phase with
  | starting | spawned => simp [phase, inFlight] at fits
  | receiving =>
    simp only [phase, inFlight, handle] at fits
    rcases fits.2 with held | ⟨-, aborted⟩
    · cases held
    · cases running (.inl aborted)
  | joined => cases running (.inr phase)
  | finished => exact unfinished.2 phase

theorem Exclusive.submit (exclusive : Exclusive world) (requestId input : String)
    (messageFailure : Option ApiError) (attempt : AppendAttempt)
    (apart : KeepsTasksApart world (.submit requestId input messageFailure attempt)) :
    Exclusive (world.submit requestId input messageFailure attempt) := by
  rcases submit_cases world requestId input messageFailure attempt with
    refused | ⟨gate, ⟨-, stopped⟩ | ⟨live, extended, started⟩⟩
  · rw [refused]
    exact exclusive
  · rw [stopped]
    exact exclusive.rest (accepted_alone exclusive gate apart) rfl rfl
      ((submitGate_iff _ _).mp gate).2.2.1
  · have alone := accepted_alone exclusive gate apart
    obtain ⟨-, inFlight, handle⟩ := submitGate_markers extended.markers
    have free : live.runtime.currentTurnAbortHandle = none := by
      rw [handle]
      exact ((submitGate_iff _ _).mp gate).2.2.1
    rw [started]
    have only (task : TaskId) (worker : Worker) (open' : Unfinished
        { { world with live := live }.setWorker world.nextTask
            { route := ⟨world.sessionId, requestId⟩ } with nextTask := world.nextTask + 1 }
        task worker) : task = world.nextTask := by
      by_contra different
      have lookup := open'.1
      rw [World.setWorker_lookup, if_neg different] at lookup
      exact alone task worker ⟨lookup, open'.2⟩
    constructor
    · intro task later
      have later : world.nextTask + 1 ≤ task := later
      rw [World.setWorker_lookup, if_neg (Nat.ne_of_gt later)]
      exact exclusive.fresh task (Nat.le_of_succ_le later)
    · intro first second one other left right
      rw [only first one left, only second other right]
    · intro task worker lookup
      rw [World.setWorker_lookup] at lookup
      by_cases same : task = world.nextTask
      · rw [if_pos same, Option.some.injEq] at lookup
        subst lookup
        exact ⟨inFlight, free⟩
      · rw [if_neg same] at lookup
        have done : worker.phase = .finished := by
          by_contra openPhase
          exact alone task worker ⟨lookup, openPhase⟩
        simp [MarkersFit, done]
    · intro handled
      exact absurd free handled

theorem handle_owner (exclusive : Exclusive world)
    (handle : world.live.runtime.currentTurnAbortHandle = some task) :
    ∃ worker, Unfinished world task worker ∧ worker.phase = .receiving ∧
      world.live.runtime.turnSubmitInFlight = false := by
  obtain ⟨owner, worker, unfinished⟩ := exclusive.handled (by simp [handle])
  have fits := exclusive.markers owner worker unfinished.1
  unfold MarkersFit at fits
  cases phase : worker.phase with
  | receiving =>
    simp only [phase, handle, Option.some.injEq, reduceCtorEq, false_and, or_false] at fits
    obtain ⟨inFlight, rfl⟩ := fits
    exact ⟨worker, unfinished, phase, inFlight⟩
  | finished => exact absurd phase unfinished.2
  | starting | spawned | joined => simp [phase, handle] at fits

theorem abort_worker {worker : Worker}
    (handle : world.live.runtime.currentTurnAbortHandle = some task)
    (present : world.workers.lookup task = some worker) :
    world.abort = (world.setRuntime
      { world.live.runtime with
        currentTurnAbortHandle := none
        turnAbortRequested := true }).setWorker task
      { worker with core := { worker.core with abortRequested := true } } := by
  simp [World.abort, handle, World.requestAbort, present]

theorem Exclusive.abort (exclusive : Exclusive world) : Exclusive world.abort := by
  cases handle : world.live.runtime.currentTurnAbortHandle with
  | none => simpa [World.abort, handle] using exclusive
  | some task =>
    obtain ⟨worker, unfinished, phase, inFlight⟩ := handle_owner exclusive handle
    rw [abort_worker handle unfinished.1]
    refine exclusive.advance unfinished rfl rfl ?_ ?_
    · simp [MarkersFit, phase, World.setRuntime, inFlight]
    · simp [phase]

theorem Exclusive.workerStep (exclusive : Exclusive world) {worker : Worker}
    (present : world.workers.lookup task = some worker) (step : WorkerStep)
    (named : world.live.runtime.NamesPublic)
    (stepped : world.workerStep task worker step = some next) : Exclusive next := by
  have fits := exclusive.markers task worker present
  unfold MarkersFit at fits
  cases step with
  | begin =>
    obtain ⟨phase, rfl⟩ := begin_some stepped
    refine exclusive.advance ⟨present, by simp [phase]⟩ rfl rfl ?_ ?_
    · simpa [MarkersFit, phase] using fits
    · simp
  | publishHandle =>
    obtain ⟨phase, abortNow, rfl⟩ := publishHandle_some stepped
    refine exclusive.advance ⟨present, by simp [phase]⟩ rfl rfl ?_ ?_
    · simp [MarkersFit, World.setRuntime]
    · simp
  | receive first second =>
    obtain ⟨-, event, rest, live, mapped, reply, -, projected, rfl⟩ := receive_some stepped
    have extended := mapCoreEvent_extends world.live first second worker.route event
      worker.reply named
    rw [projected] at extended
    exact exclusive.frame present rfl rfl extended.markers rfl rfl
  | join =>
    obtain ⟨phase, -, -, outcome, after, -, either, rfl⟩ := join_some stepped
    refine exclusive.advance ⟨present, by simp [phase]⟩ rfl rfl ?_ fun _ => rfl
    rcases either with rfl | ⟨rfl, -⟩ <;> simp [MarkersFit, World.setRuntime, World.setWorker]
  | conclude attempt =>
    obtain ⟨phase, live, worker', rfl, finished, -, -, -, cases⟩ := conclude_cases stepped
    have markers : live.runtime.markers = world.live.runtime.markers := by
      rcases cases with ⟨-, rfl, -⟩ | ⟨-, -, -, extended⟩
      · exact (interrupt_extends world.live attempt worker).markers
      · exact (extended (fun _ => True) (fun _ => True)).markers
    refine exclusive.advance ⟨present, by simp [phase]⟩ rfl rfl ?_ ?_
    · simp [MarkersFit, finished]
    · intro _
      simp only [phase] at fits
      exact (submitGate_markers markers).2.2.trans fits.2

theorem start_exclusive (sessionId : String) (replayCapacity : Nat) (transcript : Journal Json) :
    Exclusive (.start sessionId replayCapacity transcript) := by
  have handle := (submitGate_markers (rebuilt_markers 0 replayCapacity transcript)).2.2
  constructor
  · intro task _
    rfl
  · intro first second one other left
    cases left.1
  · intro task worker lookup
    cases lookup
  · intro handled
    exact absurd handle handled

theorem abort_live (world : World) :
    world.abort.live.transcript = world.live.transcript ∧
      world.abort.live.runtime.turns = world.live.runtime.turns ∧
      world.abort.live.runtime.coreTurnToPublic = world.live.runtime.coreTurnToPublic := by
  unfold World.abort
  cases handle : world.live.runtime.currentTurnAbortHandle with
  | none => exact ⟨rfl, rfl, rfl⟩
  | some task =>
    simp only [World.requestAbort_live]
    exact ⟨rfl, rfl, rfl⟩

theorem workerStep_named (named : world.live.runtime.NamesPublic) {worker : Worker}
    (step : WorkerStep) (stepped : world.workerStep task worker step = some next) :
    next.live.runtime.NamesPublic := by
  cases step with
  | begin =>
    obtain ⟨-, rfl⟩ := begin_some stepped
    exact named
  | publishHandle =>
    obtain ⟨-, abortNow, rfl⟩ := publishHandle_some stepped
    exact named
  | receive first second =>
    obtain ⟨-, event, rest, live, mapped, reply, -, projected, rfl⟩ := receive_some stepped
    have extended := mapCoreEvent_extends world.live first second worker.route event
      worker.reply named
    rw [projected] at extended
    exact extended.named named
  | join =>
    obtain ⟨-, -, -, outcome, after, -, -, rfl⟩ := join_some stepped
    exact named
  | conclude attempt =>
    obtain ⟨-, live, worker', rfl, -, -, -, -, cases⟩ := conclude_cases stepped
    rcases cases with ⟨-, rfl, -⟩ | ⟨-, -, -, extended⟩
    · exact (interrupt_extends world.live attempt worker).named named
    · exact (extended (fun _ => True) (fun _ => True)).named named

theorem step_named (named : world.live.runtime.NamesPublic) (step : TurnStep)
    (stepped : world.step step = some next) : next.live.runtime.NamesPublic := by
  cases step with
  | submit requestId input messageFailure attempt =>
    cases stepped
    rcases submit_cases world requestId input messageFailure attempt with
      refused | ⟨-, ⟨-, stopped⟩ | ⟨live, extended, started⟩⟩
    · rwa [refused]
    · rw [stopped]
      exact named
    · rw [started]
      exact extended.named named
  | abort =>
    cases stepped
    intro coreTurnId id found
    rw [(abort_live world).2.2] at found
    exact named coreTurnId id found
  | clear =>
    cases stepped
    intro coreTurnId id found
    cases found
  | restart =>
    cases stepped
    exact rebuilt_named _ _ _
  | worker task step =>
    obtain ⟨worker, -, stepped⟩ := Option.bind_eq_some_iff.mp stepped
    exact workerStep_named named step stepped
  | core task step =>
    obtain ⟨worker, -, stepped⟩ := Option.bind_eq_some_iff.mp stepped
    obtain ⟨worker', frame⟩ := coreStep_frame stepped
    rwa [frame.live]

theorem exclusive_preserved :
    Preserves World.step KeepsTasksApart fun world =>
      world.live.runtime.NamesPublic ∧ Exclusive world := by
  intro world step next ⟨named, exclusive⟩ apart stepped
  refine ⟨step_named named step stepped, ?_⟩
  cases step with
  | submit requestId input messageFailure attempt =>
    cases stepped
    exact exclusive.submit requestId input messageFailure attempt apart
  | abort =>
    cases stepped
    exact exclusive.abort
  | clear =>
    cases stepped
    exact exclusive.rest apart rfl rfl rfl
  | restart =>
    cases stepped
    exact start_exclusive _ _ _
  | worker task step =>
    obtain ⟨worker, present, stepped⟩ := Option.bind_eq_some_iff.mp stepped
    exact exclusive.workerStep present step named stepped
  | core task step =>
    obtain ⟨worker, present, stepped⟩ := Option.bind_eq_some_iff.mp stepped
    obtain ⟨worker', frame⟩ := coreStep_frame stepped
    exact exclusive.frame present frame.workers frame.nextTask (by rw [frame.live]) frame.phase
      frame.abortRequested

theorem turn_tasks_exclusive (sessionId : String) (replayCapacity : Nat)
    (transcript : Journal Json) (steps : List TurnStep) (world : World)
    (apart : Meets World.step KeepsTasksApart (.start sessionId replayCapacity transcript) steps)
    (ran : run World.step (.start sessionId replayCapacity transcript) steps = some world) :
    AtMostOneTask world ∧ ClearsOwnMarkers world := by
  have initial := And.intro (rebuilt_named 0 replayCapacity transcript)
    (start_exclusive sessionId replayCapacity transcript)
  obtain ⟨-, exclusive⟩ := run_invariant exclusive_preserved initial apart ran
  refine ⟨exclusive.single, ?_⟩
  intro task worker present phase
  have fits := exclusive.markers task worker present
  simp only [MarkersFit, phase] at fits
  rcases fits with ⟨inFlight, own | ⟨free, -⟩⟩
  · exact ⟨inFlight, .inr own⟩
  · exact ⟨inFlight, .inl free⟩

def storedAttempt : AppendAttempt := ⟨"2026-01-01T00:00:00.000Z", none⟩

def submitHello : TurnStep := .submit "req" "hello" none storedAttempt

theorem turn_tasks_exclusive_witness :
    ∃ world, run World.step (.start "sess_1" 1 []) [submitHello] = some world ∧
      AtMostOneTask world ∧ ClearsOwnMarkers world := by
  refine ⟨_, rfl, turn_tasks_exclusive "sess_1" 1 [] [submitHello] _ ?_ rfl⟩
  refine ⟨?_, fun _ _ => trivial⟩
  rintro task worker ⟨absent, -⟩
  cases absent

theorem cleared_task_overlaps :
    ¬ ∀ (sessionId : String) (replayCapacity : Nat) (transcript : Journal Json)
      (steps : List TurnStep) (world : World),
      run World.step (.start sessionId replayCapacity transcript) steps = some world →
        AtMostOneTask world ∧ ClearsOwnMarkers world := by
  intro claimed
  obtain ⟨single, -⟩ := claimed "sess_1" 1 [] [submitHello, .clear, submitHello] _ rfl
  have same := single 0 1 _ _ ⟨rfl, by decide⟩ ⟨rfl, by decide⟩
  cases same

end OpenJax.Gateway
