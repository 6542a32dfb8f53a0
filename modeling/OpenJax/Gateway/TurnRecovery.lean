import OpenJax.Gateway.TurnSafety

set_option autoImplicit false

namespace OpenJax.Gateway

open Shared Protocol Transcript

def CorePhase.quiet : CorePhase → Bool
  | .unspawned | .waiting | .ended .cancelled => true
  | _ => false

def CorePhase.wasCancelled : CorePhase → Bool
  | .ended .cancelled => true
  | _ => false

theorem wasCancelled_iff (phase : CorePhase) :
    phase.wasCancelled = true ↔ phase = .ended .cancelled := by
  constructor
  · intro cancelled
    unfold CorePhase.wasCancelled at cancelled
    split at cancelled
    · rfl
    · cases cancelled
  · rintro rfl
    rfl

def isInterruption (record : TranscriptRecord Json) : Bool :=
  record.eventType = "turn_interrupted"

def Worker.interruptions (worker : Worker) : Nat := worker.recorded.countP isInterruption

/-- Besides keeping the tasks apart: the user's message and the report of an interruption are
stored, and a core task is dropped only while it still waits for its agent. -/
def DropsOnlyWaiting (world : World) (step : TurnStep) : Prop :=
  KeepsTasksApart world step ∧
    match step with
    | .submit _ _ messageFailure _ => messageFailure = none
    | .worker _ (.conclude attempt) => attempt.failure = none
    | .core task .cancel => ∀ worker, world.workers.lookup task = some worker →
        worker.core.phase = .waiting
    | .core _ .panic => False
    | _ => True

structure LocalFit (worker : Worker) : Prop where
  spawned : worker.phase = .starting ↔ worker.core.phase = .unspawned
  ended : worker.phase = .joined ∨ worker.phase = .finished →
    ∃ outcome, worker.core.phase = .ended outcome
  silent : worker.core.phase.quiet = true →
    worker.queue = [] ∧ worker.lastKnownPublicTurnId = none
  unharmed : worker.core.phase ≠ .ended .panicked
  counted : worker.interruptions =
    (worker.phase = .finished && worker.core.phase.wasCancelled : Bool).toNat

def EveryWorker (fits : Worker → Prop) (world : World) : Prop :=
  ∀ task worker, world.workers.lookup task = some worker → fits worker

variable {worker : Worker} {task : TaskId} {world next : World}

theorem EveryWorker.insert {fits : Worker → Prop} (every : EveryWorker fits world)
    (own : fits worker) (workers : next.workers = world.workers.insert task worker) :
    EveryWorker fits next := by
  intro other found lookup
  rw [workers, Table.lookup_insert_eq] at lookup
  by_cases same : other = task
  · rw [if_pos same, Option.some.injEq] at lookup
    exact lookup ▸ own
  · rw [if_neg same] at lookup
    exact every other found lookup

theorem newWorker_local (route : EventRoute) : LocalFit { route := route } := by
  constructor <;> simp [CorePhase.quiet, Worker.interruptions]

theorem LocalFit.requestAbort (fits : LocalFit worker) (flag : Bool) :
    LocalFit { worker with core := { worker.core with abortRequested := flag } } :=
  ⟨fits.spawned, fits.ended, fits.silent, fits.unharmed, fits.counted⟩

theorem interruptions_append (worker : Worker) (added : List (TranscriptRecord Json)) :
    (worker.recorded ++ added).countP isInterruption =
      worker.interruptions + added.countP isInterruption := by
  rw [List.countP_append, Worker.interruptions]

theorem extends_added {turnIds kinds : String → Prop} {before after : LiveSession}
    (extended : Extends turnIds kinds before after) :
    ∀ record ∈ after.transcript.drop before.transcript.length, kinds record.eventType := by
  obtain ⟨added, eq, fits⟩ := extended.transcript
  rw [eq, List.drop_left]
  exact fun record member => (fits record member).1

theorem no_interruptions {added : List (TranscriptRecord Json)}
    (plain : ∀ record ∈ added, record.eventType ≠ "turn_interrupted") :
    added.countP isInterruption = 0 := by
  rw [List.countP_eq_zero]
  intro record member
  simpa [isInterruption] using plain record member

theorem interrupt_count (live : LiveSession) (attempt : AppendAttempt) (worker : Worker)
    (stored : attempt.failure = none) :
    ((World.interrupt live attempt worker).transcript.drop live.transcript.length).countP
      isInterruption = 1 := by
  obtain ⟨record, eq, kind, -⟩ := emit_recorded
    { live with
      runtime := World.failInterrupted live.runtime (World.interruptedTurn live.runtime worker) }
    attempt worker.route (World.interruptedTurn live.runtime worker) "turn_interrupted"
    World.userAbort (some "synthetic") stored
  rw [World.interrupt, eq, List.drop_left]
  simp [isInterruption, kind]

theorem workerStep_local (named : world.live.runtime.NamesPublic) (fits : LocalFit worker)
    (step : WorkerStep) (stored : ∀ attempt, step = .conclude attempt → attempt.failure = none)
    (stepped : world.workerStep task worker step = some next) :
    ∃ worker', next.workers = world.workers.insert task worker' ∧ LocalFit worker' := by
  have counted := fits.counted
  cases step with
  | begin =>
    obtain ⟨phase, rfl⟩ := begin_some stepped
    have unspawned := fits.spawned.mp phase
    have silent := fits.silent (by rw [unspawned]; rfl)
    refine ⟨_, rfl, ⟨by simp, by simp, fun _ => silent, by simp, ?_⟩⟩
    simpa [Worker.interruptions, phase] using counted
  | publishHandle =>
    obtain ⟨phase, abortNow, rfl⟩ := publishHandle_some stepped
    refine ⟨_, rfl, ⟨?_, by simp, fits.silent, fits.unharmed, ?_⟩⟩
    · simpa [phase] using fits.spawned
    · simpa [Worker.interruptions, phase] using counted
  | receive first second =>
    obtain ⟨phase, event, rest, live, mapped, reply, queue, projected, rfl⟩ := receive_some stepped
    have extended := mapCoreEvent_extends world.live first second worker.route event
      worker.reply named
    rw [projected] at extended
    have loud : worker.core.phase.quiet = true → False := by
      intro quiet
      have empty := (fits.silent quiet).1
      rw [queue] at empty
      cases empty
    refine ⟨_, rfl, ⟨fits.spawned, fits.ended, fun quiet => (loud quiet).elim, fits.unharmed, ?_⟩⟩
    have none := no_interruptions (extends_added extended)
    simpa [Worker.interruptions, none, phase] using counted
  | join =>
    obtain ⟨phase, queue, -, outcome, after, ended, either, rfl⟩ := join_some stepped
    refine ⟨_, rfl, ⟨?_, fun _ => ⟨outcome, ended⟩, fits.silent, fits.unharmed, ?_⟩⟩
    · rcases either with rfl | ⟨rfl, -⟩ <;> simp [ended]
    · rcases either with rfl | ⟨rfl, events, rfl⟩
      · simpa [Worker.interruptions, phase] using counted
      · simpa [Worker.interruptions, phase, ended, CorePhase.wasCancelled] using counted
  | conclude attempt =>
    obtain ⟨phase, live, worker', rfl, finished, core, queue, known, cases⟩ :=
      conclude_cases stepped
    obtain ⟨outcome, ended⟩ := fits.ended (.inl phase)
    refine ⟨worker', rfl, ⟨?_, ?_, ?_, ?_, ?_⟩⟩
    · simp [finished, core, ended]
    · exact fun _ => ⟨outcome, by rw [core, ended]⟩
    · rw [core, queue, known]
      exact fits.silent
    · rw [core]
      exact fits.unharmed
    · rw [finished, core]
      rcases cases with ⟨cancelled, rfl, recorded⟩ | ⟨other, recorded, -⟩
      · rw [Worker.interruptions, recorded, interruptions_append, counted,
          interrupt_count world.live attempt worker (stored attempt rfl)]
        simp [phase, cancelled, CorePhase.wasCancelled]
      · rw [Ne, ← wasCancelled_iff, Bool.not_eq_true] at other
        rw [Worker.interruptions, recorded, ← Worker.interruptions, counted]
        simp [phase, other]

theorem LocalFit.moveCore (fits : LocalFit worker) (begun : worker.core.phase ≠ .unspawned)
    (alive : ¬ ∃ outcome, worker.core.phase = .ended outcome) {queue : List Event} {core : CoreTask}
    (after : core.phase ≠ .unspawned) (unharmed : core.phase ≠ .ended .panicked)
    (silent : core.phase.quiet = true → queue = [] ∧ worker.lastKnownPublicTurnId = none) :
    LocalFit { worker with queue := queue, core := core } := by
  have counted := fits.counted
  have early : worker.phase ≠ .starting ∧ worker.phase ≠ .joined ∧ worker.phase ≠ .finished :=
    ⟨fun starting => begun (fits.spawned.mp starting),
      fun joined => alive (fits.ended (.inl joined)), fun done => alive (fits.ended (.inr done))⟩
  refine ⟨by simp [early, after], by simp [early], silent, unharmed, ?_⟩
  simpa [Worker.interruptions, early] using counted

theorem coreStep_local (fits : LocalFit worker) (step : CoreStep)
    (waiting : step = .cancel → worker.core.phase = .waiting) (sound : step ≠ .panic)
    (stepped : world.coreStep task worker step = some next) :
    ∃ worker', next.workers = world.workers.insert task worker' ∧ LocalFit worker' := by
  cases step with
  | acquire =>
    obtain ⟨phase, rfl⟩ := acquire_some stepped
    refine ⟨_, rfl, fits.moveCore (by simp [phase]) (by simp [phase]) ?_ ?_ ?_⟩ <;>
      simp [CorePhase.quiet]
  | emitEvent event =>
    obtain ⟨turnId, events, phase, -, rfl⟩ := emitEvent_some stepped
    refine ⟨_, rfl, fits.moveCore (by simp [phase]) (by simp [phase]) ?_ ?_ ?_⟩ <;>
      simp [CorePhase.quiet]
  | complete =>
    obtain ⟨turnId, events, phase, rfl⟩ := complete_some stepped
    refine ⟨_, rfl, fits.moveCore (by simp [phase]) (by simp [phase]) ?_ ?_ ?_⟩ <;>
      simp [CorePhase.quiet]
  | cancel =>
    obtain ⟨-, rfl⟩ := cancel_some stepped
    have phase := waiting rfl
    have silent := fits.silent (by rw [phase]; rfl)
    exact ⟨_, (dropCore_frame world .cancelled task worker).workers,
      fits.moveCore (by simp [phase]) (by simp [phase]) (by simp) (by simp) fun _ => silent⟩
  | panic => exact absurd rfl sound

structure SessionFit (world : World) : Prop where
  active : world.live.runtime.status = .active
  older : ∀ task worker, world.workers.lookup task = some worker →
    task + 1 < world.nextTask → worker.phase = .finished
  free : (∀ task worker, ¬ Unfinished world task worker) →
    world.live.runtime.turnSubmitInFlight = false
  calm : ∀ task worker, world.workers.lookup task = some worker → task + 1 = world.nextTask →
    worker.core.phase.quiet = true → world.live.runtime.hasRunningTurn = false
  sinks : ∀ id task, (world.agent id).eventSink = some task → ∃ worker turnId events,
    world.workers.lookup task = some worker ∧ worker.core.agent = id ∧
      worker.core.phase = .running turnId events

variable {world : World}

theorem unfinished_latest (exclusive : Exclusive world) (session : SessionFit world)
    (unfinished : Unfinished world task worker) : task + 1 = world.nextTask := by
  have known : ¬ world.nextTask ≤ task := by
    intro later
    have absent := exclusive.fresh task later
    rw [unfinished.1] at absent
    cases absent
  have latest : ¬ task + 1 < world.nextTask := fun earlier =>
    unfinished.2 (session.older task worker unfinished.1 earlier)
  exact Nat.le_antisymm (Nat.lt_of_not_le known) (Nat.le_of_not_lt latest)

theorem hasRunningTurn_congr {session other : SessionRuntime}
    (same : ∀ turnId, other.turns.lookup turnId = session.turns.lookup turnId) :
    other.hasRunningTurn = session.hasRunningTurn := by
  rw [Bool.eq_iff_iff, SessionRuntime.hasRunningTurn_iff, SessionRuntime.hasRunningTurn_iff]
  simp only [same]

theorem start_session (sessionId : String) (replayCapacity : Nat) (transcript : Journal Json) :
    SessionFit (.start sessionId replayCapacity transcript) := by
  obtain ⟨status, inFlight, -⟩ :=
    submitGate_markers (rebuilt_markers 0 replayCapacity transcript)
  constructor
  · exact status
  · intro task worker lookup
    cases lookup
  · exact fun _ => inFlight
  · intro task worker lookup
    cases lookup
  · intro id task sink
    cases sink

theorem submit_session (exclusive : Exclusive world) (session : SessionFit world)
    (requestId input : String) (attempt : AppendAttempt)
    (apart : KeepsTasksApart world (.submit requestId input none attempt)) :
    SessionFit (world.submit requestId input none attempt) := by
  rcases submit_cases world requestId input none attempt with
    refused | ⟨gate, ⟨absurd, -⟩ | ⟨live, extended, started⟩⟩
  · rw [refused]
    exact session
  · exact (absurd rfl).elim
  · have alone := accepted_alone exclusive gate apart
    have idle := ((submitGate_iff _ _).mp gate).2.2.2
    have turns : live.runtime.hasRunningTurn = false := by
      rw [← idle]
      exact hasRunningTurn_congr fun turnId => extended.turns turnId not_false
    have others (task : TaskId) (worker : Worker) (different : task ≠ world.nextTask)
        (lookup : ({ world with live := live }.setWorker world.nextTask
          { route := ⟨world.sessionId, requestId⟩ }).workers.lookup task = some worker) :
        world.workers.lookup task = some worker := by
      rwa [World.setWorker_lookup, if_neg different] at lookup
    rw [started]
    constructor
    · exact (submitGate_markers extended.markers).1.trans session.active
    · intro task worker lookup earlier
      have different : task ≠ world.nextTask := fun same =>
        Nat.lt_irrefl _ (same ▸ earlier : world.nextTask + 1 < world.nextTask + 1)
      by_contra openPhase
      exact alone task worker ⟨others task worker different lookup, openPhase⟩
    · intro none
      exact absurd ⟨by rw [World.setWorker_lookup, if_pos rfl], by simp⟩
        (none world.nextTask { route := ⟨world.sessionId, requestId⟩ })
    · exact fun _ _ _ _ _ => turns
    · intro id task sink
      obtain ⟨worker, turnId, events, lookup, facts⟩ := session.sinks id task sink
      have different : task ≠ world.nextTask := by
        rintro rfl
        rw [exclusive.fresh _ (Nat.le_refl _)] at lookup
        cases lookup
      exact ⟨worker, turnId, events,
        by rw [World.setWorker_lookup, if_neg different]; exact lookup, facts⟩

theorem SessionFit.advance {worker worker' : Worker} (exclusive : Exclusive world)
    (session : SessionFit world) (unfinished : Unfinished world task worker)
    (workers : next.workers = world.workers.insert task worker')
    (tasks : next.nextTask = world.nextTask)
    (status : next.live.runtime.status = world.live.runtime.status)
    (free : worker'.phase = .finished → next.live.runtime.turnSubmitInFlight = false)
    (calm : worker'.core.phase.quiet = true → next.live.runtime.hasRunningTurn = false)
    (sinks : ∀ id other, (next.agent id).eventSink = some other →
      if other = task then
        worker'.core.agent = id ∧ ∃ turnId events, worker'.core.phase = .running turnId events
      else (world.agent id).eventSink = some other) :
    SessionFit next := by
  have latest := unfinished_latest exclusive session unfinished
  have lookups (other : TaskId) : next.workers.lookup other =
      if other = task then some worker' else world.workers.lookup other := by
    rw [workers, Table.lookup_insert_eq]
  constructor
  · rw [status]
    exact session.active
  · intro other found lookup earlier
    rw [tasks] at earlier
    have different : other ≠ task := by
      rintro rfl
      exact Nat.lt_irrefl _ (latest ▸ earlier)
    rw [lookups, if_neg different] at lookup
    exact session.older other found lookup earlier
  · intro none
    apply free
    by_contra openPhase
    exact none task worker' ⟨by rw [lookups, if_pos rfl], openPhase⟩
  · intro other found lookup last quiet
    rw [tasks, ← latest] at last
    obtain rfl := Nat.succ.inj last
    rw [lookups, if_pos rfl, Option.some.injEq] at lookup
    exact calm (lookup ▸ quiet)
  · intro id other sink
    have facts := sinks id other sink
    by_cases same : other = task
    · rw [if_pos same] at facts
      obtain ⟨agent, turnId, events, phase⟩ := facts
      exact ⟨worker', turnId, events, by rw [lookups, if_pos same], agent, phase⟩
    · rw [if_neg same] at facts
      obtain ⟨found, turnId, events, lookup, facts⟩ := session.sinks id other facts
      exact ⟨found, turnId, events, by rw [lookups, if_neg same]; exact lookup, facts⟩

theorem kept_sinks {worker worker' : Worker} (session : SessionFit world)
    (present : world.workers.lookup task = some worker) (agents : next.agents = world.agents)
    (core : ∀ turnId events, worker.core.phase = .running turnId events →
      worker'.core.phase = worker.core.phase ∧ worker'.core.agent = worker.core.agent)
    (id : AgentId) (other : TaskId) (sink : (next.agent id).eventSink = some other) :
    if other = task then
      worker'.core.agent = id ∧ ∃ turnId events, worker'.core.phase = .running turnId events
    else (world.agent id).eventSink = some other := by
  rw [World.agent, agents] at sink
  by_cases same : other = task
  · subst same
    obtain ⟨found, turnId, events, lookup, agent, phase⟩ := session.sinks id other sink
    cases present.symm.trans lookup
    obtain ⟨samePhase, sameAgent⟩ := core turnId events phase
    rw [if_pos rfl]
    exact ⟨sameAgent.trans agent, turnId, events, samePhase.trans phase⟩
  · rw [if_neg same]
    exact sink

theorem workerStep_session (named : world.live.runtime.NamesPublic) (exclusive : Exclusive world)
    (session : SessionFit world) (fits : LocalFit worker)
    (present : world.workers.lookup task = some worker) (step : WorkerStep)
    (stepped : world.workerStep task worker step = some next) : SessionFit next := by
  have calm (unfinished : worker.phase ≠ .finished) (quiet : worker.core.phase.quiet = true) :
      world.live.runtime.hasRunningTurn = false :=
    session.calm task worker present
      (unfinished_latest exclusive session ⟨present, unfinished⟩) quiet
  cases step with
  | begin =>
    obtain ⟨phase, rfl⟩ := begin_some stepped
    have unspawned := fits.spawned.mp phase
    have open' : worker.phase ≠ .finished := by simp [phase]
    refine session.advance exclusive ⟨present, open'⟩ rfl rfl rfl (by simp) ?_
      (kept_sinks session present rfl (by simp [unspawned]))
    exact fun _ => calm open' (by rw [unspawned]; rfl)
  | publishHandle =>
    obtain ⟨phase, abortNow, rfl⟩ := publishHandle_some stepped
    have open' : worker.phase ≠ .finished := by simp [phase]
    refine session.advance exclusive ⟨present, open'⟩ rfl rfl rfl (by simp) ?_
      (kept_sinks session present rfl fun _ _ _ => ⟨rfl, rfl⟩)
    exact fun quiet => calm open' quiet
  | receive first second =>
    obtain ⟨phase, event, rest, live, mapped, reply, queue, projected, rfl⟩ := receive_some stepped
    have extended := mapCoreEvent_extends world.live first second worker.route event
      worker.reply named
    rw [projected] at extended
    have status := (submitGate_markers extended.markers).1
    refine session.advance exclusive ⟨present, by simp [phase]⟩ rfl rfl status (by simp [phase]) ?_
      (kept_sinks session present rfl fun _ _ _ => ⟨rfl, rfl⟩)
    intro quiet
    have empty := (fits.silent quiet).1
    rw [queue] at empty
    cases empty
  | join =>
    obtain ⟨phase, queue, -, outcome, after, ended, either, rfl⟩ := join_some stepped
    have open' : worker.phase ≠ .finished := by simp [phase]
    refine session.advance exclusive ⟨present, open'⟩ rfl rfl rfl (fun _ => rfl) ?_
      (kept_sinks session present rfl fun _ _ _ => ⟨rfl, rfl⟩)
    exact fun quiet => calm open' quiet
  | conclude attempt =>
    obtain ⟨phase, live, worker', rfl, finished, core, queue, known, cases⟩ :=
      conclude_cases stepped
    have open' : worker.phase ≠ .finished := by simp [phase]
    have free : world.live.runtime.turnSubmitInFlight = false := by
      have fit := exclusive.markers task worker present
      simp only [MarkersFit, phase] at fit
      exact fit.1
    have facts : live.runtime.markers = world.live.runtime.markers ∧
        (worker.core.phase.quiet = true → live.runtime.hasRunningTurn = false) := by
      rcases cases with ⟨cancelled, rfl, -⟩ | ⟨-, -, -, extended⟩
      · have extended := interrupt_extends world.live attempt worker
        refine ⟨extended.markers, fun quiet => ?_⟩
        have idle := calm open' quiet
        have unknown := (fits.silent quiet).2
        rw [← idle]
        apply hasRunningTurn_congr
        intro turnId
        apply extended.turns
        rw [World.interruptedTurn, unknown, (idle_iff_find _).mp idle]
        exact fun absurd => by cases absurd
      · have extended := extended (fun _ => False) (fun _ => False)
        refine ⟨extended.markers, fun quiet => ?_⟩
        rw [← calm open' quiet]
        exact hasRunningTurn_congr fun turnId => extended.turns turnId not_false
    obtain ⟨status, inFlight, -⟩ := submitGate_markers facts.1
    refine session.advance exclusive ⟨present, open'⟩ rfl rfl status
      (fun _ => inFlight.trans free) ?_
      (kept_sinks session present rfl fun _ _ _ => ⟨by rw [core], by rw [core]⟩)
    rw [core]
    exact facts.2

theorem coreStep_session (exclusive : Exclusive world) (session : SessionFit world)
    (fits : LocalFit worker) (present : world.workers.lookup task = some worker) (step : CoreStep)
    (waiting : step = .cancel → worker.core.phase = .waiting) (sound : step ≠ .panic)
    (stepped : world.coreStep task worker step = some next) : SessionFit next := by
  have open' (running : ¬ ∃ outcome, worker.core.phase = .ended outcome) :
      worker.phase ≠ .finished := fun done => running (fits.ended (.inr done))
  have owner (id : AgentId) (sink : (world.agent id).eventSink = some task) :
      worker.core.agent = id := by
    obtain ⟨found, _, _, lookup, agent, -⟩ := session.sinks id task sink
    cases present.symm.trans lookup
    exact agent
  cases step with
  | acquire =>
    obtain ⟨phase, rfl⟩ := acquire_some stepped
    have unfinished := open' (by simp [phase])
    refine session.advance exclusive ⟨present, unfinished⟩ rfl rfl rfl
      (fun done => (unfinished done).elim) (by simp [CorePhase.quiet]) ?_
    intro id other sink
    rw [World.setWorker_agent, World.setAgent_agent] at sink
    by_cases own : id = worker.core.agent
    · rw [if_pos own, Option.some.injEq] at sink
      rw [if_pos sink.symm]
      exact ⟨own.symm, _, _, rfl⟩
    · rw [if_neg own] at sink
      have apart : other ≠ task := fun same => own (owner id (same ▸ sink)).symm
      rwa [if_neg apart]
  | emitEvent event =>
    obtain ⟨turnId, events, phase, -, rfl⟩ := emitEvent_some stepped
    have unfinished := open' (by simp [phase])
    refine session.advance exclusive ⟨present, unfinished⟩ rfl rfl rfl
      (fun done => (unfinished done).elim) (by simp [CorePhase.quiet]) ?_
    intro id other sink
    rw [World.setWorker_agent] at sink
    split_ifs with same
    · exact ⟨owner id (same ▸ sink), turnId, _, rfl⟩
    · exact sink
  | complete =>
    obtain ⟨turnId, events, phase, rfl⟩ := complete_some stepped
    have unfinished := open' (by simp [phase])
    refine session.advance exclusive ⟨present, unfinished⟩ rfl rfl rfl
      (fun done => (unfinished done).elim) (by simp [CorePhase.quiet]) ?_
    intro id other sink
    rw [World.setWorker_agent, World.setAgent_agent] at sink
    by_cases own : id = worker.core.agent
    · rw [if_pos own] at sink
      cases sink
    · rw [if_neg own] at sink
      have apart : other ≠ task := fun same => own (owner id (same ▸ sink)).symm
      rwa [if_neg apart]
  | cancel =>
    obtain ⟨-, rfl⟩ := cancel_some stepped
    have phase := waiting rfl
    have unfinished := open' (by simp [phase])
    have calm := session.calm task worker present
      (unfinished_latest exclusive session ⟨present, unfinished⟩) (by rw [phase]; rfl)
    have frame := dropCore_frame world .cancelled task worker
    have agents : (world.dropCore .cancelled task worker).agents = world.agents := by
      unfold World.dropCore
      rw [phase]
      rfl
    refine session.advance exclusive ⟨present, unfinished⟩ frame.workers frame.nextTask
      (by rw [frame.live]) (fun done => (unfinished done).elim) (fun _ => by rw [frame.live, calm])
      (kept_sinks session present agents (by simp [phase]))
  | panic => exact absurd rfl sound

theorem recovery_preserved :
    Preserves World.step DropsOnlyWaiting fun world =>
      (world.live.runtime.NamesPublic ∧ Exclusive world) ∧
        EveryWorker LocalFit world ∧ SessionFit world := by
  intro world step next ⟨⟨named, exclusive⟩, every, session⟩ allowed stepped
  refine ⟨exclusive_preserved world step next ⟨named, exclusive⟩ allowed.1 stepped, ?_⟩
  cases step with
  | submit requestId input messageFailure attempt =>
    cases stepped
    obtain ⟨apart, rfl⟩ := allowed
    refine ⟨?_, submit_session exclusive session requestId input attempt apart⟩
    rcases submit_cases world requestId input none attempt with
      refused | ⟨-, ⟨absurd, -⟩ | ⟨live, -, started⟩⟩
    · rwa [refused]
    · exact (absurd rfl).elim
    · rw [started]
      exact every.insert (newWorker_local _) rfl
  | abort =>
    cases stepped
    cases handle : world.live.runtime.currentTurnAbortHandle with
    | none => simpa [World.abort, handle] using ⟨every, session⟩
    | some task =>
      obtain ⟨worker, unfinished, phase, inFlight⟩ := handle_owner exclusive handle
      have fits := every task worker unfinished.1
      rw [abort_worker handle unfinished.1]
      constructor
      · exact every.insert (fits.requestAbort true) rfl
      · refine session.advance exclusive unfinished rfl rfl rfl (fun _ => inFlight) ?_
          (kept_sinks session unfinished.1 rfl fun _ _ _ => ⟨rfl, rfl⟩)
        exact session.calm task worker unfinished.1 (unfinished_latest exclusive session unfinished)
  | clear =>
    cases stepped
    exact ⟨every, rfl, session.older, fun _ => rfl, fun _ _ _ _ _ => rfl, session.sinks⟩
  | restart =>
    cases stepped
    refine ⟨?_, start_session _ _ _⟩
    intro task worker lookup
    cases lookup
  | worker task step =>
    obtain ⟨worker, present, stepped⟩ := Option.bind_eq_some_iff.mp stepped
    have fits := every task worker present
    obtain ⟨worker', workers, own⟩ := workerStep_local named fits step (by
      rintro attempt rfl
      exact allowed.2) stepped
    exact ⟨every.insert own workers,
      workerStep_session named exclusive session fits present step stepped⟩
  | core task step =>
    obtain ⟨worker, present, stepped⟩ := Option.bind_eq_some_iff.mp stepped
    have fits := every task worker present
    have waiting : step = .cancel → worker.core.phase = .waiting := by
      rintro rfl
      exact allowed.2 worker present
    have sound : step ≠ .panic := by
      rintro rfl
      exact allowed.2
    obtain ⟨worker', workers, own⟩ := coreStep_local fits step waiting sound stepped
    exact ⟨every.insert own workers,
      coreStep_session exclusive session fits present step waiting sound stepped⟩

theorem start_recovery (sessionId : String) (replayCapacity : Nat)
    (transcript : Journal Json) :
    EveryWorker LocalFit (.start sessionId replayCapacity transcript) ∧
      SessionFit (.start sessionId replayCapacity transcript) := by
  refine ⟨?_, start_session sessionId replayCapacity transcript⟩
  intro task worker lookup
  cases lookup

def Stuck (world : World) (task : TaskId) (worker : Worker) : Prop :=
  ∀ step, world.workerStep task worker step = none

/-- The latest task was dropped, its worker has come to rest, and the session is free again. -/
def Recovered (world : World) (worker : Worker) : Prop :=
  worker.phase = .finished ∧ world.live.runtime.hasRunningTurn = false ∧
    (worker.core.phase = .ended .cancelled → worker.interruptions = 1) ∧
    submitGate world.live.runtime world.sessionId = .ok ()

def Dropped (worker : Worker) : Prop :=
  worker.core.phase = .ended .cancelled ∨ worker.core.phase = .ended .panicked

theorem dropped_closed (session : SessionFit world)
    (present : world.workers.lookup task = some worker)
    (cancelled : worker.core.phase = .ended .cancelled) :
    world.senderAlive task worker = false := by
  have noSink (id : AgentId) : (world.agent id).eventSink ≠ some task := by
    intro sink
    obtain ⟨found, turnId, events, lookup, -, phase⟩ := session.sinks id task sink
    cases present.symm.trans lookup
    rw [cancelled] at phase
    cases phase
  simp [World.senderAlive, cancelled, CorePhase.holdsSender, noSink]

theorem stuck_finished (session : SessionFit world) (fits : LocalFit worker)
    (present : world.workers.lookup task = some worker)
    (cancelled : worker.core.phase = .ended .cancelled) (stuck : Stuck world task worker) :
    worker.phase = .finished := by
  cases phase : worker.phase with
  | starting =>
    have unspawned := fits.spawned.mp phase
    rw [cancelled] at unspawned
    cases unspawned
  | spawned =>
    have blocked := stuck .publishHandle
    simp [World.workerStep, World.publishHandle, phase] at blocked
  | receiving =>
    have empty := (fits.silent (by rw [cancelled]; rfl)).1
    have closed := dropped_closed session present cancelled
    have blocked := stuck .join
    simp [World.workerStep, World.join, phase, cancelled, CorePhase.outcome?, empty, closed]
      at blocked
  | joined =>
    have blocked := stuck (.conclude ⟨"", none⟩)
    simp [World.workerStep, World.conclude, phase, cancelled, CorePhase.outcome?] at blocked
  | finished => rfl

theorem dropped_task_recovers (sessionId : String) (replayCapacity : Nat)
    (transcript : Journal Json) (steps : List TurnStep) (world : World)
    (allowed : Meets World.step DropsOnlyWaiting (.start sessionId replayCapacity transcript) steps)
    (ran : run World.step (.start sessionId replayCapacity transcript) steps = some world)
    (task : TaskId) (worker : Worker) (present : world.workers.lookup task = some worker)
    (latest : task + 1 = world.nextTask) (dropped : Dropped worker)
    (stuck : Stuck world task worker) : Recovered world worker := by
  have initial := And.intro
    (And.intro (rebuilt_named 0 replayCapacity transcript)
      (start_exclusive sessionId replayCapacity transcript))
    (start_recovery sessionId replayCapacity transcript)
  obtain ⟨⟨-, exclusive⟩, every, session⟩ := run_invariant recovery_preserved initial allowed ran
  have fits := every task worker present
  have cancelled : worker.core.phase = .ended .cancelled := by
    rcases dropped with cancelled | panicked
    · exact cancelled
    · exact absurd panicked fits.unharmed
  have finished := stuck_finished session fits present cancelled stuck
  have idle := session.calm task worker present latest (by rw [cancelled]; rfl)
  have alone : ∀ other found, ¬ Unfinished world other found := by
    intro other found unfinished
    have last := unfinished_latest exclusive session unfinished
    obtain rfl := Nat.succ.inj (latest.trans last.symm)
    obtain rfl := Option.some.inj (present.symm.trans unfinished.1)
    exact unfinished.2 finished
  have handle : world.live.runtime.currentTurnAbortHandle = none := by
    by_contra held
    obtain ⟨other, found, unfinished⟩ := exclusive.handled held
    exact alone other found unfinished
  refine ⟨finished, idle, fun _ => ?_, ?_⟩
  · rw [fits.counted, finished, cancelled]
    rfl
  · exact (submitGate_iff _ _).mpr ⟨session.active, session.free alone, handle, idle⟩

def abortedWhileWaiting : List TurnStep :=
  [submitHello, .worker 0 .begin, .worker 0 .publishHandle, .abort, .core 0 .cancel,
    .worker 0 .join, .worker 0 (.conclude storedAttempt)]

def abortedWhileRunning : List TurnStep :=
  [submitHello, .worker 0 .begin, .core 0 .acquire, .worker 0 .publishHandle,
    .worker 0 (.receive storedAttempt storedAttempt), .abort, .core 0 .cancel]

theorem abortedWhileWaiting_allowed :
    Meets World.step DropsOnlyWaiting (.start "sess_1" 1 []) abortedWhileWaiting := by
  refine ⟨⟨?_, rfl⟩, ?_⟩
  · rintro task worker ⟨absent, -⟩
    cases absent
  · rintro _ ⟨⟩
    refine ⟨⟨trivial, trivial⟩, ?_⟩
    rintro _ ⟨⟩
    refine ⟨⟨trivial, trivial⟩, ?_⟩
    rintro _ ⟨⟩
    refine ⟨⟨trivial, trivial⟩, ?_⟩
    rintro _ ⟨⟩
    refine ⟨⟨trivial, ?_⟩, ?_⟩
    · rintro _ ⟨⟩
      rfl
    · rintro _ ⟨⟩
      refine ⟨⟨trivial, trivial⟩, ?_⟩
      rintro _ ⟨⟩
      exact ⟨⟨trivial, rfl⟩, fun _ _ => trivial⟩

theorem dropped_task_recovers_witness :
    ∃ world worker, run World.step (.start "sess_1" 1 []) abortedWhileWaiting = some world ∧
      world.workers.lookup 0 = some worker ∧ Recovered world worker := by
  refine ⟨_, _, rfl, rfl, ?_⟩
  refine dropped_task_recovers "sess_1" 1 [] abortedWhileWaiting _ abortedWhileWaiting_allowed rfl
    0 _ rfl rfl (.inl rfl) ?_
  intro step
  cases step <;> rfl

/-- The agent outlives the dropped task and keeps the sender it stored. -/
theorem aborted_turn_blocks :
    ¬ ∀ (sessionId : String) (replayCapacity : Nat) (transcript : Journal Json)
      (steps : List TurnStep) (world : World),
      run World.step (.start sessionId replayCapacity transcript) steps = some world →
      ∀ task worker, world.workers.lookup task = some worker → task + 1 = world.nextTask →
        Dropped worker → Stuck world task worker → Recovered world worker := by
  intro claimed
  have recovered := claimed "sess_1" 1 [] abortedWhileRunning _ rfl 0 _ rfl rfl (.inl rfl) (by
    intro step
    cases step <;> rfl)
  cases recovered.1

end OpenJax.Gateway
