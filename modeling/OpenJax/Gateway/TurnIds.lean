import OpenJax.Gateway.TurnSafety

set_option autoImplicit false

namespace OpenJax.Gateway

open Shared Protocol Transcript

def NoTurnRecorded (world : World) : Prop :=
  ∀ record ∈ world.live.transcript, record.turnId = none

/-- The agent is replaced only before the transcript records a turn, and a clear finds no
unfinished task. -/
def KeepsTurnIds (world : World) : TurnStep → Prop
  | .clear => (∀ task worker, ¬ Unfinished world task worker) ∧ NoTurnRecorded world
  | .restart => NoTurnRecorded world
  | _ => True

def NewTurnsFresh (world : World) : Prop :=
  ∀ task worker, world.workers.lookup task = some worker → worker.core.phase = .waiting →
    ∀ record ∈ world.live.transcript, record.turnId ≠
      some (SessionRuntime.publicTurnId (world.agent worker.core.agent).nextTurnId)

def RecordsDistinct (world : World) : Prop := (world.live.transcript.filterMap turnKey).Nodup

def GivenId (count : Nat) (turnId : String) : Prop :=
  ∃ coreTurnId, coreTurnId < count ∧ turnId = SessionRuntime.publicTurnId coreTurnId

theorem GivenId.mono {count more : Nat} (le : count ≤ more) {turnId : String}
    (given : GivenId count turnId) : GivenId more turnId := by
  obtain ⟨coreTurnId, small, same⟩ := given
  exact ⟨coreTurnId, Nat.lt_of_lt_of_le small le, same⟩

theorem not_givenId (count : Nat) : ¬ GivenId count (SessionRuntime.publicTurnId count) := by
  rintro ⟨coreTurnId, small, same⟩
  have equal := SessionRuntime.publicTurnId_inj same
  omega

structure LiveIds (count : Nat) (live : LiveSession) : Prop where
  numbered : Numbered live
  recorded : ∀ record ∈ live.transcript, ∀ turnId, record.turnId = some turnId →
    GivenId count turnId
  tracked : ∀ turnId turn, live.runtime.turns.lookup turnId = some turn → GivenId count turnId

structure WorkerIds (count : Nat) (agent : AgentId) (worker : Worker) : Prop where
  ended : worker.phase = .joined ∨ worker.phase = .finished →
    worker.core.phase.holdsAgent = false
  agent : worker.core.phase.holdsAgent = true → worker.core.agent = agent
  running : ∀ turnId events, worker.core.phase = .running turnId events → turnId < count
  queue : worker.phase ≠ .finished → ∀ event ∈ worker.queue, ∀ turnId,
    event.turnId? = some turnId → turnId < count
  known : worker.phase ≠ .finished → ∀ turnId, worker.lastKnownPublicTurnId = some turnId →
    GivenId count turnId

namespace World

def turnCount (world : World) : Nat := (world.agent world.live.runtime.agent).nextTurnId

end World

structure IdsFit (world : World) : Prop where
  live : LiveIds world.turnCount world.live
  workers : ∀ task worker, world.workers.lookup task = some worker →
    WorkerIds world.turnCount world.live.runtime.agent worker

theorem LiveIds.mono {count more : Nat} (le : count ≤ more) {live : LiveSession}
    (ids : LiveIds count live) : LiveIds more live :=
  ⟨ids.numbered, fun record member turnId found => (ids.recorded record member turnId found).mono le,
    fun turnId turn found => (ids.tracked turnId turn found).mono le⟩

variable {worker : Worker}

theorem WorkerIds.mono {count more : Nat} (le : count ≤ more) {agent : AgentId}
    (ids : WorkerIds count agent worker) : WorkerIds more agent worker :=
  ⟨ids.ended, ids.agent,
    fun turnId events phase => Nat.lt_of_lt_of_le (ids.running turnId events phase) le,
    fun unfinished event member turnId own =>
      Nat.lt_of_lt_of_le (ids.queue unfinished event member turnId own) le,
    fun unfinished turnId found => (ids.known unfinished turnId found).mono le⟩

variable {count : Nat}

theorem LiveIds.remark {before after : LiveSession} (ids : LiveIds count before)
    (transcript : after.transcript = before.transcript)
    (turns : after.runtime.turns = before.runtime.turns)
    (numbers : after.runtime.turnEventSeq = before.runtime.turnEventSeq) : LiveIds count after := by
  obtain ⟨⟨bounded, distinct⟩, recorded, tracked⟩ := ids
  unfold SessionRuntime.turnSeq at bounded
  refine ⟨⟨?_, ?_⟩, ?_, ?_⟩
  · rw [transcript]
    unfold SessionRuntime.turnSeq
    rw [numbers]
    exact bounded
  · rwa [transcript]
  · rwa [transcript]
  · rwa [turns]

theorem LiveIds.extend {before after : LiveSession} {turnIds kinds : String → Prop}
    (ids : LiveIds count before) (extended : Extends turnIds kinds before after)
    (given : ∀ turnId, turnIds turnId → GivenId count turnId) : LiveIds count after := by
  constructor
  · exact extended.numbered ids.numbered
  · obtain ⟨added, eq, fits⟩ := extended.transcript
    intro record member turnId found
    rw [eq] at member
    rcases List.mem_append.mp member with old | new
    · exact ids.recorded record old turnId found
    · exact given turnId ((fits record new).2 turnId found)
  · intro turnId turn found
    by_cases own : turnIds turnId
    · exact given turnId own
    · rw [extended.turns turnId own] at found
      exact ids.tracked turnId turn found

variable {world next : World} {task : TaskId}

theorem IdsFit.advance {worker' : Worker} (ids : IdsFit world)
    (workers : next.workers = world.workers.insert task worker')
    (agent : next.live.runtime.agent = world.live.runtime.agent) (counted : next.turnCount = count)
    (grown : world.turnCount ≤ count) (live : LiveIds count next.live)
    (own : WorkerIds count world.live.runtime.agent worker') : IdsFit next := by
  subst counted
  refine ⟨live, ?_⟩
  intro other found lookup
  rw [workers, Table.lookup_insert_eq] at lookup
  rw [agent]
  by_cases same : other = task
  · rw [if_pos same, Option.some.injEq] at lookup
    exact lookup ▸ own
  · rw [if_neg same] at lookup
    exact (ids.workers other found lookup).mono grown

theorem IdsFit.keep {worker' : Worker} (ids : IdsFit world)
    (workers : next.workers = world.workers.insert task worker')
    (agents : next.agents = world.agents)
    (agent : next.live.runtime.agent = world.live.runtime.agent)
    (live : LiveIds world.turnCount next.live)
    (own : WorkerIds world.turnCount world.live.runtime.agent worker') : IdsFit next := by
  refine ids.advance workers agent ?_ (Nat.le_refl _) live own
  rw [World.turnCount, World.turnCount, agent, World.agent, World.agent, agents]

variable {world : World}

theorem submit_ids (ids : IdsFit world) (requestId input : String)
    (messageFailure : Option ApiError) (attempt : AppendAttempt) :
    IdsFit (world.submit requestId input messageFailure attempt) := by
  have marked : LiveIds world.turnCount
      { world.live with runtime := markSubmitted world.live.runtime } :=
    ids.live.remark rfl rfl rfl
  rcases submit_cases world requestId input messageFailure attempt with
    refused | ⟨-, ⟨-, stopped⟩ | ⟨live, extended, started⟩⟩
  · rw [refused]
    exact ids
  · rw [stopped]
    exact ⟨marked, ids.workers⟩
  · have agent : live.runtime.agent = world.live.runtime.agent :=
      congrArg SessionRuntime.Markers.agent extended.markers
    rw [started]
    refine ids.keep rfl rfl agent (marked.extend extended fun _ none => none.elim) ?_
    constructor <;> simp [CorePhase.holdsAgent]

theorem interruptedTurn_given {live : LiveSession} (ids : LiveIds count live)
    (known : ∀ turnId, worker.lastKnownPublicTurnId = some turnId → GivenId count turnId)
    (turnId : String) (found : World.interruptedTurn live.runtime worker = some turnId) :
    GivenId count turnId := by
  unfold World.interruptedTurn at found
  cases last : worker.lastKnownPublicTurnId with
  | some seen =>
    rw [last] at found
    obtain rfl := Option.some.inj found
    exact known seen last
  | none =>
    rw [last] at found
    obtain ⟨entry, running, rfl⟩ := Option.map_eq_some_iff.mp found
    have member := List.mem_of_find?_eq_some running
    exact ids.tracked entry.1 entry.2 ((Table.entry_iff _ _ _).mp member)

theorem workerStep_ids (named : world.live.runtime.NamesPublic) (ids : IdsFit world)
    (present : world.workers.lookup task = some worker) (step : WorkerStep)
    (stepped : world.workerStep task worker step = some next) : IdsFit next := by
  have own := ids.workers task worker present
  cases step with
  | begin =>
    obtain ⟨phase, rfl⟩ := begin_some stepped
    have open' : worker.phase ≠ .finished := by simp [phase]
    exact ids.keep rfl rfl rfl ids.live
      ⟨by simp, fun _ => rfl, by simp, fun _ => own.queue open', fun _ => own.known open'⟩
  | publishHandle =>
    obtain ⟨phase, abortNow, rfl⟩ := publishHandle_some stepped
    have open' : worker.phase ≠ .finished := by simp [phase]
    exact ids.keep rfl rfl rfl (ids.live.remark rfl rfl rfl)
      ⟨by simp, own.agent, own.running, fun _ => own.queue open', fun _ => own.known open'⟩
  | receive first second =>
    obtain ⟨phase, event, rest, live, mapped, reply, queue, projected, rfl⟩ := receive_some stepped
    have open' : worker.phase ≠ .finished := by simp [phase]
    have extended := mapCoreEvent_extends world.live first second worker.route event
      worker.reply named
    have turn := mapCoreEvent_turn world.live first second worker.route event worker.reply named
    rw [projected] at extended turn
    have events : ∀ other ∈ rest, ∀ turnId, other.turnId? = some turnId →
        turnId < world.turnCount := by
      intro other member
      exact own.queue open' other (by rw [queue]; exact List.mem_cons_of_mem _ member)
    have given (turnId : String) (owned : ownTurn event turnId) :
        GivenId world.turnCount turnId := by
      obtain ⟨coreTurnId, eventTurn, same⟩ := owned
      exact ⟨coreTurnId, own.queue open' event (by rw [queue]; exact List.mem_cons_self) _ eventTurn,
        same⟩
    have agent : live.runtime.agent = world.live.runtime.agent :=
      congrArg SessionRuntime.Markers.agent extended.markers
    refine ids.keep rfl rfl agent (ids.live.extend extended given)
      ⟨own.ended, own.agent, own.running, fun _ => events, ?_⟩
    intro _ turnId found
    cases mapped with
    | none => exact own.known open' turnId found
    | some seen => exact given turnId (turn turnId found)
  | join =>
    obtain ⟨phase, queue, -, outcome, after, ended, either, rfl⟩ := join_some stepped
    have open' : worker.phase ≠ .finished := by simp [phase]
    exact ids.keep rfl rfl rfl (ids.live.remark rfl rfl rfl)
      ⟨fun _ => by simp [ended, CorePhase.holdsAgent], own.agent, own.running,
        fun _ => own.queue open', fun _ => own.known open'⟩
  | conclude attempt =>
    obtain ⟨phase, live, worker', rfl, finished, core, queue, known, cases⟩ :=
      conclude_cases stepped
    have open' : worker.phase ≠ .finished := by simp [phase]
    have facts : live.runtime.markers = world.live.runtime.markers ∧
        LiveIds world.turnCount live := by
      rcases cases with ⟨-, rfl, -⟩ | ⟨-, -, -, extended⟩
      · have extended := interrupt_extends world.live attempt worker
        exact ⟨extended.markers,
          ids.live.extend extended (interruptedTurn_given ids.live (own.known open'))⟩
      · have extended := extended (fun _ => False) (fun _ => True)
        exact ⟨extended.markers, ids.live.extend extended fun _ none => none.elim⟩
    have agent : live.runtime.agent = world.live.runtime.agent :=
      congrArg SessionRuntime.Markers.agent facts.1
    refine ids.keep rfl rfl agent facts.2 ?_
    constructor
    · rw [core]
      exact fun _ => own.ended (.inl phase)
    · rw [core]
      exact own.agent
    · rw [core]
      exact own.running
    · exact fun done => (done finished).elim
    · exact fun done => (done finished).elim

theorem core_kept {worker worker' : Worker} (ids : IdsFit world)
    (frame : CoreFrame world next task worker worker')
    (numbers : ∀ id, (next.agent id).nextTurnId = (world.agent id).nextTurnId)
    (own : WorkerIds world.turnCount world.live.runtime.agent worker') : IdsFit next := by
  refine ids.advance frame.workers (by rw [frame.live]) ?_ (Nat.le_refl _) ?_ own
  · rw [World.turnCount, World.turnCount, frame.live, numbers]
  · rw [frame.live]
    exact ids.live

theorem setAgent_numbers (world : World) (id other : AgentId) (agent : Agent)
    (same : agent.nextTurnId = (world.agent id).nextTurnId) :
    ((world.setAgent id agent).agent other).nextTurnId = (world.agent other).nextTurnId := by
  rw [World.setAgent_agent]
  split_ifs with own
  · rw [own, same]
  · rfl

theorem dropCore_numbers (world : World) (outcome : CoreOutcome) (task : TaskId)
    (worker : Worker) (id : AgentId) :
    ((world.dropCore outcome task worker).agent id).nextTurnId = (world.agent id).nextTurnId := by
  unfold World.dropCore
  cases worker.core.phase with
  | running turnId events => exact setAgent_numbers world _ id _ rfl
  | unspawned | waiting | ended => rfl

theorem WorkerIds.push {agent : AgentId} (own : WorkerIds count agent worker)
    (active : worker.core.phase.holdsAgent = true) {event : Event} {turnId : Nat}
    (eventTurn : event.turnId? = some turnId) (small : turnId < count) (phase : CorePhase)
    (running : ∀ other events, phase = .running other events → other < count) :
    WorkerIds count agent
      { worker with
        queue := worker.queue ++ [event]
        core := { worker.core with phase := phase } } := by
  have early (done : worker.phase = .joined ∨ worker.phase = .finished) : False := by
    have released := own.ended done
    rw [active] at released
    cases released
  refine ⟨fun done => (early done).elim, fun _ => own.agent active, running, ?_, own.known⟩
  intro unfinished other member found otherTurn
  rcases List.mem_append.mp member with old | new
  · exact own.queue unfinished other old found otherTurn
  · rw [List.mem_singleton.mp new, eventTurn, Option.some.injEq] at otherTurn
    exact otherTurn ▸ small

theorem coreStep_ids (ids : IdsFit world) (present : world.workers.lookup task = some worker)
    (step : CoreStep) (stepped : world.coreStep task worker step = some next) : IdsFit next := by
  have own := ids.workers task worker present
  have droppedIds (outcome : CoreOutcome) : WorkerIds world.turnCount world.live.runtime.agent
      { worker with core := { worker.core with phase := .ended outcome } } :=
    ⟨fun _ => rfl, by simp [CorePhase.holdsAgent], by simp, own.queue, own.known⟩
  cases step with
  | acquire =>
    obtain ⟨phase, rfl⟩ := acquire_some stepped
    have active : worker.core.phase.holdsAgent = true := by rw [phase]; rfl
    have agent := own.agent active
    have count : (world.agent worker.core.agent).nextTurnId = world.turnCount := by
      rw [agent, World.turnCount]
    refine ids.advance rfl rfl ?_ (Nat.le_succ _) (ids.live.mono (Nat.le_succ _)) ?_
    · rw [World.turnCount, World.setWorker_agent, World.setAgent_agent]
      exact (congrArg Agent.nextTurnId (if_pos agent.symm)).trans (congrArg (· + 1) count)
    · apply (own.mono (Nat.le_succ _)).push active rfl (by rw [count]; exact Nat.lt_succ_self _)
      rintro other events ⟨⟩
      rw [count]
      exact Nat.lt_succ_self _
  | emitEvent event =>
    obtain ⟨turnId, events, phase, eventTurn, rfl⟩ := emitEvent_some stepped
    have small := own.running turnId events phase
    refine core_kept ids ⟨rfl, rfl, rfl, rfl, rfl, rfl, rfl⟩ (fun _ => rfl) ?_
    apply own.push (by rw [phase]; rfl) eventTurn small
    rintro other pushed ⟨⟩
    exact small
  | complete =>
    obtain ⟨turnId, events, phase, rfl⟩ := complete_some stepped
    have small := own.running turnId events phase
    refine core_kept ids ⟨rfl, rfl, rfl, rfl, rfl, rfl, rfl⟩
      (fun id => setAgent_numbers world _ id _ rfl) ?_
    exact own.push (by rw [phase]; rfl) rfl small _ fun other pushed absurd => by cases absurd
  | cancel =>
    obtain ⟨-, rfl⟩ := cancel_some stepped
    exact core_kept ids (dropCore_frame world .cancelled task worker)
      (dropCore_numbers world .cancelled task worker) (droppedIds .cancelled)
  | panic =>
    obtain ⟨turnId, events, -, rfl⟩ := panic_some stepped
    exact core_kept ids (dropCore_frame world .panicked task worker)
      (dropCore_numbers world .panicked task worker) (droppedIds .panicked)

theorem ids_unique (ids : IdsFit world) : RecordsDistinct world ∧ NewTurnsFresh world := by
  refine ⟨ids.live.numbered.distinct, ?_⟩
  intro task worker present waiting record member found
  have own := (ids.workers task worker present).agent (by rw [waiting]; rfl)
  have given := ids.live.recorded record member _ found
  rw [own] at given
  exact not_givenId _ given

theorem replay_turns (initial : SessionRuntime) (events : Journal Json)
    (unrecorded : ∀ record ∈ events, record.turnId = none) :
    (events.foldl replayRecord initial).turns = initial.turns := by
  induction events generalizing initial with
  | nil => rfl
  | cons row rest ih =>
    rw [List.foldl_cons, ih _ fun record member => unrecorded record (List.mem_cons_of_mem _ member)]
    unfold replayRecord
    rw [unrecorded row List.mem_cons_self]

theorem unrecorded_ids (unrecorded : NoTurnRecorded world)
    (untracked : ∀ turnId, world.live.runtime.turns.lookup turnId = none)
    (resting : ∀ task worker, world.workers.lookup task = some worker →
      worker.phase = .finished ∧ worker.core.phase.holdsAgent = false) :
    IdsFit world := by
  refine ⟨⟨⟨?_, ?_⟩, ?_, ?_⟩, ?_⟩
  · intro record member turnId found
    rw [unrecorded record member] at found
    cases found
  · have none : world.live.transcript.filterMap turnKey = [] := by
      rw [List.filterMap_eq_nil_iff]
      intro record member
      rw [turnKey, unrecorded record member, Option.map_none]
    rw [none]
    exact List.nodup_nil
  · intro record member turnId found
    rw [unrecorded record member] at found
    cases found
  · intro turnId turn found
    rw [untracked turnId] at found
    cases found
  · intro task worker lookup
    obtain ⟨finished, released⟩ := resting task worker lookup
    refine ⟨fun _ => released, ?_, ?_, fun done => (done finished).elim,
      fun done => (done finished).elim⟩
    · rw [released]
      exact fun absurd => by cases absurd
    · intro turnId events running
      rw [running] at released
      cases released

theorem start_ids (sessionId : String) (replayCapacity : Nat) (transcript : Journal Json)
    (unrecorded : ∀ record ∈ transcript, record.turnId = none) :
    IdsFit (.start sessionId replayCapacity transcript) := by
  refine unrecorded_ids (show NoTurnRecorded _ from unrecorded) ?_ ?_
  · intro turnId
    simp only [World.start, buildSessionRuntime, replay_turns _ transcript unrecorded,
      runtimeForReplay]
    cases transcript.getLast? <;> rfl
  · intro task worker lookup
    cases lookup

theorem abort_ids (ids : IdsFit world) : IdsFit world.abort := by
  cases handle : world.live.runtime.currentTurnAbortHandle with
  | none => simpa [World.abort, handle] using ids
  | some task =>
    cases present : world.workers.lookup task with
    | none =>
      have same : world.abort = world.setRuntime { world.live.runtime with
          currentTurnAbortHandle := none
          turnAbortRequested := true } := by
        simp [World.abort, handle, World.requestAbort, present]
      rw [same]
      exact ⟨ids.live.remark rfl rfl rfl, ids.workers⟩
    | some worker =>
      have own := ids.workers task worker present
      rw [abort_worker handle present]
      exact ids.keep rfl rfl rfl (ids.live.remark rfl rfl rfl)
        ⟨own.ended, own.agent, own.running, own.queue, own.known⟩

theorem ids_preserved :
    Preserves World.step KeepsTurnIds fun world =>
      world.live.runtime.NamesPublic ∧ IdsFit world := by
  intro world step next ⟨named, ids⟩ allowed stepped
  refine ⟨step_named named step stepped, ?_⟩
  cases step with
  | submit requestId input messageFailure attempt =>
    cases stepped
    exact submit_ids ids requestId input messageFailure attempt
  | abort =>
    cases stepped
    exact abort_ids ids
  | clear =>
    cases stepped
    obtain ⟨alone, unrecorded⟩ := allowed
    refine unrecorded_ids (show NoTurnRecorded _ from unrecorded) (fun _ => rfl) ?_
    intro task worker lookup
    have finished : worker.phase = .finished := by
      by_contra openPhase
      exact alone task worker ⟨lookup, openPhase⟩
    exact ⟨finished, (ids.workers task worker lookup).ended (.inr finished)⟩
  | restart =>
    cases stepped
    exact start_ids _ _ _ allowed
  | worker task step =>
    obtain ⟨worker, present, stepped⟩ := Option.bind_eq_some_iff.mp stepped
    exact workerStep_ids named ids present step stepped
  | core task step =>
    obtain ⟨worker, present, stepped⟩ := Option.bind_eq_some_iff.mp stepped
    exact coreStep_ids ids present step stepped

theorem turn_ids_unique (sessionId : String) (replayCapacity : Nat) (steps : List TurnStep)
    (world : World)
    (allowed : Meets World.step KeepsTurnIds (.start sessionId replayCapacity []) steps)
    (ran : run World.step (.start sessionId replayCapacity []) steps = some world) :
    RecordsDistinct world ∧ NewTurnsFresh world := by
  have initial := And.intro (rebuilt_named 0 replayCapacity [])
    (start_ids sessionId replayCapacity [] (by simp))
  exact ids_unique (run_invariant ids_preserved initial allowed ran).2

def wholeTurn (task : TaskId) : List TurnStep :=
  [submitHello, .worker task .begin, .core task .acquire, .worker task .publishHandle,
    .core task .complete, .worker task (.receive storedAttempt storedAttempt),
    .worker task (.receive storedAttempt storedAttempt), .worker task .join]

theorem turn_ids_unique_witness :
    ∃ world, run World.step (.start "sess_1" 1 []) [.clear, submitHello] = some world ∧
      RecordsDistinct world ∧ NewTurnsFresh world := by
  refine ⟨_, rfl, turn_ids_unique "sess_1" 1 [.clear, submitHello] _ ?_ rfl⟩
  refine ⟨⟨?_, ?_⟩, fun _ _ => ⟨trivial, fun _ _ => trivial⟩⟩
  · rintro task worker ⟨absent, -⟩
    cases absent
  · rintro record ⟨⟩

theorem cleared_turn_ids_repeat :
    ¬ ∀ (sessionId : String) (replayCapacity : Nat) (steps : List TurnStep) (world : World),
      run World.step (.start sessionId replayCapacity []) steps = some world →
        RecordsDistinct world ∧ NewTurnsFresh world := by
  intro claimed
  have keys : (run World.step (.start "sess_1" 1 []) (wholeTurn 0 ++ [.clear] ++ wholeTurn 1)).map
      (fun world => world.live.transcript.filterMap turnKey) =
        some [("turn_1", 1), ("turn_1", 2), ("turn_1", 1), ("turn_1", 2)] := by rfl
  obtain ⟨world, ran, same⟩ := Option.map_eq_some_iff.mp keys
  obtain ⟨distinct, -⟩ := claimed _ _ _ world ran
  rw [RecordsDistinct, same] at distinct
  revert distinct
  decide

end OpenJax.Gateway
