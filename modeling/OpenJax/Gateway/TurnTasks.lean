import OpenJax.Shared.Machine
import OpenJax.Gateway.Rebuild

set_option autoImplicit false

namespace OpenJax.Gateway

open Shared Protocol Transcript

/-- The part of a core agent that turn tasks touch. `holder` is the task that has its lock. -/
structure Agent where
  nextTurnId : Nat := 1
  eventSink : Option TaskId := none
  holder : Option TaskId := none

inductive CoreOutcome where
  | completed (events : List Event)
  | cancelled
  | panicked

inductive CorePhase where
  | unspawned
  | waiting
  | running (turnId : Nat) (events : List Event)
  | ended (outcome : CoreOutcome)

/-- The core task that a worker spawns: it waits for the agent's lock, stores its end of the
event channel in the agent and runs the turn. -/
structure CoreTask where
  agent : AgentId := 0
  phase : CorePhase := .unspawned
  abortRequested : Bool := false

inductive WorkerPhase where
  | starting
  | spawned
  | receiving
  | joined
  | finished
  deriving DecidableEq

/-- A worker between two of its lock sections. `recorded` is no data of the source: it keeps
the records this worker added to the transcript. -/
structure Worker where
  route : EventRoute
  phase : WorkerPhase := .starting
  core : CoreTask := {}
  queue : List Event := []
  sentTurnId : Bool := false
  lastKnownPublicTurnId : Option String := none
  reply : TurnIdReply := .pending
  recorded : List (TranscriptRecord Json) := []

structure World where
  sessionId : String
  live : LiveSession
  agents : Table AgentId Agent
  nextAgent : AgentId
  workers : Table TaskId Worker
  nextTask : TaskId

/-- The gateway's state for a session right after its runtime was built from the transcript. -/
def World.start (sessionId : String) (replayCapacity : Nat) (transcript : Journal Json) : World :=
  { sessionId := sessionId
    live := ⟨buildSessionRuntime 0 replayCapacity transcript, transcript⟩
    agents := ∅
    nextAgent := 1
    workers := ∅
    nextTask := 0 }

namespace CorePhase

def outcome? : CorePhase → Option CoreOutcome
  | .ended outcome => some outcome
  | _ => none

/-- Before the agent's lock is taken the channel's sender lives in the worker or in the task. -/
def holdsSender : CorePhase → Bool
  | .unspawned | .waiting => true
  | _ => false

def holdsAgent : CorePhase → Bool
  | .waiting | .running .. => true
  | _ => false

end CorePhase

namespace World

def agent (world : World) (id : AgentId) : Agent := (world.agents.lookup id).getD {}

def setAgent (world : World) (id : AgentId) (agent : Agent) : World :=
  { world with agents := world.agents.insert id agent }

def setWorker (world : World) (task : TaskId) (worker : Worker) : World :=
  { world with workers := world.workers.insert task worker }

def setRuntime (world : World) (runtime : SessionRuntime) : World :=
  { world with live := { world.live with runtime := runtime } }

def liveAgents (world : World) : List AgentId :=
  world.live.runtime.agent ::
    (world.workers.entries.filter fun entry => entry.2.core.phase.holdsAgent).map
      fun entry => entry.2.core.agent

def senderAlive (world : World) (task : TaskId) (worker : Worker) : Bool :=
  worker.core.phase.holdsSender ||
    world.liveAgents.any fun id => (world.agent id).eventSink = some task

def submit (world : World) (requestId input : String) (messageFailure : Option ApiError)
    (attempt : AppendAttempt) : World :=
  match submitGate world.live.runtime world.sessionId with
  | .error _ => world
  | .ok () =>
      let route : EventRoute := ⟨world.sessionId, requestId⟩
      let content := trim input
      let marked := world.setRuntime
        { world.live.runtime with turnAbortRequested := false, turnSubmitInFlight := true }
      let spawn (started : World) : World :=
        { started.setWorker started.nextTask { route := route } with
          nextTask := started.nextTask + 1 }
      if content.isEmpty then spawn marked
      else
        match messageFailure with
        | some _ => marked
        | none =>
            spawn { marked with
              live := emit marked.live attempt route none "user_message"
                (.obj [("content", .str content)]) (some "synthetic") }

def requestAbort (world : World) (task : TaskId) : World :=
  match world.workers.lookup task with
  | some worker =>
      world.setWorker task { worker with core := { worker.core with abortRequested := true } }
  | none => world

def abort (world : World) : World :=
  match world.live.runtime.currentTurnAbortHandle with
  | none => world
  | some task =>
      (world.setRuntime
        { world.live.runtime with
          currentTurnAbortHandle := none
          turnAbortRequested := true }).requestAbort task

def clear (world : World) : World :=
  { world.setRuntime (world.live.runtime.clearContextWithConfig world.nextAgent) with
    nextAgent := world.nextAgent + 1 }

def restart (world : World) : World :=
  start world.sessionId world.live.runtime.replayCapacity world.live.transcript

def begin (world : World) (task : TaskId) (worker : Worker) : Option World :=
  if worker.phase = .starting then
    some (world.setWorker task
      { worker with
        phase := .spawned
        core := { agent := world.live.runtime.agent, phase := .waiting } })
  else none

def publishHandle (world : World) (task : TaskId) (worker : Worker) : Option World :=
  if worker.phase = .spawned then
    let abortNow := worker.core.abortRequested || world.live.runtime.turnAbortRequested
    some ((world.setRuntime
      { world.live.runtime with
        currentTurnAbortHandle := some task
        turnSubmitInFlight := false }).setWorker task
      { worker with
        phase := .receiving
        core := { worker.core with abortRequested := abortNow } })
  else none

def receive (world : World) (first second : AppendAttempt) (task : TaskId) (worker : Worker) :
    Option World :=
  match worker.queue with
  | [] => none
  | event :: rest =>
      if worker.phase = .receiving then
        let (live, mapped, reply) :=
          mapCoreEvent world.live first second worker.route event worker.reply
        some ({ world with live := live }.setWorker task
          { worker with
            queue := rest
            sentTurnId := worker.sentTurnId || mapped.isSome
            lastKnownPublicTurnId := mapped <|> worker.lastKnownPublicTurnId
            reply := reply
            recorded := worker.recorded ++
              live.transcript.drop world.live.transcript.length })
      else none

def join (world : World) (task : TaskId) (worker : Worker) : Option World :=
  match worker.core.phase.outcome? with
  | none => none
  | some outcome =>
      if worker.phase = .receiving ∧ worker.queue = [] ∧
          world.senderAlive task worker = false then
        let settled :=
          match outcome with
          | .completed _ => worker.sentTurnId
          | .cancelled | .panicked => false
        some ((world.setRuntime
          { world.live.runtime with
            currentTurnAbortHandle := none
            turnSubmitInFlight := false
            turnAbortRequested := false }).setWorker task
          { worker with phase := if settled then .finished else .joined })
      else none

def userAbort : Json := .obj [("reason", .str "user_abort")]

/-- The turn a cancelled worker reports; the source takes any running turn of its map. -/
def interruptedTurn (session : SessionRuntime) (worker : Worker) : Option String :=
  worker.lastKnownPublicTurnId <|>
    (session.turns.entries.find? fun entry => entry.2.status = .running).map Sigma.fst

def failInterrupted (session : SessionRuntime) (turnId : Option String) : SessionRuntime :=
  match turnId with
  | none => session
  | some turnId =>
      match session.turns.lookup turnId with
      | none => session
      | some turn =>
          if turn.status = .queued ∨ turn.status = .running then
            failTurn session turnId (turnAborted userAbort)
          else session

def interrupt (live : LiveSession) (attempt : AppendAttempt) (worker : Worker) : LiveSession :=
  let turnId := interruptedTurn live.runtime worker
  emit { live with runtime := failInterrupted live.runtime turnId } attempt worker.route turnId
    "turn_interrupted" userAbort (some "synthetic")

def conclude (world : World) (attempt : AppendAttempt) (task : TaskId) (worker : Worker) :
    Option World :=
  if worker.phase = .joined then
    match worker.core.phase.outcome? with
    | none => none
    | some (.completed events) =>
        match firstTurnId events with
        | some coreTurnId =>
            let (session, turnId) := world.live.runtime.getOrCreatePublicTurnId coreTurnId
            some ((world.setRuntime session).setWorker task
              { worker with phase := .finished, reply := worker.reply.send (.ok turnId) })
        | none =>
            some (world.setWorker task
              { worker with
                phase := .finished
                reply := worker.reply.send (.error (.internal "failed to infer turn id")) })
    | some .cancelled =>
        let live := interrupt world.live attempt worker
        some ({ world with live := live }.setWorker task
          { worker with
            phase := .finished
            reply := worker.reply.send (.error (.conflict "turn aborted by user" userAbort))
            recorded := worker.recorded ++
              live.transcript.drop world.live.transcript.length })
    | some .panicked =>
        some (world.setWorker task
          { worker with
            phase := .finished
            reply := worker.reply.send
              (.error (.upstreamUnavailable "core execution task failed" .empty)) })
  else none

/-- The core task gets the agent's lock, stores its sender there and starts the turn. -/
def acquire (world : World) (task : TaskId) (worker : Worker) : Option World :=
  match worker.core.phase with
  | .waiting =>
      let agent := world.agent worker.core.agent
      if agent.holder = none then
        let started : List Event := [.turnStarted agent.nextTurnId]
        some ((world.setAgent worker.core.agent
          { nextTurnId := agent.nextTurnId + 1, eventSink := some task, holder := some task }).setWorker
          task
          { worker with
            queue := worker.queue ++ started
            core := { worker.core with phase := .running agent.nextTurnId started } })
      else none
  | _ => none

def emitEvent (world : World) (event : Event) (task : TaskId) (worker : Worker) : Option World :=
  match worker.core.phase with
  | .running turnId events =>
      if event.turnId? = some turnId ∧ event ≠ .turnStarted turnId ∧
          event ≠ .turnCompleted turnId then
        some (world.setWorker task
          { worker with
            queue := worker.queue ++ [event]
            core := { worker.core with phase := .running turnId (events ++ [event]) } })
      else none
  | _ => none

def complete (world : World) (task : TaskId) (worker : Worker) : Option World :=
  match worker.core.phase with
  | .running turnId events =>
      let finished : List Event := [.turnCompleted turnId]
      some ((world.setAgent worker.core.agent
        { world.agent worker.core.agent with eventSink := none, holder := none }).setWorker task
        { worker with
          queue := worker.queue ++ finished
          core := { worker.core with phase := .ended (.completed (events ++ finished)) } })
  | _ => none

/-- The core task is dropped at an await point. Its lock is released, but what it stored in the
agent stays there. -/
def dropCore (world : World) (outcome : CoreOutcome) (task : TaskId) (worker : Worker) : World :=
  let released :=
    match worker.core.phase with
    | .running .. =>
        world.setAgent worker.core.agent { world.agent worker.core.agent with holder := none }
    | _ => world
  released.setWorker task { worker with core := { worker.core with phase := .ended outcome } }

def cancel (world : World) (task : TaskId) (worker : Worker) : Option World :=
  if worker.core.abortRequested ∧ worker.core.phase.holdsAgent then
    some (world.dropCore .cancelled task worker)
  else none

def panic (world : World) (task : TaskId) (worker : Worker) : Option World :=
  match worker.core.phase with
  | .running .. => some (world.dropCore .panicked task worker)
  | _ => none

end World

/-- The steps of a worker's own code, between which everything else may happen. -/
inductive WorkerStep where
  | begin
  | publishHandle
  | receive (first second : AppendAttempt)
  | join
  | conclude (attempt : AppendAttempt)

inductive CoreStep where
  | acquire
  | emitEvent (event : Event)
  | complete
  | cancel
  | panic

inductive TurnStep where
  | submit (requestId input : String) (messageFailure : Option ApiError) (attempt : AppendAttempt)
  | abort
  | clear
  | restart
  | worker (task : TaskId) (step : WorkerStep)
  | core (task : TaskId) (step : CoreStep)

namespace World

def workerStep (world : World) (task : TaskId) (worker : Worker) : WorkerStep → Option World
  | .begin => world.begin task worker
  | .publishHandle => world.publishHandle task worker
  | .receive first second => world.receive first second task worker
  | .join => world.join task worker
  | .conclude attempt => world.conclude attempt task worker

def coreStep (world : World) (task : TaskId) (worker : Worker) : CoreStep → Option World
  | .acquire => world.acquire task worker
  | .emitEvent event => world.emitEvent event task worker
  | .complete => world.complete task worker
  | .cancel => world.cancel task worker
  | .panic => world.panic task worker

def step (world : World) : TurnStep → Option World
  | .submit requestId input messageFailure attempt =>
      some (world.submit requestId input messageFailure attempt)
  | .abort => some world.abort
  | .clear => some world.clear
  | .restart => some world.restart
  | .worker task step =>
      (world.workers.lookup task).bind fun worker => world.workerStep task worker step
  | .core task step =>
      (world.workers.lookup task).bind fun worker => world.coreStep task worker step

end World

namespace World

variable (world : World) (task : TaskId)

@[simp] theorem setWorker_live (worker : Worker) :
    (world.setWorker task worker).live = world.live := rfl

@[simp] theorem setWorker_agents (worker : Worker) :
    (world.setWorker task worker).agents = world.agents := rfl

@[simp] theorem setWorker_nextTask (worker : Worker) :
    (world.setWorker task worker).nextTask = world.nextTask := rfl

@[simp] theorem setAgent_live (id : AgentId) (agent : Agent) :
    (world.setAgent id agent).live = world.live := rfl

@[simp] theorem setAgent_workers (id : AgentId) (agent : Agent) :
    (world.setAgent id agent).workers = world.workers := rfl

@[simp] theorem setRuntime_workers (runtime : SessionRuntime) :
    (world.setRuntime runtime).workers = world.workers := rfl

@[simp] theorem requestAbort_live : (world.requestAbort task).live = world.live := by
  unfold requestAbort
  cases world.workers.lookup task <;> rfl

theorem setWorker_lookup (task other : TaskId) (worker : Worker) :
    (world.setWorker task worker).workers.lookup other =
      if other = task then some worker else world.workers.lookup other :=
  Table.lookup_insert_eq world.workers task other worker

theorem setAgent_agent (id other : AgentId) (agent : Agent) :
    (world.setAgent id agent).agent other = if other = id then agent else world.agent other := by
  unfold World.agent setAgent
  rw [Table.lookup_insert_eq]
  split_ifs <;> rfl

@[simp] theorem setWorker_agent (worker : Worker) (id : AgentId) :
    (world.setWorker task worker).agent id = world.agent id := rfl

end World

def markSubmitted (runtime : SessionRuntime) : SessionRuntime :=
  { runtime with turnAbortRequested := false, turnSubmitInFlight := true }

theorem submit_cases (world : World) (requestId input : String)
    (messageFailure : Option ApiError) (attempt : AppendAttempt) :
    world.submit requestId input messageFailure attempt = world ∨
    submitGate world.live.runtime world.sessionId = .ok () ∧
      (messageFailure ≠ none ∧
        world.submit requestId input messageFailure attempt =
          world.setRuntime (markSubmitted world.live.runtime) ∨
      ∃ live, Extends (fun _ => False) (· ≠ "turn_interrupted")
          { world.live with runtime := markSubmitted world.live.runtime } live ∧
        world.submit requestId input messageFailure attempt =
          { { world with live := live }.setWorker world.nextTask
              { route := ⟨world.sessionId, requestId⟩ } with
            nextTask := world.nextTask + 1 }) := by
  unfold World.submit
  cases gate : submitGate world.live.runtime world.sessionId with
  | error error => exact .inl rfl
  | ok =>
    refine .inr ⟨rfl, ?_⟩
    by_cases empty : (trim input).isEmpty = true
    · right
      exact ⟨_, Extends.refl _, by simp [empty, markSubmitted, World.setRuntime]⟩
    · cases messageFailure with
      | some error =>
        left
        exact ⟨by simp, by simp [empty, markSubmitted]⟩
      | none =>
        right
        refine ⟨_, (emit_extends _ attempt ⟨world.sessionId, requestId⟩ none "user_message"
          (.obj [("content", .str (trim input))]) (some "synthetic") _ (by simp)).mono ?_, ?_⟩
        · intro other absurd
          cases absurd
        · simp [empty, markSubmitted, World.setRuntime, World.setWorker]

section Specs

variable {world next : World} {task : TaskId} {worker : Worker}

theorem begin_some (stepped : world.begin task worker = some next) :
    worker.phase = .starting ∧
      next = world.setWorker task
        { worker with
          phase := .spawned
          core := { agent := world.live.runtime.agent, phase := .waiting } } := by
  obtain ⟨phase, result⟩ := (guard_bind_iff _ _ _).mp stepped
  exact ⟨phase, (Option.some.inj result).symm⟩

theorem publishHandle_some (stepped : world.publishHandle task worker = some next) :
    worker.phase = .spawned ∧ ∃ abortNow,
      next = (world.setRuntime
        { world.live.runtime with
          currentTurnAbortHandle := some task
          turnSubmitInFlight := false }).setWorker task
        { worker with
          phase := .receiving
          core := { worker.core with abortRequested := abortNow } } := by
  obtain ⟨phase, result⟩ := (guard_bind_iff _ _ _).mp stepped
  exact ⟨phase, _, (Option.some.inj result).symm⟩

theorem receive_some {first second : AppendAttempt}
    (stepped : world.receive first second task worker = some next) :
    worker.phase = .receiving ∧ ∃ event rest live mapped reply,
      worker.queue = event :: rest ∧
        mapCoreEvent world.live first second worker.route event worker.reply =
          (live, mapped, reply) ∧
        next = { world with live := live }.setWorker task
          { worker with
            queue := rest
            sentTurnId := worker.sentTurnId || mapped.isSome
            lastKnownPublicTurnId := mapped <|> worker.lastKnownPublicTurnId
            reply := reply
            recorded := worker.recorded ++
              live.transcript.drop world.live.transcript.length } := by
  unfold World.receive at stepped
  cases queue : worker.queue with
  | nil => simp [queue] at stepped
  | cons event rest =>
    simp only [queue] at stepped
    obtain ⟨phase, result⟩ := (guard_bind_iff _ _ _).mp stepped
    exact ⟨phase, event, rest, _, _, _, rfl, rfl, (Option.some.inj result).symm⟩

theorem outcome?_some {phase : CorePhase} {outcome : CoreOutcome}
    (ended : phase.outcome? = some outcome) : phase = .ended outcome := by
  cases phase with
  | ended found =>
    cases ended
    rfl
  | unspawned | waiting | running => cases ended

theorem join_some (stepped : world.join task worker = some next) :
    worker.phase = .receiving ∧ worker.queue = [] ∧ world.senderAlive task worker = false ∧
      ∃ outcome phase, worker.core.phase = .ended outcome ∧
        (phase = .joined ∨ phase = .finished ∧ ∃ events, outcome = .completed events) ∧
        next = (world.setRuntime
          { world.live.runtime with
            currentTurnAbortHandle := none
            turnSubmitInFlight := false
            turnAbortRequested := false }).setWorker task { worker with phase := phase } := by
  unfold World.join at stepped
  cases ended : worker.core.phase.outcome? with
  | none => simp [ended] at stepped
  | some outcome =>
    simp only [ended] at stepped
    obtain ⟨⟨phase, queue, closed⟩, result⟩ := (guard_bind_iff _ _ _).mp stepped
    refine ⟨phase, queue, closed, outcome, _, outcome?_some ended, ?_,
      (Option.some.inj result).symm⟩
    cases outcome with
    | completed events => cases worker.sentTurnId <;> simp
    | cancelled | panicked => simp

theorem acquire_some (stepped : world.acquire task worker = some next) :
    worker.core.phase = .waiting ∧
      next = (world.setAgent worker.core.agent
        { nextTurnId := (world.agent worker.core.agent).nextTurnId + 1
          eventSink := some task
          holder := some task }).setWorker task
        { worker with
          queue := worker.queue ++ [.turnStarted (world.agent worker.core.agent).nextTurnId]
          core := { worker.core with
            phase := .running (world.agent worker.core.agent).nextTurnId
              [.turnStarted (world.agent worker.core.agent).nextTurnId] } } := by
  unfold World.acquire at stepped
  cases phase : worker.core.phase with
  | waiting =>
    simp only [phase] at stepped
    obtain ⟨-, result⟩ := (guard_bind_iff _ _ _).mp stepped
    exact ⟨rfl, (Option.some.inj result).symm⟩
  | unspawned | running | ended => simp [phase] at stepped

theorem emitEvent_some {event : Event}
    (stepped : world.emitEvent event task worker = some next) :
    ∃ turnId events, worker.core.phase = .running turnId events ∧ event.turnId? = some turnId ∧
      next = world.setWorker task
        { worker with
          queue := worker.queue ++ [event]
          core := { worker.core with phase := .running turnId (events ++ [event]) } } := by
  unfold World.emitEvent at stepped
  cases phase : worker.core.phase with
  | running turnId events =>
    simp only [phase] at stepped
    obtain ⟨own, result⟩ := (guard_bind_iff _ _ _).mp stepped
    exact ⟨turnId, events, rfl, own.1, (Option.some.inj result).symm⟩
  | unspawned | waiting | ended => simp [phase] at stepped

theorem complete_some (stepped : world.complete task worker = some next) :
    ∃ turnId events, worker.core.phase = .running turnId events ∧
      next = (world.setAgent worker.core.agent
        { world.agent worker.core.agent with eventSink := none, holder := none }).setWorker task
        { worker with
          queue := worker.queue ++ [.turnCompleted turnId]
          core := { worker.core with
            phase := .ended (.completed (events ++ [.turnCompleted turnId])) } } := by
  unfold World.complete at stepped
  cases phase : worker.core.phase with
  | running turnId events =>
    simp only [phase] at stepped
    exact ⟨turnId, events, rfl, (Option.some.inj stepped).symm⟩
  | unspawned | waiting | ended => simp [phase] at stepped

theorem cancel_some (stepped : world.cancel task worker = some next) :
    worker.core.phase.holdsAgent = true ∧ next = world.dropCore .cancelled task worker := by
  obtain ⟨allowed, result⟩ := (guard_bind_iff _ _ _).mp stepped
  exact ⟨allowed.2, (Option.some.inj result).symm⟩

theorem panic_some (stepped : world.panic task worker = some next) :
    ∃ turnId events, worker.core.phase = .running turnId events ∧
      next = world.dropCore .panicked task worker := by
  unfold World.panic at stepped
  cases phase : worker.core.phase with
  | running turnId events =>
    simp only [phase] at stepped
    exact ⟨turnId, events, rfl, (Option.some.inj stepped).symm⟩
  | unspawned | waiting | ended => simp [phase] at stepped

end Specs

theorem failInterrupted_extends (live : LiveSession) (kinds : String → Prop)
    (turnId : Option String) :
    Extends (fun other => turnId = some other) kinds live
      { live with runtime := World.failInterrupted live.runtime turnId } := by
  cases turnId with
  | none => exact Extends.refl live
  | some turnId =>
    simp only [World.failInterrupted]
    cases live.runtime.turns.lookup turnId with
    | none => exact Extends.refl live
    | some turn =>
      simp only
      split_ifs
      · apply (setTurn_extends live kinds turnId _).mono
        intro other same
        rw [same]
      · exact Extends.refl live

theorem interrupt_extends (live : LiveSession) (attempt : AppendAttempt) (worker : Worker) :
    Extends (fun other => World.interruptedTurn live.runtime worker = some other)
      (· = "turn_interrupted") live (World.interrupt live attempt worker) := by
  apply (failInterrupted_extends live _ _).trans
  exact emit_extends _ attempt worker.route _ "turn_interrupted" _ _ _ rfl

theorem conclude_cases {world next : World} {attempt : AppendAttempt} {task : TaskId}
    {worker : Worker} (stepped : world.conclude attempt task worker = some next) :
    worker.phase = .joined ∧ ∃ live worker',
      next = { world with live := live }.setWorker task worker' ∧
        worker'.phase = .finished ∧ worker'.core = worker.core ∧
        worker'.queue = worker.queue ∧
        worker'.lastKnownPublicTurnId = worker.lastKnownPublicTurnId ∧
        (worker.core.phase = .ended .cancelled ∧ live = World.interrupt world.live attempt worker ∧
            worker'.recorded =
              worker.recorded ++ live.transcript.drop world.live.transcript.length ∨
          worker.core.phase ≠ .ended .cancelled ∧ worker'.recorded = worker.recorded ∧
            live.transcript = world.live.transcript ∧
            ∀ turnIds kinds, Extends turnIds kinds world.live live) := by
  obtain ⟨phase, result⟩ := (guard_bind_iff _ _ _).mp stepped
  refine ⟨phase, ?_⟩
  split at result
  · cases result
  · next events ended =>
    have core : worker.core.phase ≠ .ended .cancelled := by
      intro cancelled
      simp [cancelled, CorePhase.outcome?] at ended
    split at result
    · next coreTurnId _ =>
      cases result
      refine ⟨_, _, rfl, rfl, rfl, rfl, rfl, .inr ⟨core, rfl, rfl, ?_⟩⟩
      intro turnIds kinds
      exact getOrCreatePublicTurnId_extends world.live turnIds kinds coreTurnId
    · cases result
      exact ⟨world.live, _, rfl, rfl, rfl, rfl, rfl, .inr ⟨core, rfl, rfl, fun _ _ => Extends.refl _⟩⟩
  · next ended =>
    have core : worker.core.phase = .ended .cancelled := by
      cases phase : worker.core.phase <;> simp_all [CorePhase.outcome?]
    cases result
    exact ⟨_, _, rfl, rfl, rfl, rfl, rfl, .inl ⟨core, rfl, rfl⟩⟩
  · next ended =>
    have core : worker.core.phase ≠ .ended .cancelled := by
      intro cancelled
      simp [cancelled, CorePhase.outcome?] at ended
    cases result
    exact ⟨world.live, _, rfl, rfl, rfl, rfl, rfl, .inr ⟨core, rfl, rfl, fun _ _ => Extends.refl _⟩⟩

structure CoreFrame (world next : World) (task : TaskId) (worker worker' : Worker) : Prop where
  workers : next.workers = world.workers.insert task worker'
  live : next.live = world.live
  nextTask : next.nextTask = world.nextTask
  phase : worker'.phase = worker.phase
  recorded : worker'.recorded = worker.recorded
  abortRequested : worker'.core.abortRequested = worker.core.abortRequested
  agent : worker'.core.agent = worker.core.agent

theorem dropCore_frame (world : World) (outcome : CoreOutcome) (task : TaskId)
    (worker : Worker) :
    CoreFrame world (world.dropCore outcome task worker) task worker
      { worker with core := { worker.core with phase := .ended outcome } } := by
  unfold World.dropCore
  cases worker.core.phase <;> exact ⟨rfl, rfl, rfl, rfl, rfl, rfl, rfl⟩

theorem coreStep_frame {world next : World} {task : TaskId} {worker : Worker} {step : CoreStep}
    (stepped : world.coreStep task worker step = some next) :
    ∃ worker', CoreFrame world next task worker worker' := by
  cases step with
  | acquire =>
    obtain ⟨-, rfl⟩ := acquire_some stepped
    exact ⟨_, rfl, rfl, rfl, rfl, rfl, rfl, rfl⟩
  | emitEvent event =>
    obtain ⟨turnId, events, -, -, rfl⟩ := emitEvent_some stepped
    exact ⟨_, rfl, rfl, rfl, rfl, rfl, rfl, rfl⟩
  | complete =>
    obtain ⟨turnId, events, -, rfl⟩ := complete_some stepped
    exact ⟨_, rfl, rfl, rfl, rfl, rfl, rfl, rfl⟩
  | cancel =>
    obtain ⟨-, rfl⟩ := cancel_some stepped
    exact ⟨_, dropCore_frame world .cancelled task worker⟩
  | panic =>
    obtain ⟨turnId, events, -, rfl⟩ := panic_some stepped
    exact ⟨_, dropCore_frame world .panicked task worker⟩

end OpenJax.Gateway
