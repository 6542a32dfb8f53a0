import OpenJax.Gateway.LiveTurns
import OpenJax.Gateway.TurnSafety

set_option autoImplicit false

namespace OpenJax.Gateway

open Shared Protocol Transcript

def TurnStatus.isOpen : TurnStatus → Bool
  | .queued | .running => true
  | _ => false

/-- No turn is queued or running that was not so before, and no turn is forgotten. -/
structure Calm (before after : SessionRuntime) : Prop where
  opened : ∀ turnId turn, after.turns.lookup turnId = some turn → turn.status.isOpen = true →
    ∃ earlier, before.turns.lookup turnId = some earlier ∧ earlier.status = turn.status
  kept : ∀ turnId, (before.turns.lookup turnId).isSome = true →
    (after.turns.lookup turnId).isSome = true

namespace Calm

variable {before middle after : SessionRuntime}

theorem of_lookups (same : ∀ turnId, after.turns.lookup turnId = before.turns.lookup turnId) :
    Calm before after where
  opened := fun turnId turn found _ => ⟨turn, by rw [← same turnId, found], rfl⟩
  kept := fun turnId known => by rw [same turnId, known]

theorem of_turns (same : after.turns = before.turns) : Calm before after :=
  of_lookups fun _ => by rw [same]

theorem trans (first : Calm before middle) (second : Calm middle after) : Calm before after where
  opened := by
    intro turnId turn found isOpen
    obtain ⟨earlier, known, status⟩ := second.opened turnId turn found isOpen
    obtain ⟨first, present, same⟩ := first.opened turnId earlier known (by rw [status, isOpen])
    exact ⟨first, present, same.trans status⟩
  kept := fun turnId known => second.kept turnId (first.kept turnId known)

theorem setTurn {turnId : String} {turn : TurnRuntime}
    (known : ∀ earlier, before.turns.lookup turnId = some earlier → turn.status.isOpen = true →
      earlier.status = turn.status)
    (fresh : before.turns.lookup turnId = none → turn.status.isOpen = false) :
    Calm before (before.setTurn turnId turn) where
  opened := by
    intro other found lookup isOpen
    rw [SessionRuntime.setTurn, Table.lookup_insert_eq] at lookup
    by_cases same : other = turnId
    · rw [if_pos same, Option.some.injEq] at lookup
      subst lookup same
      cases present : before.turns.lookup other with
      | none => exact absurd isOpen (by rw [fresh present]; decide)
      | some earlier => exact ⟨earlier, rfl, known earlier present isOpen⟩
    · rw [if_neg same] at lookup
      exact ⟨found, lookup, rfl⟩
  kept := by
    intro other present
    rw [SessionRuntime.setTurn, Table.lookup_insert_eq]
    split
    · rfl
    · exact present

theorem failTurn (session : SessionRuntime) (turnId : String) (error : ApiTurnError) :
    Calm session (failTurn session turnId error) :=
  setTurn (fun _ _ isOpen => absurd isOpen Bool.false_ne_true) fun _ => rfl

theorem failInterrupted (session : SessionRuntime) (turnId : Option String) :
    Calm session (World.failInterrupted session turnId) := by
  cases turnId with
  | none => exact of_turns rfl
  | some turnId =>
    rw [World.failInterrupted]
    cases session.turns.lookup turnId with
    | none => exact of_turns rfl
    | some turn =>
      simp only
      split
      · exact failTurn session turnId _
      · exact of_turns rfl

theorem running (calm : Calm before after) (idle : before.hasRunningTurn = false) :
    after.hasRunningTurn = false := by
  rw [Bool.eq_false_iff, Ne, SessionRuntime.hasRunningTurn_iff] at idle ⊢
  rintro ⟨turnId, turn, found, status⟩
  obtain ⟨earlier, known, same⟩ := calm.opened turnId turn found (by rw [status]; rfl)
  exact idle ⟨turnId, earlier, known, same.trans status⟩

end Calm

variable (live : LiveSession) (attempt : AppendAttempt)

theorem emit_calm (route : EventRoute) (turnId : Option String) (eventType : String)
    (payload : Json) (streamSource : Option String) :
    Calm live.runtime (emit live attempt route turnId eventType payload streamSource).runtime :=
  .of_turns (emit_turns live attempt route turnId eventType payload streamSource)

theorem interrupt_calm (worker : Worker) :
    Calm live.runtime (World.interrupt live attempt worker).runtime := by
  have failed := Calm.failInterrupted live.runtime (World.interruptedTurn live.runtime worker)
  refine failed.trans (.of_turns ?_)
  rw [World.interrupt, emit_turns]

theorem handleFailure_calm (keyEvent : StreamEventEnvelope) (error : ApiError) :
    Calm live.runtime (handleKeyEventAppendFailure live attempt keyEvent error).runtime := by
  rw [handleKeyEventAppendFailure]
  cases turn : keyEvent.turnId with
  | none => exact .of_turns (by rw [emit_turns])
  | some turnId =>
    simp only
    exact (Calm.failTurn live.runtime turnId _).trans (.of_turns (by rw [emit_turns]))

theorem publishMapped_calm (first second : AppendAttempt) (route : EventRoute)
    (turnId : Option String) (eventType : String) (payload : Json) (streamSource : Option String) :
    Calm live.runtime
      (publishMapped live first second route turnId eventType payload streamSource).runtime := by
  cases stored : first.failure with
  | none =>
    rw [publishMapped_stored live first second route turnId eventType payload streamSource stored]
    exact emit_calm live first route turnId eventType payload streamSource
  | some error =>
    have created : Calm live.runtime (live.runtime.createGatewayEvent route.requestId
        route.sessionId turnId eventType payload streamSource first.timestamp).1 := .of_turns rfl
    simp only [publishMapped, appendThenPublish, appendEvent, stored, bind, Except.bind]
    split
    · exact created.trans (handleFailure_calm ⟨_, live.transcript⟩ second _ error)
    · exact created

theorem applied_isOpen {turn : TurnRuntime} {eventType : String} {payload : Json}
    (other : eventType ≠ "turn_started")
    (isOpen : (applyTurnRuntimeEvent turn eventType payload).status.isOpen = true) :
    (applyTurnRuntimeEvent turn eventType payload).status = turn.status := by
  rw [applyTurnRuntimeEvent, if_neg other] at isOpen ⊢
  split_ifs at isOpen ⊢
  all_goals try first | rfl | cases isOpen
  cases answered : (payload.get? "content").bind Json.asStr? with
  | none => rfl
  | some content =>
    rw [answered] at isOpen
    cases isOpen

theorem mapCoreEvent_projected (first second : AppendAttempt) (route : EventRoute) (event : Event)
    (reply : TurnIdReply) (named : live.runtime.NamesPublic) :
    Calm live.runtime (mapCoreEvent live first second route event reply).1.runtime ∧
        (∀ mapping, mapCoreEventPayloadResult event = .mapped mapping → event.turnId? = none) ∨
      ∃ mapping coreTurnId session payload,
        mapCoreEventPayloadResult event = .mapped mapping ∧ event.turnId? = some coreTurnId ∧
        session.turns = live.runtime.turns ∧
        Calm (projectTurn session (SessionRuntime.publicTurnId coreTurnId) mapping.eventType
          payload) (mapCoreEvent live first second route event reply).1.runtime ∧
        (mapCoreEvent live first second route event reply).2.2 =
          reply.send (.ok (SessionRuntime.publicTurnId coreTurnId)) := by
  rw [mapCoreEvent]
  cases mapped : mapCoreEventPayloadResult event with
  | ignoredInternal => exact .inl ⟨.of_turns rfl, by rintro _ ⟨⟩⟩
  | unmapped variant => exact .inl ⟨.of_turns rfl, by rintro _ ⟨⟩⟩
  | mapped mapping =>
    have turn := mapped_turn mapped
    simp only
    cases owner : mapping.coreTurnId with
    | none =>
      exact .inl ⟨publishMapped_calm live first second route none mapping.eventType
        mapping.payload mapping.streamSource, fun _ _ => by rw [← turn, owner]⟩
    | some coreTurnId =>
      right
      have id := live.runtime.getOrCreatePublicTurnId_snd named coreTurnId
      have turns : (live.runtime.getOrCreatePublicTurnId coreTurnId).1.turns =
          live.runtime.turns := by
        rw [SessionRuntime.getOrCreatePublicTurnId]
        split <;> rfl
      simp only [id]
      refine ⟨mapping, coreTurnId, _, _, rfl, by rw [← turn, owner], ?_,
        publishMapped_calm ⟨_, live.transcript⟩ first second route _ mapping.eventType _
          mapping.streamSource, rfl⟩
      exact turns

variable (session : SessionRuntime)

theorem setTurn_kept (turnId other : String) (turn : TurnRuntime)
    (known : (session.turns.lookup other).isSome = true) :
    ((session.setTurn turnId turn).turns.lookup other).isSome = true := by
  rw [SessionRuntime.setTurn, Table.lookup_insert_eq]
  split
  · rfl
  · exact known

section Events

variable (live : LiveSession) (first second : AppendAttempt) (route : EventRoute) {event : Event}
  (reply : TurnIdReply) (named : live.runtime.NamesPublic)

include named

theorem mapCoreEvent_kept (turnId : String)
    (known : (live.runtime.turns.lookup turnId).isSome = true) :
    ((mapCoreEvent live first second route event reply).1.runtime.turns.lookup turnId).isSome =
      true := by
  rcases mapCoreEvent_projected live first second route event reply named with
    ⟨calm, -⟩ | ⟨mapping, coreTurnId, session, payload, -, -, same, calm, -⟩
  · exact calm.kept turnId known
  · apply calm.kept turnId
    exact setTurn_kept session _ turnId _ (by rw [same, known])

theorem mapCoreEvent_calm {turnId : Nat} (own : event.turnId? = some turnId)
    (later : event ≠ .turnStarted turnId)
    (known : (live.runtime.turns.lookup (SessionRuntime.publicTurnId turnId)).isSome = true) :
    Calm live.runtime (mapCoreEvent live first second route event reply).1.runtime := by
  rcases mapCoreEvent_projected live first second route event reply named with
    ⟨calm, -⟩ | ⟨mapping, coreTurnId, session, payload, mapped, owner, same, calm, -⟩
  · exact calm
  · obtain rfl : turnId = coreTurnId := Option.some.inj (own.symm.trans owner)
    have kind : mapping.eventType ≠ "turn_started" := by
      intro started
      obtain ⟨other, rfl⟩ := (mapped_turn_started mapped).mp started
      obtain rfl : other = turnId := Option.some.inj own
      exact later rfl
    obtain ⟨turn, present⟩ := Option.isSome_iff_exists.mp known
    have current : session.turn (SessionRuntime.publicTurnId turnId) = turn := by
      rw [SessionRuntime.turn, same, present]
      rfl
    have projected : Calm session (projectTurn session (SessionRuntime.publicTurnId turnId)
        mapping.eventType payload) := by
      refine Calm.setTurn (fun earlier found isOpen => ?_) fun absent => ?_
      · rw [same, present, Option.some.injEq] at found
        rw [applied_isOpen kind isOpen, current, found]
      · rw [same, present] at absent
        cases absent
    exact ((Calm.of_turns same).trans projected).trans calm

theorem mapCoreEvent_started (turnId : Nat) :
    (mapCoreEvent live first second route (.turnStarted turnId) reply).2.2 =
        reply.send (.ok (SessionRuntime.publicTurnId turnId)) ∧
      ((mapCoreEvent live first second route (.turnStarted turnId) reply).1.runtime.turns.lookup
        (SessionRuntime.publicTurnId turnId)).isSome = true := by
  rcases mapCoreEvent_projected live first second route (.turnStarted turnId) reply named with
    ⟨-, turnless⟩ | ⟨mapping, coreTurnId, session, payload, mapped, owner, same, calm, sent⟩
  · cases turnless _ rfl
  · obtain rfl : turnId = coreTurnId := Option.some.inj owner
    refine ⟨sent, calm.kept _ ?_⟩
    rw [projectTurn, SessionRuntime.setTurn, Table.lookup_insert_eq, if_pos rfl]
    rfl

end Events

/-- The answer to a submission, with the session when the request came and when it is answered. -/
structure SubmitAnswer where
  before : SessionRuntime
  result : Except ApiError String
  after : SessionRuntime

def Ready (session : SessionRuntime) : Prop := ∀ sessionId, submitGate session sessionId = .ok ()

/-- A submission that is answered with an error leaves a session that was ready as ready as it found
it, with no turn queued or running that was not before, and any other session as it was. -/
structure SubmitAnswer.Restores (answer : SubmitAnswer) : Prop where
  ready : Ready answer.before → Ready answer.after
  turns : Ready answer.before → Calm answer.before answer.after
  refused : ¬Ready answer.before → answer.after = answer.before

/-- The gateway while requests to submit a turn to one session come one after another. `waiting` is
the worker whose turn id the current request waits for, with the session when the request came. -/
structure SubmitWorld where
  world : World
  waiting : Option (TaskId × SessionRuntime)
  answers : List SubmitAnswer

inductive SubmitInput where
  -- What fails of finding the session, of storing the user's message and of its event.
  | submit (requestId input : String) (sessionFailure messageFailure : Option ApiError)
    (attempt : AppendAttempt)
  | respond
  | timeout
  | abort
  | worker (task : TaskId) (step : WorkerStep)
  | core (task : TaskId) (step : CoreStep)

namespace SubmitWorld

def start (sessionId : String) (replayCapacity : Nat) (transcript : Journal Json) : SubmitWorld :=
  ⟨.start sessionId replayCapacity transcript, none, []⟩

def earlyError (world : World) (input : String) (messageFailure : Option ApiError) :
    Option ApiError :=
  match submitGate world.live.runtime world.sessionId with
  | .error error => some error
  | .ok () => if (trim input).isEmpty then none else messageFailure

def answer (state : SubmitWorld) (world : World) (before : SessionRuntime)
    (result : Except ApiError String) : SubmitWorld :=
  { world := world
    waiting := none
    answers := state.answers ++ [⟨before, result, world.live.runtime⟩] }

def timedOut (sessionId : String) : ApiError :=
  ⟨504, "TIMEOUT", "timed out waiting for turn id", true, .obj [("session_id", .str sessionId)]⟩

def submit (state : SubmitWorld) (requestId input : String)
    (sessionFailure messageFailure : Option ApiError) (attempt : AppendAttempt) : SubmitWorld :=
  let before := state.world.live.runtime
  match sessionFailure with
  | some error => state.answer state.world before (.error error)
  | none =>
      let world := state.world.submit requestId input messageFailure attempt
      match earlyError state.world input messageFailure with
      | some error => state.answer world before (.error error)
      | none => { state with world := world, waiting := some (state.world.nextTask, before) }

def respond (state : SubmitWorld) : Option SubmitWorld :=
  state.waiting.bind fun request =>
    (state.world.workers.lookup request.1).bind fun worker =>
      match worker.reply with
      | .pending => none
      | .sent result => some (state.answer state.world request.2 result)

def step (state : SubmitWorld) : SubmitInput → Option SubmitWorld
  | .submit requestId input sessionFailure messageFailure attempt =>
      if state.waiting = none then
        some (state.submit requestId input sessionFailure messageFailure attempt)
      else none
  | .respond => state.respond
  -- Twenty seconds have passed without a turn id.
  | .timeout =>
      state.waiting.map fun request =>
        state.answer state.world request.2 (.error (timedOut state.world.sessionId))
  | .abort => some { state with world := state.world.abort }
  | .worker task step =>
      (state.world.step (.worker task step)).map fun world => { state with world := world }
  | .core task step =>
      (state.world.step (.core task step)).map fun world => { state with world := world }

def ErrorsRestore (state : SubmitWorld) : Prop :=
  ∀ answer ∈ state.answers, ∀ error, answer.result = .error error → answer.Restores

def StoredInTime (state : SubmitWorld) : SubmitInput → Prop
  | .submit _ input sessionFailure messageFailure _ =>
      sessionFailure = none → Ready state.world.live.runtime →
        (trim input).isEmpty = true ∨ messageFailure = none
  | .timeout => False
  | _ => True

end SubmitWorld

theorem ready_iff :
    Ready session ↔ session.status = .active ∧ session.turnSubmitInFlight = false ∧
      session.currentTurnAbortHandle = none ∧ session.hasRunningTurn = false :=
  ⟨fun ready => (submitGate_iff session "").mp (ready ""),
    fun facts sessionId => (submitGate_iff session sessionId).mpr facts⟩

theorem ready_iff_gate (sessionId : String) :
    Ready session ↔ submitGate session sessionId = .ok () := by
  rw [ready_iff, submitGate_iff]

def LaterEvents (turnId : Nat) (queue : List Event) : Prop :=
  ∀ event ∈ queue, event.turnId? = some turnId ∧ event ≠ .turnStarted turnId

def Begun (turnId : Nat) (phase : CorePhase) : Prop :=
  (∃ events, phase = .running turnId events) ∨ ∃ outcome, phase = .ended outcome

def Quiet (phase : CorePhase) : Prop :=
  phase = .unspawned ∨ phase = .waiting ∨ phase = .ended .cancelled

/-- A worker whose request has been answered: it is done, or reports what is left of a turn that the
session knows. -/
def Settled (session : SessionRuntime) (worker : Worker) : Prop :=
  worker.phase = .finished ∨
    (worker.phase = .receiving ∨ worker.phase = .joined) ∧
      ∃ turnId, (session.turns.lookup (SessionRuntime.publicTurnId turnId)).isSome = true ∧
        LaterEvents turnId worker.queue ∧ Begun turnId worker.core.phase

/-- A worker without a turn id: its core task has not got the agent, or has reported its start,
which is still to be received. -/
structure Unanswered (worker : Worker) : Prop where
  unspawned : worker.phase = .starting → worker.core.phase = .unspawned
  unfinished : worker.phase ≠ .finished
  drained : worker.phase = .joined → worker.queue = [] ∧ worker.core.phase = .ended .cancelled
  silent : worker.queue = [] ∧ Quiet worker.core.phase ∨
    ∃ turnId rest, worker.queue = .turnStarted turnId :: rest ∧ LaterEvents turnId rest ∧
      Begun turnId worker.core.phase

structure Awaited (before session : SessionRuntime) (task : TaskId) (worker : Worker) : Prop where
  active : session.status = .active
  handle : session.currentTurnAbortHandle = none ∨
    session.currentTurnAbortHandle = some task ∧ worker.phase = .receiving
  handed : worker.phase ≠ .starting → worker.phase ≠ .spawned → session.turnSubmitInFlight = false
  pending : worker.reply = .pending → Unanswered worker ∧ Calm before session
  accepted : ∀ turnId, worker.reply = .sent (.ok turnId) → Settled session worker
  failed : ∀ error, worker.reply = .sent (.error error) →
    worker.phase = .finished ∧ Calm before session

structure SubmitFit (state : SubmitWorld) : Prop where
  named : state.world.live.runtime.NamesPublic
  fresh : ∀ task, state.world.nextTask ≤ task → state.world.workers.lookup task = none
  idle : state.waiting = none → state.world.live.runtime.turnSubmitInFlight = false
  awaited : ∀ task before, state.waiting = some (task, before) → Ready before ∧
    ∃ worker, state.world.workers.lookup task = some worker ∧
      Awaited before state.world.live.runtime task worker
  settled : ∀ task worker, state.world.workers.lookup task = some worker →
    (∀ before, state.waiting ≠ some (task, before)) → Settled state.world.live.runtime worker
  answered : state.ErrorsRestore

theorem Settled.kept {session next : SessionRuntime} {worker : Worker}
    (kept : ∀ turnId, (session.turns.lookup turnId).isSome = true →
      (next.turns.lookup turnId).isSome = true)
    (settled : Settled session worker) : Settled next worker := by
  rcases settled with finished | ⟨phase, turnId, known, later, begun⟩
  · exact .inl finished
  · exact .inr ⟨phase, turnId, kept _ known, later, begun⟩

/-- What a step of another worker may do to the markers of a request that waits. -/
structure Loosens (session next : SessionRuntime) : Prop where
  status : next.status = session.status
  handle : next.currentTurnAbortHandle = session.currentTurnAbortHandle ∨
    next.currentTurnAbortHandle = none
  inFlight : next.turnSubmitInFlight = session.turnSubmitInFlight ∨
    next.turnSubmitInFlight = false

theorem Loosens.of_markers {session next : SessionRuntime} (same : next.markers = session.markers) :
    Loosens session next :=
  ⟨(submitGate_markers same).1, .inl (submitGate_markers same).2.2,
    .inl (submitGate_markers same).2.1⟩

theorem Awaited.loosened {before session next : SessionRuntime} {task : TaskId} {worker : Worker}
    (awaited : Awaited before session task worker) (calm : Calm session next)
    (loosens : Loosens session next) : Awaited before next task worker where
  active := loosens.status.trans awaited.active
  handle := by
    rcases loosens.handle with same | free
    · exact same ▸ awaited.handle
    · exact .inl free
  handed := by
    intro started spawned
    rcases loosens.inFlight with same | free
    · exact same.trans (awaited.handed started spawned)
    · exact free
  pending := fun reply =>
    ⟨(awaited.pending reply).1, (awaited.pending reply).2.trans calm⟩
  accepted := fun turnId reply => (awaited.accepted turnId reply).kept calm.kept
  failed := fun error reply =>
    ⟨(awaited.failed error reply).1, (awaited.failed error reply).2.trans calm⟩

section Steps

variable {world next : World} {task : TaskId} {worker : Worker}

theorem send_sent (answer later : Except ApiError String) :
    (TurnIdReply.sent answer).send later = .sent answer := rfl

theorem mapCoreEvent_sent (live : LiveSession) (first second : AppendAttempt) (route : EventRoute)
    (event : Event) (answer : Except ApiError String) :
    (mapCoreEvent live first second route event (.sent answer)).2.2 = .sent answer := by
  rw [mapCoreEvent]
  split
  · rfl
  · rfl
  next mapping _ => split <;> rfl

theorem conclude_replies {attempt : AppendAttempt}
    (stepped : world.conclude attempt task worker = some next) :
    ∃ worker', next.workers.lookup task = some worker' ∧
      (∀ answer, worker.reply = .sent answer → worker'.reply = .sent answer) ∧
      (worker.core.phase = .ended .cancelled → worker.reply = .pending →
        ∃ error, worker'.reply = .sent (.error error)) := by
  obtain ⟨-, result⟩ := (guard_bind_iff _ _ _).mp stepped
  split at result
  · cases result
  next events ended =>
    have other : worker.core.phase ≠ .ended .cancelled := by
      intro cancelled
      simp [cancelled, CorePhase.outcome?] at ended
    split at result
    all_goals
      cases result
      refine ⟨_, by rw [World.setWorker_lookup, if_pos rfl], fun answer sent => ?_,
        fun cancelled => absurd cancelled other⟩
      simp only [sent, send_sent]
  · cases result
    refine ⟨_, by rw [World.setWorker_lookup, if_pos rfl], fun answer sent => ?_,
      fun _ pending => ⟨.conflict "turn aborted by user" World.userAbort, ?_⟩⟩
    · simp only [sent, send_sent]
    · simp only [pending, TurnIdReply.send]
  · cases result
    refine ⟨_, by rw [World.setWorker_lookup, if_pos rfl], fun answer sent => ?_,
      fun _ pending =>
        ⟨.upstreamUnavailable "core execution task failed" .empty, ?_⟩⟩
    · simp only [sent, send_sent]
    · simp only [pending, TurnIdReply.send]

theorem receive_calm {first second : AppendAttempt} (named : world.live.runtime.NamesPublic)
    (settled : Settled world.live.runtime worker)
    (stepped : world.receive first second task worker = some next) :
    ∃ worker', next.workers = world.workers.insert task worker' ∧
      next.nextTask = world.nextTask ∧ worker'.phase = worker.phase ∧
      (∀ answer, worker.reply = .sent answer → worker'.reply = .sent answer) ∧
      next.live.runtime.markers = world.live.runtime.markers ∧
      Settled next.live.runtime worker' ∧ Calm world.live.runtime next.live.runtime := by
  obtain ⟨phase, event, rest, live, mapped, reply, queue, projected, rfl⟩ := receive_some stepped
  have extended := mapCoreEvent_extends world.live first second worker.route event worker.reply
    named
  rw [projected] at extended
  rcases settled with finished | ⟨-, turnId, known, later, begun⟩
  · rw [phase] at finished
    cases finished
  · have own := later event (by rw [queue]; exact List.mem_cons_self)
    have calm := mapCoreEvent_calm world.live first second worker.route worker.reply named own.1
      own.2 known
    rw [projected] at calm
    refine ⟨_, rfl, rfl, rfl, fun answer sent => ?_, extended.markers, .inr ⟨.inl phase, turnId,
      calm.kept _ known, ?_, begun⟩, calm⟩
    · have still := mapCoreEvent_sent world.live first second worker.route event answer
      rwa [← sent, projected, sent] at still
    · exact fun other among => later other (by rw [queue]; exact List.mem_cons_of_mem _ among)

theorem conclude_calm {attempt : AppendAttempt}
    (stepped : world.conclude attempt task worker = some next) :
    ∃ worker', next.workers = world.workers.insert task worker' ∧
      next.nextTask = world.nextTask ∧ worker.phase = .joined ∧ worker'.phase = .finished ∧
      (∀ answer, worker.reply = .sent answer → worker'.reply = .sent answer) ∧
      (worker.core.phase = .ended .cancelled → worker.reply = .pending →
        ∃ error, worker'.reply = .sent (.error error)) ∧
      next.live.runtime.markers = world.live.runtime.markers ∧
      Calm world.live.runtime next.live.runtime := by
  obtain ⟨same, lookup, sent, answered⟩ := conclude_replies stepped
  obtain ⟨phase, live, worker', rfl, finished, -, -, -, cases⟩ := conclude_cases stepped
  rw [World.setWorker_lookup, if_pos rfl] at lookup
  obtain rfl := Option.some.inj lookup
  refine ⟨worker', rfl, rfl, phase, finished, sent, answered, ?_⟩
  rcases cases with ⟨-, rfl, -⟩ | ⟨-, -, -, extended⟩
  · exact ⟨(interrupt_extends world.live attempt worker).markers, interrupt_calm _ attempt worker⟩
  · have same := extended (fun _ => False) (fun _ => False)
    exact ⟨same.markers, .of_lookups fun turnId => same.turns turnId not_false⟩

structure SettledStep (world next : World) (task : TaskId) (worker worker' : Worker) : Prop where
  workers : next.workers = world.workers.insert task worker'
  tasks : next.nextTask = world.nextTask
  settled : Settled next.live.runtime worker'
  calm : Calm world.live.runtime next.live.runtime
  loosens : Loosens world.live.runtime next.live.runtime
  sent : ∀ answer, worker.reply = .sent answer → worker'.reply = .sent answer
  released : worker'.phase = worker.phase ∨ worker.phase = .joined ∨
    next.live.runtime.currentTurnAbortHandle = none

variable {step : WorkerStep}

theorem settled_workerStep (named : world.live.runtime.NamesPublic)
    (settled : Settled world.live.runtime worker)
    (stepped : world.workerStep task worker step = some next) :
    ∃ worker', SettledStep world next task worker worker' := by
  cases step with
  | begin =>
    obtain ⟨phase, -⟩ := begin_some stepped
    simp [Settled, phase] at settled
  | publishHandle =>
    obtain ⟨phase, -⟩ := publishHandle_some stepped
    simp [Settled, phase] at settled
  | receive first second =>
    obtain ⟨worker', workers, tasks, phase, sent, markers, later, calm⟩ :=
      receive_calm named settled stepped
    exact ⟨worker', workers, tasks, later, calm, .of_markers markers, sent, .inl phase⟩
  | join =>
    obtain ⟨phase, queue, -, outcome, after, ended, either, rfl⟩ := join_some stepped
    refine ⟨_, rfl, rfl, ?_, .of_turns rfl, ⟨rfl, .inr rfl, .inr rfl⟩, fun _ => id, .inr (.inr rfl)⟩
    rcases either with rfl | ⟨rfl, -⟩
    · rcases settled with finished | ⟨-, rest⟩
      · rw [phase] at finished
        cases finished
      · exact .inr ⟨.inr rfl, rest⟩
    · exact .inl rfl
  | conclude attempt =>
    obtain ⟨worker', workers, tasks, joined, finished, sent, -, markers, calm⟩ :=
      conclude_calm stepped
    exact ⟨worker', workers, tasks, .inl finished, calm, .of_markers markers, sent,
      .inr (.inl joined)⟩

structure CoreMoves (world next : World) (task : TaskId) (worker worker' : Worker) : Prop where
  workers : next.workers = world.workers.insert task worker'
  live : next.live = world.live
  tasks : next.nextTask = world.nextTask
  phase : worker'.phase = worker.phase
  reply : worker'.reply = worker.reply
  spawned : worker.core.phase ≠ .unspawned
  alive : ∀ outcome, worker.core.phase ≠ .ended outcome
  begun : ∀ turnId, Begun turnId worker.core.phase →
    Begun turnId worker'.core.phase ∧ ∃ added, worker'.queue = worker.queue ++ added ∧
      LaterEvents turnId added
  quiet : Quiet worker.core.phase →
    Quiet worker'.core.phase ∧ worker'.queue = worker.queue ∨
    ∃ turnId, Begun turnId worker'.core.phase ∧
      worker'.queue = worker.queue ++ [.turnStarted turnId]

theorem begun_running {turnId own : Nat} {events : List Event}
    (begun : Begun own (.running turnId events)) : own = turnId := by
  rcases begun with ⟨others, same⟩ | ⟨outcome, other⟩
  · injection same with same
    exact same.symm
  · cases other

theorem not_quiet_running {turnId : Nat} {events : List Event} :
    ¬Quiet (.running turnId events) := by
  rintro (phase | phase | phase) <;> cases phase

theorem dropCore_moves {outcome : CoreOutcome} (spawned : worker.core.phase ≠ .unspawned)
    (alive : ∀ outcome, worker.core.phase ≠ .ended outcome)
    (quiet : Quiet worker.core.phase → outcome = .cancelled) :
    CoreMoves world (world.dropCore outcome task worker) task worker
      { worker with core := { worker.core with phase := .ended outcome } } where
  workers := (dropCore_frame world outcome task worker).workers
  live := (dropCore_frame world outcome task worker).live
  tasks := (dropCore_frame world outcome task worker).nextTask
  phase := rfl
  reply := rfl
  spawned := spawned
  alive := alive
  begun := fun _ _ => ⟨.inr ⟨outcome, rfl⟩, [], (List.append_nil _).symm, by simp [LaterEvents]⟩
  quiet := fun silent => .inl ⟨.inr (.inr (by rw [quiet silent])), rfl⟩

theorem coreStep_coreMoves {step : CoreStep} (stepped : world.coreStep task worker step = some next) :
    ∃ worker', CoreMoves world next task worker worker' := by
  cases step with
  | acquire =>
    obtain ⟨phase, rfl⟩ := acquire_some stepped
    refine ⟨_, rfl, rfl, rfl, rfl, rfl, by simp [phase], by simp [phase], ?_, fun _ =>
      .inr ⟨_, .inl ⟨_, rfl⟩, rfl⟩⟩
    rintro turnId (⟨events, running⟩ | ⟨outcome, ended⟩)
    · rw [phase] at running
      cases running
    · rw [phase] at ended
      cases ended
  | emitEvent event =>
    have own : ∃ turnId events, worker.core.phase = .running turnId events ∧
        event.turnId? = some turnId ∧ event ≠ .turnStarted turnId := by
      simp only [World.coreStep, World.emitEvent] at stepped
      split at stepped
      next turnId events phase =>
        obtain ⟨guarded, -⟩ := (guard_bind_iff _ _ _).mp stepped
        exact ⟨turnId, events, phase, guarded.1, guarded.2.1⟩
      · cases stepped
    obtain ⟨turnId, events, phase, named, later⟩ := own
    obtain ⟨other, others, also, -, rfl⟩ := emitEvent_some stepped
    obtain ⟨rfl, rfl⟩ : turnId = other ∧ events = others := by simpa [phase] using also
    refine ⟨_, rfl, rfl, rfl, rfl, rfl, by simp [phase], by simp [phase], fun mine begun => ?_,
      fun silent => ?_⟩
    · rw [phase] at begun
      obtain rfl := begun_running begun
      refine ⟨.inl ⟨_, rfl⟩, [event], rfl, fun one among => ?_⟩
      rw [List.mem_singleton.mp among]
      exact ⟨named, later⟩
    · rw [phase] at silent
      exact absurd silent not_quiet_running
  | complete =>
    obtain ⟨turnId, events, phase, rfl⟩ := complete_some stepped
    refine ⟨_, rfl, rfl, rfl, rfl, rfl, by simp [phase], by simp [phase], fun mine begun => ?_,
      fun silent => ?_⟩
    · rw [phase] at begun
      obtain rfl := begun_running begun
      refine ⟨.inr ⟨_, rfl⟩, [.turnCompleted mine], rfl, fun one among => ?_⟩
      rw [List.mem_singleton.mp among]
      exact ⟨rfl, by simp⟩
    · rw [phase] at silent
      exact absurd silent not_quiet_running
  | cancel =>
    obtain ⟨held, rfl⟩ := cancel_some stepped
    refine ⟨_, dropCore_moves ?_ ?_ fun _ => rfl⟩
    · intro unspawned
      rw [unspawned] at held
      cases held
    · intro outcome ended
      rw [ended] at held
      cases held
  | panic =>
    obtain ⟨turnId, events, phase, rfl⟩ := panic_some stepped
    refine ⟨_, dropCore_moves (by simp [phase]) (by simp [phase]) fun silent => ?_⟩
    rw [phase] at silent
    exact absurd silent not_quiet_running

theorem settled_coreStep {worker' : Worker} {session : SessionRuntime}
    (moves : CoreMoves world next task worker worker') (settled : Settled session worker) :
    Settled session worker' := by
  rcases settled with finished | ⟨phase, turnId, known, later, begun⟩
  · exact .inl (moves.phase.trans finished)
  · obtain ⟨still, added, queue, more⟩ := moves.begun turnId begun
    refine .inr ⟨by rw [moves.phase]; exact phase, turnId, known, ?_, still⟩
    intro event among
    rw [queue] at among
    exact (List.mem_append.mp among).elim (later event) (more event)

theorem unanswered_coreStep {worker' : Worker} (moves : CoreMoves world next task worker worker')
    (unanswered : Unanswered worker) : Unanswered worker' where
  unspawned := fun starting =>
    absurd (unanswered.unspawned (moves.phase ▸ starting)) moves.spawned
  unfinished := moves.phase ▸ unanswered.unfinished
  drained := fun joined => absurd (unanswered.drained (moves.phase ▸ joined)).2 (moves.alive _)
  silent := by
    rcases unanswered.silent with ⟨empty, quiet⟩ | ⟨turnId, rest, queue, later, begun⟩
    · rcases moves.quiet quiet with ⟨still, same⟩ | ⟨turnId, begun, queue⟩
      · exact .inl ⟨same.trans empty, still⟩
      · rw [empty] at queue
        exact .inr ⟨turnId, [], queue, by simp [LaterEvents], begun⟩
    · obtain ⟨still, added, more, fits⟩ := moves.begun turnId begun
      refine .inr ⟨turnId, rest ++ added, by rw [more, queue, List.cons_append], ?_, still⟩
      intro event among
      exact (List.mem_append.mp among).elim (later event) (fits event)

theorem awaited_coreStep {before session : SessionRuntime} {worker' : Worker}
    (moves : CoreMoves world next task worker worker')
    (awaited : Awaited before session task worker) : Awaited before session task worker' where
  active := awaited.active
  handle := by
    rw [moves.phase]
    exact awaited.handle
  handed := by
    rw [moves.phase]
    exact awaited.handed
  pending := fun reply =>
    have known := awaited.pending (moves.reply ▸ reply)
    ⟨unanswered_coreStep moves known.1, known.2⟩
  accepted := fun turnId reply =>
    settled_coreStep moves (awaited.accepted turnId (moves.reply ▸ reply))
  failed := fun error reply => by
    rw [moves.phase]
    exact awaited.failed error (moves.reply ▸ reply)

theorem workerStep_unfinished (stepped : world.workerStep task worker step = some next) :
    worker.phase ≠ .finished := by
  intro finished
  cases step with
  | begin => simp [(begin_some stepped).1] at finished
  | publishHandle => simp [(publishHandle_some stepped).1] at finished
  | receive first second => simp [(receive_some stepped).1] at finished
  | join => simp [(join_some stepped).1] at finished
  | conclude attempt => simp [(conclude_cases stepped).1] at finished

structure AwaitedStep (before : SessionRuntime) (world next : World) (task : TaskId)
    (worker' : Worker) : Prop where
  workers : next.workers = world.workers.insert task worker'
  tasks : next.nextTask = world.nextTask
  awaited : Awaited before next.live.runtime task worker'
  kept : ∀ turnId, (world.live.runtime.turns.lookup turnId).isSome = true →
    (next.live.runtime.turns.lookup turnId).isSome = true

variable {before : SessionRuntime}

theorem accepted_workerStep {turnId : String} (named : world.live.runtime.NamesPublic)
    (awaited : Awaited before world.live.runtime task worker)
    (replied : worker.reply = .sent (.ok turnId))
    (stepped : world.workerStep task worker step = some next) :
    ∃ worker', AwaitedStep before world next task worker' := by
  have settled := awaited.accepted turnId replied
  obtain ⟨worker', moved⟩ := settled_workerStep named settled stepped
  have answer := moved.sent _ replied
  refine ⟨worker', moved.workers, moved.tasks, ⟨moved.loosens.status.trans awaited.active, ?_, ?_,
    ?_, fun _ _ => moved.settled, ?_⟩, moved.calm.kept⟩
  · rcases moved.loosens.handle with same | free
    · rcases moved.released with phase | joined | free
      · rw [same, phase]
        exact awaited.handle
      · rcases awaited.handle with free | ⟨-, receiving⟩
        · exact .inl (same.trans free)
        · rw [joined] at receiving
          cases receiving
      · exact .inl free
    · exact .inl free
  · intro _ _
    rcases moved.loosens.inFlight with same | free
    · refine same.trans (awaited.handed ?_ ?_)
      all_goals
        intro early
        simp [Settled, early] at settled
    · exact free
  · intro pending
    rw [answer] at pending
    cases pending
  · intro error failed
    rw [answer] at failed
    cases failed

theorem pending_workerStep (named : world.live.runtime.NamesPublic)
    (awaited : Awaited before world.live.runtime task worker) (pending : worker.reply = .pending)
    (stepped : world.workerStep task worker step = some next) :
    ∃ worker', AwaitedStep before world next task worker' := by
  have ⟨unanswered, calm⟩ := awaited.pending pending
  have noAnswer {answer : Except ApiError String} {goal : Prop}
      (sent : worker.reply = .sent answer) : goal := by
    rw [pending] at sent
    cases sent
  cases step with
  | begin =>
    obtain ⟨phase, rfl⟩ := begin_some stepped
    have unspawned := unanswered.unspawned phase
    have free : world.live.runtime.currentTurnAbortHandle = none := by
      rcases awaited.handle with free | ⟨-, receiving⟩
      · exact free
      · rw [phase] at receiving
        cases receiving
    have empty : worker.queue = [] := by
      rcases unanswered.silent with ⟨empty, -⟩ | ⟨turnId, rest, -, -, begun⟩
      · exact empty
      · rw [unspawned] at begun
        rcases begun with ⟨events, other⟩ | ⟨outcome, other⟩ <;> cases other
    refine ⟨_, rfl, rfl, ⟨awaited.active, .inl free, by simp, fun _ => ⟨⟨?_, ?_, ?_, ?_⟩, calm⟩,
      fun _ sent => noAnswer sent, fun _ sent => noAnswer sent⟩, fun _ => id⟩
    · simp
    · simp
    · simp
    · exact .inl ⟨empty, .inr (.inl rfl)⟩
  | publishHandle =>
    obtain ⟨phase, abortNow, rfl⟩ := publishHandle_some stepped
    refine ⟨_, rfl, rfl, ⟨awaited.active, .inr ⟨rfl, rfl⟩, fun _ _ => rfl,
      fun _ => ⟨⟨?_, ?_, ?_, unanswered.silent⟩, calm.trans (.of_turns rfl)⟩,
      fun _ sent => noAnswer sent, fun _ sent => noAnswer sent⟩, fun _ => id⟩
    · simp
    · simp
    · simp
  | receive first second =>
    obtain ⟨phase, event, rest, live, mapped, reply, queue, projected, rfl⟩ := receive_some stepped
    have extended := mapCoreEvent_extends world.live first second worker.route event worker.reply
      named
    have kept := @mapCoreEvent_kept world.live first second worker.route event worker.reply named
    rw [projected] at extended kept
    rcases unanswered.silent with ⟨empty, -⟩ | ⟨turnId, others, started, later, begun⟩
    · rw [empty] at queue
      cases queue
    · obtain ⟨rfl, rfl⟩ : event = .turnStarted turnId ∧ rest = others := by
        simpa using queue.symm.trans started
      have answer := mapCoreEvent_started world.live first second worker.route worker.reply named
        turnId
      rw [projected, pending] at answer
      have loosens := Loosens.of_markers extended.markers
      refine ⟨_, rfl, rfl, ⟨loosens.status.trans awaited.active, ?_, ?_, ?_, ?_, ?_⟩, kept⟩
      · have same := (submitGate_markers extended.markers).2.2
        rcases awaited.handle with free | own
        · exact .inl (same.trans free)
        · exact .inr ⟨same.trans own.1, own.2⟩
      · intro starting spawned
        exact (submitGate_markers extended.markers).2.1.trans (awaited.handed starting spawned)
      · intro still
        cases answer.1.symm.trans still
      · exact fun _ _ => .inr ⟨.inl phase, turnId, answer.2, later, begun⟩
      · intro error failed
        cases answer.1.symm.trans failed
  | join =>
    obtain ⟨phase, queue, -, outcome, after, ended, either, rfl⟩ := join_some stepped
    have cancelled : worker.core.phase = .ended .cancelled := by
      rcases unanswered.silent with ⟨-, quiet⟩ | ⟨turnId, rest, started, -⟩
      · rcases quiet with other | other | same
        · cases ended.symm.trans other
        · cases ended.symm.trans other
        · exact same
      · cases queue.symm.trans started
    rcases either with rfl | ⟨-, events, rfl⟩
    · refine ⟨_, rfl, rfl, ⟨awaited.active, .inl rfl, fun _ _ => rfl,
        fun _ => ⟨⟨?_, ?_, fun _ => ⟨queue, cancelled⟩, unanswered.silent⟩,
          calm.trans (.of_turns rfl)⟩,
        fun _ sent => noAnswer sent, fun _ sent => noAnswer sent⟩, fun _ => id⟩
      · simp
      · simp
    · cases ended.symm.trans cancelled
  | conclude attempt =>
    obtain ⟨worker', workers, tasks, joined, finished, -, answered, markers, quiet⟩ :=
      conclude_calm stepped
    obtain ⟨error, failed⟩ := answered (unanswered.drained joined).2 pending
    have loosens := Loosens.of_markers markers
    refine ⟨worker', workers, tasks, ⟨loosens.status.trans awaited.active, .inl ?_, ?_, ?_, ?_,
      fun _ _ => ⟨finished, calm.trans quiet⟩⟩, quiet.kept⟩
    · rw [(submitGate_markers markers).2.2]
      rcases awaited.handle with free | ⟨-, receiving⟩
      · exact free
      · rw [joined] at receiving
        cases receiving
    · intro _ _
      rw [(submitGate_markers markers).2.1]
      exact awaited.handed (by simp [joined]) (by simp [joined])
    · intro still
      cases failed.symm.trans still
    · intro turnId sent
      cases failed.symm.trans sent

theorem awaited_workerStep (named : world.live.runtime.NamesPublic)
    (awaited : Awaited before world.live.runtime task worker)
    (stepped : world.workerStep task worker step = some next) :
    ∃ worker', AwaitedStep before world next task worker' := by
  cases reply : worker.reply with
  | pending => exact pending_workerStep named awaited reply stepped
  | sent answer =>
    cases answer with
    | ok turnId => exact accepted_workerStep named awaited reply stepped
    | error error =>
      exact absurd (awaited.failed error reply).1 (workerStep_unfinished stepped)

end Steps

namespace SubmitFit

variable {state : SubmitWorld} {next : World} {task : TaskId} {worker worker' : Worker}

theorem fresh_insert (fit : SubmitFit state) (present : state.world.workers.lookup task = some worker)
    (workers : next.workers = state.world.workers.insert task worker')
    (tasks : next.nextTask = state.world.nextTask) (other : TaskId) (later : next.nextTask ≤ other) :
    next.workers.lookup other = none := by
  have absent := fit.fresh other (tasks ▸ later)
  rw [workers, Table.lookup_insert_eq]
  split
  next same =>
    subst same
    rw [present] at absent
    cases absent
  · exact absent

theorem moveSettled (fit : SubmitFit state)
    (present : state.world.workers.lookup task = some worker)
    (apart : ∀ before, state.waiting ≠ some (task, before))
    (workers : next.workers = state.world.workers.insert task worker')
    (tasks : next.nextTask = state.world.nextTask) (named : next.live.runtime.NamesPublic)
    (settled : Settled next.live.runtime worker')
    (calm : Calm state.world.live.runtime next.live.runtime)
    (loosens : Loosens state.world.live.runtime next.live.runtime) :
    SubmitFit { state with world := next } where
  named := named
  fresh := fit.fresh_insert present workers tasks
  idle := by
    intro idle
    rcases loosens.inFlight with same | free
    · exact same.trans (fit.idle idle)
    · exact free
  awaited := by
    intro other before waits
    obtain ⟨ready, found, lookup, awaited⟩ := fit.awaited other before waits
    have differs : other ≠ task := by
      rintro rfl
      exact apart before waits
    refine ⟨ready, found, ?_, awaited.loosened calm loosens⟩
    rw [workers, Table.lookup_insert_eq, if_neg differs]
    exact lookup
  settled := by
    intro other found lookup unwaited
    rw [workers, Table.lookup_insert_eq] at lookup
    split at lookup
    · exact Option.some.inj lookup ▸ settled
    · exact (fit.settled other found lookup unwaited).kept calm.kept
  answered := fit.answered

theorem moveAwaited {before : SessionRuntime} (fit : SubmitFit state)
    (waits : state.waiting = some (task, before))
    (present : state.world.workers.lookup task = some worker)
    (named : next.live.runtime.NamesPublic)
    (moved : AwaitedStep before state.world next task worker') :
    SubmitFit { state with world := next } where
  named := named
  fresh := fit.fresh_insert present moved.workers moved.tasks
  idle := by
    intro idle
    rw [waits] at idle
    cases idle
  awaited := by
    intro other earlier also
    obtain ⟨rfl, rfl⟩ : task = other ∧ before = earlier := by
      simpa using waits.symm.trans also
    refine ⟨(fit.awaited task before waits).1, worker', ?_, moved.awaited⟩
    rw [moved.workers, Table.lookup_insert_eq, if_pos rfl]
  settled := by
    intro other found lookup unwaited
    have differs : other ≠ task := by
      rintro rfl
      exact unwaited before waits
    rw [moved.workers, Table.lookup_insert_eq, if_neg differs] at lookup
    exact (fit.settled other found lookup unwaited).kept moved.kept
  answered := fit.answered

theorem workerStep {step : WorkerStep} (fit : SubmitFit state)
    (present : state.world.workers.lookup task = some worker)
    (stepped : state.world.workerStep task worker step = some next) :
    SubmitFit { state with world := next } := by
  have named := workerStep_named fit.named step stepped
  by_cases waits : ∃ before, state.waiting = some (task, before)
  · obtain ⟨before, waits⟩ := waits
    obtain ⟨-, found, lookup, awaited⟩ := fit.awaited task before waits
    cases present.symm.trans lookup
    obtain ⟨worker', moved⟩ := awaited_workerStep fit.named awaited stepped
    exact fit.moveAwaited waits present named moved
  · have apart := not_exists.mp waits
    obtain ⟨worker', moved⟩ :=
      settled_workerStep fit.named (fit.settled task worker present apart) stepped
    exact fit.moveSettled present apart moved.workers moved.tasks named moved.settled moved.calm
      moved.loosens

theorem coreStep {step : CoreStep} (fit : SubmitFit state)
    (present : state.world.workers.lookup task = some worker)
    (stepped : state.world.coreStep task worker step = some next) :
    SubmitFit { state with world := next } := by
  obtain ⟨worker', moves⟩ := coreStep_coreMoves stepped
  have same : next.live.runtime = state.world.live.runtime := by rw [moves.live]
  have named : next.live.runtime.NamesPublic := same ▸ fit.named
  by_cases waits : ∃ before, state.waiting = some (task, before)
  · obtain ⟨before, waits⟩ := waits
    obtain ⟨-, found, lookup, awaited⟩ := fit.awaited task before waits
    cases present.symm.trans lookup
    refine fit.moveAwaited waits present named ⟨moves.workers, moves.tasks, ?_, ?_⟩
    · rw [same]
      exact awaited_coreStep moves awaited
    · rw [same]
      exact fun _ => id
  · have apart := not_exists.mp waits
    have settled := settled_coreStep moves (fit.settled task worker present apart)
    refine fit.moveSettled present apart moves.workers moves.tasks named (same ▸ settled)
      (.of_turns (by rw [same])) (.of_markers (by rw [same]))

theorem loosened (fit : SubmitFit state) (workers : next.workers = state.world.workers)
    (tasks : next.nextTask = state.world.nextTask) (named : next.live.runtime.NamesPublic)
    (calm : Calm state.world.live.runtime next.live.runtime)
    (loosens : Loosens state.world.live.runtime next.live.runtime) :
    SubmitFit { state with world := next } where
  named := named
  fresh := by
    intro task later
    rw [workers]
    exact fit.fresh task (tasks ▸ later)
  idle := by
    intro idle
    rcases loosens.inFlight with same | free
    · exact same.trans (fit.idle idle)
    · exact free
  awaited := by
    intro task before waits
    obtain ⟨ready, worker, lookup, awaited⟩ := fit.awaited task before waits
    exact ⟨ready, worker, by rw [workers, lookup], awaited.loosened calm loosens⟩
  settled := by
    intro task worker lookup apart
    rw [workers] at lookup
    exact (fit.settled task worker lookup apart).kept calm.kept
  answered := fit.answered

theorem requestAbort (fit : SubmitFit state) (task : TaskId) :
    SubmitFit { state with world := state.world.requestAbort task } := by
  cases present : state.world.workers.lookup task with
  | none =>
    rw [World.requestAbort, present]
    exact fit
  | some worker =>
    rw [World.requestAbort, present]
    by_cases waits : ∃ before, state.waiting = some (task, before)
    · obtain ⟨before, waits⟩ := waits
      obtain ⟨-, found, lookup, awaited⟩ := fit.awaited task before waits
      cases present.symm.trans lookup
      refine fit.moveAwaited waits present fit.named ⟨rfl, rfl, ⟨awaited.active, awaited.handle,
        awaited.handed, fun pending => ⟨?_, (awaited.pending pending).2⟩, awaited.accepted,
        awaited.failed⟩, fun _ => id⟩
      obtain ⟨unspawned, unfinished, drained, silent⟩ := (awaited.pending pending).1
      exact ⟨unspawned, unfinished, drained, silent⟩
    · have apart := not_exists.mp waits
      exact fit.moveSettled present apart rfl rfl fit.named (fit.settled task worker present apart)
        (.of_turns rfl) (.of_markers rfl)

theorem abort (fit : SubmitFit state) : SubmitFit { state with world := state.world.abort } := by
  rw [World.abort]
  split
  · exact fit
  next task held =>
    have freed : SubmitFit { state with
        world := state.world.setRuntime
          { state.world.live.runtime with
            currentTurnAbortHandle := none
            turnAbortRequested := true } } :=
      fit.loosened rfl rfl fit.named (.of_turns rfl) ⟨rfl, .inr rfl, .inl rfl⟩
    exact freed.requestAbort task

theorem answer {before : SessionRuntime} {result : Except ApiError String} (fit : SubmitFit state)
    (free : state.world.live.runtime.turnSubmitInFlight = false)
    (settled : ∀ task worker, state.world.workers.lookup task = some worker →
      Settled state.world.live.runtime worker)
    (restores : ∀ error, result = .error error →
      SubmitAnswer.Restores ⟨before, result, state.world.live.runtime⟩) :
    SubmitFit (state.answer state.world before result) where
  named := fit.named
  fresh := fit.fresh
  idle := fun _ => free
  awaited := by
    intro task before waits
    cases waits
  settled := fun task worker lookup _ => settled task worker lookup
  answered := by
    intro answer member error failed
    rcases List.mem_append.mp member with earlier | latest
    · exact fit.answered answer earlier error failed
    · obtain rfl := List.mem_singleton.mp latest
      exact restores error failed

theorem respond (fit : SubmitFit state) {final : SubmitWorld}
    (stepped : state.respond = some final) : SubmitFit final := by
  obtain ⟨⟨task, before⟩, waits, stepped⟩ := Option.bind_eq_some_iff.mp stepped
  obtain ⟨worker, present, stepped⟩ := Option.bind_eq_some_iff.mp stepped
  obtain ⟨ready, found, lookup, awaited⟩ := fit.awaited task before waits
  cases present.symm.trans lookup
  cases reply : worker.reply with
  | pending => simp [reply] at stepped
  | sent result =>
    simp only [reply] at stepped
    cases stepped
    have own : Settled state.world.live.runtime worker := by
      cases result with
      | ok turnId => exact awaited.accepted turnId reply
      | error error => exact .inl (awaited.failed error reply).1
    have free : state.world.live.runtime.turnSubmitInFlight = false := by
      refine awaited.handed ?_ ?_
      all_goals
        intro early
        simp [Settled, early] at own
    refine fit.answer free (fun other found listed => ?_) ?_
    · by_cases same : other = task
      · subst same
        cases present.symm.trans listed
        exact own
      · refine fit.settled other found listed fun earlier also => same ?_
        exact (Prod.mk.inj (Option.some.inj (also.symm.trans waits))).1
    · rintro error rfl
      have ⟨finished, calm⟩ := awaited.failed error reply
      have open' := (ready_iff before).mp ready
      refine ⟨fun _ => (ready_iff _).mpr ⟨awaited.active, free, ?_, calm.running open'.2.2.2⟩,
        fun _ => calm, fun refused => absurd ready refused⟩
      rcases awaited.handle with free | ⟨-, receiving⟩
      · exact free
      · rw [finished] at receiving
        cases receiving

theorem submit_started {world : World} {input : String} {messageFailure : Option ApiError}
    (ready : Ready world.live.runtime) (stored : (trim input).isEmpty = true ∨ messageFailure = none)
    (requestId : String) (attempt : AppendAttempt) :
    ∃ live, Extends (fun _ => False) (fun _ => True)
        { world.live with runtime := markSubmitted world.live.runtime } live ∧
      world.submit requestId input messageFailure attempt =
        { { world with live := live }.setWorker world.nextTask
            { route := ⟨world.sessionId, requestId⟩ } with
          nextTask := world.nextTask + 1 } := by
  unfold World.submit
  rw [ready world.sessionId]
  by_cases empty : (trim input).isEmpty = true
  · exact ⟨_, Extends.refl _, by simp [empty, markSubmitted, World.setRuntime]⟩
  · obtain rfl : messageFailure = none := stored.resolve_left empty
    refine ⟨_, (emit_extends _ attempt ⟨world.sessionId, requestId⟩ none "user_message"
      (.obj [("content", .str (trim input))]) (some "synthetic") _ trivial).mono ?_, ?_⟩
    · exact fun _ absurd => by cases absurd
    · simp [empty, markSubmitted, World.setRuntime, World.setWorker]

theorem submit_refused {world : World} (refused : ¬Ready world.live.runtime)
    (requestId input : String) (messageFailure : Option ApiError) (attempt : AppendAttempt) :
    world.submit requestId input messageFailure attempt = world := by
  rw [World.submit]
  cases gate : submitGate world.live.runtime world.sessionId with
  | error error => rfl
  | ok => exact absurd ((ready_iff_gate _ world.sessionId).mpr gate) refused

theorem earlyError_iff {world : World} {input : String} {messageFailure : Option ApiError} :
    SubmitWorld.earlyError world input messageFailure = none ↔
      Ready world.live.runtime ∧ ((trim input).isEmpty = true ∨ messageFailure = none) := by
  rw [SubmitWorld.earlyError, ready_iff_gate world.live.runtime world.sessionId]
  cases submitGate world.live.runtime world.sessionId with
  | error error => simp
  | ok =>
    by_cases empty : (trim input).isEmpty = true
    · simp [empty]
    · simp [empty]

theorem submit (fit : SubmitFit state) (idle : state.waiting = none) (requestId input : String)
    (sessionFailure messageFailure : Option ApiError) (attempt : AppendAttempt)
    (stored : state.StoredInTime
      (.submit requestId input sessionFailure messageFailure attempt)) :
    SubmitFit (state.submit requestId input sessionFailure messageFailure attempt) := by
  have settled (task : TaskId) (worker : Worker)
      (lookup : state.world.workers.lookup task = some worker) :
      Settled state.world.live.runtime worker :=
    fit.settled task worker lookup fun before waits => by simp [idle] at waits
  have unchanged (error : ApiError) : SubmitFit
      (state.answer state.world state.world.live.runtime (.error error)) :=
    fit.answer (fit.idle idle) settled fun _ _ => ⟨id, fun _ => .of_turns rfl, fun _ => rfl⟩
  cases sessionFailure with
  | some error => exact unchanged error
  | none =>
    rw [SubmitWorld.submit]
    by_cases ready : Ready state.world.live.runtime
    · have kept := stored rfl ready
      obtain ⟨live, extended, started⟩ := submit_started ready kept requestId attempt
      rw [earlyError_iff.mpr ⟨ready, kept⟩, started]
      obtain ⟨active, -, handle, -⟩ := (ready_iff _).mp ready
      have markers := submitGate_markers extended.markers
      have calm : Calm state.world.live.runtime live.runtime :=
        .of_lookups fun turnId => extended.turns turnId id
      constructor
      case named => exact extended.named fit.named
      case fresh =>
        intro task later
        simp only [World.setWorker]
        rw [Table.lookup_insert_eq, if_neg (Nat.ne_of_gt later)]
        exact fit.fresh task (Nat.le_of_succ_le later)
      case idle =>
        intro waits
        cases waits
      case awaited =>
        intro task before waits
        cases Option.some.inj waits
        refine ⟨ready, _, (Table.lookup_insert_eq _ _ _ _).trans (if_pos rfl), ?_⟩
        constructor
        case active => exact markers.1.trans active
        case handle => exact .inl (markers.2.2.trans handle)
        case handed => exact fun early => absurd rfl early
        case pending =>
          exact fun _ => ⟨⟨fun _ => rfl, by rintro ⟨⟩, by rintro ⟨⟩, .inl ⟨rfl, .inl rfl⟩⟩, calm⟩
        case accepted => rintro _ ⟨⟩
        case failed => rintro _ ⟨⟩
      case settled =>
        intro task worker lookup apart
        have differs : task ≠ state.world.nextTask := by
          rintro rfl
          exact apart _ rfl
        simp only [World.setWorker] at lookup
        rw [Table.lookup_insert_eq, if_neg differs] at lookup
        exact (settled task worker lookup).kept calm.kept
      case answered => exact fit.answered
    · rw [submit_refused ready]
      cases early : SubmitWorld.earlyError state.world input messageFailure with
      | none => exact absurd (earlyError_iff.mp early).1 ready
      | some error => exact unchanged error

theorem start (sessionId : String) (replayCapacity : Nat) (transcript : Journal Json) :
    SubmitFit (.start sessionId replayCapacity transcript) where
  named := rebuilt_named 0 replayCapacity transcript
  fresh := fun _ _ => rfl
  idle := fun _ => (submitGate_markers (rebuilt_markers 0 replayCapacity transcript)).2.1
  awaited := by
    intro task before waits
    cases waits
  settled := by
    intro task worker lookup
    cases lookup
  answered := by
    intro answer member
    cases member

end SubmitFit

theorem submitFit_preserved : Preserves SubmitWorld.step SubmitWorld.StoredInTime SubmitFit := by
  intro state input next fit allowed stepped
  cases input with
  | submit requestId input sessionFailure messageFailure attempt =>
    simp only [SubmitWorld.step] at stepped
    split at stepped
    next idle =>
      cases stepped
      exact fit.submit idle requestId input sessionFailure messageFailure attempt allowed
    · cases stepped
  | respond => exact fit.respond stepped
  | timeout => exact allowed.elim
  | abort =>
    cases stepped
    exact fit.abort
  | worker task step =>
    obtain ⟨world, moved, rfl⟩ := Option.map_eq_some_iff.mp stepped
    obtain ⟨worker, present, moved⟩ := Option.bind_eq_some_iff.mp moved
    exact fit.workerStep present moved
  | core task step =>
    obtain ⟨world, moved, rfl⟩ := Option.map_eq_some_iff.mp stepped
    obtain ⟨worker, present, moved⟩ := Option.bind_eq_some_iff.mp moved
    exact fit.coreStep present moved

theorem failed_submissions_restore (sessionId : String) (replayCapacity : Nat)
    (transcript : Journal Json) (inputs : List SubmitInput) (state : SubmitWorld)
    (stored : Meets SubmitWorld.step SubmitWorld.StoredInTime
      (.start sessionId replayCapacity transcript) inputs)
    (ran : run SubmitWorld.step (.start sessionId replayCapacity transcript) inputs = some state) :
    state.ErrorsRestore :=
  (run_invariant submitFit_preserved (.start sessionId replayCapacity transcript) stored
    ran).answered

def abortedSubmission : List SubmitInput :=
  [.submit "req" "hello" none none storedAttempt, .worker 0 .begin, .worker 0 .publishHandle,
    .abort, .core 0 .cancel, .worker 0 .join, .worker 0 (.conclude storedAttempt), .respond]

theorem abortedSubmission_stored :
    Meets SubmitWorld.step SubmitWorld.StoredInTime (.start "sess_1" 1 []) abortedSubmission := by
  refine ⟨fun _ _ => .inr rfl, ?_⟩
  rintro _ ⟨⟩
  refine ⟨trivial, ?_⟩
  rintro _ ⟨⟩
  refine ⟨trivial, ?_⟩
  rintro _ ⟨⟩
  refine ⟨trivial, ?_⟩
  rintro _ ⟨⟩
  refine ⟨trivial, ?_⟩
  rintro _ ⟨⟩
  refine ⟨trivial, ?_⟩
  rintro _ ⟨⟩
  refine ⟨trivial, ?_⟩
  rintro _ ⟨⟩
  exact ⟨trivial, fun _ _ => trivial⟩

theorem abortedSubmission_restores :
    ∃ state answer error,
      run SubmitWorld.step (.start "sess_1" 1 []) abortedSubmission = some state ∧
      answer ∈ state.answers ∧ answer.result = .error error ∧ answer.Restores := by
  refine ⟨_, _, _, rfl, List.mem_singleton.mpr rfl, rfl, ?_⟩
  exact failed_submissions_restore "sess_1" 1 [] abortedSubmission _ abortedSubmission_stored rfl _
    (List.mem_singleton.mpr rfl) _ rfl

/-- The mark of the submission outlives the message that was not stored. -/
theorem unstored_message_blocks :
    ¬ ∀ (sessionId : String) (replayCapacity : Nat) (transcript : Journal Json)
      (inputs : List SubmitInput) (state : SubmitWorld),
      run SubmitWorld.step (.start sessionId replayCapacity transcript) inputs = some state →
      state.ErrorsRestore := by
  intro claimed
  let failure : ApiError := .internal "database or disk is full"
  have restores := claimed "sess_1" 1 [] [.submit "req" "hello" none (some failure) storedAttempt]
    _ rfl _ (List.mem_singleton.mpr rfl) failure rfl
  have blocked := restores.ready fun sessionId => rfl
  cases blocked "sess_1"

end OpenJax.Gateway
