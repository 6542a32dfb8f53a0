import OpenJax.Gateway.EventMapper
import OpenJax.Gateway.PublishPipeline

set_option autoImplicit false

namespace OpenJax.Gateway

open Shared Protocol Transcript

def responseErrorOf (payload : Json) : ApiTurnError :=
  { code := ((payload.get? "code").bind Json.asStr?).getD "UPSTREAM_ERROR"
    message := ((payload.get? "message").bind Json.asStr?).getD "response failed"
    retryable := ((payload.get? "retryable").bind Json.asBool?).getD false
    details := payload }

def turnAborted (details : Json) : ApiTurnError :=
  ⟨"TURN_ABORTED", "turn aborted by user", false, details⟩

def applyTurnRuntimeEvent (turn : TurnRuntime) (eventType : String) (payload : Json) :
    TurnRuntime :=
  if eventType = "turn_started" then { turn with status := .running }
  else if eventType = "turn_completed" then
    if turn.status = .failed then turn else { turn with status := .completed }
  else if eventType = "response_error" ∨ eventType = "error" then
    { turn with status := .failed, error := some (responseErrorOf payload) }
  else if eventType = "turn_interrupted" then
    { turn with status := .failed, error := some (turnAborted payload) }
  -- History that holds only an assistant_message does not fill in the turn.
  else if eventType = "assistant_message" then turn
  else if eventType = "response_completed" then
    match (payload.get? "content").bind Json.asStr? with
    | some content => { turn with assistantMessage := some content, status := .completed }
    | none => turn
  else turn

/-- The one-shot channel through which a worker tells its submitter the turn's id. -/
inductive TurnIdReply where
  | pending
  | sent (answer : Except ApiError String)

def TurnIdReply.send (reply : TurnIdReply) (answer : Except ApiError String) : TurnIdReply :=
  match reply with
  | .pending => .sent answer
  | .sent earlier => .sent earlier

def projectTurn (session : SessionRuntime) (turnId eventType : String) (payload : Json) :
    SessionRuntime :=
  session.setTurn turnId (applyTurnRuntimeEvent (session.turn turnId) eventType payload)

/-- `first` and `second` are met by the event's own append and by that of the error event which
reports its failure. -/
def publishMapped (live : LiveSession) (first second : AppendAttempt) (route : EventRoute)
    (publicTurnId : Option String) (eventType : String) (payload : Json)
    (streamSource : Option String) : LiveSession :=
  let (session, envelope) :=
    live.runtime.createGatewayEvent route.requestId route.sessionId publicTurnId eventType payload
      streamSource first.timestamp
  let next : LiveSession := { live with runtime := session }
  match appendThenPublish next first.failure envelope with
  | .ok published => published
  | .error error =>
      if publicTurnId.isSome ∧ eventType ≠ "response_error" then
        handleKeyEventAppendFailure next second envelope error
      else next

def mapCoreEvent (live : LiveSession) (first second : AppendAttempt) (route : EventRoute)
    (event : Event) (reply : TurnIdReply) : LiveSession × Option String × TurnIdReply :=
  match mapCoreEventPayloadResult event with
  | .ignoredInternal | .unmapped _ => (live, none, reply)
  | .mapped mapping =>
      match mapping.coreTurnId with
      | none =>
          (publishMapped live first second route none mapping.eventType mapping.payload
            mapping.streamSource, none, reply)
      | some coreTurnId =>
          let (named, turnId) := live.runtime.getOrCreatePublicTurnId coreTurnId
          let (numbered, payload) :=
            named.assignStreamNodeIds (some turnId) mapping.eventType mapping.payload
          let projected := projectTurn numbered turnId mapping.eventType payload
          (publishMapped { live with runtime := projected } first second route (some turnId)
            mapping.eventType payload mapping.streamSource,
            some turnId, reply.send (.ok turnId))

def firstTurnId : List Event → Option Nat
  | [] => none
  | event :: rest =>
      match event with
      | .agentSpawned .. | .agentStatusChanged .. | .contextUsageUpdated ..
      | .contextCompacted .. | .shutdownComplete => firstTurnId rest
      | other => other.turnId? <|> firstTurnId rest

def ownTurn (event : Event) (turnId : String) : Prop :=
  ∃ coreTurnId, event.turnId? = some coreTurnId ∧ turnId = SessionRuntime.publicTurnId coreTurnId

variable (live : LiveSession) (first second : AppendAttempt)

theorem publishMapped_extends (route : EventRoute) (publicTurnId : Option String)
    (eventType : String) (payload : Json) (streamSource : Option String) (kinds : String → Prop)
    (kind : kinds eventType) (failure : kinds "response_error") :
    Extends (fun other => publicTurnId = some other) kinds live
      (publishMapped live first second route publicTurnId eventType payload streamSource) := by
  have emitted := emit_extends live first route publicTurnId eventType payload streamSource kinds
    kind
  rcases created : live.runtime.createGatewayEvent route.requestId route.sessionId publicTurnId
    eventType payload streamSource first.timestamp with ⟨session, envelope⟩
  have eventTurn : envelope.turnId = publicTurnId := by
    exact congrArg StreamEventEnvelope.turnId (Prod.mk.inj created).2.symm
  unfold publishMapped
  cases answer : first.failure with
  | none =>
    rw [emit_stored live first route publicTurnId eventType payload streamSource answer created]
      at emitted
    rw [created]
    exact emitted
  | some error =>
    rw [emit_refused live first route publicTurnId eventType payload streamSource error answer,
      created] at emitted
    have handled := handleFailure_extends { live with runtime := session } second envelope error
      kinds failure
    rw [eventTurn] at handled
    simp only [created, appendThenPublish, appendEvent, bind, Except.bind]
    split_ifs
    · exact emitted.trans handled
    · exact emitted

theorem assignStreamNodeIds_extends (turnIds kinds : String → Prop) (turnId : Option String)
    (eventType : String) (payload : Json) :
    Extends turnIds kinds live { live with
      runtime := (live.runtime.assignStreamNodeIds turnId eventType payload).1 } := by
  cases turnId with
  | none => exact Extends.refl live
  | some turnId =>
    exact ⟨rfl, ⟨[], by simp⟩, fun _ _ => rfl, id,
      fun numbered => ⟨numbered.bounded, numbered.distinct⟩⟩

theorem getOrCreatePublicTurnId_extends (turnIds kinds : String → Prop) (coreTurnId : Nat) :
    Extends turnIds kinds live { live with
      runtime := (live.runtime.getOrCreatePublicTurnId coreTurnId).1 } := by
  have named := fun before : live.runtime.NamesPublic =>
    live.runtime.getOrCreatePublicTurnId_named before coreTurnId
  unfold SessionRuntime.getOrCreatePublicTurnId at named ⊢
  cases known : live.runtime.coreTurnToPublic.lookup coreTurnId with
  | some id => exact Extends.refl live
  | none =>
    simp only [known] at named ⊢
    exact ⟨rfl, ⟨[], by simp⟩, fun _ _ => rfl, named,
      fun numbered => ⟨numbered.bounded, numbered.distinct⟩⟩

theorem mapCoreEvent_extends (route : EventRoute) (event : Event) (reply : TurnIdReply)
    (named : live.runtime.NamesPublic) :
    Extends (ownTurn event) (· ≠ "turn_interrupted") live
      (mapCoreEvent live first second route event reply).1 := by
  unfold mapCoreEvent
  cases mapped : mapCoreEventPayloadResult event with
  | ignoredInternal => exact Extends.refl live
  | unmapped variant => exact Extends.refl live
  | mapped mapping =>
    have turn := mapped_turn mapped
    have kind := mapped_not_interrupted mapped
    simp only
    cases owner : mapping.coreTurnId with
    | none =>
      have published := publishMapped_extends live first second route none mapping.eventType
        mapping.payload mapping.streamSource (· ≠ "turn_interrupted") kind (by simp)
      exact published.mono fun other absurd => by cases absurd
    | some coreTurnId =>
      have own : ∀ other, other = SessionRuntime.publicTurnId coreTurnId → ownTurn event other := by
        intro other same
        exact ⟨coreTurnId, by rw [← turn, owner], same⟩
      have idEq := live.runtime.getOrCreatePublicTurnId_snd named coreTurnId
      rcases create : live.runtime.getOrCreatePublicTurnId coreTurnId with ⟨session, turnId⟩
      rw [create] at idEq
      obtain rfl : turnId = SessionRuntime.publicTurnId coreTurnId := idEq
      have createStep := getOrCreatePublicTurnId_extends live (ownTurn event)
        (· ≠ "turn_interrupted") coreTurnId
      rw [create] at createStep
      rcases assign : session.assignStreamNodeIds (some (SessionRuntime.publicTurnId coreTurnId))
        mapping.eventType mapping.payload with ⟨numbered, payload⟩
      have assignStep := assignStreamNodeIds_extends { live with runtime := session }
        (ownTurn event) (· ≠ "turn_interrupted") (some (SessionRuntime.publicTurnId coreTurnId))
        mapping.eventType mapping.payload
      simp only [assign] at assignStep
      have turnStep := (setTurn_extends { live with runtime := numbered }
        (· ≠ "turn_interrupted") (SessionRuntime.publicTurnId coreTurnId)
        (applyTurnRuntimeEvent (numbered.turn (SessionRuntime.publicTurnId coreTurnId))
          mapping.eventType payload)).mono own
      have publishStep := (publishMapped_extends
        { live with
          runtime := projectTurn numbered (SessionRuntime.publicTurnId coreTurnId)
            mapping.eventType payload }
        first second route (some (SessionRuntime.publicTurnId coreTurnId)) mapping.eventType payload
        mapping.streamSource (· ≠ "turn_interrupted") kind (by simp)).mono
        fun other same => own other (Option.some.inj same).symm
      simp only [create, assign]
      exact createStep.trans (assignStep.trans (turnStep.trans publishStep))

theorem mapCoreEvent_turn (route : EventRoute) (event : Event) (reply : TurnIdReply)
    (named : live.runtime.NamesPublic) (turnId : String)
    (found : (mapCoreEvent live first second route event reply).2.1 = some turnId) :
    ownTurn event turnId := by
  unfold mapCoreEvent at found
  cases mapped : mapCoreEventPayloadResult event with
  | ignoredInternal => simp [mapped] at found
  | unmapped variant => simp [mapped] at found
  | mapped mapping =>
    have turn := mapped_turn mapped
    cases owner : mapping.coreTurnId with
    | none => simp [mapped, owner] at found
    | some coreTurnId =>
      simp only [mapped, owner, Option.some.injEq] at found
      refine ⟨coreTurnId, by rw [← turn, owner], ?_⟩
      rw [← found, live.runtime.getOrCreatePublicTurnId_snd named]

end OpenJax.Gateway
