import OpenJax.Gateway.ApiError
import OpenJax.Gateway.Runtime
import OpenJax.Transcript.Types

set_option autoImplicit false

namespace OpenJax.Gateway

open Shared Transcript

structure LiveSession where
  runtime : SessionRuntime
  transcript : Journal Json

structure AppendAttempt where
  timestamp : String
  failure : Option ApiError

def recordOf (event : StreamEventEnvelope) : TranscriptRecord Json :=
  { schemaVersion := transcriptSchemaVersion
    sessionId := event.sessionId
    eventSeq := event.eventSeq
    turnSeq := event.turnSeq
    turnId := event.turnId
    eventType := event.eventType
    streamSource := event.streamSource
    timestamp := event.timestamp
    payload := event.payload
    requestId := event.requestId }

def envelopeOf (record : TranscriptRecord Json) : StreamEventEnvelope :=
  { requestId := record.requestId
    sessionId := record.sessionId
    turnId := record.turnId
    eventSeq := record.eventSeq
    turnSeq := record.turnSeq
    timestamp := record.timestamp
    eventType := record.eventType
    streamSource := record.streamSource
    payload := record.payload }

def appendEvent (transcript : Journal Json) (failure : Option ApiError)
    (event : StreamEventEnvelope) : Except ApiError (Journal Json × StreamEventEnvelope) :=
  match failure with
  | some error => .error error
  | none =>
      .ok (transcript.append (recordOf event), envelopeOf (transcript.stamp (recordOf event)))

def appendThenPublish (live : LiveSession) (failure : Option ApiError)
    (event : StreamEventEnvelope) : Except ApiError LiveSession := do
  let (transcript, persisted) ← appendEvent live.transcript failure event
  return { runtime := live.runtime.publishEvent persisted, transcript := transcript }

def publishEventForSession (live : LiveSession) (failure : Option ApiError)
    (event : StreamEventEnvelope) : LiveSession :=
  (appendThenPublish live failure event).toOption.getD live

structure EventRoute where
  sessionId : String
  requestId : String

def emit (live : LiveSession) (attempt : AppendAttempt) (route : EventRoute)
    (turnId : Option String) (eventType : String) (payload : Json)
    (streamSource : Option String) : LiveSession :=
  let (session, event) :=
    live.runtime.createGatewayEvent route.requestId route.sessionId turnId eventType payload
      streamSource attempt.timestamp
  publishEventForSession { live with runtime := session } attempt.failure event

def transcriptAppendFailedCode : String := "TRANSCRIPT_APPEND_FAILED"

def appendFailureDetails (keyEvent : StreamEventEnvelope) (error : ApiError) : Json :=
  .obj [("failed_event_type", .str keyEvent.eventType), ("failed_event_seq", .int keyEvent.eventSeq),
    ("failed_turn_seq", .int keyEvent.turnSeq), ("append_error_code", .str error.code),
    ("append_error_message", .str error.message), ("append_error_details", error.details)]

def appendFailurePayload (keyEvent : StreamEventEnvelope) (error : ApiError) : Json :=
  .obj [("code", .str transcriptAppendFailedCode),
    ("message", .str "failed to append event to transcript"), ("retryable", .bool error.retryable),
    ("failed_event_type", .str keyEvent.eventType), ("failed_event_seq", .int keyEvent.eventSeq),
    ("append_error_code", .str error.code)]

def failTurn (session : SessionRuntime) (turnId : String) (error : ApiTurnError) : SessionRuntime :=
  session.setTurn turnId { session.turn turnId with status := .failed, error := some error }

def handleKeyEventAppendFailure (live : LiveSession) (attempt : AppendAttempt)
    (keyEvent : StreamEventEnvelope) (appendError : ApiError) : LiveSession :=
  let failed :=
    match keyEvent.turnId with
    | some turnId =>
        failTurn live.runtime turnId
          { code := transcriptAppendFailedCode
            message := "failed to append event to transcript"
            retryable := appendError.retryable
            details := appendFailureDetails keyEvent appendError }
    | none => live.runtime
  emit { live with runtime := failed } attempt ⟨keyEvent.sessionId, keyEvent.requestId⟩
    keyEvent.turnId "response_error" (appendFailurePayload keyEvent appendError)
    (some "synthetic")

def SessionRuntime.turnSeq (session : SessionRuntime) (turnId : String) : Nat :=
  (session.turnEventSeq.lookup turnId).getD 0

def turnKey (record : TranscriptRecord Json) : Option (String × Nat) :=
  record.turnId.map fun turnId => (turnId, record.turnSeq)

/-- The numbers on a session's records are its own: none is ahead of the counter of its turn
and no two of one turn are equal. -/
structure Numbered (live : LiveSession) : Prop where
  bounded : ∀ record ∈ live.transcript, ∀ turnId, record.turnId = some turnId →
    record.turnSeq ≤ live.runtime.turnSeq turnId
  distinct : (live.transcript.filterMap turnKey).Nodup

/-- What publishing the events of the turns in `turnIds` may change: records of these turns
and of the event types in `kinds` are added, and the entries of other turns stay. -/
structure Extends (turnIds : String → Prop) (kinds : String → Prop)
    (before after : LiveSession) : Prop where
  markers : after.runtime.markers = before.runtime.markers
  transcript : ∃ added, after.transcript = before.transcript ++ added ∧
    ∀ record ∈ added, kinds record.eventType ∧
      ∀ turnId, record.turnId = some turnId → turnIds turnId
  turns : ∀ turnId, ¬ turnIds turnId →
    after.runtime.turns.lookup turnId = before.runtime.turns.lookup turnId
  named : before.runtime.NamesPublic → after.runtime.NamesPublic
  numbered : Numbered before → Numbered after

namespace Extends

variable {turnIds kinds : String → Prop}

theorem refl (live : LiveSession) : Extends turnIds kinds live live :=
  ⟨rfl, ⟨[], by simp⟩, fun _ _ => rfl, id, id⟩

theorem trans {first second third : LiveSession} (left : Extends turnIds kinds first second)
    (right : Extends turnIds kinds second third) : Extends turnIds kinds first third := by
  obtain ⟨early, earlyEq, earlyFits⟩ := left.transcript
  obtain ⟨late, lateEq, lateFits⟩ := right.transcript
  constructor
  · rw [right.markers, left.markers]
  · refine ⟨early ++ late, by rw [lateEq, earlyEq, List.append_assoc], ?_⟩
    intro record member
    rcases List.mem_append.mp member with member | member
    · exact earlyFits record member
    · exact lateFits record member
  · intro turnId other
    rw [right.turns turnId other, left.turns turnId other]
  · exact fun named => right.named (left.named named)
  · exact fun numbered => right.numbered (left.numbered numbered)

theorem mono {more : String → Prop} {before after : LiveSession}
    (step : Extends turnIds kinds before after) (wider : ∀ turnId, turnIds turnId → more turnId) :
    Extends more kinds before after := by
  obtain ⟨added, eq, fits⟩ := step.transcript
  refine ⟨step.markers, ⟨added, eq, ?_⟩, ?_, step.named, step.numbered⟩
  · intro record member
    exact ⟨(fits record member).1, fun turnId found => wider _ ((fits record member).2 _ found)⟩
  · intro turnId other
    exact step.turns turnId fun inside => other (wider turnId inside)

end Extends

variable (live : LiveSession)

theorem setTurn_extends (kinds : String → Prop) (turnId : String) (turn : TurnRuntime) :
    Extends (· = turnId) kinds live { live with runtime := live.runtime.setTurn turnId turn } := by
  refine ⟨rfl, ⟨[], by simp⟩, ?_, id, fun numbered => ⟨numbered.bounded, numbered.distinct⟩⟩
  intro other different
  simp [SessionRuntime.setTurn, different]

theorem create_turnSeq (session : SessionRuntime) (requestId sessionId : String)
    (turnId : Option String) (eventType : String) (payload : Json)
    (streamSource : Option String) (timestamp other : String) :
    (session.createGatewayEvent requestId sessionId turnId eventType payload streamSource
        timestamp).1.turnSeq other =
      if turnId = some other then session.turnSeq other + 1 else session.turnSeq other := by
  cases turnId with
  | none => simp [SessionRuntime.createGatewayEvent, SessionRuntime.turnSeq]
  | some turnId =>
    simp only [SessionRuntime.createGatewayEvent, SessionRuntime.turnSeq,
      SessionRuntime.nextTurnSeq, Table.lookup_insert_eq, Option.some.injEq]
    by_cases same : other = turnId
    · subst same
      simp
    · rw [if_neg same, if_neg (Ne.symm same)]

theorem create_numbered (requestId sessionId : String)
    (turnId : Option String) (eventType : String) (payload : Json)
    (streamSource : Option String) (timestamp : String) (numbered : Numbered live) :
    Numbered { live with
      runtime := (live.runtime.createGatewayEvent requestId sessionId turnId eventType payload
        streamSource timestamp).1 } := by
  refine ⟨?_, numbered.distinct⟩
  intro record member other found
  have old := numbered.bounded record member other found
  simp only [create_turnSeq]
  split_ifs <;> omega

theorem turnKey_append (transcript : Journal Json) (record : TranscriptRecord Json) :
    (transcript.append record).filterMap turnKey =
      transcript.filterMap turnKey ++ (turnKey record).toList := by
  have stamped : turnKey (transcript.stamp record) = turnKey record := rfl
  simp only [Journal.append, List.filterMap_append, List.filterMap_cons, stamped,
    List.filterMap_nil]
  cases turnKey record <;> rfl

theorem append_numbered (requestId sessionId : String) (turnId : Option String) (eventType : String)
    (payload : Json) (streamSource : Option String) (timestamp : String) (numbered : Numbered live)
    (session : SessionRuntime) (event : StreamEventEnvelope)
    (created : live.runtime.createGatewayEvent requestId sessionId turnId eventType payload
      streamSource timestamp = (session, event)) (log : StreamEventEnvelope) :
    Numbered
      { runtime := session.publishEvent log
        transcript := live.transcript.append (recordOf event) } := by
  have sessionEq : session = (live.runtime.createGatewayEvent requestId sessionId turnId eventType
    payload streamSource timestamp).1 := by rw [created]
  have eventEq : event = (live.runtime.createGatewayEvent requestId sessionId turnId eventType
    payload streamSource timestamp).2 := by rw [created]
  have counter (other : String) : (session.publishEvent log).turnSeq other =
      if turnId = some other then live.runtime.turnSeq other + 1
      else live.runtime.turnSeq other := by
    rw [← create_turnSeq live.runtime requestId sessionId turnId eventType payload streamSource
      timestamp other, ← sessionEq]
    rfl
  have recordTurn : (recordOf event).turnId = turnId := by rw [eventEq]; rfl
  have recordSeq : (recordOf event).turnSeq = (turnId.map live.runtime.nextTurnSeq).getD 0 := by
    rw [eventEq]; rfl
  constructor
  · intro record member other found
    rw [counter]
    rcases List.mem_append.mp member with old | new
    · have := numbered.bounded record old other found
      split_ifs <;> omega
    · obtain rfl := List.mem_singleton.mp new
      rw [Journal.stamp_turnId, recordTurn] at found
      rw [Journal.stamp_turnSeq, recordSeq, found, if_pos rfl]
      exact Nat.le_refl _
  · rw [turnKey_append]
    cases turnId with
    | none => simpa [turnKey, recordTurn] using numbered.distinct
    | some turnId =>
      simp only [turnKey, recordTurn, recordSeq, Option.map_some, Option.getD_some,
        Option.toList_some]
      rw [List.nodup_append]
      refine ⟨numbered.distinct, List.nodup_singleton _, ?_⟩
      intro key old other new
      obtain rfl := List.mem_singleton.mp new
      rintro rfl
      obtain ⟨record, member, keyed⟩ := List.mem_filterMap.mp old
      obtain ⟨found, number, pair⟩ := Option.map_eq_some_iff.mp keyed
      obtain ⟨rfl, seq⟩ := Prod.mk.inj pair
      have := numbered.bounded record member found number
      rw [seq, SessionRuntime.nextTurnSeq, SessionRuntime.turnSeq] at this
      omega

variable (attempt : AppendAttempt) (route : EventRoute) (turnId : Option String)

theorem emit_refused (eventType : String) (payload : Json) (streamSource : Option String)
    (error : ApiError) (refused : attempt.failure = some error) :
    emit live attempt route turnId eventType payload streamSource =
      { live with runtime := (live.runtime.createGatewayEvent route.requestId route.sessionId
        turnId eventType payload streamSource attempt.timestamp).1 } := by
  simp [emit, publishEventForSession, appendThenPublish, appendEvent, refused, Except.toOption,
    bind, Except.bind]

theorem emit_stored (eventType : String) (payload : Json) (streamSource : Option String)
    (stored : attempt.failure = none) {session : SessionRuntime} {event : StreamEventEnvelope}
    (created : live.runtime.createGatewayEvent route.requestId route.sessionId turnId eventType
      payload streamSource attempt.timestamp = (session, event)) :
    emit live attempt route turnId eventType payload streamSource =
      { runtime := session.publishEvent (envelopeOf (live.transcript.stamp (recordOf event)))
        transcript := live.transcript.append (recordOf event) } := by
  simp [emit, publishEventForSession, appendThenPublish, appendEvent, stored, created,
    Except.toOption, bind, Except.bind, pure, Except.pure]

theorem emit_extends (eventType : String) (payload : Json) (streamSource : Option String)
    (kinds : String → Prop) (kind : kinds eventType) :
    Extends (fun other => turnId = some other) kinds live
      (emit live attempt route turnId eventType payload streamSource) := by
  cases answer : attempt.failure with
  | some error =>
    rw [emit_refused live attempt route turnId eventType payload streamSource error answer]
    exact ⟨rfl, ⟨[], by simp⟩, fun _ _ => rfl, id, create_numbered live _ _ _ _ _ _ _⟩
  | none =>
    rcases created : live.runtime.createGatewayEvent route.requestId route.sessionId turnId
      eventType payload streamSource attempt.timestamp with ⟨session, event⟩
    rw [emit_stored live attempt route turnId eventType payload streamSource answer created]
    obtain ⟨rfl, rfl⟩ := Prod.mk.inj created
    refine ⟨rfl, ⟨_, rfl, ?_⟩, fun _ _ => rfl, id, ?_⟩
    · intro record member
      obtain rfl := List.mem_singleton.mp member
      exact ⟨kind, fun other found => found⟩
    · intro numbered
      exact append_numbered live _ _ _ _ _ _ _ numbered _ _ created _

theorem emit_recorded (eventType : String) (payload : Json) (streamSource : Option String)
    (stored : attempt.failure = none) :
    ∃ record, (emit live attempt route turnId eventType payload streamSource).transcript =
      live.transcript ++ [record] ∧ record.eventType = eventType ∧ record.turnId = turnId := by
  rw [emit_stored live attempt route turnId eventType payload streamSource stored rfl]
  exact ⟨_, rfl, rfl, rfl⟩

theorem handleFailure_extends (keyEvent : StreamEventEnvelope) (appendError : ApiError)
    (kinds : String → Prop) (kind : kinds "response_error") :
    Extends (fun other => keyEvent.turnId = some other) kinds live
      (handleKeyEventAppendFailure live attempt keyEvent appendError) := by
  unfold handleKeyEventAppendFailure
  cases found : keyEvent.turnId with
  | none => simpa [found] using emit_extends live attempt _ none _ _ _ kinds kind
  | some turnId =>
    have own : ∀ other, other = turnId → some turnId = some other := by
      intro other same
      rw [same]
    apply ((setTurn_extends live kinds turnId _).mono own).trans
    exact emit_extends _ attempt _ (some turnId) _ _ _ kinds kind

end OpenJax.Gateway
