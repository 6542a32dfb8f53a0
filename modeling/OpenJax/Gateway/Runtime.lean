import Mathlib.Data.Finset.Empty
import OpenJax.Shared.Rows
import OpenJax.Policy.Schema
import OpenJax.Streaming.Replay
import OpenJax.Gateway.StreamNodes

set_option autoImplicit false

namespace OpenJax.Gateway

open Shared Policy Streaming

inductive SessionStatus where
  | active
  | closing
  | closed
  deriving DecidableEq, Repr

inductive TurnStatus where
  | queued
  | running
  | completed
  | failed
  deriving DecidableEq, Repr

structure ApiTurnError where
  code : String
  message : String
  retryable : Bool
  details : Json

structure TurnRuntime where
  status : TurnStatus
  assistantMessage : Option String
  error : Option ApiTurnError

def TurnRuntime.queued : TurnRuntime := ⟨.queued, none, none⟩

structure StreamEventEnvelope where
  requestId : String
  sessionId : String
  turnId : Option String
  eventSeq : Nat
  turnSeq : Nat
  timestamp : String
  eventType : String
  streamSource : String
  payload : Json

abbrev AgentId := Nat

abbrev TaskId := Nat

/-- The agent and the abort handle are shared pointers in the source; here they name the agent
and the core task they point to. -/
structure SessionRuntime where
  agent : AgentId
  policyOverlayRules : List PolicyRule
  policyLevelOverride : Option DecisionKind
  status : SessionStatus
  turns : Table String TurnRuntime
  coreTurnToPublic : Table Nat String
  nextEventSeq : Nat
  turnEventSeq : Table String Nat
  eventLog : ReplayBuffer StreamEventEnvelope
  resolvedApprovals : Finset String
  currentTurnAbortHandle : Option TaskId
  turnSubmitInFlight : Bool
  turnAbortRequested : Bool
  turnStreamNodes : Table String TurnStreamNodeState
  replayCapacity : Nat

namespace SessionRuntime

def newWithConfig (agent : AgentId) (replayCapacity : Nat) : SessionRuntime :=
  { agent := agent
    policyOverlayRules := []
    policyLevelOverride := none
    status := .active
    turns := ∅
    coreTurnToPublic := ∅
    nextEventSeq := 1
    turnEventSeq := ∅
    eventLog := .withCapacity replayCapacity
    resolvedApprovals := ∅
    currentTurnAbortHandle := none
    turnSubmitInFlight := false
    turnAbortRequested := false
    turnStreamNodes := ∅
    replayCapacity := replayCapacity }

def clearContextWithConfig (session : SessionRuntime) (agent : AgentId) : SessionRuntime :=
  { newWithConfig agent session.replayCapacity with nextEventSeq := session.nextEventSeq }

def storeNode (session : SessionRuntime) (turnId eventType : String)
    (state : TurnStreamNodeState) : SessionRuntime :=
  { session with
    turnStreamNodes :=
      if eventType = "turn_completed" then session.turnStreamNodes.erase turnId
      else session.turnStreamNodes.insert turnId state }

def streamNode (session : SessionRuntime) (turnId : String) : TurnStreamNodeState :=
  (session.turnStreamNodes.lookup turnId).getD {}

def assignStreamNodeIds (session : SessionRuntime) (turnId : Option String)
    (eventType : String) (payload : Json) : SessionRuntime × Json :=
  match turnId with
  | none => (session, payload)
  | some turnId =>
      let (state, payload) := (session.streamNode turnId).assign eventType payload
      (session.storeNode turnId eventType state, payload)

def observeStreamNodeIds (session : SessionRuntime) (turnId : Option String)
    (eventType : String) (payload : Json) : SessionRuntime :=
  match turnId with
  | none => session
  | some turnId =>
      session.storeNode turnId eventType ((session.streamNode turnId).observe eventType payload)

def nextTurnSeq (session : SessionRuntime) (turnId : String) : Nat :=
  (session.turnEventSeq.lookup turnId).getD 0 + 1

def createGatewayEvent (session : SessionRuntime) (requestId sessionId : String)
    (turnId : Option String) (eventType : String) (payload : Json)
    (streamSource : Option String) (timestamp : String) :
    SessionRuntime × StreamEventEnvelope :=
  let turnEventSeq :=
    match turnId with
    | some turnId => session.turnEventSeq.insert turnId (session.nextTurnSeq turnId)
    | none => session.turnEventSeq
  ({ session with nextEventSeq := session.nextEventSeq + 1, turnEventSeq := turnEventSeq },
    { requestId := requestId
      sessionId := sessionId
      turnId := turnId
      eventSeq := session.nextEventSeq
      turnSeq := (turnId.map session.nextTurnSeq).getD 0
      timestamp := timestamp
      eventType := eventType
      streamSource := streamSource.getD "synthetic"
      payload := payload })

def publishEvent (session : SessionRuntime) (event : StreamEventEnvelope) : SessionRuntime :=
  { session with eventLog := session.eventLog.push event }

def publicTurnId (coreTurnId : Nat) : String := s!"turn_{coreTurnId}"

def getOrCreatePublicTurnId (session : SessionRuntime) (coreTurnId : Nat) :
    SessionRuntime × String :=
  match session.coreTurnToPublic.lookup coreTurnId with
  | some id => (session, id)
  | none =>
      let id := publicTurnId coreTurnId
      ({ session with coreTurnToPublic := session.coreTurnToPublic.insert coreTurnId id }, id)

def turn (session : SessionRuntime) (turnId : String) : TurnRuntime :=
  (session.turns.lookup turnId).getD .queued

def setTurn (session : SessionRuntime) (turnId : String) (turn : TurnRuntime) : SessionRuntime :=
  { session with turns := session.turns.insert turnId turn }

def hasRunningTurn (session : SessionRuntime) : Bool :=
  session.turns.any fun _ turn => turn.status = .running

/-- The fields that only submitting, aborting, clearing and a worker's own bookkeeping write. -/
structure Markers where
  agent : AgentId
  status : SessionStatus
  currentTurnAbortHandle : Option TaskId
  turnSubmitInFlight : Bool
  turnAbortRequested : Bool
  deriving DecidableEq

def markers (session : SessionRuntime) : Markers :=
  { agent := session.agent
    status := session.status
    currentTurnAbortHandle := session.currentTurnAbortHandle
    turnSubmitInFlight := session.turnSubmitInFlight
    turnAbortRequested := session.turnAbortRequested }

def NamesPublic (session : SessionRuntime) : Prop :=
  ∀ coreTurnId id, session.coreTurnToPublic.lookup coreTurnId = some id →
    id = publicTurnId coreTurnId

variable (session : SessionRuntime)

theorem hasRunningTurn_iff :
    session.hasRunningTurn = true ↔
      ∃ turnId turn, session.turns.lookup turnId = some turn ∧ turn.status = .running := by
  simp [hasRunningTurn, Table.any_correct]

theorem getOrCreatePublicTurnId_snd (named : session.NamesPublic) (coreTurnId : Nat) :
    (session.getOrCreatePublicTurnId coreTurnId).2 = publicTurnId coreTurnId := by
  unfold getOrCreatePublicTurnId
  cases known : session.coreTurnToPublic.lookup coreTurnId with
  | none => rfl
  | some id => exact named coreTurnId id known

theorem getOrCreatePublicTurnId_named (named : session.NamesPublic) (coreTurnId : Nat) :
    (session.getOrCreatePublicTurnId coreTurnId).1.NamesPublic := by
  unfold getOrCreatePublicTurnId
  cases known : session.coreTurnToPublic.lookup coreTurnId with
  | some id => exact named
  | none =>
    intro other id found
    simp only [Table.lookup_insert_eq] at found
    by_cases same : other = coreTurnId
    · subst same
      simpa using found.symm
    · rw [if_neg same] at found
      exact named other id found

theorem publicTurnId_inj {left right : Nat} (same : publicTurnId left = publicTurnId right) :
    left = right := by
  have digits := congrArg String.toList same
  simp only [publicTurnId, String.toList_append, Nat.toString_eq_ofList_toDigits] at digits
  have equal : Nat.toDigits 10 left = Nat.toDigits 10 right := by simpa using digits
  rw [← Nat.ofDigitChars_ten_toDigits (n := left), equal, Nat.ofDigitChars_ten_toDigits]

end SessionRuntime

end OpenJax.Gateway
