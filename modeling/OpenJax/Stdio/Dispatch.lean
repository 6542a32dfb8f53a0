import OpenJax.Shared.Machine
import OpenJax.Shared.Rows
import OpenJax.Shared.Text
import OpenJax.Stdio.Protocol
import Mathlib.Data.Finset.Basic

set_option autoImplicit false

/-! The daemon: one loop that reads the requests, and a worker with a task of the agent for every
turn. The tasks take their steps in any order. -/

namespace OpenJax.Stdio

open Shared Protocol

inductive LockHolder where
  | loop
  | turn (line : Nat)
  deriving DecidableEq

/-- What the parts of a session's state point to; it outlives the session. The lock of the agent
is handed on in the order in which it was asked for. -/
structure SessionCell where
  holder : Option LockHolder
  waiting : List LockHolder
  streamingEnabled : Bool
  -- The ids of the senders that the approval handler keeps.
  pending : Finset String

def SessionCell.new : SessionCell := ⟨none, [], false, ∅⟩

def SessionCell.release (cell : SessionCell) : SessionCell :=
  { cell with holder := cell.waiting.head?, waiting := cell.waiting.tail }

inductive TurnPhase where
  | spawned
  | queued
  | running
  -- The receiver's side of an approval request.
  | waiting (requestId : String) (answer : Option Bool)
  | finished (events : List Event)
  | panicked

def TurnPhase.ended : TurnPhase → Bool
  | .finished _ | .panicked => true
  | _ => false

inductive WorkerPhase where
  | receiving (responseSent : Bool)
  | responding (event : Event) (turnId : Nat)
  | forwarding (responseSent : Bool) (event : Event)
  | joining (responseSent : Bool)
  | replying (response : ResponseEnvelope)
  | ended

/-- The worker of a turn, the events in its channel and those that the turn has sent at all. -/
structure Worker where
  sessionId : String
  requestId : String
  turn : TurnPhase
  channel : List Event
  sent : List Event
  phase : WorkerPhase

inductive Message where
  | response (response : ResponseEnvelope)
  | event (event : EventEnvelope)

structure Written where
  line : Nat
  message : Message
  delivered : Bool

inductive AfterShutdown where
  | respond (line : Nat) (requestId : String)
  | cleanUp (remaining : List String)

inductive LoopPhase where
  | reading
  | writing (line : Nat) (messages : List Message)
  | locking (sessionId : String) (after : AfterShutdown)
  | shutting (sessionId : String) (after : AfterShutdown)
  | cleaning (remaining : List String)
  | exited

structure Daemon where
  lines : List String
  sessions : List String
  cells : Table String SessionCell
  workers : Table Nat Worker
  phase : LoopPhase
  output : List Written

def Daemon.new : Daemon := ⟨[], [], ∅, ∅, .reading, []⟩

inductive TurnAct where
  | lock
  | acquire
  | emit (event : Event)
  | ask (requestId : String)
  | decide
  -- The handler takes its sender back; the timeout around it does not.
  | timeout (cleared : Bool)
  | finish (events : List Event)
  | panic

/-- `works` says whether a write goes well. -/
inductive DaemonInput where
  | line (text sessionId createdAt : String)
  | endOfInput
  | readFails
  | write (works : Bool)
  | acquire
  | shutDown
  | clean (sessionId : String)
  | exit
  | worker (line : Nat) (works : Bool)
  | turn (line : Nat) (act : TurnAct)

namespace Daemon

def respond (daemon : Daemon) (line : Nat) (response : ResponseEnvelope) : Daemon :=
  { daemon with phase := .writing line [.response response] }

def refuse (daemon : Daemon) (line : Nat) (requestId code message : String) (details : Json) :
    Daemon :=
  daemon.respond line (errorResponse requestId code message details)

def sessionRequired (daemon : Daemon) (line : Nat) (requestId : String) : Daemon :=
  daemon.refuse line requestId "INVALID_PARAMS" "session_id is required" .empty

def sessionNotFound (daemon : Daemon) (line : Nat) (requestId sessionId : String) : Daemon :=
  daemon.refuse line requestId "SESSION_NOT_FOUND" "session not found"
    (.obj [("session_id", .str sessionId)])

def withSession (daemon : Daemon) (line : Nat) (requestId sessionId : String)
    (handle : SessionCell → Daemon) : Daemon :=
  if sessionId ∈ daemon.sessions then
    match daemon.cells.lookup sessionId with
    | some cell => handle cell
    | none => daemon.sessionNotFound line requestId sessionId
  else daemon.sessionNotFound line requestId sessionId

def setCell (daemon : Daemon) (sessionId : String) (cell : SessionCell) : Daemon :=
  { daemon with cells := daemon.cells.insert sessionId cell }

def setWorker (daemon : Daemon) (line : Nat) (worker : Worker) : Daemon :=
  { daemon with workers := daemon.workers.insert line worker }

def startSession (daemon : Daemon) (line : Nat) (request : RequestEnvelope)
    (sessionId createdAt : String) : Daemon :=
  { daemon.setCell sessionId .new with sessions := sessionId :: daemon.sessions }.respond line
    (okResponse request.requestId
      (.obj [("session_id", .str sessionId), ("created_at", .str createdAt)]))

def streamEvents (daemon : Daemon) (line : Nat) (request : RequestEnvelope) : Daemon :=
  match request.sessionId with
  | none => daemon.sessionRequired line request.requestId
  | some sessionId =>
      daemon.withSession line request.requestId sessionId fun cell =>
        (daemon.setCell sessionId { cell with streamingEnabled := true }).respond line
          (okResponse request.requestId (.obj [("subscribed", .bool true)]))

def spawnTurn (daemon : Daemon) (line : Nat) (sessionId requestId : String) : Daemon :=
  daemon.setWorker line ⟨sessionId, requestId, .spawned, [], [], .receiving false⟩

def submitTurn (daemon : Daemon) (line : Nat) (request : RequestEnvelope) : Daemon :=
  match request.sessionId with
  | none => daemon.sessionRequired line request.requestId
  | some sessionId =>
      match (request.params.get? "input").bind Json.asStr? with
      | none =>
          daemon.refuse line request.requestId "INVALID_PARAMS" "params.input is required" .empty
      | some _ =>
          daemon.withSession line request.requestId sessionId fun _ =>
            daemon.spawnTurn line sessionId request.requestId

def sendApproval (daemon : Daemon) (cell : SessionCell) (requestId : String) (approved : Bool) :
    Option Daemon :=
  match cell.holder with
  | some (.turn line) =>
      match daemon.workers.lookup line with
      | some worker =>
          match worker.turn with
          | .waiting waited none =>
              if waited = requestId then
                some (daemon.setWorker line
                  { worker with turn := .waiting waited (some approved) })
              else none
          | _ => none
      | none => none
  | _ => none

def resolve (daemon : Daemon) (sessionId : String) (cell : SessionCell) (requestId : String)
    (approved : Bool) : Daemon × Bool :=
  if requestId ∈ cell.pending then
    let taken := daemon.setCell sessionId { cell with pending := cell.pending.erase requestId }
    match taken.sendApproval cell requestId approved with
    | some delivered => (delivered, true)
    | none => (taken, false)
  else (daemon, false)

def answerApproval (daemon : Daemon) (line : Nat) (requestId sessionId approvalId : String)
    (cell : SessionCell) (approved : Bool) : Daemon :=
  match daemon.resolve sessionId cell approvalId approved with
  | (resolved, true) => resolved.respond line (okResponse requestId (.obj [("resolved", .bool true)]))
  | (unresolved, false) =>
      unresolved.refuse line requestId "APPROVAL_NOT_FOUND"
        "approval request not found or already resolved"
        (.obj [("request_id", .str approvalId)])

def resolveApproval (daemon : Daemon) (line : Nat) (request : RequestEnvelope) : Daemon :=
  match request.sessionId with
  | none => daemon.sessionRequired line request.requestId
  | some sessionId =>
      match (request.params.get? "request_id").bind Json.asStr? with
      | none =>
          daemon.refuse line request.requestId "INVALID_PARAMS" "params.request_id is required"
            .empty
      | some approvalId =>
          match (request.params.get? "approved").bind Json.asBool? with
          | none =>
              daemon.refuse line request.requestId "INVALID_PARAMS" "params.approved is required"
                .empty
          | some approved =>
              daemon.withSession line request.requestId sessionId fun cell =>
                daemon.answerApproval line request.requestId sessionId approvalId cell approved

def lockAgent (daemon : Daemon) (sessionId : String) (cell : SessionCell)
    (after : AfterShutdown) : Daemon :=
  match cell.holder with
  | none =>
      { daemon.setCell sessionId { cell with holder := some .loop } with
        phase := .shutting sessionId after }
  | some _ =>
      { daemon.setCell sessionId { cell with waiting := cell.waiting ++ [.loop] } with
        phase := .locking sessionId after }

def dropSession (daemon : Daemon) (sessionId : String) : Daemon :=
  { daemon with sessions := daemon.sessions.erase sessionId }

def shutdownSession (daemon : Daemon) (line : Nat) (request : RequestEnvelope) : Daemon :=
  match request.sessionId with
  | none => daemon.sessionRequired line request.requestId
  | some sessionId =>
      daemon.withSession line request.requestId sessionId fun cell =>
        (daemon.dropSession sessionId).lockAgent sessionId cell (.respond line request.requestId)

def handleRequest (daemon : Daemon) (line : Nat) (request : RequestEnvelope)
    (sessionId createdAt : String) : Daemon :=
  if request.protocolVersion ≠ protocolVersion ∨ request.kind ≠ kindRequest then
    daemon.refuse line request.requestId "INVALID_REQUEST"
      "unsupported protocol_version or kind"
      (.obj [("protocol_version", .str request.protocolVersion), ("kind", .str request.kind)])
  else if request.method = "start_session" then
    daemon.startSession line request sessionId createdAt
  else if request.method = "stream_events" then daemon.streamEvents line request
  else if request.method = "submit_turn" then daemon.submitTurn line request
  else if request.method = "resolve_approval" then daemon.resolveApproval line request
  else if request.method = "shutdown_session" then daemon.shutdownSession line request
  else
    daemon.refuse line request.requestId "NOT_IMPLEMENTED" "unsupported method"
      (.obj [("method", .str request.method)])

/-- `parse` is the reader of JSON texts, and `describe` gives the text of an error of the reader
of envelopes. -/
def handleLine (parse : String → Except String Json) (describe : Json → String) (daemon : Daemon)
    (line : Nat) (text sessionId createdAt : String) : Daemon :=
  match parse text with
  | .error err =>
      daemon.refuse line "unknown" "INVALID_REQUEST" ("invalid JSON: " ++ err) .empty
  | .ok raw =>
      match RequestEnvelope.fromValue raw with
      | none =>
          daemon.refuse line (rawRequestId raw) "INVALID_REQUEST"
            ("invalid request envelope: " ++ describe raw) .empty
      | some request => daemon.handleRequest line request sessionId createdAt

def record (daemon : Daemon) (line : Nat) (message : Message) (works : Bool) : Daemon :=
  { daemon with output := daemon.output ++ [⟨line, message, works⟩] }

def afterShutdown (daemon : Daemon) (sessionId : String) (cell : SessionCell)
    (events : List Event) : AfterShutdown → Daemon
  | .respond line requestId =>
      let closed := okResponse requestId (.obj [("closed", .bool true)])
      let streamed :=
        if cell.streamingEnabled then (events.filterMap (mapEvent sessionId)).map Message.event
        else []
      { daemon with phase := .writing line (.response closed :: streamed) }
  | .cleanUp remaining => { daemon with phase := .cleaning remaining }

def releaseAgent (daemon : Daemon) (sessionId : String) : Daemon :=
  match daemon.cells.lookup sessionId with
  | some cell => daemon.setCell sessionId cell.release
  | none => daemon

/-- A step of the turn's task; `line` is that of its request. -/
def turnStep (daemon : Daemon) (line : Nat) (worker : Worker) (cell : SessionCell) :
    TurnAct → Option Daemon
  | .lock =>
      match worker.turn with
      | .spawned =>
          match cell.holder with
          | none =>
              some ((daemon.setCell worker.sessionId
                { cell with holder := some (.turn line) }).setWorker line
                  { worker with turn := .running })
          | some _ =>
              some ((daemon.setCell worker.sessionId
                { cell with waiting := cell.waiting ++ [.turn line] }).setWorker line
                  { worker with turn := .queued })
      | _ => none
  | .acquire =>
      match worker.turn with
      | .queued =>
          if cell.holder = some (.turn line) then
            some (daemon.setWorker line { worker with turn := .running })
          else none
      | _ => none
  | .emit event =>
      match worker.turn with
      | .running =>
          some (daemon.setWorker line
            { worker with channel := worker.channel ++ [event], sent := worker.sent ++ [event] })
      | _ => none
  | .ask requestId =>
      match worker.turn with
      | .running =>
          some ((daemon.setCell worker.sessionId
            { cell with pending := insert requestId cell.pending }).setWorker line
              { worker with turn := .waiting requestId none })
      | _ => none
  | .decide =>
      match worker.turn with
      | .waiting requestId (some _) =>
          some ((daemon.setCell worker.sessionId
            { cell with pending := cell.pending.erase requestId }).setWorker line
              { worker with turn := .running })
      | _ => none
  | .timeout cleared =>
      match worker.turn with
      | .waiting requestId none =>
          let kept := if cleared then cell.pending.erase requestId else cell.pending
          some ((daemon.setCell worker.sessionId { cell with pending := kept }).setWorker line
            { worker with turn := .running })
      | _ => none
  | .finish events =>
      match worker.turn with
      | .running =>
          some ((daemon.setCell worker.sessionId cell.release).setWorker line
            { worker with turn := .finished events })
      | _ => none
  | .panic =>
      match worker.turn with
      | .running =>
          some ((daemon.setCell worker.sessionId cell.release).setWorker line
            { worker with turn := .panicked })
      | _ => none

def joined (worker : Worker) (responseSent : Bool) : Option WorkerPhase :=
  match worker.turn with
  | .finished events =>
      if responseSent then some .ended
      else
        match firstTurnId events with
        | some turnId => some (.replying (acceptedResponse worker.requestId turnId))
        | none =>
            some (.replying (errorResponse worker.requestId "INTERNAL_ERROR"
              "failed to infer turn_id from events" .empty))
  -- The error is sent whether or not a response was.
  | .panicked =>
      some (.replying (errorResponse worker.requestId "INTERNAL_ERROR" "submit task failed"
        .empty))
  | _ => none

def workerStep (daemon : Daemon) (line : Nat) (worker : Worker) (streaming works : Bool) :
    Option Daemon :=
  let go (phase : WorkerPhase) : Daemon := daemon.setWorker line { worker with phase := phase }
  match worker.phase with
  | .receiving responseSent =>
      match worker.channel with
      | event :: rest =>
          let taken := { worker with channel := rest }
          let phase : WorkerPhase :=
            match responseSent, turnIdFromEvent event with
            | false, some turnId => .responding event turnId
            | _, _ => .forwarding responseSent event
          some (daemon.setWorker line { taken with phase := phase })
      | [] => if worker.turn.ended then some (go (.joining responseSent)) else none
  | .responding event turnId =>
      let message := Message.response (acceptedResponse worker.requestId turnId)
      some ((go (if works then .forwarding true event else .ended)).record line message works)
  | .forwarding responseSent event =>
      match if streaming then mapLiveEvent worker.sessionId event else none with
      | some envelope => some ((go (.receiving responseSent)).record line (.event envelope) works)
      | none => some (go (.receiving responseSent))
  | .joining responseSent => (joined worker responseSent).map go
  | .replying response => some ((go .ended).record line (.response response) works)
  | .ended => none

variable (parse : String → Except String Json) (describe : Json → String)

def step (daemon : Daemon) : DaemonInput → Option Daemon
  | .line text sessionId createdAt =>
      match daemon.phase with
      | .reading =>
          if (trim text).isEmpty then some daemon
          -- A session gets an id that no session had.
          else if (daemon.cells.lookup sessionId).isSome then none
          else
            some (handleLine parse describe { daemon with lines := daemon.lines ++ [text] }
              daemon.lines.length text sessionId createdAt)
      | _ => none
  | .endOfInput =>
      match daemon.phase with
      | .reading => some { daemon with phase := .cleaning daemon.sessions, sessions := [] }
      | _ => none
  -- Bytes that are no text end the program at once.
  | .readFails =>
      match daemon.phase with
      | .reading => some { daemon with phase := .exited }
      | _ => none
  | .write works =>
      match daemon.phase with
      | .writing line (message :: rest) =>
          some ({ daemon with
            phase := if rest.isEmpty then .reading else .writing line rest }.record line message
              works)
      | _ => none
  | .acquire =>
      match daemon.phase with
      | .locking sessionId after =>
          if (daemon.cells.lookup sessionId).bind SessionCell.holder = some .loop then
            some { daemon with phase := .shutting sessionId after }
          else none
      | _ => none
  | .shutDown =>
      match daemon.phase with
      | .shutting sessionId after =>
          (daemon.cells.lookup sessionId).map fun cell =>
            (daemon.setCell sessionId cell.release).afterShutdown sessionId cell
              [.shutdownComplete] after
      | _ => none
  | .clean sessionId =>
      match daemon.phase with
      | .cleaning remaining =>
          if sessionId ∈ remaining then
            (daemon.cells.lookup sessionId).map fun cell =>
              daemon.lockAgent sessionId cell (.cleanUp (remaining.erase sessionId))
          else none
      | _ => none
  | .exit =>
      match daemon.phase with
      | .cleaning [] => some { daemon with phase := .exited }
      | _ => none
  | .worker line works =>
      match daemon.phase with
      | .exited => none
      | _ =>
          (daemon.workers.lookup line).bind fun worker =>
            (daemon.cells.lookup worker.sessionId).bind fun cell =>
              daemon.workerStep line worker cell.streamingEnabled works
  | .turn line act =>
      match daemon.phase with
      | .exited => none
      | _ =>
          (daemon.workers.lookup line).bind fun worker =>
            (daemon.cells.lookup worker.sessionId).bind fun cell =>
              daemon.turnStep line worker cell act

end Daemon

end OpenJax.Stdio
