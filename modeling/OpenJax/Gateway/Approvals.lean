import OpenJax.Gateway.ApiError
import OpenJax.Shared.Machine
import OpenJax.Tools.Orchestrator

set_option autoImplicit false

/-! Approval requests of the tools of a session, and the answers that come for them. A tool waits
under two timeouts of one length, the handler's within the orchestrator's. -/

namespace OpenJax.Gateway

open Shared Tools

/-- A one-shot channel: what was sent, and which of its ends are still there. -/
structure Oneshot where
  value : Option Bool
  sender : Bool
  receiver : Bool
  deriving DecidableEq

inductive ResolveOutcome where
  | resolved
  | alreadyResolved
  | notFound
  deriving DecidableEq

def ResolveOutcome.response (approvalId : String) : ResolveOutcome → Except ApiError String
  | .resolved => .ok "resolved"
  | .alreadyResolved =>
      .error (.conflict "approval already resolved" (.obj [("approval_id", .str approvalId)]))
  | .notFound =>
      .error (.notFound "approval not found" (.obj [("approval_id", .str approvalId)]))

/-- An answered call of `resolve_approval`; `late` if the request was over when the call came. -/
structure ResolveAnswer where
  approvalId : String
  approved : Bool
  late : Bool
  outcome : ResolveOutcome
  deriving DecidableEq

/-- The pending senders of the session's handler, each under the id of the request that made the
channel, and the session's resolved approvals. The lists are the history: the ids requested,
those whose request is over (by an answer, a timeout or the end of its turn), how tools were
released, and the answers given. -/
structure ApprovalState where
  pending : Finset String
  channels : Table String Oneshot
  resolvedApprovals : Finset String
  requested : List String
  finished : List String
  released : List (String × ApprovalOutcome)
  answers : List ResolveAnswer

inductive WaitPhase where
  | asking
  | waiting
  | leaving (outcome : ApprovalOutcome)
  deriving DecidableEq

inductive ResolvePhase where
  | checking
  | taking
  | sending
  | recording
  deriving DecidableEq

/-- A tool by the point it waits at, and a call of `resolve_approval` by the lock section that
comes next. -/
inductive ApprovalTask where
  | tool (approvalId : String) (phase : WaitPhase)
  | resolve (approvalId : String) (approved late : Bool) (phase : ResolvePhase)
  deriving DecidableEq

inductive ApprovalCall where
  | request (approvalId : String)
  | resolve (approvalId : String) (approved : Bool)
  deriving DecidableEq

/-- What a task finds when it is polled: it can go on, its channel is closed, a timeout has
elapsed, or it is dropped with its turn or its connection. -/
inductive ApprovalPoll where
  | ready
  | closed
  | handlerTimeout
  | orchestratorTimeout
  | dropped
  deriving DecidableEq

namespace ApprovalState

def empty : ApprovalState := ⟨∅, ∅, ∅, [], [], [], []⟩

def setChannel (state : ApprovalState) (approvalId : String) (channel : Oneshot) : ApprovalState :=
  { state with channels := state.channels.insert approvalId channel }

def changeChannel (state : ApprovalState) (approvalId : String) (change : Oneshot → Oneshot) :
    ApprovalState :=
  match state.channels.lookup approvalId with
  | some channel => state.setChannel approvalId (change channel)
  | none => state

def dropReceiver (state : ApprovalState) (approvalId : String) : ApprovalState :=
  state.changeChannel approvalId fun channel => { channel with receiver := false }

def removePending (state : ApprovalState) (approvalId : String) : ApprovalState :=
  if approvalId ∈ state.pending then
    { state.changeChannel approvalId fun channel => { channel with sender := false } with
      pending := state.pending.erase approvalId }
  else state

def release (state : ApprovalState) (approvalId : String) (outcome : ApprovalOutcome) :
    ApprovalState :=
  { state with released := state.released ++ [(approvalId, outcome)] }

def finish (state : ApprovalState) (approvalId : String) : ApprovalState :=
  { state with finished := state.finished ++ [approvalId] }

def answer (state : ApprovalState) (approvalId : String) (approved late : Bool)
    (outcome : ResolveOutcome) : ApprovalState :=
  { state with answers := state.answers ++ [⟨approvalId, approved, late, outcome⟩] }

def advanceTool (state : ApprovalState) (approvalId : String) :
    WaitPhase → ApprovalPoll → Option (ApprovalState × List ApprovalTask)
  | .asking, .ready =>
      some ({ state.setChannel approvalId ⟨none, true, true⟩ with
        pending := insert approvalId state.pending }, [.tool approvalId .waiting])
  | .waiting, .ready =>
      ((state.channels.lookup approvalId).bind Oneshot.value).map fun approved =>
        (state.dropReceiver approvalId, [.tool approvalId (.leaving (.answered approved))])
  | .waiting, .closed =>
      if (state.channels.lookup approvalId).any fun channel =>
          channel.value.isNone && !channel.sender then
        some (state.dropReceiver approvalId,
          [.tool approvalId (.leaving (.failed "approval channel closed"))])
      else none
  | .waiting, .handlerTimeout =>
      some ((state.dropReceiver approvalId).finish approvalId,
        [.tool approvalId (.leaving (.failed "approval timed out"))])
  | .leaving outcome, .ready =>
      some (((state.removePending approvalId).finish approvalId).release approvalId outcome, [])
  -- The whole wait is dropped; what it put into the map stays there.
  | _, .orchestratorTimeout =>
      some (((state.dropReceiver approvalId).finish approvalId).release approvalId .timedOut, [])
  | _, .dropped => some ((state.dropReceiver approvalId).finish approvalId, [])
  | _, _ => none

def advanceResolve (state : ApprovalState) (approvalId : String) (approved late : Bool) :
    ResolvePhase → ApprovalPoll → Option (ApprovalState × List ApprovalTask)
  | .checking, .ready =>
      let late := decide (approvalId ∈ state.finished)
      some (if approvalId ∈ state.resolvedApprovals then
        (state.answer approvalId approved late .alreadyResolved, [])
      else (state, [.resolve approvalId approved late .taking]))
  | .taking, .ready =>
      some (if approvalId ∈ state.pending then
        ({ state with pending := state.pending.erase approvalId },
          [.resolve approvalId approved late .sending])
      else (state.answer approvalId approved late .notFound, []))
  | .sending, .ready =>
      -- With the receiver gone the value comes back to the sender.
      some (if (state.channels.lookup approvalId).any Oneshot.receiver then
        ((state.setChannel approvalId ⟨some approved, false, true⟩).answer approvalId approved late
          .resolved, [.resolve approvalId approved late .recording])
      else
        ((state.changeChannel approvalId fun channel => { channel with sender := false }).answer
          approvalId approved late .notFound, []))
  | .recording, .ready =>
      some ({ state with resolvedApprovals := insert approvalId state.resolvedApprovals }, [])
  -- Between taking the sender and sending there is no point to be dropped at.
  | .checking, .dropped | .taking, .dropped | .recording, .dropped => some (state, [])
  | _, _ => none

end ApprovalState

def approvals : TaskSystem ApprovalState ApprovalTask ApprovalCall ApprovalPoll where
  launch state
    | .request approvalId =>
        ({ state with requested := state.requested ++ [approvalId] }, .tool approvalId .asking)
    | .resolve approvalId approved => (state, .resolve approvalId approved false .checking)
  advance state
    | .tool approvalId phase, poll => state.advanceTool approvalId phase poll
    | .resolve approvalId approved late phase, poll =>
        state.advanceResolve approvalId approved late phase poll

abbrev ApprovalPool := Pool ApprovalState ApprovalTask

def noApprovals : ApprovalPool := ⟨.empty, []⟩

def NewRequests (pool : ApprovalPool) : PoolInput ApprovalCall ApprovalPoll → Prop
  | .start (.request approvalId) => approvalId ∉ pool.shared.requested
  | _ => True

end OpenJax.Gateway
