import OpenJax.Sdk.AssistantText
import OpenJax.Shared.Machine

set_option autoImplicit false

namespace OpenJax.Sdk

open OpenJax.Shared

structure ErrorBody where
  code : String
  message : String
  retriable : Bool
  details : List (String × Json)

structure ResponseEnvelope where
  requestId : String
  ok : Bool
  result : Option (List (String × Json))
  error : Option ErrorBody

inductive Failure where
  | protocol (message : String)
  | response (error : ErrorBody)
  | connection (message : String)
  | assertion
  | cancelled

inductive FutureState where
  | waiting
  | result (response : ResponseEnvelope)
  | failed (reason : Failure)
  | cancelled

def FutureState.done : FutureState → Bool
  | .waiting => false
  | _ => true

inductive CallPhase where
  | draining
  | awaiting
  | returned (result : List (String × Json))
  | raised (failure : Failure)

structure Call where
  requestId : String
  future : FutureState
  phase : CallPhase

inductive ReaderState where
  | running
  | ended
  | cancelled
  deriving DecidableEq

inductive StopPhase where
  | reader
  | stderr
  | exit
  deriving DecidableEq

structure Client where
  proc : Bool
  readTask : Bool
  reader : ReaderState
  pending : List String
  calls : List Call
  stops : List StopPhase
  streamClosed : Bool
  streamClosedReason : Option Failure
  eventQueue : List EventEnvelope
  texts : TurnTexts

def Client.started : Client where
  proc := true
  readTask := true
  reader := .running
  pending := []
  calls := []
  stops := []
  streamClosed := false
  streamClosedReason := none
  eventQueue := []
  texts := .empty

inductive ReadResult where
  | closed
  | skipped
  | response (response : ResponseEnvelope)
  | event (evt : EventEnvelope)
  | unknown
  | raised (message : String)

inductive ClientAction where
  | call (requestId : String)
  | drained (requestId : String)
  | drainFailed (requestId : String) (message : String)
  | resume (requestId : String)
  | cancelCall (requestId : String)
  | read (result : ReadResult)
  | stop
  | readerEnded (index : Nat)
  | readerTimedOut (index : Nat)
  | stderrEnded (index : Nat)
  | exited (index : Nat) (timedOut : Bool)

def FutureState.complete (future : FutureState) (outcome : FutureState) : FutureState :=
  if future.done then future else outcome

def callPhase : FutureState → Option CallPhase
  | .waiting => none
  | .failed reason => some (.raised reason)
  | .cancelled => some (.raised .cancelled)
  | .result response =>
      if response.ok then some (.returned (response.result.getD []))
      else
        match response.error with
        | some error => some (.raised (.response error))
        | none => some (.raised .assertion)

namespace Call

def drained (call : Call) : Call :=
  match call.phase with
  | .draining => { call with phase := .awaiting }
  | _ => call

def drainFailed (message : String) (call : Call) : Call :=
  match call.phase with
  | .draining => { call with phase := .raised (.connection message) }
  | _ => call

def resumed (call : Call) : Call :=
  match call.phase, callPhase call.future with
  | .awaiting, some phase => { call with phase }
  | _, _ => call

def cancel (call : Call) : Call :=
  match call.phase with
  | .draining => { call with phase := .raised .cancelled }
  | .awaiting =>
      { call with future := call.future.complete .cancelled, phase := .raised .cancelled }
  | _ => call

end Call

namespace Client

def changeCalls (chosen : String → Bool) (change : Call → Call) (client : Client) : Client :=
  { client with
    calls := client.calls.map fun call => if chosen call.requestId then change call else call }

def complete (outcome : FutureState) (call : Call) : Call :=
  { call with future := call.future.complete outcome }

def closeStream (reason : Failure) (client : Client) : Client :=
  { client.changeCalls (· ∈ client.pending) (complete (.failed reason)) with
    streamClosed := true
    streamClosedReason := some reason
    pending := [] }

def respond (response : ResponseEnvelope) (client : Client) : Client :=
  if response.requestId ∈ client.pending then
    { client.changeCalls (· = response.requestId) (complete (.result response)) with
      pending := client.pending.filter (· ≠ response.requestId) }
  else client

def readLoop (str : Json → List Char) (client : Client) : ReadResult → Client
  | .closed =>
      { client.closeStream (.protocol "daemon stream closed") with reader := .ended }
  | .skipped | .unknown => client
  | .response response => client.respond response
  | .event evt =>
      { client with
        texts := client.texts.hear str evt
        eventQueue := client.eventQueue ++ [evt] }
  | .raised message =>
      { client.closeStream (.protocol ("daemon read loop failed: " ++ message)) with
        reader := .ended }

def stopped (client : Client) : Client :=
  { client with proc := false, readTask := false, pending := [], streamClosed := true }

def setStop (index : Nat) (phase : StopPhase) (client : Client) : Client :=
  { client with stops := client.stops.set index phase }

def endStop (index : Nat) (client : Client) : Client :=
  { client with stops := client.stops.eraseIdx index }

def step (str : Json → List Char) (client : Client) : ClientAction → Option Client
  | .call requestId =>
      if !client.proc then some client
      else if requestId ∈ client.calls.map Call.requestId then none
      else
        some { client with
          pending := client.pending ++ [requestId]
          calls := client.calls ++ [⟨requestId, .waiting, .draining⟩] }
  | .drained requestId => some (client.changeCalls (· = requestId) Call.drained)
  | .drainFailed requestId message =>
      some (client.changeCalls (· = requestId) (Call.drainFailed message))
  | .resume requestId => some (client.changeCalls (· = requestId) Call.resumed)
  | .cancelCall requestId => some (client.changeCalls (· = requestId) Call.cancel)
  | .read result => if client.reader = .running then some (client.readLoop str result) else none
  | .stop =>
      if !client.proc then some client
      else
        some { client with
          stops := client.stops ++ [if client.readTask then .reader else .stderr] }
  | .readerEnded index =>
      if client.stops[index]? = some .reader then
        match client.reader with
        | .running => none
        | .ended => some (client.setStop index .stderr)
        | .cancelled => some (client.endStop index)
      else none
  | .readerTimedOut index =>
      if client.stops[index]? = some .reader ∧ client.reader = .running then
        -- The cancellation is no error that the loop catches: the futures stay as they are.
        some { client.setStop index .stderr with reader := .cancelled }
      else none
  | .stderrEnded index =>
      if client.stops[index]? = some .stderr then
        if client.proc then some (client.setStop index .exit) else some (client.endStop index)
      else none
  | .exited index timedOut =>
      if client.stops[index]? = some .exit then
        if timedOut && !client.proc then some (client.endStop index)
        else some (client.endStop index).stopped
      else none

/-- No call registers its future when the reader has ended, and none waits when it is cancelled. -/
def Attended (client : Client) : ClientAction → Prop
  | .call _ => client.proc → client.reader = .running
  | .readerTimedOut _ => ∀ call ∈ client.calls, call.future.done
  | _ => True

structure Kept (client : Client) : Prop where
  waits : ∀ call ∈ client.calls, !call.future.done →
    call.requestId ∈ client.pending ∧ client.reader = .running
  stopping : ∀ phase ∈ client.stops, phase ≠ .reader → client.reader ≠ .running
  attached : !client.readTask → client.reader ≠ .running

def Settled (client : Client) : Prop := ∀ call ∈ client.calls, call.future.done

section

variable {client next : Client} {change : Call → Call} {outcome : FutureState} {index : Nat}

structure Advances (change : Call → Call) : Prop where
  same (call : Call) : (change call).requestId = call.requestId
  done (call : Call) : call.future.done → (change call).future.done

theorem advances_complete (outcome : FutureState) : Advances (complete outcome) where
  same _ := rfl
  done call done := by rw [complete, FutureState.complete, if_pos done]; exact done

theorem done_complete (done : outcome.done) (call : Call) : (complete outcome call).future.done := by
  rw [complete, FutureState.complete]
  split <;> assumption

theorem advances_drained : Advances Call.drained where
  same call := by unfold Call.drained; split <;> rfl
  done call done := by unfold Call.drained; split <;> exact done

theorem advances_drainFailed (message : String) : Advances (Call.drainFailed message) where
  same call := by unfold Call.drainFailed; split <;> rfl
  done call done := by unfold Call.drainFailed; split <;> exact done

theorem advances_resumed : Advances Call.resumed where
  same call := by unfold Call.resumed; split <;> rfl
  done call done := by unfold Call.resumed; split <;> exact done

theorem advances_cancel : Advances Call.cancel where
  same call := by unfold Call.cancel; split <;> rfl
  done call done := by
    unfold Call.cancel
    split
    · exact done
    · exact (advances_complete .cancelled).done call done
    · exact done

theorem Kept.settled (kept : client.Kept) (ended : client.reader ≠ .running) : client.Settled := by
  intro call member
  by_contra waiting
  exact ended (kept.waits call member (by simpa using waiting)).2

theorem kept_settled (settled : client.Settled) (ended : client.reader ≠ .running) :
    client.Kept where
  waits call member waiting := by simp [settled call member] at waiting
  stopping _ _ _ := ended
  attached _ := ended

theorem Kept.changeCalls (kept : client.Kept) (advances : Advances change)
    (chosen : String → Bool) : (client.changeCalls chosen change).Kept where
  waits call member waiting := by
    obtain ⟨old, inside, rfl⟩ := List.mem_map.mp member
    split at waiting
    · rw [if_pos ‹_›, advances.same]
      refine kept.waits old inside ?_
      by_contra done
      simp [advances.done old (by simpa using done)] at waiting
    · rw [if_neg ‹_›]; exact kept.waits old inside waiting
  stopping := kept.stopping
  attached := kept.attached

theorem Kept.closeStream (kept : client.Kept) (reason : Failure) :
    (client.closeStream reason).Settled := by
  intro call member
  obtain ⟨old, inside, rfl⟩ := List.mem_map.mp member
  split
  · exact done_complete rfl old
  next absent =>
    by_contra waiting
    exact absent (by simpa using (kept.waits old inside (by simpa using waiting)).1)

theorem Kept.respond (kept : client.Kept) (response : ResponseEnvelope) :
    (client.respond response).Kept := by
  unfold Client.respond
  split
  next registered =>
    have changed := kept.changeCalls (advances_complete (.result response)) (· = response.requestId)
    refine ⟨fun call member waiting => ?_, kept.stopping, kept.attached⟩
    obtain ⟨inPending, running⟩ := changed.waits call member waiting
    refine ⟨List.mem_filter.mpr ⟨inPending, ?_⟩, running⟩
    -- The call that is answered waits no longer.
    obtain ⟨old, inside, rfl⟩ := List.mem_map.mp member
    split at waiting
    · have done : (complete (.result response) old).future.done := done_complete rfl old
      simp [done] at waiting
    next other =>
      rw [if_neg other]
      simpa using other
  · exact kept

theorem Kept.readLoop (kept : client.Kept) (str : Json → List Char) (result : ReadResult) :
    (client.readLoop str result).Kept := by
  cases result with
  | closed => exact kept_settled (kept.closeStream _) fun same => by cases same
  | raised message => exact kept_settled (kept.closeStream _) fun same => by cases same
  | skipped | unknown => exact kept
  | event evt => exact ⟨kept.waits, kept.stopping, kept.attached⟩
  | response response => exact kept.respond response

theorem Kept.endStop (kept : client.Kept) (index : Nat) : (client.endStop index).Kept :=
  ⟨kept.waits, fun phase member => kept.stopping phase (List.mem_of_mem_eraseIdx member),
    kept.attached⟩

theorem Kept.setStop (kept : client.Kept) (ended : client.reader ≠ .running) (index : Nat)
    (phase : StopPhase) : (client.setStop index phase).Kept :=
  kept_settled (kept.settled ended) ended

theorem Kept.step (str : Json → List Char) (kept : client.Kept) {action : ClientAction}
    (attended : client.Attended action) (stepped : client.step str action = some next) :
    next.Kept := by
  cases action with
  | call requestId =>
    simp only [Client.step] at stepped
    split at stepped
    · cases stepped; exact kept
    next running =>
      split at stepped
      · cases stepped
      · cases stepped
        have reading := attended (by simpa using running)
        refine ⟨fun call member waiting => ?_, kept.stopping, kept.attached⟩
        rcases List.mem_append.mp member with earlier | last
        · exact ⟨List.mem_append_left _ (kept.waits call earlier waiting).1, reading⟩
        · cases List.mem_singleton.mp last
          exact ⟨List.mem_append_right _ List.mem_cons_self, reading⟩
  | drained requestId =>
    cases stepped
    exact kept.changeCalls advances_drained _
  | drainFailed requestId message =>
    cases stepped
    exact kept.changeCalls (advances_drainFailed message) _
  | resume requestId =>
    cases stepped
    exact kept.changeCalls advances_resumed _
  | cancelCall requestId =>
    cases stepped
    exact kept.changeCalls advances_cancel _
  | read result =>
    simp only [Client.step] at stepped
    split at stepped
    · cases stepped; exact kept.readLoop str result
    · cases stepped
  | stop =>
    simp only [Client.step] at stepped
    split at stepped
    · cases stepped; exact kept
    · cases stepped
      refine ⟨kept.waits, fun phase member other => ?_, kept.attached⟩
      rcases List.mem_append.mp member with earlier | last
      · exact kept.stopping phase earlier other
      · rw [List.mem_singleton.mp last] at other
        refine kept.attached ?_
        by_contra attached
        simp_all
  | readerEnded index =>
    simp only [Client.step] at stepped
    split at stepped
    · split at stepped
      · cases stepped
      next ended => cases stepped; exact kept.setStop (by simp [ended]) index _
      · cases stepped; exact kept.endStop index
    · cases stepped
  | readerTimedOut index =>
    simp only [Client.step] at stepped
    split at stepped
    · cases stepped; exact kept_settled attended fun same => by cases same
    · cases stepped
  | stderrEnded index =>
    simp only [Client.step] at stepped
    split at stepped
    next found =>
      have ended := kept.stopping _ (List.mem_of_getElem? found) (by decide)
      split at stepped
      · cases stepped; exact kept.setStop ended index _
      · cases stepped; exact kept.endStop index
    · cases stepped
  | exited index timedOut =>
    simp only [Client.step] at stepped
    split at stepped
    next found =>
      have ended := kept.stopping _ (List.mem_of_getElem? found) (by decide)
      split at stepped
      · cases stepped; exact kept.endStop index
      · cases stepped; exact kept_settled (kept.settled ended) ended
    · cases stepped

theorem kept_started : started.Kept where
  waits _ none := by cases none
  stopping _ none := by cases none
  attached never := by cases never

instance decidableAttended (client : Client) :
    (action : ClientAction) → Decidable (client.Attended action)
  | .call _ => inferInstanceAs (Decidable (client.proc → client.reader = .running))
  | .readerTimedOut _ => inferInstanceAs (Decidable (∀ call ∈ client.calls, call.future.done))
  | .drained _ | .drainFailed _ _ | .resume _ | .cancelCall _ | .read _ | .stop | .readerEnded _
  | .stderrEnded _ | .exited _ _ => inferInstanceAs (Decidable True)

/-- In every state that such a run reaches, no future is left once the reader has ended. -/
theorem no_call_left_waiting (str : Json → List Char) {actions : List ClientAction}
    (attended : Meets (Client.step str) Attended started actions)
    (ran : run (Client.step str) started actions = some next) (ended : next.reader ≠ .running) :
    ∀ call ∈ next.calls, call.future.done :=
  (run_invariant (fun _ _ _ kept attended stepped => kept.step str attended stepped) kept_started
    attended ran).settled ended

end

def orderlyRun : List ClientAction :=
  [.call "r1", .drained "r1", .read (.response ⟨"r1", true, some [], none⟩), .resume "r1",
    .call "r2", .drained "r2", .stop, .read .closed, .readerEnded 0, .stderrEnded 0,
    .exited 0 false]

theorem no_call_left_waiting_orderly :
    ((run (step exampleStr) started orderlyRun).get (by decide)).reader ≠ .running ∧
      ∀ call ∈ ((run (step exampleStr) started orderlyRun).get (by decide)).calls,
        call.future.done :=
  ⟨by decide, no_call_left_waiting exampleStr (by decide) (Option.some_get _).symm (by decide)⟩

def lateCallRun : List ClientAction :=
  [.read (.raised "'list' object has no attribute 'get'"), .call "r1", .drained "r1", .stop,
    .readerEnded 0, .stderrEnded 0, .exited 0 false]

theorem late_call_left_waiting :
    ¬∀ (actions : List ClientAction) (client : Client),
      run (step exampleStr) started actions = some client → client.reader ≠ .running →
        ∀ call ∈ client.calls, call.future.done := by
  intro all
  have settled := all lateCallRun ((run (step exampleStr) started lateCallRun).get (by decide))
    (Option.some_get _).symm (by decide)
  exact absurd settled (by decide)

-- The reader is cancelled after two seconds, and the call that waits is forgotten.
example : (run (step exampleStr) started [.call "r1", .drained "r1", .stop, .readerTimedOut 0,
    .stderrEnded 0, .exited 0 true]).map (fun client =>
      (client.pending, client.calls.map fun call => call.future.done)) = some ([], [false]) := by
  decide

end Client

end OpenJax.Sdk
