import OpenJax.Web.Reducer

set_option autoImplicit false

namespace OpenJax.Web

open Shared

structure StreamRenderSnapshot where
  turnId : Option String := none
  messageId : Option MessageId := none
  content : String := ""
  lastEventSeq : Nat := 0
  version : Nat := 0
  isActive : Bool := false

structure StreamRenderEntry where
  snapshot : StreamRenderSnapshot
  pendingBuffer : String
  -- Whether a commit is scheduled for the next frame.
  scheduled : Bool

abbrev StreamRenderStore := String → Option StreamRenderEntry

def composeKey (sessionId turnId : String) (streamKey : Option String) : String :=
  s!"{sessionId}::{turnId}::" ++ streamKey.getD turnId

namespace StreamRenderStore

def put (store : StreamRenderStore) (key : String) (entry : StreamRenderEntry) :
    StreamRenderStore :=
  fun other => if other = key then some entry else store other

def start (store : StreamRenderStore) (sessionId : String) (turnId : Option String)
    (messageId : Option MessageId) (seq : Nat) (initialContent : String)
    (streamKey : Option String) : StreamRenderStore :=
  match truthy turnId with
  | none => store
  | some turn =>
      let key := composeKey sessionId turn streamKey
      match store key with
      | none =>
          store.put key
            { snapshot := ⟨turnId, messageId, initialContent, seq, 1, true⟩
              pendingBuffer := "", scheduled := false }
      | some existing =>
          if seq ≤ existing.snapshot.lastEventSeq then store
          else
            let carriesOn := messageId.isSome && existing.snapshot.messageId = messageId
            store.put key
              { snapshot :=
                  { turnId := turnId
                    messageId := messageId.or existing.snapshot.messageId
                    content := if carriesOn then existing.snapshot.content else initialContent
                    lastEventSeq := max existing.snapshot.lastEventSeq seq
                    version := existing.snapshot.version + 1
                    isActive := true }
                -- What was not committed yet is gone.
                pendingBuffer := "", scheduled := existing.scheduled }

def append (store : StreamRenderStore) (sessionId : String) (turnId : Option String)
    (delta : String) (seq : Nat) (streamKey : Option String) : StreamRenderStore :=
  match truthy turnId with
  | none => store
  | some turn =>
      let key := composeKey sessionId turn streamKey
      let store := if (store key).isSome then store
        else store.start sessionId turnId none seq "" streamKey
      match store key with
      | none => store
      | some current =>
          -- An entry that was only just made for the delta turns it down here.
          if seq ≤ current.snapshot.lastEventSeq then store
          else
            store.put key
              { snapshot := { current.snapshot with lastEventSeq := seq }
                pendingBuffer := current.pendingBuffer ++ delta
                scheduled := true }

def complete (store : StreamRenderStore) (sessionId : String) (turnId : Option String)
    (finalContent : String) (seq : Nat) (streamKey : Option String) : StreamRenderStore :=
  match truthy turnId with
  | none => store
  | some turn =>
      let key := composeKey sessionId turn streamKey
      let store := if (store key).isSome then store
        else store.start sessionId turnId none seq finalContent streamKey
      match store key with
      | none => store
      | some next =>
          if seq ≤ next.snapshot.lastEventSeq then store
          else
            let resolved :=
              if finalContent = "" then next.snapshot.content ++ next.pendingBuffer
              else finalContent
            store.put key
              { snapshot :=
                  { next.snapshot with
                    content := resolved
                    lastEventSeq := seq
                    version := next.snapshot.version + 1
                    isActive := false }
                pendingBuffer := "", scheduled := false }

def fail (store : StreamRenderStore) (sessionId : String) (turnId : Option String) (seq : Nat)
    (streamKey : Option String) : StreamRenderStore :=
  match truthy turnId with
  | none => store
  | some turn =>
      let key := composeKey sessionId turn streamKey
      match store key with
      | none => store
      | some current =>
          store.put key
            { snapshot :=
                { current.snapshot with
                  lastEventSeq := max current.snapshot.lastEventSeq seq
                  version := current.snapshot.version + 1
                  isActive := false }
              pendingBuffer := "", scheduled := false }

def clear (store : StreamRenderStore) (sessionId : String) (turnId : Option String) :
    StreamRenderStore :=
  let stem :=
    match truthy turnId with
    | some turn => s!"{sessionId}::{turn}::"
    | none => s!"{sessionId}::"
  fun key => if startsWith key stem then none else store key

def getSnapshot (store : StreamRenderStore) (sessionId : String) (turnId streamKey : Option String) :
    StreamRenderSnapshot :=
  match truthy turnId with
  | none => {}
  | some turn => ((store (composeKey sessionId turn streamKey)).map (·.snapshot)).getD {}

def commit (store : StreamRenderStore) (key : String) : StreamRenderStore :=
  match store key with
  | none => store
  | some current =>
      if !current.scheduled then store
      else if current.pendingBuffer = "" then store.put key { current with scheduled := false }
      else
        store.put key
          { snapshot :=
              { current.snapshot with
                content := current.snapshot.content ++ current.pendingBuffer
                version := current.snapshot.version + 1 }
            pendingBuffer := "", scheduled := false }

end StreamRenderStore

section

structure LiveView where
  session : ChatSession
  lastEventSeqRef : Nat
  store : StreamRenderStore

def LiveView.opened (session : ChatSession) : LiveView :=
  ⟨session, session.lastEventSeq, fun _ => none⟩

variable (host : Host) (sessionId : String)

def streamKeyOf (event : StreamEvent) : Option String := event.payload.string "response_segment_id"

def LiveView.accept (view : LiveView) (event : StreamEvent) : Option LiveView :=
  let seqReset := isSequenceResetEvent event
  if !seqReset && event.eventSeq ≤ view.lastEventSeqRef then none
  else
    let seen := if seqReset then 0 else view.lastEventSeqRef
    some { view with
      lastEventSeqRef := max seen event.eventSeq
      store := if seqReset then view.store.clear sessionId none else view.store }

def onResponseTextDelta (view : LiveView) (event : StreamEvent) : LiveView :=
  { view with
    store := view.store.append sessionId event.turnId (event.payload.text host "content_delta" "")
      event.eventSeq (streamKeyOf event)
    session := touchAssistantTextSeqInSession view.session event.turnId event.eventSeq
      event.timestamp }

def onResponseStarted (view : LiveView) (event : StreamEvent) : LiveView :=
  let next := applyResponseStartedSession view.session event
  { view with
    session :=
      if (truthy event.turnId).isSome then { next.session with connection := .active }
      else view.session
    store := view.store.start sessionId event.turnId next.messageId event.eventSeq next.content
      (streamKeyOf event) }

def onResponseCompleted (view : LiveView) (event : StreamEvent) : LiveView :=
  let payloadContent := event.payload.text host "content" ""
  let store := view.store.complete sessionId event.turnId payloadContent event.eventSeq
    (streamKeyOf event)
  let finalizedContent :=
    if payloadContent ≠ "" then payloadContent
    else (store.getSnapshot sessionId event.turnId (streamKeyOf event)).content
  let closed := closeOpenReasoningBlockInSession view.session event.turnId event.eventSeq
    event.timestamp
  { view with
    session :=
      if (truthy event.turnId).isSome then
        { applyResponseCompletedSession closed event finalizedContent with connection := .active }
      else view.session
    store := store }

def onOtherEvent (view : LiveView) (event : StreamEvent) : LiveView :=
  let store :=
    match event.type with
    | .responseError =>
        view.store.fail sessionId event.turnId event.eventSeq (streamKeyOf event)
    | .turnCompleted | .turnInterrupted => view.store.clear sessionId event.turnId
    | _ => view.store
  { view with
    session :=
      if isDuplicate view.session event then view.session
      else { applySessionEvents host view.session [event] with connection := .active }
    store := store }

def applyIncomingEvent (view : LiveView) (event : StreamEvent) : LiveView :=
  match view.accept sessionId event with
  | none => view
  | some view =>
      match event.type with
      | .responseTextDelta => onResponseTextDelta host sessionId view event
      | .responseStarted | .responseResumed => onResponseStarted sessionId view event
      | .responseCompleted => onResponseCompleted host sessionId view event
      | _ => onOtherEvent host sessionId view event

inductive LiveStep where
  | event (event : StreamEvent)
  -- The next frame of the browser, for one text that streams.
  | frame (key : String)
  -- The effect that follows a change of the sessions.
  | effect

def liveStep (view : LiveView) : LiveStep → LiveView
  | .event event => applyIncomingEvent host sessionId view event
  | .frame key => { view with store := view.store.commit key }
  | .effect =>
      { view with lastEventSeqRef := max view.lastEventSeqRef view.session.lastEventSeq }

def runLive (view : LiveView) (steps : List LiveStep) : LiveView :=
  steps.foldl (liveStep host sessionId) view

def received (steps : List LiveStep) : List StreamEvent :=
  steps.filterMap fun step =>
    match step with
    | .event event => some event
    | .frame _ | .effect => none

end

end OpenJax.Web
