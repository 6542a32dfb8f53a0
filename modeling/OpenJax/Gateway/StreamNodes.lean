import OpenJax.Shared.Json
import OpenJax.Shared.Text

set_option autoImplicit false

namespace OpenJax.Gateway

open Shared

structure TurnStreamNodeState where
  responseSegmentCounter : Nat := 0
  reasoningSegmentCounter : Nat := 0
  currentResponseSegmentId : Option String := none
  currentReasoningSegmentId : Option String := none
  deriving DecidableEq

def parseSegmentSuffix (segmentId segmentPrefix : String) : Option Nat :=
  if startsWith segmentId segmentPrefix then
    parseU64 (String.ofList (segmentId.toList.drop segmentPrefix.length))
  else none

namespace TurnStreamNodeState

def observeResponseSegmentId (state : TurnStreamNodeState) (segmentId : String) :
    TurnStreamNodeState :=
  { state with
    responseSegmentCounter :=
      max state.responseSegmentCounter ((parseSegmentSuffix segmentId "resp_").getD 0)
    currentResponseSegmentId := some segmentId }

def observeReasoningSegmentId (state : TurnStreamNodeState) (segmentId : String) :
    TurnStreamNodeState :=
  { state with
    reasoningSegmentCounter :=
      max state.reasoningSegmentCounter ((parseSegmentSuffix segmentId "reason_").getD 0)
    currentReasoningSegmentId := some segmentId }

def openNewResponseSegment (state : TurnStreamNodeState) : TurnStreamNodeState × String :=
  let counter := state.responseSegmentCounter + 1
  let id := s!"resp_{counter}"
  ({ state with responseSegmentCounter := counter, currentResponseSegmentId := some id }, id)

def currentOrOpenResponseSegment (state : TurnStreamNodeState) : TurnStreamNodeState × String :=
  match state.currentResponseSegmentId with
  | some segmentId => (state, segmentId)
  | none => state.openNewResponseSegment

def currentOrOpenReasoningSegment (state : TurnStreamNodeState) : TurnStreamNodeState × String :=
  match state.currentReasoningSegmentId with
  | some segmentId => (state, segmentId)
  | none =>
      let counter := state.reasoningSegmentCounter + 1
      let id := s!"reason_{counter}"
      ({ state with reasoningSegmentCounter := counter, currentReasoningSegmentId := some id }, id)

def closeSegments (state : TurnStreamNodeState) : TurnStreamNodeState :=
  { state with currentResponseSegmentId := none, currentReasoningSegmentId := none }

def textField (payload : Json) (field : String) : Option String :=
  (payload.get? field).bind Json.asStr?

def assignResponseSegmentId (state : TurnStreamNodeState) (payload : Json) (openNew : Bool) :
    TurnStreamNodeState × Json :=
  match textField payload "response_segment_id" with
  | some existing => (state.observeResponseSegmentId existing, payload)
  | none =>
      let (next, segmentId) :=
        if openNew then state.openNewResponseSegment else state.currentOrOpenResponseSegment
      (next, payload.set "response_segment_id" (.str segmentId))

def assignReasoningSegmentId (state : TurnStreamNodeState) (payload : Json) :
    TurnStreamNodeState × Json :=
  match textField payload "reasoning_segment_id" with
  | some existing => (state.observeReasoningSegmentId existing, payload)
  | none =>
      let (next, segmentId) := state.currentOrOpenReasoningSegment
      (next, payload.set "reasoning_segment_id" (.str segmentId))

def observePayloadIds (state : TurnStreamNodeState) (payload : Json) : TurnStreamNodeState :=
  let observed :=
    match textField payload "response_segment_id" with
    | some responseId => state.observeResponseSegmentId responseId
    | none => state
  match textField payload "reasoning_segment_id" with
  | some reasoningId => observed.observeReasoningSegmentId reasoningId
  | none => observed

def closesSegments (eventType : String) : Bool :=
  match eventType with
  | "response_completed" | "response_error" | "turn_completed" => true
  | _ => false

def assign (state : TurnStreamNodeState) (eventType : String) (payload : Json) :
    TurnStreamNodeState × Json :=
  let (assigned, payload) :=
    match eventType with
    | "response_started" | "response_resumed" => state.assignResponseSegmentId payload true
    | "response_text_delta" | "response_completed" => state.assignResponseSegmentId payload false
    | "reasoning_delta" => state.assignReasoningSegmentId payload
    | _ => (state, payload)
  (if closesSegments eventType then assigned.closeSegments else assigned, payload)

def observe (state : TurnStreamNodeState) (eventType : String) (payload : Json) :
    TurnStreamNodeState :=
  let opened :=
    match eventType with
    | "response_started" | "response_resumed" =>
        if (payload.get? "response_segment_id").isNone then state.openNewResponseSegment.1
        else state
    | "response_text_delta" | "response_completed" =>
        if (payload.get? "response_segment_id").isNone then state.currentOrOpenResponseSegment.1
        else state
    | "reasoning_delta" =>
        if (payload.get? "reasoning_segment_id").isNone then state.currentOrOpenReasoningSegment.1
        else state
    | _ => state
  let observed := opened.observePayloadIds payload
  if closesSegments eventType then observed.closeSegments else observed

end TurnStreamNodeState

end OpenJax.Gateway
