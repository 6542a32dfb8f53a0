import OpenJax.Gateway.Runtime
import OpenJax.Gateway.EventMapper
import OpenJax.Shared.Machine

set_option autoImplicit false

namespace OpenJax.Gateway

open Shared Protocol

inductive SegmentKind where
  | response
  | reasoning
  deriving DecidableEq

namespace SegmentKind

def field : SegmentKind → String
  | .response => "response_segment_id"
  | .reasoning => "reasoning_segment_id"

def stem : SegmentKind → String
  | .response => "resp_"
  | .reasoning => "reason_"

def id (kind : SegmentKind) (count : Nat) : String := kind.stem ++ count.repr

def counter (state : TurnStreamNodeState) : SegmentKind → Nat
  | .response => state.responseSegmentCounter
  | .reasoning => state.reasoningSegmentCounter

def current (state : TurnStreamNodeState) : SegmentKind → Option String
  | .response => state.currentResponseSegmentId
  | .reasoning => state.currentReasoningSegmentId

def openNext (state : TurnStreamNodeState) : SegmentKind → TurnStreamNodeState
  | .response =>
      { state with
        responseSegmentCounter := state.responseSegmentCounter + 1
        currentResponseSegmentId := some (response.id (state.responseSegmentCounter + 1)) }
  | .reasoning =>
      { state with
        reasoningSegmentCounter := state.reasoningSegmentCounter + 1
        currentReasoningSegmentId := some (reasoning.id (state.reasoningSegmentCounter + 1)) }

theorem id_inj (kind : SegmentKind) {left right : Nat} (same : kind.id left = kind.id right) :
    left = right := by
  have digits : left.repr.toList = right.repr.toList := by
    simpa [id] using congrArg String.toList same
  have parsed := congrArg readDigits digits
  rw [readDigits_repr, readDigits_repr] at parsed
  exact Option.some.inj parsed

theorem parseSegmentSuffix_id (kind : SegmentKind) {count : Nat}
    (small : count < 0x10000000000000000) :
    parseSegmentSuffix (kind.id count) kind.stem = some count := by
  have starts : startsWith (kind.id count) kind.stem = true := by
    simp [startsWith, id]
  have rest : String.ofList ((kind.id count).toList.drop kind.stem.length) = count.repr := by
    rw [id, String.toList_append, ← String.length_toList, List.drop_left, String.ofList_toList]
  rw [parseSegmentSuffix, if_pos starts, rest]
  exact parseU64_repr small

end SegmentKind

/-- An event starts a response segment, or joins the one of its kind that is open. -/
inductive SegmentUse where
  | starts
  | joins (kind : SegmentKind)

def SegmentUse.kind : SegmentUse → SegmentKind
  | .starts => .response
  | .joins kind => kind

def segmentUse (eventType : String) : Option SegmentUse :=
  match eventType with
  | "response_started" | "response_resumed" => some .starts
  | "response_text_delta" | "response_completed" => some (.joins .response)
  | "reasoning_delta" => some (.joins .reasoning)
  | _ => none

def CarriesNoIds (payload : Json) : Prop :=
  ∃ fields, payload = .obj fields ∧ ∀ kind : SegmentKind, fields.lookup kind.field = none

instance : DecidablePred CarriesNoIds
  | .obj fields =>
      decidable_of_iff ((fields.lookup SegmentKind.response.field).isNone = true ∧
        (fields.lookup SegmentKind.reasoning.field).isNone = true) <| by
          constructor
          · intro absent
            refine ⟨fields, rfl, fun kind => ?_⟩
            cases kind with
            | response => exact Option.isNone_iff_eq_none.mp absent.1
            | reasoning => exact Option.isNone_iff_eq_none.mp absent.2
          · rintro ⟨_, same, absent⟩
            obtain rfl := Json.obj.inj same
            simp [absent]
  | .null | .bool _ | .int _ | .float _ | .str _ | .arr _ =>
      isFalse fun bare => by
        obtain ⟨_, same, -⟩ := bare
        cases same

theorem lookup_field (key other : String) (value : Json) (fields : List (String × Json)) :
    ((key, value) :: fields).lookup other =
      if other = key then some value else fields.lookup other := by
  by_cases same : other = key
  · rw [same, List.lookup_cons_self, if_pos rfl]
  · rw [List.lookup_cons, beq_false_of_ne same, if_neg same]

theorem lookup_setField (key other : String) (value : Json) (fields : List (String × Json)) :
    (Json.setField key value fields).lookup other =
      if other = key then some value else fields.lookup other := by
  induction fields with
  | nil => exact lookup_field key other value []
  | cons field rest ih =>
    obtain ⟨name, old⟩ := field
    rw [Json.setField]
    by_cases own : name = key
    · subst own
      rw [if_pos rfl, lookup_field, lookup_field]
      split <;> rfl
    · rw [if_neg own, lookup_field, lookup_field, ih]
      by_cases same : other = name
      · subst same
        rw [if_pos rfl, if_neg own, if_pos rfl]
      · rw [if_neg same, if_neg same]

namespace CarriesNoIds

open TurnStreamNodeState

variable {payload : Json}

theorem textField (bare : CarriesNoIds payload) (kind : SegmentKind) :
    TurnStreamNodeState.textField payload kind.field = none := by
  obtain ⟨fields, rfl, absent⟩ := bare
  simp [TurnStreamNodeState.textField, Json.get?, absent kind]

theorem get_set (bare : CarriesNoIds payload) (kind other : SegmentKind) (segmentId : String) :
    (payload.set kind.field (.str segmentId)).get? other.field =
      if other = kind then some (.str segmentId) else none := by
  obtain ⟨fields, rfl, absent⟩ := bare
  rw [Json.set, Json.get?, lookup_setField, absent other]
  cases kind <;> cases other <;> rfl

theorem textField_set (bare : CarriesNoIds payload) (kind other : SegmentKind)
    (segmentId : String) :
    TurnStreamNodeState.textField (payload.set kind.field (.str segmentId)) other.field =
      if other = kind then some segmentId else none := by
  rw [TurnStreamNodeState.textField, bare.get_set]
  split <;> rfl

end CarriesNoIds

namespace TurnStreamNodeState

variable {state : TurnStreamNodeState} {payload : Json}

def closedBy (eventType : String) (state : TurnStreamNodeState) : TurnStreamNodeState :=
  if closesSegments eventType then state.closeSegments else state

def entered (state : TurnStreamNodeState) : Option SegmentUse → TurnStreamNodeState
  | some .starts => SegmentKind.openNext state .response
  | some (.joins kind) =>
      if (kind.current state).isNone then kind.openNext state else state
  | none => state

def labelled (state : TurnStreamNodeState) (payload : Json) : Option SegmentUse → Json
  | some use => payload.set use.kind.field (.str ((use.kind.current state).getD ""))
  | none => payload

def assignIn (state : TurnStreamNodeState) (payload : Json) :
    Option SegmentUse → TurnStreamNodeState × Json
  | some .starts => state.assignResponseSegmentId payload true
  | some (.joins .response) => state.assignResponseSegmentId payload false
  | some (.joins .reasoning) => state.assignReasoningSegmentId payload
  | none => (state, payload)

theorem assign_in (state : TurnStreamNodeState) (eventType : String) (payload : Json) :
    state.assign eventType payload =
      (closedBy eventType (state.assignIn payload (segmentUse eventType)).1,
        (state.assignIn payload (segmentUse eventType)).2) := by
  unfold assign segmentUse
  split
  rename_i next given same
  revert same
  split <;> intro same <;> simp only [assignIn, same] <;> rfl

theorem assignIn_entered (bare : CarriesNoIds payload) (state : TurnStreamNodeState)
    (use : Option SegmentUse) :
    state.assignIn payload use = (state.entered use, (state.entered use).labelled payload use) := by
  have response := bare.textField .response
  have reasoning := bare.textField .reasoning
  simp only [SegmentKind.field] at response reasoning
  match use with
  | none => rfl
  | some .starts =>
    rw [assignIn, assignResponseSegmentId, response]
    rfl
  | some (.joins .response) =>
    rw [assignIn, assignResponseSegmentId, response]
    cases current : state.currentResponseSegmentId with
    | none =>
      simp only [currentOrOpenResponseSegment, entered, SegmentKind.current, current]
      rfl
    | some segmentId =>
      simp [currentOrOpenResponseSegment, entered, labelled, SegmentKind.current, current,
        SegmentKind.field, SegmentUse.kind]
  | some (.joins .reasoning) =>
    rw [assignIn, assignReasoningSegmentId, reasoning]
    cases current : state.currentReasoningSegmentId with
    | none =>
      simp only [currentOrOpenReasoningSegment, entered, SegmentKind.current, current]
      rfl
    | some segmentId =>
      simp [currentOrOpenReasoningSegment, entered, labelled, SegmentKind.current, current,
        SegmentKind.field, SegmentUse.kind]

theorem assign_entered (bare : CarriesNoIds payload) (state : TurnStreamNodeState)
    (eventType : String) :
    state.assign eventType payload =
      (closedBy eventType (state.entered (segmentUse eventType)),
        (state.entered (segmentUse eventType)).labelled payload (segmentUse eventType)) := by
  rw [assign_in, assignIn_entered bare]

def observeIn (state : TurnStreamNodeState) (payload : Json) :
    Option SegmentUse → TurnStreamNodeState
  | some use =>
      (if (payload.get? use.kind.field).isNone then state.entered (some use)
        else state).observePayloadIds payload
  | none => state.observePayloadIds payload

theorem observe_in (state : TurnStreamNodeState) (eventType : String) (payload : Json) :
    state.observe eventType payload =
      closedBy eventType (state.observeIn payload (segmentUse eventType)) := by
  have response : state.currentOrOpenResponseSegment.1 = state.entered (some (.joins .response)) := by
    cases current : state.currentResponseSegmentId <;>
      simp [currentOrOpenResponseSegment, entered, SegmentKind.current, current]
    rfl
  have reasoning :
      state.currentOrOpenReasoningSegment.1 = state.entered (some (.joins .reasoning)) := by
    cases current : state.currentReasoningSegmentId <;>
      simp [currentOrOpenReasoningSegment, entered, SegmentKind.current, current]
    rfl
  unfold observe segmentUse
  split <;> simp only [response, reasoning, observeIn] <;> rfl

def Counted (state : TurnStreamNodeState) : Prop :=
  ∀ kind : SegmentKind, kind.current state = none ∨
    kind.current state = some (kind.id (kind.counter state))

theorem counted_openNext (counted : state.Counted) (kind : SegmentKind) :
    (kind.openNext state).Counted := by
  intro other
  cases kind <;> cases other
  · exact .inr rfl
  · exact counted .reasoning
  · exact counted .response
  · exact .inr rfl

theorem counted_entered (counted : state.Counted) (use : Option SegmentUse) :
    (state.entered use).Counted := by
  match use with
  | none => exact counted
  | some .starts => exact counted_openNext counted .response
  | some (.joins kind) =>
    rw [entered]
    split
    · exact counted_openNext counted kind
    · exact counted

theorem counted_closedBy (counted : state.Counted) (eventType : String) :
    (closedBy eventType state).Counted := by
  unfold closedBy
  split
  · intro kind
    cases kind <;> exact .inl rfl
  · exact counted

theorem current_entered (counted : state.Counted) (use : SegmentUse) :
    use.kind.current (state.entered (some use)) =
      some (use.kind.id (use.kind.counter (state.entered (some use)))) := by
  match use with
  | .starts => rfl
  | .joins kind =>
    rw [entered]
    split
    · cases kind <;> rfl
    · rename_i opened
      exact (counted kind).resolve_left (by simpa using opened)

def seen (state : TurnStreamNodeState) (count : Nat) : SegmentKind → TurnStreamNodeState
  | .response =>
      { state with
        responseSegmentCounter := max state.responseSegmentCounter count
        currentResponseSegmentId := some (SegmentKind.response.id count) }
  | .reasoning =>
      { state with
        reasoningSegmentCounter := max state.reasoningSegmentCounter count
        currentReasoningSegmentId := some (SegmentKind.reasoning.id count) }

theorem observePayloadIds_set (bare : CarriesNoIds payload) (state : TurnStreamNodeState)
    (kind : SegmentKind) {count : Nat} (small : count < 0x10000000000000000) :
    state.observePayloadIds (payload.set kind.field (.str (kind.id count))) =
      state.seen count kind := by
  have parsed := kind.parseSegmentSuffix_id small
  have response := bare.textField_set kind .response (kind.id count)
  have reasoning := bare.textField_set kind .reasoning (kind.id count)
  unfold observePayloadIds
  cases kind with
  | response =>
    simp only [SegmentKind.field, SegmentKind.stem, reduceCtorEq, if_true, if_false]
      at parsed response reasoning
    simp only [SegmentKind.field, response, reasoning, observeResponseSegmentId, parsed]
    rfl
  | reasoning =>
    simp only [SegmentKind.field, SegmentKind.stem, reduceCtorEq, if_true, if_false]
      at parsed response reasoning
    simp only [SegmentKind.field, response, reasoning, observeReasoningSegmentId, parsed]
    rfl

theorem seen_openNext (state : TurnStreamNodeState) (kind : SegmentKind) :
    state.seen (kind.counter state + 1) kind = kind.openNext state := by
  cases kind <;> simp [seen, SegmentKind.openNext, SegmentKind.counter]

theorem seen_current {kind : SegmentKind}
    (current : kind.current state = some (kind.id (kind.counter state))) :
    state.seen (kind.counter state) kind = state := by
  obtain ⟨responses, reasonings, response, reasoning⟩ := state
  cases kind <;> simp_all [seen, SegmentKind.counter, SegmentKind.current]

theorem counter_openNext (state : TurnStreamNodeState) (kind : SegmentKind) :
    kind.counter (kind.openNext state) = kind.counter state + 1 := by
  cases kind <;> rfl

@[simp] theorem counter_closedBy (kind : SegmentKind) (eventType : String)
    (state : TurnStreamNodeState) :
    kind.counter (closedBy eventType state) = kind.counter state := by
  unfold closedBy
  split
  · cases kind <;> rfl
  · rfl

theorem seen_entered (counted : state.Counted) (use : SegmentUse) :
    state.seen (use.kind.counter (state.entered (some use))) use.kind =
      state.entered (some use) := by
  match use with
  | .starts => exact seen_openNext state .response
  | .joins kind =>
    rw [entered]
    split
    · rw [SegmentUse.kind, counter_openNext, seen_openNext]
    · rename_i opened
      exact seen_current ((counted kind).resolve_left (by simpa using opened))

theorem observe_assign (bare : CarriesNoIds payload) (counted : state.Counted) (eventType : String)
    (small : ∀ kind : SegmentKind,
      kind.counter (state.assign eventType payload).1 < 0x10000000000000000) :
    state.observe eventType (state.assign eventType payload).2 =
      (state.assign eventType payload).1 := by
  rw [assign_entered bare] at small ⊢
  rw [observe_in]
  congr 1
  cases segment : segmentUse eventType with
  | none =>
    have response := bare.textField .response
    have reasoning := bare.textField .reasoning
    simp only [SegmentKind.field] at response reasoning
    simp only [labelled, observeIn, observePayloadIds, response, reasoning]
    rfl
  | some use =>
    have bounded : use.kind.counter (state.entered (some use)) < 0x10000000000000000 := by
      have after := small use.kind
      rwa [segment, counter_closedBy] at after
    simp only [labelled, observeIn, current_entered counted use, Option.getD_some]
    rw [bare.get_set, if_pos rfl, Option.isNone_some, if_neg Bool.false_ne_true,
      observePayloadIds_set bare state use.kind bounded, seen_entered counted]

end TurnStreamNodeState

end OpenJax.Gateway
