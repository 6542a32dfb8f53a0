import OpenJax.Gateway.SegmentIds

set_option autoImplicit false

namespace OpenJax.Gateway

open Shared Protocol TurnStreamNodeState

structure StreamStep where
  turnId : Option String
  eventType : String
  payload : Json

structure NodeWorld where
  live : SessionRuntime
  published : List StreamStep

namespace NodeWorld

def start (session : SessionRuntime) : NodeWorld := ⟨session, []⟩

/-- A counter that passes `u64::MAX` overflows, and the session with it. -/
def step (world : NodeWorld) (event : StreamStep) : Option NodeWorld :=
  let (live, payload) :=
    world.live.assignStreamNodeIds event.turnId event.eventType event.payload
  let counts (turnId : String) : Bool :=
    let state := ((world.live.streamNode turnId).assign event.eventType event.payload).1
    decide (state.responseSegmentCounter < 0x10000000000000000) &&
      decide (state.reasoningSegmentCounter < 0x10000000000000000)
  if event.turnId.all counts then
    some ⟨live, world.published ++ [{ event with payload := payload }]⟩
  else none

/-- The events have no identifiers of their own, and none is of a turn that is completed. -/
def Continues (world : NodeWorld) (event : StreamStep) : Prop :=
  CarriesNoIds event.payload ∧
    ∀ earlier ∈ world.published, earlier.turnId.isSome = true → earlier.turnId = event.turnId →
      earlier.eventType ≠ "turn_completed"

instance (world : NodeWorld) : DecidablePred world.Continues :=
  fun event => inferInstanceAs (Decidable (CarriesNoIds event.payload ∧
    ∀ earlier ∈ world.published, earlier.turnId.isSome = true → earlier.turnId = event.turnId →
      earlier.eventType ≠ "turn_completed"))

end NodeWorld

def observeAll (session : SessionRuntime) (events : List StreamStep) : SessionRuntime :=
  events.foldl (fun session event =>
    session.observeStreamNodeIds event.turnId event.eventType event.payload) session

variable (session : SessionRuntime)

theorem observeAll_append (events : List StreamStep) (event : StreamStep) :
    observeAll session (events ++ [event]) =
      (observeAll session events).observeStreamNodeIds event.turnId event.eventType
        event.payload := by
  rw [observeAll, List.foldl_append]
  rfl

def assignAll (session : SessionRuntime) : List StreamStep → List Json
  | [] => []
  | event :: rest =>
      let (next, payload) :=
        session.assignStreamNodeIds event.turnId event.eventType event.payload
      payload :: assignAll next rest

def Closes (turnId : String) (events : List StreamStep) : Prop :=
  ∃ event ∈ events, event.turnId = some turnId ∧ closesSegments event.eventType = true

/-- Of two events of a turn, with a close at the first or between them or with the second opening
a segment, the later has a new identifier. -/
def FreshIds (events : List StreamStep) : Prop :=
  ∀ turnId (kind : SegmentKind) before first between second after,
    events = before ++ first :: (between ++ second :: after) →
      first.turnId = some turnId → second.turnId = some turnId →
        (Closes turnId (first :: between) ∨ segmentUse second.eventType = some .starts) →
          ∀ earlier later, textField first.payload kind.field = some earlier →
            textField second.payload kind.field = some later → earlier ≠ later

def SegmentKind.Past (kind : SegmentKind) (count : Nat) (state : TurnStreamNodeState) : Prop :=
  kind.current state = none ∨ count < kind.counter state

def Given (kind : SegmentKind) (turnId : String) (state : TurnStreamNodeState)
    (events : List StreamStep) : Prop :=
  ∀ before first after, events = before ++ first :: after → first.turnId = some turnId →
    ∀ segmentId, textField first.payload kind.field = some segmentId →
      ∃ count, segmentId = kind.id count ∧ count ≤ kind.counter state ∧
        (Closes turnId (first :: after) → kind.Past count state)

section States

variable {state : TurnStreamNodeState} {kind : SegmentKind} {count : Nat}

theorem entered_other {use : Option SegmentUse} (other : ∀ entered ∈ use, entered.kind ≠ kind) :
    kind.counter (state.entered use) = kind.counter state ∧
      kind.current (state.entered use) = kind.current state := by
  match use with
  | none => exact ⟨rfl, rfl⟩
  | some .starts =>
    cases kind with
    | response => exact absurd rfl (other .starts rfl)
    | reasoning => exact ⟨rfl, rfl⟩
  | some (.joins joined) =>
    have apart : joined ≠ kind := other (.joins joined) rfl
    rw [entered]
    split
    · cases joined <;> cases kind <;> first | exact absurd rfl apart | exact ⟨rfl, rfl⟩
    · exact ⟨rfl, rfl⟩

theorem counter_le_entered (use : Option SegmentUse) :
    kind.counter state ≤ kind.counter (state.entered use) := by
  match use with
  | none => exact Nat.le_refl _
  | some .starts => cases kind <;> simp [entered, SegmentKind.openNext, SegmentKind.counter]
  | some (.joins joined) =>
    rw [entered]
    split
    · cases kind <;> cases joined <;> simp [SegmentKind.openNext, SegmentKind.counter]
    · exact Nat.le_refl _

theorem lt_entered {use : SegmentUse} (le : count ≤ use.kind.counter state)
    (newer : use.kind.Past count state ∨ use = .starts) :
    count < use.kind.counter (state.entered (some use)) := by
  match use with
  | .starts => exact Nat.lt_succ_of_le le
  | .joins kind =>
    have past : kind.Past count state := newer.resolve_right SegmentUse.noConfusion
    rw [entered]
    split
    · rw [SegmentUse.kind, counter_openNext]
      exact Nat.lt_succ_of_le le
    · rename_i opened
      exact past.resolve_left (by simpa using opened)

theorem past_entered (use : Option SegmentUse) (le : count ≤ kind.counter state)
    (past : kind.Past count state) : kind.Past count (state.entered use) := by
  by_cases own : ∃ entered ∈ use, entered.kind = kind
  · obtain ⟨entered, rfl, rfl⟩ := own
    exact .inr (lt_entered le (.inl past))
  · have other : ∀ entered ∈ use, entered.kind ≠ kind :=
      fun entered member same => own ⟨entered, member, same⟩
    obtain ⟨counter, current⟩ := @entered_other state kind use other
    unfold SegmentKind.Past
    rwa [counter, current]

theorem past_closedBy {eventType : String}
    (past : closesSegments eventType = true ∨ kind.Past count state) :
    kind.Past count (closedBy eventType state) := by
  unfold closedBy
  split
  · cases kind <;> exact .inl rfl
  · rename_i stays
    exact past.resolve_left stays

theorem labelled_field {payload : Json} (bare : CarriesNoIds payload) (counted : state.Counted)
    {use : Option SegmentUse} {segmentId : String}
    (labelled : textField ((state.entered use).labelled payload use) kind.field = some segmentId) :
    ∃ entered ∈ use, entered.kind = kind ∧
      segmentId = kind.id (kind.counter (state.entered use)) := by
  cases use with
  | none =>
    rw [TurnStreamNodeState.labelled, bare.textField] at labelled
    cases labelled
  | some use =>
    simp only [TurnStreamNodeState.labelled, current_entered counted, Option.getD_some,
      bare.textField_set] at labelled
    split at labelled
    · rename_i same
      subst same
      exact ⟨use, rfl, rfl, (Option.some.inj labelled).symm⟩
    · cases labelled

end States

section Histories

variable {state : TurnStreamNodeState} {kind : SegmentKind} {turnId : String}
  {events : List StreamStep} {event : StreamStep}

theorem split_append {before after : List StreamStep} {first : StreamStep}
    (same : events ++ [event] = before ++ first :: after) :
    first = event ∧ after = [] ∧ before = events ∨
      ∃ between, after = between ++ [event] ∧ events = before ++ first :: between := by
  rcases List.eq_nil_or_concat after with rfl | ⟨between, last, rfl⟩
  · obtain ⟨rfl, last⟩ := List.append_inj' same rfl
    exact .inl ⟨(List.cons.inj last).1.symm, rfl, rfl⟩
  · rw [List.concat_eq_append, ← List.cons_append, ← List.append_assoc] at same
    obtain ⟨rfl, last⟩ := List.append_inj' same rfl
    obtain rfl := (List.cons.inj last).1
    exact .inr ⟨between, List.concat_eq_append, rfl⟩

theorem closes_append {others : List StreamStep} (closes : Closes turnId (events ++ others)) :
    Closes turnId events ∨ Closes turnId others := by
  obtain ⟨closing, member, own, ends⟩ := closes
  exact (List.mem_append.mp member).imp (⟨closing, ·, own, ends⟩) (⟨closing, ·, own, ends⟩)

theorem given_other (given : Given kind turnId state events) (other : event.turnId ≠ some turnId) :
    Given kind turnId state (events ++ [event]) := by
  intro before first after same own segmentId labelled
  rcases split_append same with ⟨rfl, -, -⟩ | ⟨between, rfl, earlier⟩
  · exact absurd own other
  · obtain ⟨count, named, le, past⟩ := given before first between earlier own segmentId labelled
    refine ⟨count, named, le, fun closes => past ?_⟩
    rw [← List.cons_append] at closes
    apply (closes_append closes).resolve_right
    rintro ⟨closing, member, ownClosing, -⟩
    obtain rfl := List.mem_singleton.mp member
    exact other ownClosing

theorem given_assign {payload : Json} {eventType : String} (bare : CarriesNoIds payload)
    (counted : state.Counted) (given : Given kind turnId state events) :
    Given kind turnId (state.assign eventType payload).1
      (events ++ [⟨some turnId, eventType, (state.assign eventType payload).2⟩]) := by
  rw [assign_entered bare]
  intro before first after same own segmentId labelled
  rcases split_append same with ⟨rfl, rfl, -⟩ | ⟨between, rfl, earlier⟩
  · obtain ⟨entered, -, -, named⟩ := labelled_field bare counted labelled
    refine ⟨_, named, by simp, ?_⟩
    rintro ⟨closing, member, -, closes⟩
    obtain rfl := List.mem_singleton.mp member
    exact past_closedBy (.inl closes)
  · obtain ⟨count, named, le, past⟩ := given before first between earlier own segmentId labelled
    refine ⟨count, named, ?_, fun closes => past_closedBy ?_⟩
    · rw [counter_closedBy]
      exact Nat.le_trans le (counter_le_entered _)
    · rw [← List.cons_append] at closes
      rcases closes_append closes with before | ⟨closing, member, -, closes⟩
      · exact .inr (past_entered _ le (past before))
      · obtain rfl := List.mem_singleton.mp member
        exact .inl closes

theorem freshIds_assign {payload : Json} {eventType : String} (bare : CarriesNoIds payload)
    (counted : state.Counted) (given : ∀ kind, Given kind turnId state events)
    (fresh : FreshIds events) :
    FreshIds (events ++ [⟨some turnId, eventType, (state.assign eventType payload).2⟩]) := by
  rw [assign_entered bare]
  intro other kind before first between second after same own ownSecond newer earlier later
    labelled labelledSecond
  rw [← List.cons_append, ← List.append_assoc] at same
  rcases split_append same with ⟨rfl, -, rfl⟩ | ⟨rest, rfl, history⟩
  · cases ownSecond
    obtain ⟨count, rfl, le, past⟩ := given kind before first between rfl own earlier labelled
    obtain ⟨use, segment, rfl, rfl⟩ := labelled_field bare counted labelledSecond
    have used : segmentUse eventType = some use := segment
    rw [used]
    intro equal
    have less := lt_entered le (newer.imp past fun starts => Option.some.inj (used.symm.trans starts))
    have reached := SegmentKind.id_inj _ equal
    omega
  · exact fresh other kind before first between second rest (by simpa using history) own ownSecond
      newer earlier later labelled labelledSecond

theorem freshIds_bare (bare : event.turnId = none) (fresh : FreshIds events) :
    FreshIds (events ++ [event]) := by
  intro other kind before first between second after same own ownSecond
  rw [← List.cons_append, ← List.append_assoc] at same
  rcases split_append same with ⟨rfl, -, -⟩ | ⟨rest, rfl, history⟩
  · rw [bare] at ownSecond
    cases ownSecond
  · exact fresh other kind before first between second rest (by simpa using history) own ownSecond

end Histories

theorem streamNode_assign (turnId other eventType : String) (payload : Json) :
    (session.assignStreamNodeIds (some turnId) eventType payload).1.streamNode other =
      if other = turnId then
        if eventType = "turn_completed" then {}
        else ((session.streamNode turnId).assign eventType payload).1
      else session.streamNode other := by
  simp only [SessionRuntime.assignStreamNodeIds, SessionRuntime.storeNode,
    SessionRuntime.streamNode]
  by_cases completed : eventType = "turn_completed" <;> by_cases same : other = turnId <;>
    simp [completed, same, Table.lookup_insert_eq, Table.lookup_erase_eq]

structure NodesKept (session : SessionRuntime) (world : NodeWorld) : Prop where
  recovered : observeAll session world.published = world.live
  counted : ∀ turnId, (world.live.streamNode turnId).Counted
  given : ∀ turnId kind,
    (∀ event ∈ world.published, event.turnId = some turnId →
      event.eventType ≠ "turn_completed") →
    Given kind turnId (world.live.streamNode turnId) world.published
  fresh : FreshIds world.published

theorem nodesKept_start (agent : AgentId) (capacity : Nat) :
    NodesKept (.newWithConfig agent capacity) (.start (.newWithConfig agent capacity)) where
  recovered := rfl
  counted _ kind := by cases kind <;> exact .inl rfl
  given _ _ _ before first after same := by simp [NodeWorld.start] at same
  fresh _ _ before first between second after same := by simp [NodeWorld.start] at same

theorem nodesKept_step : Preserves NodeWorld.step NodeWorld.Continues (NodesKept session) := by
  intro world event next kept continues stepped
  obtain ⟨live, published⟩ := world
  obtain ⟨turnId, eventType, payload⟩ := event
  obtain ⟨recovered, counted, given, fresh⟩ := kept
  obtain ⟨bare, ongoing⟩ := continues
  simp only [NodeWorld.step] at stepped
  split at stepped
  swap
  · cases stepped
  rename_i counts
  cases stepped
  cases turnId with
  | none =>
    constructor
    case recovered =>
      rw [observeAll_append]
      exact recovered
    case counted => exact counted
    case given =>
      intro turnId kind running
      apply given_other (given turnId kind fun event member => running event
        (List.mem_append_left _ member))
      exact fun same => nomatch same
    case fresh => exact freshIds_bare rfl fresh
  | some turnId =>
    have fits : ∀ kind : SegmentKind, kind.counter
        ((live.streamNode turnId).assign eventType payload).1 < 0x10000000000000000 := by
      simp only [Option.all_some, Bool.and_eq_true, decide_eq_true_eq] at counts
      intro kind
      cases kind with
      | response => exact counts.1
      | reasoning => exact counts.2
    have runs : ∀ event ∈ published, event.turnId = some turnId →
        event.eventType ≠ "turn_completed" :=
      fun event member own => ongoing event member (by rw [own]; rfl) own
    constructor
    case recovered =>
      rw [observeAll_append, recovered]
      simp only [SessionRuntime.observeStreamNodeIds, SessionRuntime.assignStreamNodeIds]
      rw [observe_assign bare (counted turnId) eventType fits]
    case counted =>
      intro other
      rw [streamNode_assign]
      split
      · split
        · intro kind
          cases kind <;> exact .inl rfl
        · rw [assign_entered bare]
          exact counted_closedBy (counted_entered (counted turnId) _) eventType
      · exact counted other
    case given =>
      intro other kind running
      rw [streamNode_assign]
      split
      · rename_i same
        subst same
        have goesOn : eventType ≠ "turn_completed" :=
          running _ (List.mem_append_right _ (List.mem_singleton_self _)) rfl
        rw [if_neg goesOn]
        exact given_assign bare (counted other) (given other kind runs)
      · rename_i apart
        apply given_other (given other kind fun event member => running event
          (List.mem_append_left _ member))
        exact fun same => apart (Option.some.inj same).symm
    case fresh =>
      exact freshIds_assign bare (counted turnId) (fun kind => given turnId kind runs) fresh

/-- The record gives back the nodes of the session, a turn that goes on after a rebuild gets the
identifiers it would have got, and none of them is used again once its segment was closed. -/
structure NodesRecovered (session : SessionRuntime) (world : NodeWorld) : Prop where
  nodes : (observeAll session world.published).turnStreamNodes = world.live.turnStreamNodes
  continued : ∀ later,
    assignAll (observeAll session world.published) later = assignAll world.live later
  fresh : FreshIds world.published

theorem nodes_recovered (agent : AgentId) (capacity : Nat) {events : List StreamStep}
    {world : NodeWorld}
    (continues : Meets NodeWorld.step NodeWorld.Continues
      (.start (.newWithConfig agent capacity)) events)
    (ran : run NodeWorld.step (.start (.newWithConfig agent capacity)) events = some world) :
    NodesRecovered (.newWithConfig agent capacity) world := by
  have kept := run_invariant (nodesKept_step _) (nodesKept_start agent capacity) continues ran
  exact ⟨congrArg SessionRuntime.turnStreamNodes kept.recovered,
    fun later => by rw [kept.recovered], kept.fresh⟩

def twoSegments : List StreamStep :=
  [⟨some "turn_1", "response_started", .empty⟩, ⟨some "turn_1", "reasoning_delta", .empty⟩,
    ⟨some "turn_1", "response_completed", .empty⟩, ⟨some "turn_1", "reasoning_delta", .empty⟩]

theorem nodes_recovered_two_segments :
    ∃ world, run NodeWorld.step (.start (.newWithConfig 0 1024)) twoSegments = some world ∧
      world.published.filterMap (fun event => textField event.payload "reasoning_segment_id") =
        ["reason_1", "reason_2"] ∧
      NodesRecovered (.newWithConfig 0 1024) world := by
  have ends : (run NodeWorld.step (.start (.newWithConfig 0 1024)) twoSegments).any fun world =>
      world.published.filterMap (fun event => textField event.payload "reasoning_segment_id") =
        ["reason_1", "reason_2"] := by
    decide +kernel
  have continues : Meets NodeWorld.step NodeWorld.Continues
      (.start (.newWithConfig 0 1024)) twoSegments := by
    decide +kernel
  cases ran : run NodeWorld.step (.start (.newWithConfig 0 1024)) twoSegments with
  | none => simp [ran] at ends
  | some world =>
    simp only [ran, Option.any_some, decide_eq_true_eq] at ends
    exact ⟨world, rfl, ends, nodes_recovered 0 1024 continues ran⟩

end OpenJax.Gateway
