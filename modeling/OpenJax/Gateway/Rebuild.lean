import OpenJax.Gateway.CoreProjection

set_option autoImplicit false

namespace OpenJax.Gateway

open Shared Transcript Protocol

def replayRecord (session : SessionRuntime) (row : TranscriptRecord Json) : SessionRuntime :=
  let logged := { session with eventLog := session.eventLog.push (envelopeOf row) }
  match row.turnId with
  | none => logged
  | some turnId =>
      let observed := logged.observeStreamNodeIds (some turnId) row.eventType row.payload
      let projected := projectTurn observed turnId row.eventType row.payload
      { projected with turnEventSeq := projected.turnEventSeq.insert turnId row.turnSeq }

def runtimeForReplay (agent : AgentId) (replayCapacity : Nat) (events : Journal Json) :
    SessionRuntime :=
  let fresh := SessionRuntime.newWithConfig agent replayCapacity
  match events.getLast? with
  | some last => { fresh with nextEventSeq := last.eventSeq + 1 }
  | none => fresh

def buildSessionRuntime (agent : AgentId) (replayCapacity : Nat) (events : Journal Json) :
    SessionRuntime :=
  events.foldl replayRecord (runtimeForReplay agent replayCapacity events)

def submitGate (session : SessionRuntime) (sessionId : String) : Except ApiError Unit :=
  if session.status ≠ .active then
    .error (.conflict "session is not active" (.obj [("session_id", .str sessionId)]))
  else if session.turnSubmitInFlight || session.currentTurnAbortHandle.isSome then
    .error (.conflict "another turn is still running" (.obj [("session_id", .str sessionId)]))
  else
    match session.turns.entries.find? fun entry => entry.2.status = .running with
    | some running =>
        .error (.conflict "another turn is still running"
          (.obj [("session_id", .str sessionId), ("turn_id", .str running.1)]))
    | none => .ok ()

variable (session : SessionRuntime)

theorem idle_iff_find :
    session.hasRunningTurn = false ↔
      session.turns.entries.find? (fun entry => entry.2.status = .running) = none := by
  simp [SessionRuntime.hasRunningTurn, Table.any]

theorem submitGate_iff (sessionId : String) :
    submitGate session sessionId = .ok () ↔
      session.status = .active ∧ session.turnSubmitInFlight = false ∧
        session.currentTurnAbortHandle = none ∧ session.hasRunningTurn = false := by
  rw [idle_iff_find]
  unfold submitGate
  by_cases active : session.status = .active
  · cases inFlight : session.turnSubmitInFlight with
    | true => simp [active]
    | false =>
      cases handle : session.currentTurnAbortHandle with
      | some task => simp [active]
      | none =>
        cases found : session.turns.entries.find? fun entry => entry.2.status = .running <;>
          simp [active]
  · simp [active]

def opensTurn (row : TranscriptRecord Json) : Bool := row.eventType = "turn_started"

def closesTurn (row : TranscriptRecord Json) : Bool :=
  row.eventType ∈ ["turn_completed", "response_error", "error", "turn_interrupted"] ||
    row.eventType = "response_completed" &&
      ((row.payload.get? "content").bind Json.asStr?).isSome

def LeftOpen (events : Journal Json) (turnId : String) : Prop :=
  ∃ earlier row later, events = earlier ++ row :: later ∧ row.turnId = some turnId ∧
    opensTurn row = true ∧ ∀ other ∈ later, other.turnId = some turnId → closesTurn other = false

variable (events : Journal Json)

theorem leftOpen_append (row : TranscriptRecord Json) (turnId : String) :
    LeftOpen (events ++ [row]) turnId ↔
      row.turnId = some turnId ∧ opensTurn row = true ∨
        LeftOpen events turnId ∧ (row.turnId = some turnId → closesTurn row = false) := by
  constructor
  · rintro ⟨earlier, opening, later, split, own, opens, quiet⟩
    rcases List.eq_nil_or_concat later with rfl | ⟨before, last, rfl⟩
    · obtain ⟨-, rfl⟩ := List.append_inj' split rfl |>.imp id List.singleton_inj.mp
      exact .inl ⟨own, opens⟩
    · right
      have joined : events ++ [row] = (earlier ++ opening :: before) ++ [last] := by
        simpa using split
      obtain ⟨rfl, same⟩ := List.append_inj' joined rfl
      obtain rfl := List.singleton_inj.mp same
      refine ⟨⟨earlier, opening, before, rfl, own, opens, ?_⟩, quiet row (by simp)⟩
      intro other member
      exact quiet other (by simp [member])
  · rintro (⟨own, opens⟩ | ⟨⟨earlier, opening, later, rfl, own, opens, quiet⟩, silent⟩)
    · exact ⟨events, row, [], rfl, own, opens, by simp⟩
    · refine ⟨earlier, opening, later ++ [row], by simp, own, opens, ?_⟩
      intro other member
      rcases List.mem_append.mp member with member | member
      · exact quiet other member
      · rwa [List.mem_singleton.mp member]

theorem applied_running (turn : TurnRuntime) (row : TranscriptRecord Json) :
    (applyTurnRuntimeEvent turn row.eventType row.payload).status = .running ↔
      opensTurn row = true ∨ turn.status = .running ∧ closesTurn row = false := by
  unfold applyTurnRuntimeEvent opensTurn closesTurn
  by_cases started : row.eventType = "turn_started"
  · simp [started]
  by_cases completed : row.eventType = "turn_completed"
  · by_cases failed : turn.status = .failed <;> simp [completed, failed]
  by_cases error : row.eventType = "response_error" ∨ row.eventType = "error"
  · rcases error with error | error <;> simp [error]
  by_cases interrupted : row.eventType = "turn_interrupted"
  · simp [interrupted]
  rw [not_or] at error
  by_cases response : row.eventType = "response_completed"
  · cases content : (row.payload.get? "content").bind Json.asStr? <;> simp [response]
  · by_cases assistant : row.eventType = "assistant_message" <;>
      simp [started, completed, error, interrupted, response]

variable (row : TranscriptRecord Json)

theorem replayRecord_turns (turnId : String) :
    (replayRecord session row).turns.lookup turnId =
      if row.turnId = some turnId then
        some (applyTurnRuntimeEvent (session.turn turnId) row.eventType row.payload)
      else session.turns.lookup turnId := by
  unfold replayRecord
  cases owner : row.turnId with
  | none => simp
  | some own =>
    have unchanged : (SessionRuntime.observeStreamNodeIds
        { session with eventLog := session.eventLog.push (envelopeOf row) } (some own)
        row.eventType row.payload).turns = session.turns := rfl
    simp only [projectTurn, SessionRuntime.setTurn, SessionRuntime.turn, unchanged,
      Table.lookup_insert_eq, Option.some.injEq]
    by_cases same : turnId = own
    · subst same
      simp
    · rw [if_neg same, if_neg (Ne.symm same)]

theorem replayRecord_markers : (replayRecord session row).markers = session.markers := by
  unfold replayRecord
  cases row.turnId <;> rfl

def runs (session : SessionRuntime) (turnId : String) : Prop :=
  (session.turn turnId).status = .running

theorem hasRunningTurn_iff_runs :
    session.hasRunningTurn = true ↔ ∃ turnId, runs session turnId := by
  rw [session.hasRunningTurn_iff]
  constructor
  · rintro ⟨turnId, turn, found, running⟩
    exact ⟨turnId, by rw [runs, SessionRuntime.turn, found]; exact running⟩
  · rintro ⟨turnId, running⟩
    rw [runs, SessionRuntime.turn] at running
    cases found : session.turns.lookup turnId with
    | none => simp [found, TurnRuntime.queued] at running
    | some turn => exact ⟨turnId, turn, found, by simpa [found] using running⟩

theorem idle_iff_runs : session.hasRunningTurn = false ↔ ∀ turnId, ¬ runs session turnId := by
  rw [← Bool.not_eq_true, hasRunningTurn_iff_runs, not_exists]

theorem replayRecord_runs (turnId : String) :
    runs (replayRecord session row) turnId ↔
      row.turnId = some turnId ∧ opensTurn row = true ∨
        runs session turnId ∧ (row.turnId = some turnId → closesTurn row = false) := by
  rw [runs, SessionRuntime.turn, replayRecord_turns]
  by_cases own : row.turnId = some turnId
  · simp [own, applied_running, runs]
  · simp [own, runs, SessionRuntime.turn]

variable (initial : SessionRuntime)

theorem replay_runs (idle : ∀ turnId, ¬ runs initial turnId) (events : Journal Json)
    (turnId : String) :
    runs (events.foldl replayRecord initial) turnId ↔ LeftOpen events turnId := by
  induction events using List.reverseRecOn with
  | nil => simp [idle, LeftOpen]
  | append_singleton earlier row ih =>
    rw [List.foldl_append, List.foldl_cons, List.foldl_nil, replayRecord_runs, leftOpen_append, ih]

theorem replay_markers : (events.foldl replayRecord initial).markers = initial.markers := by
  induction events generalizing initial with
  | nil => rfl
  | cons row rest ih => rw [List.foldl_cons, ih, replayRecord_markers]

theorem rebuilt_runs (agent : AgentId) (replayCapacity : Nat) (events : Journal Json)
    (turnId : String) :
    runs (buildSessionRuntime agent replayCapacity events) turnId ↔ LeftOpen events turnId := by
  apply replay_runs
  intro other
  unfold runtimeForReplay
  cases events.getLast? <;>
    simp [runs, SessionRuntime.turn, SessionRuntime.newWithConfig, TurnRuntime.queued]

theorem rebuilt_markers (agent : AgentId) (replayCapacity : Nat) (events : Journal Json) :
    (buildSessionRuntime agent replayCapacity events).markers =
      (SessionRuntime.newWithConfig agent replayCapacity).markers := by
  rw [buildSessionRuntime, replay_markers]
  unfold runtimeForReplay
  cases events.getLast? <;> rfl

theorem replay_names :
    (events.foldl replayRecord initial).coreTurnToPublic = initial.coreTurnToPublic := by
  induction events generalizing initial with
  | nil => rfl
  | cons row rest ih =>
    rw [List.foldl_cons, ih]
    unfold replayRecord
    cases row.turnId <;> rfl

theorem rebuilt_named (agent : AgentId) (replayCapacity : Nat) (events : Journal Json) :
    (buildSessionRuntime agent replayCapacity events).NamesPublic := by
  intro coreTurnId id found
  rw [buildSessionRuntime, replay_names, runtimeForReplay] at found
  cases last : events.getLast? <;> simp [last, SessionRuntime.newWithConfig] at found

theorem submitGate_markers {session other : SessionRuntime}
    (same : session.markers = other.markers) :
    session.status = other.status ∧ session.turnSubmitInFlight = other.turnSubmitInFlight ∧
      session.currentTurnAbortHandle = other.currentTurnAbortHandle := by
  simp only [SessionRuntime.markers, SessionRuntime.Markers.mk.injEq] at same
  exact ⟨same.2.1, same.2.2.2.1, same.2.2.1⟩

theorem rebuilt_submit_iff (agent : AgentId) (replayCapacity : Nat) (events : Journal Json)
    (sessionId : String) :
    submitGate (buildSessionRuntime agent replayCapacity events) sessionId = .ok () ↔
      ∀ turnId, ¬ LeftOpen events turnId := by
  obtain ⟨status, inFlight, handle⟩ :=
    submitGate_markers (rebuilt_markers agent replayCapacity events)
  rw [submitGate_iff, status, inFlight, handle, idle_iff_runs]
  simp [rebuilt_runs, SessionRuntime.newWithConfig]

def startedRecord : TranscriptRecord Json :=
  { schemaVersion := 1
    sessionId := "sess_1"
    eventSeq := 1
    turnSeq := 1
    turnId := some "turn_1"
    eventType := "turn_started"
    streamSource := "synthetic"
    timestamp := "2026-01-01T00:00:00.000Z"
    payload := .empty
    requestId := "req_1" }

/-- A transcript that a crash cut off after a turn's first event locks its session. -/
theorem rebuilt_submit_refused :
    ¬ ∀ (agent : AgentId) (replayCapacity : Nat) (events : Journal Json) (sessionId : String),
      submitGate (buildSessionRuntime agent replayCapacity events) sessionId = .ok () := by
  intro claimed
  have accepted := claimed 0 1 [startedRecord] "sess_1"
  rw [submitGate_iff] at accepted
  have running : (buildSessionRuntime 0 1 [startedRecord]).hasRunningTurn = true := by rfl
  simp [running] at accepted

abbrev TurnEvent := String × Json

def projectEvents (events : List TurnEvent) : TurnRuntime :=
  events.foldl (fun turn event => applyTurnRuntimeEvent turn event.1 event.2) .queued

def TurnEvent.fails (event : TurnEvent) : Bool :=
  event.1 == "response_error" || event.1 == "error" || event.1 == "turn_interrupted"

def TurnEvent.revives (event : TurnEvent) : Bool :=
  event.1 == "turn_started" ||
    event.1 == "response_completed" && ((event.2.get? "content").bind Json.asStr?).isSome

variable (events : List TurnEvent)

theorem projectEvents_append (event : TurnEvent) :
    projectEvents (events ++ [event]) =
      applyTurnRuntimeEvent (projectEvents events) event.1 event.2 := by
  rw [projectEvents, List.foldl_append]
  rfl

section Event

variable (turn : TurnRuntime) {event : TurnEvent}

theorem apply_fails (fails : event.fails = true) :
    (applyTurnRuntimeEvent turn event.1 event.2).status = .failed ∧
      (applyTurnRuntimeEvent turn event.1 event.2).error.isSome := by
  simp only [TurnEvent.fails, Bool.or_eq_true, beq_iff_eq] at fails
  rcases fails with (kind | kind) | kind
  · simp [applyTurnRuntimeEvent, kind]
  · simp [applyTurnRuntimeEvent, kind]
  · simp [applyTurnRuntimeEvent, kind]

theorem apply_revives (revives : event.revives = true) :
    (applyTurnRuntimeEvent turn event.1 event.2).status ≠ .failed := by
  simp only [TurnEvent.revives, Bool.or_eq_true, Bool.and_eq_true, beq_iff_eq] at revives
  rcases revives with kind | ⟨kind, content⟩
  · simp [applyTurnRuntimeEvent, kind]
  · obtain ⟨text, found⟩ := Option.isSome_iff_exists.mp content
    simp [applyTurnRuntimeEvent, kind, found]

theorem apply_error (calm : event.fails = false) :
    (applyTurnRuntimeEvent turn event.1 event.2).error = turn.error := by
  simp only [TurnEvent.fails, Bool.or_eq_false_iff, beq_eq_false_iff_ne] at calm
  obtain ⟨⟨response, error⟩, interrupted⟩ := calm
  unfold applyTurnRuntimeEvent
  simp only [response, error, interrupted, or_self, if_false]
  split_ifs
  all_goals try rfl
  split <;> rfl

theorem apply_status (calm : event.fails = false) (keeps : event.revives = false) :
    (applyTurnRuntimeEvent turn event.1 event.2).status = .failed ↔ turn.status = .failed := by
  simp only [TurnEvent.fails, Bool.or_eq_false_iff, beq_eq_false_iff_ne] at calm
  obtain ⟨⟨response, error⟩, interrupted⟩ := calm
  simp only [TurnEvent.revives, Bool.or_eq_false_iff, beq_eq_false_iff_ne] at keeps
  obtain ⟨started, completed⟩ := keeps
  unfold applyTurnRuntimeEvent
  simp only [response, error, interrupted, started, or_self, if_false]
  split_ifs with ended failed message answered
  · exact Iff.rfl
  · simp [failed]
  · exact Iff.rfl
  · -- The completed response has no content that is a text.
    have missing : (event.2.get? "content").bind Json.asStr? = none := by
      simpa [answered] using completed
    rw [missing]
  · exact Iff.rfl

end Event

def Fails (events : List TurnEvent) : Prop := ∃ event ∈ events, event.fails = true

theorem fails_append (event : TurnEvent) :
    Fails (events ++ [event]) ↔ Fails events ∨ event.fails = true := by
  simp only [Fails, List.mem_append, List.mem_singleton, or_and_right, exists_or, exists_eq_left]

theorem error_iff_fails : (projectEvents events).error.isSome ↔ Fails events := by
  induction events using List.reverseRecOn with
  | nil => simp [projectEvents, TurnRuntime.queued, Fails]
  | append_singleton events event ih =>
    rw [projectEvents_append, fails_append]
    cases kind : event.fails with
    | true => simp [(apply_fails (projectEvents events) kind).2]
    | false => simp [apply_error (projectEvents events) kind, ih]

def StaysFailed (events : List TurnEvent) : Prop :=
  ∀ earlier event later, events = earlier ++ event :: later → Fails earlier →
    event.revives = false

theorem StaysFailed.of_prefix {earlier events : List TurnEvent} (stays : StaysFailed events)
    (part : earlier <+: events) : StaysFailed earlier := by
  obtain ⟨rest, rfl⟩ := part
  intro before event after same
  apply stays before event (after ++ rest)
  rw [same, List.append_assoc, List.cons_append]

theorem failed_iff_fails {events : List TurnEvent} (stays : StaysFailed events) :
    (projectEvents events).status = .failed ↔ Fails events := by
  induction events using List.reverseRecOn with
  | nil => simp [projectEvents, TurnRuntime.queued, Fails]
  | append_singleton events event ih =>
    have before := ih (stays.of_prefix (List.prefix_append events [event]))
    rw [projectEvents_append, fails_append]
    cases kind : event.fails with
    | true => simp [(apply_fails (projectEvents events) kind).1]
    | false =>
      cases sets : event.revives with
      | false => simp [apply_status (projectEvents events) kind sets, before]
      | true =>
        -- So nothing has failed the turn before.
        have unfailed : ¬ Fails events := by
          intro fails
          have never := stays events event [] rfl fails
          rw [sets] at never
          cases never
        simp [apply_revives (projectEvents events) sets, unfailed]

/-- After each of the events the turn has an error exactly when it has failed, and a turn that has
failed stays so. -/
structure Consistent (events : List TurnEvent) : Prop where
  error : ∀ earlier, earlier <+: events →
    ((projectEvents earlier).error.isSome ↔ (projectEvents earlier).status = .failed)
  final : ∀ earlier later, earlier <+: later → later <+: events →
    (projectEvents earlier).status = .failed → (projectEvents later).status = .failed

theorem consistent_iff (events : List TurnEvent) : Consistent events ↔ StaysFailed events := by
  constructor
  · intro consistent earlier event later same fails
    by_contra sets
    rw [Bool.not_eq_false] at sets
    have part : earlier ++ [event] <+: events := ⟨later, by rw [same, List.append_assoc]; rfl⟩
    have error := (error_iff_fails (earlier ++ [event])).mpr ((fails_append _ _).mpr (.inl fails))
    have failed := (consistent.error _ part).mp error
    rw [projectEvents_append] at failed
    exact apply_revives _ sets failed
  · intro stays
    constructor
    · intro earlier part
      rw [error_iff_fails, failed_iff_fails (stays.of_prefix part)]
    · intro earlier later first part failed
      have early := stays.of_prefix (first.trans part)
      rw [failed_iff_fails (stays.of_prefix part)]
      obtain ⟨event, among, fails⟩ := (failed_iff_fails early).mp failed
      exact ⟨event, first.subset among, fails⟩

def appliedEvent (session : SessionRuntime) (turnId : String) (event : Event) : Option TurnEvent :=
  match mapCoreEventPayloadResult event with
  | .mapped mapping =>
      some (mapping.eventType,
        (session.assignStreamNodeIds (some turnId) mapping.eventType mapping.payload).2)
  | _ => none

def freshSession : SessionRuntime := .newWithConfig 0 16

def answeredAfterError : List TurnEvent :=
  [Event.turnStarted 1, .responseError 1 "duplicate" "skipped" true,
    .responseCompleted 1 "done" .modelLive].filterMap (appliedEvent freshSession "turn_1")

theorem completed_with_error :
    (projectEvents answeredAfterError).status = .completed ∧
      (projectEvents answeredAfterError).error.isSome := by
  decide +kernel

theorem answer_after_error_inconsistent : ¬ Consistent answeredAfterError := by
  intro consistent
  have failed := (consistent.error _ List.prefix_rfl).mp completed_with_error.2
  rw [completed_with_error.1] at failed
  cases failed

end OpenJax.Gateway
