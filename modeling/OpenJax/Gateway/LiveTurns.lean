import OpenJax.Gateway.TurnTasks

set_option autoImplicit false

/-! The turns map is kept twice: live, by the code that publishes events, and by folding the
transcript when the runtime is rebuilt. -/

namespace OpenJax.Gateway

open Shared Protocol Transcript

structure Compaction where
  compressedTurns : Nat
  retainedTurns : Nat
  summaryPreview : String

def Compaction.event (compaction : Compaction) : Event :=
  .contextCompacted 0 compaction.compressedTurns compaction.retainedTurns
    compaction.summaryPreview

structure CompactAttempts where
  started : AppendAttempt
  mapped : AppendAttempt
  response : AppendAttempt
  completed : AppendAttempt

def compactedTurn : TurnRuntime := ⟨.completed, some "context compacted", none⟩

def handleCompactAction (live : LiveSession) (attempts : CompactAttempts) (route : EventRoute)
    (turnId : String) (compaction : Option Compaction) : LiveSession :=
  let entered := { live with runtime := live.runtime.setTurn turnId compactedTurn }
  let started := emit entered attempts.started route (some turnId) "turn_started" .empty none
  let mapped :=
    match compaction.map fun compaction => mapCoreEventPayloadResult compaction.event with
    | some (.mapped mapping) =>
        emit started attempts.mapped route (some turnId) mapping.eventType mapping.payload
          mapping.streamSource
    | _ => started
  let responded := emit mapped attempts.response route (some turnId) "response_completed"
    (.obj [("content", .str "context compacted"), ("stream_source", .str "synthetic")])
    (some "synthetic")
  emit responded attempts.completed route (some turnId) "turn_completed" .empty none

inductive LiveInput where
  | core (first second : AppendAttempt) (route : EventRoute) (event : Event)
  | interrupted (attempt : AppendAttempt) (worker : Worker)
  -- A user's message, or the shutdown of the session.
  | turnless (attempt : AppendAttempt) (route : EventRoute) (eventType : String) (payload : Json)
      (streamSource : Option String)
  | compact (attempts : CompactAttempts) (route : EventRoute) (turnId : String)
      (compaction : Option Compaction)
  | clear (agent : AgentId)
  | rebuild (agent : AgentId) (replayCapacity : Nat)

def LiveSession.project (live : LiveSession) : LiveInput → Option LiveSession
  | .core first second route event =>
      some (mapCoreEvent live first second route event .pending).1
  | .interrupted attempt worker => some (World.interrupt live attempt worker)
  | .turnless attempt route eventType payload streamSource =>
      some (emit live attempt route none eventType payload streamSource)
  | .compact attempts route turnId compaction =>
      -- The id of a compaction is a new one.
      if ∀ record ∈ live.transcript, record.turnId ≠ some turnId then
        some (handleCompactAction live attempts route turnId compaction)
      else none
  | .clear agent => some { live with runtime := live.runtime.clearContextWithConfig agent }
  | .rebuild agent replayCapacity =>
      some { live with runtime := buildSessionRuntime agent replayCapacity live.transcript }

/-- Every turn of the live map has the status, error and message that a rebuild gives it. -/
def AgreesWithRebuild (live : LiveSession) : Prop :=
  ∀ (agent : AgentId) (replayCapacity : Nat) (turnId : String) (turn : TurnRuntime),
    live.runtime.turns.lookup turnId = some turn →
      (buildSessionRuntime agent replayCapacity live.transcript).turns.lookup turnId = some turn

def KnownTurn (live : LiveSession) (turnId : String) : Prop :=
  (live.runtime.turns.lookup turnId).isSome ∨
    ∀ record ∈ live.transcript, record.turnId ≠ some turnId

instance (live : LiveSession) (turnId : String) : Decidable (KnownTurn live turnId) := by
  unfold KnownTurn
  infer_instance

def publishedAs (live : LiveSession) (event : Event) : Option (String × String × Json) :=
  match mapCoreEventPayloadResult event with
  | .mapped mapping =>
      mapping.coreTurnId.map fun coreTurnId =>
        let (named, turnId) := live.runtime.getOrCreatePublicTurnId coreTurnId
        (turnId, mapping.eventType,
          (named.assignStreamNodeIds (some turnId) mapping.eventType mapping.payload).2)
  | _ => none

/-- An event of a turn is stored, unless it is an error that the turn shows already, and its
turn is not one of before a clear. An interruption is stored where it ends a turn; of a turn that
has ended it is not. A compaction's response is stored. -/
def Recorded (live : LiveSession) (input : LiveInput) : Prop :=
  match input with
  | .core first _ _ event =>
      ∀ published ∈ publishedAs live event,
        KnownTurn live published.1 ∧
          (first.failure = none ∨ published.2.1 = "response_error" ∧
            applyTurnRuntimeEvent (live.runtime.turn published.1) published.2.1 published.2.2 =
              live.runtime.turn published.1)
  | .interrupted attempt worker =>
      ∀ turnId ∈ World.interruptedTurn live.runtime worker,
        ∀ turn ∈ live.runtime.turns.lookup turnId,
          if turn.status = .queued ∨ turn.status = .running then attempt.failure = none
          else attempt.failure.isSome ∨
            applyTurnRuntimeEvent turn "turn_interrupted" World.userAbort = turn
  | .compact attempts _ _ _ => attempts.response.failure = none
  | _ => True

section Rebuild

variable {agent : AgentId} {replayCapacity : Nat}

theorem replay_turns_congr {initial other : SessionRuntime} (same : initial.turns = other.turns)
    (events : Journal Json) (turnId : String) :
    (events.foldl replayRecord initial).turns.lookup turnId =
      (events.foldl replayRecord other).turns.lookup turnId := by
  induction events using List.reverseRecOn generalizing turnId with
  | nil => rw [List.foldl_nil, List.foldl_nil, same]
  | append_singleton earlier row ih =>
    simp only [List.foldl_append, List.foldl_cons, List.foldl_nil, replayRecord_turns,
      SessionRuntime.turn, ih]

theorem runtimeForReplay_turns (agent : AgentId) (replayCapacity : Nat) (events : Journal Json) :
    (runtimeForReplay agent replayCapacity events).turns =
      (SessionRuntime.newWithConfig agent replayCapacity).turns := by
  unfold runtimeForReplay
  cases events.getLast? <;> rfl

theorem rebuilt_append (events : Journal Json) (row : TranscriptRecord Json) (turnId : String) :
    (buildSessionRuntime agent replayCapacity (events ++ [row])).turns.lookup turnId =
      if row.turnId = some turnId then
        some (applyTurnRuntimeEvent
          ((buildSessionRuntime agent replayCapacity events).turn turnId)
          row.eventType row.payload)
      else (buildSessionRuntime agent replayCapacity events).turns.lookup turnId := by
  have same (id : String) :
      (events.foldl replayRecord
        (runtimeForReplay agent replayCapacity (events ++ [row]))).turns.lookup id =
        (buildSessionRuntime agent replayCapacity events).turns.lookup id :=
    replay_turns_congr (by rw [runtimeForReplay_turns, runtimeForReplay_turns]) events id
  rw [buildSessionRuntime, List.foldl_append, List.foldl_cons, List.foldl_nil, replayRecord_turns,
    SessionRuntime.turn, SessionRuntime.turn, same]

theorem rebuilt_absent {events : Journal Json} {turnId : String}
    (absent : ∀ record ∈ events, record.turnId ≠ some turnId) :
    (buildSessionRuntime agent replayCapacity events).turns.lookup turnId = none := by
  induction events using List.reverseRecOn with
  | nil => rfl
  | append_singleton earlier row ih =>
    rw [rebuilt_append, if_neg (absent row (by simp))]
    exact ih fun record member => absent record (List.mem_append_left _ member)

end Rebuild

section Agreement

variable {live next : LiveSession}

theorem AgreesWithRebuild.turn (agrees : AgreesWithRebuild live) {turnId : String}
    (known : KnownTurn live turnId) (agent : AgentId) (replayCapacity : Nat) :
    (buildSessionRuntime agent replayCapacity live.transcript).turn turnId =
      live.runtime.turn turnId := by
  rw [SessionRuntime.turn, SessionRuntime.turn]
  rcases known with present | absent
  · obtain ⟨turn, found⟩ := Option.isSome_iff_exists.mp present
    rw [found, agrees agent replayCapacity turnId turn found]
  · rw [rebuilt_absent absent]
    cases found : live.runtime.turns.lookup turnId with
    | none => rfl
    | some turn =>
      have rebuilt := agrees agent replayCapacity turnId turn found
      rw [rebuilt_absent absent] at rebuilt
      cases rebuilt

theorem AgreesWithRebuild.congr (agrees : AgreesWithRebuild live)
    (turns : ∀ turnId turn, next.runtime.turns.lookup turnId = some turn →
      live.runtime.turns.lookup turnId = some turn)
    (transcript : next.transcript = live.transcript) : AgreesWithRebuild next := by
  intro agent replayCapacity turnId turn found
  rw [transcript]
  exact agrees agent replayCapacity turnId turn (turns turnId turn found)

theorem AgreesWithRebuild.recorded (agrees : AgreesWithRebuild live)
    {row : TranscriptRecord Json} (transcript : next.transcript = live.transcript ++ [row])
    (own : ∀ turnId turn, row.turnId = some turnId →
      next.runtime.turns.lookup turnId = some turn →
        KnownTurn live turnId ∧
          turn = applyTurnRuntimeEvent (live.runtime.turn turnId) row.eventType row.payload)
    (others : ∀ turnId, row.turnId ≠ some turnId →
      next.runtime.turns.lookup turnId = live.runtime.turns.lookup turnId) :
    AgreesWithRebuild next := by
  intro agent replayCapacity turnId turn found
  rw [transcript, rebuilt_append]
  by_cases mine : row.turnId = some turnId
  · obtain ⟨known, rfl⟩ := own turnId turn mine found
    rw [if_pos mine, agrees.turn known]
  · rw [others turnId mine] at found
    rw [if_neg mine]
    exact agrees agent replayCapacity turnId turn found

end Agreement

section Publishing

variable (live : LiveSession)

theorem emit_turns (attempt : AppendAttempt) (route : EventRoute) (turnId : Option String)
    (eventType : String) (payload : Json) (streamSource : Option String) :
    (emit live attempt route turnId eventType payload streamSource).runtime.turns =
      live.runtime.turns := by
  cases answer : attempt.failure with
  | some error => rw [emit_refused _ _ _ _ _ _ _ error answer]; rfl
  | none => rw [emit_stored _ _ _ _ _ _ _ answer rfl]; rfl

theorem emit_transcript (attempt : AppendAttempt) (route : EventRoute) (turnId : Option String)
    (eventType : String) (payload : Json) (streamSource : Option String) :
    (attempt.failure.isSome ∧
      (emit live attempt route turnId eventType payload streamSource).transcript =
        live.transcript) ∨
    (attempt.failure = none ∧ ∃ row : TranscriptRecord Json,
      (emit live attempt route turnId eventType payload streamSource).transcript =
        live.transcript ++ [row] ∧
      row.turnId = turnId ∧ row.eventType = eventType ∧ row.payload = payload) := by
  cases answer : attempt.failure with
  | some error =>
    rw [emit_refused _ _ _ _ _ _ _ error answer]
    exact .inl ⟨rfl, rfl⟩
  | none =>
    rw [emit_stored _ _ _ _ _ _ _ answer rfl]
    exact .inr ⟨rfl, _, rfl, rfl, rfl, rfl⟩

theorem publishMapped_stored (first second : AppendAttempt) (route : EventRoute)
    (publicTurnId : Option String) (eventType : String) (payload : Json)
    (streamSource : Option String) (stored : first.failure = none) :
    publishMapped live first second route publicTurnId eventType payload streamSource =
      emit live first route publicTurnId eventType payload streamSource := by
  rcases created : live.runtime.createGatewayEvent route.requestId route.sessionId publicTurnId
    eventType payload streamSource first.timestamp with ⟨session, envelope⟩
  rw [emit_stored _ _ _ _ _ _ _ stored created]
  simp [publishMapped, created, appendThenPublish, appendEvent, stored, bind, Except.bind, pure,
    Except.pure]

theorem publishMapped_dropped (first second : AppendAttempt) (route : EventRoute)
    (publicTurnId : Option String) (eventType : String) (payload : Json)
    (streamSource : Option String) (failed : first.failure.isSome)
    (silent : publicTurnId = none ∨ eventType = "response_error") :
    publishMapped live first second route publicTurnId eventType payload streamSource =
      emit live first route publicTurnId eventType payload streamSource := by
  obtain ⟨error, answer⟩ := Option.isSome_iff_exists.mp failed
  rw [emit_refused _ _ _ _ _ _ _ error answer]
  have unreported : ¬ (publicTurnId.isSome ∧ eventType ≠ "response_error") := by
    rcases silent with rfl | rfl <;> simp
  simp [publishMapped, appendThenPublish, appendEvent, answer, bind, Except.bind, unreported]

end Publishing

section Steps

variable {live : LiveSession}

theorem AgreesWithRebuild.turnless (agrees : AgreesWithRebuild live) (attempt : AppendAttempt)
    (route : EventRoute) (eventType : String) (payload : Json) (streamSource : Option String) :
    AgreesWithRebuild (emit live attempt route none eventType payload streamSource) := by
  have turns := emit_turns live attempt route none eventType payload streamSource
  rcases emit_transcript live attempt route none eventType payload streamSource with
    ⟨-, unchanged⟩ | ⟨-, row, appended, none, -, -⟩
  · exact agrees.congr (fun turnId turn found => turns ▸ found) unchanged
  · refine agrees.recorded appended ?_ ?_
    · intro turnId turn own
      rw [none] at own
      cases own
    · intro turnId _
      rw [turns]

theorem AgreesWithRebuild.projected (agrees : AgreesWithRebuild live)
    (first second : AppendAttempt) (route : EventRoute) {session : SessionRuntime}
    (same : session.turns = live.runtime.turns) (turnId eventType : String) (payload : Json)
    (streamSource : Option String) (known : KnownTurn live turnId)
    (stored : first.failure = none ∨ eventType = "response_error" ∧
      applyTurnRuntimeEvent (live.runtime.turn turnId) eventType payload =
        live.runtime.turn turnId) :
    AgreesWithRebuild (publishMapped
      { live with runtime := projectTurn session turnId eventType payload } first second route
      (some turnId) eventType payload streamSource) := by
  have before : session.turn turnId = live.runtime.turn turnId := by
    simp only [SessionRuntime.turn, same]
  have lookups (other : String) :
      (projectTurn session turnId eventType payload).turns.lookup other =
        if other = turnId then
          some (applyTurnRuntimeEvent (live.runtime.turn turnId) eventType payload)
        else live.runtime.turns.lookup other := by
    rw [projectTurn, SessionRuntime.setTurn, Table.lookup_insert_eq, before, same]
  have turns := emit_turns { live with
    runtime := projectTurn session turnId eventType payload } first route (some turnId) eventType
    payload streamSource
  cases failed : first.failure with
  | none =>
    rw [publishMapped_stored _ _ _ _ _ _ _ _ failed]
    rcases emit_transcript { live with
        runtime := projectTurn session turnId eventType payload } first route (some turnId)
        eventType payload streamSource with ⟨dropped, -⟩ | ⟨-, row, appended, owner, kind, content⟩
    · rw [failed] at dropped
      cases dropped
    · refine agrees.recorded appended ?_ ?_
      · intro other turn own found
        rw [owner] at own
        cases own
        rw [turns, lookups, if_pos rfl] at found
        exact ⟨known, by rw [kind, content, ← Option.some.inj found]⟩
      · intro other different
        rw [owner] at different
        rw [turns, lookups, if_neg fun equal => different (by rw [equal])]
  | some error =>
    -- Only an error that the turn shows already may be lost.
    obtain ⟨kind, shown⟩ := stored.resolve_left (by simp [failed])
    have refused : first.failure.isSome := by simp [failed]
    rw [publishMapped_dropped _ _ _ _ _ _ _ _ refused (.inr kind)]
    refine agrees.congr ?_ ?_
    · intro other turn found
      rw [turns, lookups] at found
      split at found
      · next equal =>
        subst equal
        rw [shown] at found
        cases entered : live.runtime.turns.lookup other with
        | some earlier =>
          rw [SessionRuntime.turn, entered] at found
          exact found
        | none =>
          have status := congrArg TurnRuntime.status shown
          rw [SessionRuntime.turn, entered, kind] at status
          simp [applyTurnRuntimeEvent, TurnRuntime.queued] at status
      · exact found
    · rw [emit_refused _ _ _ _ _ _ _ error failed]

theorem AgreesWithRebuild.core (agrees : AgreesWithRebuild live) (first second : AppendAttempt)
    (route : EventRoute) (event : Event)
    (recorded : Recorded live (.core first second route event)) :
    AgreesWithRebuild (mapCoreEvent live first second route event .pending).1 := by
  unfold mapCoreEvent
  simp only [Recorded, publishedAs] at recorded
  cases mapped : mapCoreEventPayloadResult event with
  | ignoredInternal => exact agrees
  | unmapped variant => exact agrees
  | mapped mapping =>
    simp only [mapped] at recorded ⊢
    cases owner : mapping.coreTurnId with
    | none =>
      dsimp only
      have emitted := agrees.turnless first route mapping.eventType mapping.payload
        mapping.streamSource
      cases failed : first.failure with
      | none => rwa [publishMapped_stored _ _ _ _ _ _ _ _ failed]
      | some error =>
        rwa [publishMapped_dropped _ _ _ _ _ _ _ _ (by simp [failed]) (.inl rfl)]
    | some coreTurnId =>
      rcases create : live.runtime.getOrCreatePublicTurnId coreTurnId with ⟨named, turnId⟩
      rcases assign : named.assignStreamNodeIds (some turnId) mapping.eventType mapping.payload
        with ⟨numbered, payload⟩
      have kept : named.turns = live.runtime.turns := by
        have first := congrArg (SessionRuntime.turns ∘ Prod.fst) create
        rw [Function.comp_apply, Function.comp_apply] at first
        rw [← first, SessionRuntime.getOrCreatePublicTurnId]
        cases live.runtime.coreTurnToPublic.lookup coreTurnId <;> rfl
      have same : numbered.turns = live.runtime.turns := by
        rw [← kept]
        exact (congrArg (SessionRuntime.turns ∘ Prod.fst) assign).symm
      simp only [owner, create, assign] at recorded ⊢
      obtain ⟨known, stored⟩ := recorded _ rfl
      simp only [create, assign] at known stored
      exact agrees.projected first second route same turnId mapping.eventType payload
        mapping.streamSource known stored

theorem AgreesWithRebuild.interrupted (agrees : AgreesWithRebuild live)
    (attempt : AppendAttempt) (worker : Worker)
    (recorded : Recorded live (.interrupted attempt worker)) :
    AgreesWithRebuild (World.interrupt live attempt worker) := by
  unfold World.interrupt
  simp only [Recorded] at recorded
  cases target : World.interruptedTurn live.runtime worker with
  | none => exact agrees.turnless attempt worker.route "turn_interrupted" World.userAbort _
  | some turnId =>
    have condition := recorded turnId target
    dsimp only
    have turns := emit_turns
      { live with runtime := World.failInterrupted live.runtime (some turnId) } attempt
      worker.route (some turnId) "turn_interrupted" World.userAbort (some "synthetic")
    have others (other : String) (different : other ≠ turnId) :
        (World.failInterrupted live.runtime (some turnId)).turns.lookup other =
          live.runtime.turns.lookup other := by
      unfold World.failInterrupted
      dsimp only
      split
      · rfl
      · split
        · rw [failTurn, SessionRuntime.setTurn, Table.lookup_insert_eq, if_neg different]
        · rfl
    rcases emit_transcript
        { live with runtime := World.failInterrupted live.runtime (some turnId) } attempt
        worker.route (some turnId) "turn_interrupted" World.userAbort (some "synthetic") with
      ⟨refused, unchanged⟩ | ⟨stored, row, appended, owner, kind, content⟩
    · refine agrees.congr ?_ unchanged
      intro other turn found
      rw [turns] at found
      by_cases different : other = turnId
      · subst different
        unfold World.failInterrupted at found
        dsimp only at found
        split at found
        · exact found
        · next earlier entered =>
          have fits := condition earlier entered
          split at found
          · next active =>
            rw [if_pos active] at fits
            rw [fits] at refused
            cases refused
          · exact found
      · rwa [others other different] at found
    · refine agrees.recorded appended ?_ ?_
      · intro other turn own found
        rw [owner] at own
        cases own
        rw [turns] at found
        rw [kind, content]
        unfold World.failInterrupted at found
        dsimp only at found
        split at found
        · next absent =>
          rw [absent] at found
          cases found
        · next earlier entered =>
          have fits := condition earlier entered
          have known : KnownTurn live turnId := .inl (by simp [entered])
          have now : live.runtime.turn turnId = earlier := by
            rw [SessionRuntime.turn, entered, Option.getD_some]
          split at found
          · rw [failTurn, SessionRuntime.setTurn, Table.lookup_insert_eq, if_pos rfl] at found
            refine ⟨known, ?_⟩
            rw [← Option.some.inj found]
            simp [applyTurnRuntimeEvent]
          · next ended =>
            rw [if_neg ended] at fits
            have shown := fits.resolve_left (by simp [stored])
            rw [entered] at found
            exact ⟨known, by rw [now, shown, Option.some.inj found]⟩
      · intro other different
        rw [owner] at different
        rw [turns, others other fun equal => different (by rw [equal])]

theorem emit_rebuilt_turn (agent : AgentId) (replayCapacity : Nat) (live : LiveSession)
    (attempt : AppendAttempt) (route : EventRoute) (turnId eventType : String) (payload : Json)
    (streamSource : Option String) :
    (buildSessionRuntime agent replayCapacity
        (emit live attempt route (some turnId) eventType payload streamSource).transcript).turn
        turnId =
      if attempt.failure.isSome then
        (buildSessionRuntime agent replayCapacity live.transcript).turn turnId
      else applyTurnRuntimeEvent
        ((buildSessionRuntime agent replayCapacity live.transcript).turn turnId)
        eventType payload := by
  rcases emit_transcript live attempt route (some turnId) eventType payload streamSource with
    ⟨refused, unchanged⟩ | ⟨stored, row, appended, owner, kind, content⟩
  · rw [unchanged, if_pos refused]
  · rw [appended, SessionRuntime.turn, rebuilt_append, if_pos owner, if_neg (by simp [stored]),
      kind, content, Option.getD_some]

theorem emit_rebuilt_others (agent : AgentId) (replayCapacity : Nat) (live : LiveSession)
    (attempt : AppendAttempt) (route : EventRoute) {turnId other : String}
    (different : other ≠ turnId) (eventType : String) (payload : Json)
    (streamSource : Option String) :
    (buildSessionRuntime agent replayCapacity
        (emit live attempt route (some turnId) eventType payload
          streamSource).transcript).turns.lookup other =
      (buildSessionRuntime agent replayCapacity live.transcript).turns.lookup other := by
  rcases emit_transcript live attempt route (some turnId) eventType payload streamSource with
    ⟨-, unchanged⟩ | ⟨-, row, appended, owner, -, -⟩
  · rw [unchanged]
  · rw [appended, rebuilt_append, if_neg]
    rw [owner]
    exact fun equal => different (Option.some.inj equal).symm

theorem response_compacts {turn : TurnRuntime} (unfailed : turn.error = none) :
    applyTurnRuntimeEvent turn "response_completed"
      (.obj [("content", .str "context compacted"), ("stream_source", .str "synthetic")]) =
        compactedTurn := by
  cases turn
  simp_all [applyTurnRuntimeEvent, Json.get?, Json.asStr?, compactedTurn]

structure Compacting (live : LiveSession) (turnId : String) (midway : LiveSession) : Prop where
  turns : midway.runtime.turns = (live.runtime.setTurn turnId compactedTurn).turns
  others : ∀ agent replayCapacity other, other ≠ turnId →
    (buildSessionRuntime agent replayCapacity midway.transcript).turns.lookup other =
      (buildSessionRuntime agent replayCapacity live.transcript).turns.lookup other
  unfailed : ∀ agent replayCapacity,
    ((buildSessionRuntime agent replayCapacity midway.transcript).turn turnId).error = none

theorem Compacting.emit {turnId : String} {midway : LiveSession}
    (compacting : Compacting live turnId midway) (attempt : AppendAttempt) (route : EventRoute)
    (eventType : String) (payload : Json) (streamSource : Option String)
    (harmless : ∀ turn : TurnRuntime, turn.error = none →
      (applyTurnRuntimeEvent turn eventType payload).error = none) :
    Compacting live turnId
      (emit midway attempt route (some turnId) eventType payload streamSource) where
  turns := by rw [emit_turns, compacting.turns]
  others agent replayCapacity other different := by
    rw [emit_rebuilt_others agent replayCapacity midway attempt route different,
      compacting.others agent replayCapacity other different]
  unfailed agent replayCapacity := by
    rw [emit_rebuilt_turn]
    split
    · exact compacting.unfailed agent replayCapacity
    · exact harmless _ (compacting.unfailed agent replayCapacity)

theorem Compacting.conclude {turnId : String} {midway : LiveSession}
    (compacting : Compacting live turnId midway) (agrees : AgreesWithRebuild live)
    (response completed : AppendAttempt) (route : EventRoute)
    (stored : response.failure = none) :
    AgreesWithRebuild (Gateway.emit
      (Gateway.emit midway response route (some turnId) "response_completed"
        (.obj [("content", .str "context compacted"), ("stream_source", .str "synthetic")])
        (some "synthetic"))
      completed route (some turnId) "turn_completed" .empty none) := by
  intro agent replayCapacity other turn found
  rw [emit_turns, emit_turns, compacting.turns, SessionRuntime.setTurn,
    Table.lookup_insert_eq] at found
  split at found
  · next equal =>
    subst equal
    have ended : ∀ attempt : AppendAttempt, (if attempt.failure.isSome then compactedTurn
        else applyTurnRuntimeEvent compactedTurn "turn_completed" .empty) = compactedTurn := by
      intro attempt
      split
      · rfl
      · simp [applyTurnRuntimeEvent, compactedTurn]
    have answered := emit_rebuilt_turn agent replayCapacity midway response route other
      "response_completed"
      (.obj [("content", .str "context compacted"), ("stream_source", .str "synthetic")])
      (some "synthetic")
    rw [if_neg (by simp [stored]),
      response_compacts (compacting.unfailed agent replayCapacity)] at answered
    generalize Gateway.emit midway response route (some other) "response_completed" _ _ =
      responded at answered ⊢
    have whole := emit_rebuilt_turn agent replayCapacity responded completed route other
      "turn_completed" .empty none
    rw [answered, ended, SessionRuntime.turn] at whole
    generalize Gateway.emit responded completed route (some other) "turn_completed" _ _ =
      final at whole ⊢
    cases entered :
        (buildSessionRuntime agent replayCapacity final.transcript).turns.lookup other with
    | none =>
      rw [entered] at whole
      exact absurd (congrArg TurnRuntime.status whole) (by simp [TurnRuntime.queued, compactedTurn])
    | some rebuilt =>
      rw [entered, Option.getD_some] at whole
      rw [whole, found]
  · next different =>
    rw [emit_rebuilt_others agent replayCapacity _ completed route different,
      emit_rebuilt_others agent replayCapacity _ response route different,
      compacting.others agent replayCapacity other different]
    exact agrees agent replayCapacity other turn found

theorem AgreesWithRebuild.compact (agrees : AgreesWithRebuild live) (attempts : CompactAttempts)
    (route : EventRoute) (turnId : String) (compaction : Option Compaction)
    (fresh : ∀ record ∈ live.transcript, record.turnId ≠ some turnId)
    (stored : attempts.response.failure = none) :
    AgreesWithRebuild (handleCompactAction live attempts route turnId compaction) := by
  have entered : Compacting live turnId
      { live with runtime := live.runtime.setTurn turnId compactedTurn } := by
    refine ⟨rfl, fun _ _ _ _ => rfl, ?_⟩
    intro agent replayCapacity
    rw [SessionRuntime.turn, rebuilt_absent fresh]
    rfl
  have started := entered.emit attempts.started route "turn_started" .empty none
    fun turn unfailed => by simpa [applyTurnRuntimeEvent] using unfailed
  unfold handleCompactAction
  cases compaction with
  | none => exact started.conclude agrees attempts.response attempts.completed route stored
  | some compaction =>
    exact (started.emit attempts.mapped route "context_compacted" _ none
      fun turn unfailed => by simpa [applyTurnRuntimeEvent] using unfailed).conclude agrees
        attempts.response attempts.completed route stored

theorem rebuilt_agrees (agent : AgentId) (replayCapacity : Nat) (transcript : Journal Json) :
    AgreesWithRebuild ⟨buildSessionRuntime agent replayCapacity transcript, transcript⟩ := by
  intro other otherCapacity turnId turn found
  rw [← found]
  exact replay_turns_congr (by rw [runtimeForReplay_turns, runtimeForReplay_turns]; rfl)
    transcript turnId

theorem agreement_preserved : Preserves LiveSession.project Recorded AgreesWithRebuild := by
  intro live input next agrees recorded stepped
  cases input with
  | core first second route event =>
    exact Option.some.inj stepped ▸ agrees.core first second route event recorded
  | interrupted attempt worker =>
    exact Option.some.inj stepped ▸ agrees.interrupted attempt worker recorded
  | turnless attempt route eventType payload streamSource =>
    exact Option.some.inj stepped ▸ agrees.turnless attempt route eventType payload streamSource
  | compact attempts route turnId compaction =>
    obtain ⟨fresh, same⟩ := (guard_bind_iff _ _ _).mp stepped
    exact Option.some.inj same ▸ agrees.compact attempts route turnId compaction fresh recorded
  | clear agent =>
    cases stepped
    intro other otherCapacity turnId turn found
    cases found
  | rebuild agent replayCapacity =>
    exact Option.some.inj stepped ▸ rebuilt_agrees agent replayCapacity live.transcript

/-- In every run that stores what its turns show, the live turns are those a rebuild gives. -/
theorem live_agrees_with_rebuild (agent : AgentId) (replayCapacity : Nat)
    {inputs : List LiveInput} {live : LiveSession}
    (recorded : Meets LiveSession.project Recorded
      ⟨buildSessionRuntime agent replayCapacity [], []⟩ inputs)
    (ran : run LiveSession.project ⟨buildSessionRuntime agent replayCapacity [], []⟩ inputs =
      some live) :
    AgreesWithRebuild live :=
  run_invariant agreement_preserved (rebuilt_agrees agent replayCapacity []) recorded ran

def AllStored (live : LiveSession) (input : LiveInput) : Prop :=
  match input with
  | .core first _ _ event =>
      first.failure = none ∧ ∀ published ∈ publishedAs live event, KnownTurn live published.1
  | .interrupted attempt worker =>
      attempt.failure = none ∧ ∀ turnId ∈ World.interruptedTurn live.runtime worker,
        ∀ turn ∈ live.runtime.turns.lookup turnId,
          turn.status = .queued ∨ turn.status = .running
  | .compact attempts _ _ _ => attempts.response.failure = none
  | _ => True

instance (live : LiveSession) (input : LiveInput) : Decidable (AllStored live input) := by
  unfold AllStored
  split <;> infer_instance

theorem AllStored.recorded {live : LiveSession} {input : LiveInput}
    (stored : AllStored live input) : Recorded live input := by
  cases input with
  | core first second route event =>
    exact fun published member => ⟨stored.2 published member, .inl stored.1⟩
  | interrupted attempt worker =>
    intro turnId target turn entered
    rw [if_pos (stored.2 turnId target turn entered)]
    exact stored.1
  | compact attempts route turnId compaction => exact stored
  | _ => trivial

def storedAt : AppendAttempt := ⟨"", none⟩

def sessionRoute : EventRoute := ⟨"sess_1", "req_1"⟩

def recordedRun : List LiveInput :=
  [.turnless storedAt sessionRoute "user_message" .empty none,
    .core storedAt storedAt sessionRoute (.turnStarted 1),
    .core storedAt storedAt sessionRoute (.responseCompleted 1 "done" .synthetic),
    .core storedAt storedAt sessionRoute (.turnCompleted 1),
    .compact ⟨storedAt, storedAt, storedAt, storedAt⟩ sessionRoute "turn_action_1" none,
    .core storedAt storedAt sessionRoute (.turnStarted 2),
    .interrupted storedAt { route := sessionRoute, lastKnownPublicTurnId := some "turn_2" },
    .rebuild 1 8]

theorem live_agrees_after_recordedRun :
    ∃ live, run LiveSession.project ⟨buildSessionRuntime 0 8 [], []⟩ recordedRun = some live ∧
      AgreesWithRebuild live := by
  have ends : (run LiveSession.project ⟨buildSessionRuntime 0 8 [], []⟩ recordedRun).isSome := by
    decide +kernel
  have stored : Meets LiveSession.project AllStored ⟨buildSessionRuntime 0 8 [], []⟩ recordedRun := by
    decide +kernel
  exact ⟨_, (Option.some_get ends).symm,
    live_agrees_with_rebuild 0 8 (stored.mono fun _ _ => AllStored.recorded)
      (Option.some_get ends).symm⟩

def lateAbort : List LiveInput :=
  [.core storedAt storedAt sessionRoute (.turnStarted 1),
    .core storedAt storedAt sessionRoute (.responseCompleted 1 "done" .synthetic),
    .interrupted storedAt { route := sessionRoute, lastKnownPublicTurnId := some "turn_1" }]

theorem live_differs_after_lateAbort :
    ¬ ∀ (agent : AgentId) (replayCapacity : Nat) (inputs : List LiveInput) (live : LiveSession),
      run LiveSession.project ⟨buildSessionRuntime agent replayCapacity [], []⟩ inputs =
        some live → AgreesWithRebuild live := by
  intro agree
  have differs : (run LiveSession.project ⟨buildSessionRuntime 0 8 [], []⟩ lateAbort).any
      (fun live => (live.runtime.turn "turn_1").status = .completed ∧
        ((buildSessionRuntime 0 8 live.transcript).turn "turn_1").status = .failed) = true := by
    decide +kernel
  obtain ⟨live, ran, statuses⟩ := (Option.any_eq_true _ _).mp differs
  obtain ⟨completed, failed⟩ := of_decide_eq_true statuses
  have entered : (live.runtime.turns.lookup "turn_1").isSome := by
    cases found : live.runtime.turns.lookup "turn_1" with
    | none => simp [SessionRuntime.turn, found, TurnRuntime.queued] at completed
    | some turn => rfl
  have same := (agree 0 8 lateAbort live ran).turn (.inl entered) 0 8
  rw [same, completed] at failed
  cases failed

end Steps

end OpenJax.Gateway
