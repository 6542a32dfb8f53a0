import OpenJax.Web.CallSteps
import OpenJax.Web.Delivery

set_option autoImplicit false

namespace OpenJax.Web

open Shared

variable (host : Host)

def KeepsCalls (messages : List ChatMessage) (event : StreamEvent) : Prop :=
  ∀ ids ∈ messages.flatMap ChatMessage.stepIds, isApprovalEvent event →
    toolCallIdFromPayload host event = "" → ids.turnId = event.turnId →
      ids.approvalId = some (approvalIdFromPayload host event) →
        ∀ call, call ≠ "" → ids.toolCallId ≠ some call

section

variable {host} {messages : List ChatMessage} {event : StreamEvent} {log : List StreamEvent}
  {turn : Option String} {call : String} {row : Option CallRow}

theorem callRow_of (turn : Option String) (call : String) {message : ChatMessage} (step : ToolStep)
    (kind : message.kind = .toolSteps)
    (first : (message.toolSteps.getD []).head? = some step) :
    message.callRow turn call =
      if message.turnId = turn ∧ step.toolCallId = some call then
        [⟨step, message.startEventSeq, message.lastEventSeq⟩]
      else [] := by
  by_cases turnSame : message.turnId = turn
  · by_cases callSame : step.toolCallId = some call <;>
      simp [ChatMessage.callRow, kind, turnSame, first, callSame]
  · simp [ChatMessage.callRow, turnSame]

theorem callRow_push (own : isToolStepEvent event) (some_call : call ≠ "")
    (missing : findToolStepMessageIndex host messages event = none)
    (known : messages.flatMap (ChatMessage.callRow turn call) = row.toList) :
    (upsertToolStepMessage host messages event).flatMap (ChatMessage.callRow turn call) =
      (if ofCall host turn call event then
        if isCallEvent event then
          some ⟨createStepFromEvent host event {}, some event.eventSeq, some event.eventSeq⟩
        else none
      else row).toList ∧ (ofCall host turn call event → row = none) := by
  have absent (of_call : ofCall host turn call event = true) :
      messages.flatMap (ChatMessage.callRow turn call) = [] := by
    simp only [ofCall, Bool.and_eq_true, decide_eq_true_eq] at of_call
    obtain ⟨⟨-, turnSame⟩, callSame⟩ := of_call
    simp only [findToolStepMessageIndex, resolveAggregationKey, callSame, ne_eq, some_call,
      not_false_eq_true, if_true, Option.bind_some] at missing
    apply List.flatMap_eq_nil_iff.mpr
    intro message member
    have fails := lastIndex_none.mp missing message member
    rw [ChatMessage.callRow]
    split
    next here =>
      simp only [Bool.and_eq_true, decide_eq_true_eq] at here
      cases first : (message.toolSteps.getD []).head? with
      | none => rfl
      | some step =>
        have other : step.toolCallId ≠ some call := by
          simpa [here.1, here.2, turnSame, first, AggregateKey.matchesStep] using fails
        simp [other]
    · rfl
  constructor
  · rw [upsertToolStepMessage, missing]
    simp only
    rw [List.flatMap_append, List.flatMap_singleton, callRow_of turn call _ rfl rfl,
      createStep_toolCallId own]
    by_cases of_call : ofCall host turn call event = true
    · rw [absent of_call, if_pos of_call]
      simp only [ofCall, Bool.and_eq_true, decide_eq_true_eq] at of_call
      by_cases opens : isCallEvent event = true <;> simp [opens, of_call.1.2, of_call.2]
    · rw [if_neg of_call, known]
      have other : ¬(event.turnId = turn ∧ toolCallIdFromPayload host event = call) := by
        simpa [ofCall, own] using of_call
      by_cases opens : isCallEvent event = true <;> simp [opens, other]
  · intro of_call
    rw [absent of_call] at known
    exact Option.toList_eq_nil_iff.mp known.symm

theorem callRow_merge (own : isToolStepEvent event) (some_call : call ≠ "") {index : Nat}
    (keeps : KeepsCalls host messages event)
    (found : findToolStepMessageIndex host messages event = some index)
    (known : messages.flatMap (ChatMessage.callRow turn call) = row.toList) :
    (upsertToolStepMessage host messages event).flatMap (ChatMessage.callRow turn call) =
      (if ofCall host turn call event then
        row.map fun row => ⟨mergeToolStep host (some row.step) event,
          row.startEventSeq.or (some event.eventSeq), latest row.lastEventSeq event.eventSeq⟩
      else row).toList ∧ (ofCall host turn call event → row.isSome) := by
  obtain ⟨message, key, step, there, keyed, kind, turnSame, first, matched⟩ :=
    findToolStepMessageIndex_some found
  have before := callRow_of turn call step kind first
  have after : { message with
      timestamp := event.timestamp
      startEventSeq := message.startEventSeq.or (some event.eventSeq)
      lastEventSeq := latest message.lastEventSeq event.eventSeq
      toolSteps := some [mergeToolStep host (message.toolSteps.getD []).head? event]
      : ChatMessage }.callRow turn call = _ :=
    callRow_of turn call (mergeToolStep host (some step) event) kind (by rw [first]; rfl)
  rw [mergeToolStep_toolCallId own] at after
  rw [upsertToolStepMessage, found]
  by_cases of_call : ofCall host turn call event = true
  · have ids := of_call
    simp only [ofCall, Bool.and_eq_true, decide_eq_true_eq] at ids
    obtain ⟨⟨-, own_turn⟩, callSame⟩ := ids
    have named := matched_of_named keyed matched (by rwa [callSame])
    rw [callSame] at named
    have seen : message.callRow turn call =
        [⟨step, message.startEventSeq, message.lastEventSeq⟩] := by
      rw [before, if_pos ⟨turnSame.trans own_turn, named⟩]
    cases row with
    | none =>
      have nothing := List.flatMap_eq_nil_iff.mp known message (List.mem_of_getElem? there)
      rw [seen] at nothing
      cases nothing
    | some row =>
      obtain ⟨alone, changed⟩ := flatMap_modify_only _ there (by rw [seen]; simp) known
      rw [seen] at alone
      obtain rfl := List.singleton_inj.mp alone
      refine ⟨?_, fun _ => rfl⟩
      rw [if_pos of_call]
      refine changed.trans (after.trans ?_)
      rw [if_pos ⟨turnSame.trans own_turn, by
        split
        · rw [callSame]
        · exact named⟩]
      rfl
  · refine ⟨?_, fun of_own => absurd of_own of_call⟩
    rw [if_neg of_call, ← known]
    apply flatMap_modify_found there
    refine after.trans (Eq.trans ?_ before.symm)
    have apart : ¬(event.turnId = turn ∧ toolCallIdFromPayload host event = call) := by
      simpa [ofCall, own] using of_call
    have elsewhere (same : message.turnId = turn) (named : step.toolCallId = some call) : False := by
      by_cases unnamed : toolCallIdFromPayload host event = ""
      · obtain ⟨approves, approved⟩ := matched_of_unnamed keyed matched unnamed
        exact keeps ⟨message.turnId, message.role, step.toolCallId, step.approvalId⟩
          (List.mem_flatMap.mpr
            ⟨message, List.mem_of_getElem? there, by simp [stepIds_of step kind first]⟩)
          approves unnamed turnSame approved call some_call named
      · rw [matched_of_named keyed matched unnamed] at named
        exact apart ⟨turnSame.symm.trans same, Option.some.inj named⟩
    have later : ¬(message.turnId = turn ∧ (if isCallEvent event then
        some (toolCallIdFromPayload host event) else step.toolCallId) = some call) := by
      rintro ⟨same, named⟩
      split at named
      · exact apart ⟨turnSame.symm.trans same, Option.some.inj named⟩
      · exact elsewhere same named
    rw [if_neg (by exact later), if_neg fun both => elsewhere both.1 both.2]

theorem callRow_upsert (own : isToolStepEvent event) (some_call : call ≠ "")
    (keeps : KeepsCalls host messages event)
    (known : messages.flatMap (ChatMessage.callRow turn call) = row.toList) :
    (upsertToolStepMessage host messages event).flatMap (ChatMessage.callRow turn call) =
      (nextCall host turn call row event).toList := by
  have ongoing : interrupts turn event = false := by
    cases type : event.type <;> simp [isToolStepEvent, interrupts, type] at *
  unfold nextCall
  rw [ongoing]
  cases found : findToolStepMessageIndex host messages event with
  | none =>
    obtain ⟨changed, fresh⟩ := callRow_push own some_call found known
    rw [changed]
    by_cases of_call : ofCall host turn call event = true
    · simp [of_call, fresh of_call]
    · simp [of_call]
  | some index =>
    obtain ⟨changed, there⟩ := callRow_merge own some_call keeps found known
    rw [changed]
    by_cases of_call : ofCall host turn call event = true
    · obtain ⟨row, rfl⟩ := Option.isSome_iff_exists.mp (there of_call)
      simp [of_call]
    · simp [of_call]

theorem keepsCalls_of_log (known : StepsKnown host log messages)
    (agreeing : (log ++ [event]).Pairwise fun earlier later => ¬LosesCall host earlier later) :
    KeepsCalls host messages event := by
  intro ids among approves unnamed turnSame approved call some_call named
  obtain ⟨earlier, member, names⟩ := (known ids among).2 call _ some_call named approved
  simp only [namesApproval, Bool.and_eq_true, decide_eq_true_eq] at names
  obtain ⟨⟨⟨approval, own_turn⟩, own_call⟩, same⟩ := names
  exact (List.pairwise_append.mp agreeing).2.2 earlier member event (List.mem_singleton_self _)
    ⟨approval, approves, own_turn.trans turnSame, same, own_call ▸ some_call, unnamed⟩

theorem callRow_interruptTurn {turnId : String} (known : StepsKnown host log messages) :
    (interruptTurn messages turnId event).flatMap (ChatMessage.callRow (some turnId) call) =
      (messages.flatMap (ChatMessage.callRow (some turnId) call)).map fun row =>
        { row with lastEventSeq := latest row.lastEventSeq event.eventSeq } := by
  apply flatMap_map_each
  intro message member
  by_cases kind : message.kind = .toolSteps
  · cases first : (message.toolSteps.getD []).head? with
    | none =>
      simp only [ChatMessage.callRow, kind, first]
      split <;> simp [first]
    | some step =>
      have role := (known ⟨message.turnId, message.role, step.toolCallId, step.approvalId⟩
        (List.mem_flatMap.mpr ⟨message, member, by simp [stepIds_of step kind first]⟩)).1
      simp only at role
      by_cases own : message.turnId = some turnId
      · simp only [role, own, decide_true, Bool.and_self, if_true]
        rw [callRow_of _ _ step (by exact kind) (by exact first), callRow_of _ _ step kind first]
        simp only [own, true_and]
        split <;> rfl
      · simp only [own, decide_false, Bool.and_false, Bool.false_eq_true, if_false]
        rw [callRow_of _ _ step kind first, if_neg fun both => own both.1]
        rfl
  · rw [(callRow_view _ call).others message kind]
    apply (callRow_view _ call).others
    split
    · exact kind
    · exact kind

theorem callRow_interruptTurn_other {turnId : String} (apart : turn ≠ some turnId) :
    (interruptTurn messages turnId event).flatMap (ChatMessage.callRow turn call) =
      messages.flatMap (ChatMessage.callRow turn call) := by
  apply flatMap_map_same
  intro message
  split
  next own =>
    simp only [Bool.and_eq_true, decide_eq_true_eq] at own
    have other : message.turnId ≠ turn := fun same => apart (same.symm.trans own.2)
    simp [ChatMessage.callRow, other]
  · rfl

theorem callRow_interrupted (type : event.type = .turnInterrupted)
    (steps : StepsKnown host log messages)
    (known : messages.flatMap (ChatMessage.callRow turn call) = row.toList) :
    (beforeSteps host messages event).flatMap (ChatMessage.callRow turn call) =
      (nextCall host turn call row event).toList := by
  have closed := (callRow_view turn call).closed host messages event
  have steps_closed : StepsKnown host log (closeReasoningOn (if event.type = .userMessage then
      applyUserMessage host messages event else messages) event) := by
    rw [StepsKnown, stepIds_view.closed]
    exact steps
  unfold beforeSteps
  generalize closeReasoningOn (if event.type = .userMessage then
    applyUserMessage host messages event else messages) event = before at closed steps_closed ⊢
  rw [known] at closed
  unfold applyTextEvent nextCall
  rw [type]
  have no_step : ofCall host turn call event = false := by
    simp [ofCall, isToolStepEvent, type]
  cases own : truthy event.turnId with
  | none => simp [no_step, interrupts, own, closed]
  | some turnId =>
    have whole : event.turnId = some turnId := (Option.filter_eq_some_iff.mp own).1
    by_cases same : turn = some turnId
    · subst same
      have noted : interrupts (some turnId) event = true := by
        simp only [interrupts, type, own]
        simp [whole]
      simp only [callRow_interruptTurn steps_closed, closed]
      cases row <;> simp [no_step, noted]
    · have elsewhere : interrupts turn event = false := by
        simp [interrupts, whole, Ne.symm same]
      simp only [callRow_interruptTurn_other same, closed]
      simp [no_step, elsewhere]

theorem callRow_messagesOf (some_call : call ≠ "")
    (agreeing : log.Pairwise fun earlier later => ¬LosesCall host earlier later) :
    (messagesOf host log).flatMap (ChatMessage.callRow turn call) =
      (log.foldl (nextCall host turn call) none).toList := by
  induction log using List.reverseRecOn with
  | nil => rfl
  | append_singleton log event ih =>
    have known := ih (List.pairwise_append.mp agreeing).1
    have steps := stepsKnown_messagesOf host log
    rw [messagesOf_snoc, (callRow_view turn call).applyMessages, List.foldl_append]
    by_cases interrupted : event.type = .turnInterrupted
    · rw [if_neg (by simp [isToolStepEvent, interrupted])]
      exact callRow_interrupted interrupted steps known
    · have before := (callRow_view turn call).before host (messagesOf host log) interrupted
      split
      next own =>
        have steps_before : StepsKnown host log (beforeSteps host (messagesOf host log) event) := by
          rw [StepsKnown, stepIds_view.before host _ interrupted]
          exact steps
        exact callRow_upsert own some_call (keepsCalls_of_log steps_before agreeing)
          (before.trans known)
      next other =>
        rw [before, known]
        simp [nextCall, ofCall, interrupts, other, interrupted]

end

def fromCall (turn : Option String) (call : String) (log : List StreamEvent) : List StreamEvent :=
  log.dropWhile fun event => !opensCall host turn call event

def callEvents (turn : Option String) (call : String) (log : List StreamEvent) : List StreamEvent :=
  (fromCall host turn call log).filter (ofCall host turn call)

def notedEvents (turn : Option String) (call : String) (log : List StreamEvent) :
    List StreamEvent :=
  (fromCall host turn call log).filter fun event => ofCall host turn call event || interrupts turn event

def stepOf : List StreamEvent → Option ToolStep
  | [] => none
  | first :: later =>
      some (later.foldl (fun step event => mergeToolStep host (some step) event)
        (createStepFromEvent host first {}))

def completedStatus (event : StreamEvent) : ToolStepStatus :=
  if (event.payload.field "ok").bind Json.asBool? = some false then .failed else .success

structure CallShown (turn : Option String) (call : String) (log : List StreamEvent)
    (row : CallRow) : Prop where
  opened : row.startEventSeq =
    (log.find? (opensCall host turn call)).map StreamEvent.eventSeq
  noted : row.lastEventSeq =
    ((notedEvents host turn call log).getLast?).map StreamEvent.eventSeq
  alone : some row.step = stepOf host (callEvents host turn call log)
  completed : ∀ last ∈ (callEvents host turn call log).getLast?, last.type = .toolCallCompleted →
    row.step.status = some (completedStatus last)

section

variable {host} {event first : StreamEvent} {log later : List StreamEvent}
  {turn : Option String} {call : String} {row : CallRow}

theorem withDuration_status (step : ToolStep) : (withDuration host step).status = step.status := by
  unfold withDuration
  split <;> rfl

theorem createStep_completed (type : event.type = .toolCallCompleted) (under : ToolStep) :
    (createStepFromEvent host event under).status = some (completedStatus event) := by
  simp [createStepFromEvent, type, completedStatus]

theorem mergeToolStep_completed (type : event.type = .toolCallCompleted) (previous : ToolStep) :
    (mergeToolStep host (some previous) event).status = some (completedStatus event) := by
  have tool : (createStepFromEvent host event {}).type = .tool := by
    simp [createStepFromEvent, type]
  simp only [mergeToolStep, tool]
  rw [if_neg (by simp), withDuration_status]
  exact createStep_completed type previous

theorem stepOf_snoc (first : StreamEvent) (later : List StreamEvent) (event : StreamEvent) :
    stepOf host (first :: later ++ [event]) =
      (stepOf host (first :: later)).map fun step => mergeToolStep host (some step) event := by
  simp [stepOf]

theorem nextCall_unopened (unopened : ∀ event ∈ log, opensCall host turn call event = false) :
    log.foldl (nextCall host turn call) none = none := by
  induction log with
  | nil => rfl
  | cons event rest ih =>
    have closed := unopened event List.mem_cons_self
    have nothing : nextCall host turn call none event = none := by
      rw [opensCall] at closed
      unfold nextCall
      cases of_call : ofCall host turn call event with
      | false => simp
      | true =>
        rw [of_call, Bool.true_and] at closed
        simp [closed]
    rw [List.foldl_cons, nothing]
    exact ih fun other member => unopened other (List.mem_cons_of_mem _ member)

structure Followed (host : Host) (turn : Option String) (call : String) (first : StreamEvent)
    (later : List StreamEvent) (row : CallRow) : Prop where
  start : row.startEventSeq = some first.eventSeq
  last : row.lastEventSeq =
    (((first :: later).filter fun event =>
      ofCall host turn call event || interrupts turn event).getLast?).map StreamEvent.eventSeq
  step : some row.step = stepOf host ((first :: later).filter (ofCall host turn call))

theorem latest_of_growing {number : Option Nat} {seq : Nat} (growing : ∀ last ∈ number, last < seq) :
    latest number seq = some seq := by
  cases number with
  | none => simp [latest]
  | some last =>
    have less := growing last rfl
    simp only [latest, Option.getD_some, Option.some.injEq]
    omega

theorem last_before {last : StreamEvent} {test : StreamEvent → Bool}
    (growing : ((log ++ [event]).map StreamEvent.eventSeq).Pairwise (· < ·))
    (there : last ∈ (log.filter test).getLast?) : last.eventSeq < event.eventSeq := by
  have member := (List.mem_filter.mp (List.mem_of_getLast? there)).1
  rw [List.map_append] at growing
  exact (List.pairwise_append.mp growing).2.2 _ (List.mem_map_of_mem member) _ (by simp)

theorem Followed.next (followed : Followed host turn call first later row)
    (opened : opensCall host turn call first)
    (growing : ((first :: later ++ [event]).map StreamEvent.eventSeq).Pairwise (· < ·)) :
    ∃ after, nextCall host turn call (some row) event = some after ∧
      Followed host turn call first (later ++ [event]) after := by
  have first_own : ofCall host turn call first = true := by
    simp only [opensCall, Bool.and_eq_true] at opened
    exact opened.1
  have number : latest row.lastEventSeq event.eventSeq = some event.eventSeq := by
    apply latest_of_growing
    intro last same
    rw [followed.last] at same
    obtain ⟨earlier, there, rfl⟩ := Option.map_eq_some_iff.mp same
    exact last_before growing there
  unfold nextCall
  by_cases own : ofCall host turn call event = true
  · refine ⟨_, by rw [if_pos own], ?_, ?_, ?_⟩
    · simp [followed.start]
    · rw [number, ← List.cons_append, List.filter_append]
      simp [own]
    · rw [← List.cons_append, List.filter_append, List.filter_cons_of_pos own, List.filter_nil,
        List.filter_cons_of_pos first_own, stepOf_snoc, ← List.filter_cons_of_pos first_own,
        ← followed.step]
      rfl
  · rw [Bool.not_eq_true] at own
    cases noted : interrupts turn event with
    | true =>
      refine ⟨{ row with lastEventSeq := latest row.lastEventSeq event.eventSeq },
        by rw [own]; rfl, followed.start, ?_, ?_⟩
      · rw [number, ← List.cons_append, List.filter_append]
        simp [noted]
      · rw [← List.cons_append, List.filter_append]
        simpa [own] using followed.step
    | false =>
      refine ⟨row, by rw [own]; rfl, followed.start, ?_, ?_⟩
      · rw [← List.cons_append, List.filter_append]
        simpa [own, noted] using followed.last
      · rw [← List.cons_append, List.filter_append]
        simpa [own] using followed.step

theorem followed_later (opened : opensCall host turn call first)
    (growing : ((first :: later).map StreamEvent.eventSeq).Pairwise (· < ·)) :
    ∃ row, (first :: later).foldl (nextCall host turn call) none = some row ∧
      Followed host turn call first later row := by
  have both := opened
  simp only [opensCall, Bool.and_eq_true] at both
  induction later using List.reverseRecOn with
  | nil =>
    refine ⟨⟨createStepFromEvent host first {}, some first.eventSeq, some first.eventSeq⟩,
      by simp [nextCall, both.1, both.2], rfl, ?_, ?_⟩
    · simp [both.1]
    · simp [both.1, stepOf]
  | append_singleton later event ih =>
    rw [← List.cons_append] at growing
    obtain ⟨row, folded, followed⟩ := ih (by
      rw [List.map_append] at growing
      exact (List.pairwise_append.mp growing).1)
    obtain ⟨after, stepped, next⟩ := followed.next opened growing
    exact ⟨after, by rw [← List.cons_append, List.foldl_append, folded]; exact stepped, next⟩

theorem stepOf_completed {events : List StreamEvent} {step : ToolStep} {last : StreamEvent}
    (made : some step = stepOf host events) (there : last ∈ events.getLast?)
    (type : last.type = .toolCallCompleted) : step.status = some (completedStatus last) := by
  obtain ⟨before, rfl⟩ := List.getLast?_eq_some_iff.mp there
  cases before with
  | nil =>
    cases made
    exact createStep_completed type {}
  | cons first later =>
    rw [stepOf_snoc] at made
    obtain ⟨previous, -, rfl⟩ := Option.map_eq_some_iff.mp made.symm
    exact mergeToolStep_completed type previous

theorem callShown_of_log (numbered : Numbered log)
    (occurs : ∃ event ∈ log, opensCall host turn call event) :
    ∃ row, log.foldl (nextCall host turn call) none = some row ∧
      CallShown host turn call log row := by
  cases found : log.find? (opensCall host turn call) with
  | none =>
    obtain ⟨event, member, opens⟩ := occurs
    exact absurd opens (List.find?_eq_none.mp found event member)
  | some first =>
    obtain ⟨opened, skipped, later, rfl, unopened⟩ := List.find?_eq_some_iff_append.mp found
    have growing : ((first :: later).map StreamEvent.eventSeq).Pairwise (· < ·) := by
      rw [Numbered, List.map_append] at numbered
      exact (List.pairwise_append.mp (List.pairwise_cons.mp numbered).2).2.1
    obtain ⟨row, folded, followed⟩ := followed_later opened growing
    have from_first : fromCall host turn call (skipped ++ first :: later) = first :: later := by
      rw [fromCall, List.dropWhile_append_of_pos unopened,
        List.dropWhile_cons_of_neg (by simp [opened])]
    have nothing : skipped.foldl (nextCall host turn call) none = none := by
      apply nextCall_unopened
      intro event member
      simpa using unopened event member
    refine ⟨row, by rw [List.foldl_append, nothing]; exact folded, ?_, ?_, ?_, ?_⟩
    · rw [found, followed.start, Option.map_some]
    · rw [notedEvents, from_first, followed.last]
    · rw [callEvents, from_first, followed.step]
    · rw [callEvents, from_first]
      intro last there type
      exact stepOf_completed followed.step there type

end

theorem call_steps_shown_once {session : ChatSession} {log : List StreamEvent}
    {turn : Option String} {call : String} (unfilled : Unfilled session) (numbered : Numbered log)
    (agreeing : log.Pairwise fun earlier later => ¬LosesCall host earlier later)
    (some_call : call ≠ "") (occurs : ∃ event ∈ log, opensCall host turn call event) :
    ∃ row, (applySessionEvents host session log).messages.flatMap (ChatMessage.callRow turn call) =
        [row] ∧ CallShown host turn call log row := by
  obtain ⟨row, folded, shown⟩ := callShown_of_log numbered occurs
  refine ⟨row, ?_, shown⟩
  rw [replayed_messages unfilled numbered, callRow_messagesOf some_call agreeing, folded,
    Option.toList_some]

def approvedCall : List StreamEvent :=
  [greetingEvent 1 1 .toolCallReady [("tool_call_id", .str "call_1")],
    greetingEvent 2 2 .toolCallStarted [("tool_call_id", .str "call_2")],
    greetingEvent 3 3 .approvalRequested
      [("approval_id", .str "approval_1"), ("tool_call_id", .str "call_1")],
    greetingEvent 4 4 .toolCallCompleted [("tool_call_id", .str "call_1"), ("ok", .bool false)],
    greetingEvent 5 5 .turnInterrupted []]

theorem call_steps_shown_once_of_approved :
    ∃ row, (applySessionEvents plainHost {} approvedCall).messages.flatMap
        (ChatMessage.callRow (some "turn_1") "call_1") = [row] ∧
      CallShown plainHost (some "turn_1") "call_1" approvedCall row :=
  call_steps_shown_once plainHost ⟨rfl, rfl⟩ (by decide) (by decide +kernel) (by decide)
    (by decide +kernel)

theorem interruption_noted :
    Numbered approvedCall ∧
      ((approvedCall.filter (opensCall plainHost (some "turn_1") "call_1")).getLast?).map
        StreamEvent.eventSeq = some 4 ∧
      ((applySessionEvents plainHost {} approvedCall).messages.flatMap
        (ChatMessage.callRow (some "turn_1") "call_1")).map CallRow.lastEventSeq = [some 5] := by
  refine ⟨by decide, by decide +kernel, by decide +kernel⟩

end OpenJax.Web
