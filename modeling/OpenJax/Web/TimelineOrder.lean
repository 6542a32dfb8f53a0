import OpenJax.Web.TimelineSegments

set_option autoImplicit false

namespace OpenJax.Web

open Shared

def ChatMessage.shown (message : ChatMessage) : Part → Option TimelinePayload
  | .text =>
      if message.kind = .toolSteps then none
      else
        match message.role with
        | .user => some (.userText message)
        | .error => some (.errorText message)
        | .assistant =>
            if message.content ≠ "" || message.isDraft then some (.assistantText message) else none
        | .tool | .system => none
  | .block index =>
      if message.kind ≠ .toolSteps && message.role = .assistant then
        ((message.reasoningBlocks.getD [])[index]?).map fun block =>
          .reasoningBlock block message (index + 1)
      else none
  | .step index =>
      if message.kind = .toolSteps then
        ((message.toolSteps.getD [])[index]?).map fun step => .toolStep step message
      else none

def shownAt (messages : List ChatMessage) (spot : Spot) : Option TimelinePayload :=
  (messages[spot.1]?).bind fun message => message.shown spot.2

def EmptyDraft (messages : List ChatMessage) (spot : Spot) : Prop :=
  spot.2 = .text ∧ ∃ message, messages[spot.1]? = some message ∧ message.role = .assistant ∧
    message.content = "" ∧ message.isDraft

def partItems (message : ChatMessage) : List (Part × TimelineItem) :=
  if message.kind = .toolSteps then
    (message.toolSteps.getD []).zipIdx.map fun entry =>
      (.step entry.2, toolStepItem message entry.1)
  else
    match message.role with
    | .assistant =>
        ((message.reasoningBlocks.getD []).zipIdx.map fun entry =>
            (.block entry.2, reasoningBlockItem message entry.2 entry.1)) ++
          if message.content ≠ "" || message.isDraft then [(.text, assistantTextItem message)]
          else []
    | .user => [(.text, userTextItem message)]
    | .error => [(.text, errorTextItem message)]
    | .tool | .system => []

def spotItems (messages : List ChatMessage) : List (Spot × TimelineItem) :=
  messages.zipIdx.flatMap fun entry =>
    (partItems entry.1).map fun item => ((entry.2, item.1), item.2)

section

variable {messages : List ChatMessage} {message : ChatMessage} {part : Part} {item : TimelineItem}
  {spot : Spot}

theorem partItems_items (message : ChatMessage) :
    (partItems message).map Prod.snd = messageItems message := by
  unfold partItems messageItems
  split
  · rw [List.map_map]
    conv => rhs; rw [← List.zipIdx_map_fst 0 (message.toolSteps.getD []), List.map_map]
    rfl
  · cases message.role with
    | assistant =>
      simp only
      rw [List.map_append, List.map_map, List.mapIdx_eq_zipIdx_map]
      congr 1
      split <;> rfl
    | _ => rfl

theorem partItems_nodup (message : ChatMessage) : ((partItems message).map Prod.fst).Nodup := by
  have numbers {α : Type} (items : List α) : (items.zipIdx.map Prod.snd).Nodup := by
    rw [List.zipIdx_map_snd]
    exact List.nodup_range'
  unfold partItems
  split
  · rw [List.map_map]
    have own := (numbers (message.toolSteps.getD [])).map
      (show Function.Injective Part.step from fun _ _ same => Part.step.inj same)
    rwa [List.map_map] at own
  · cases message.role with
    | assistant =>
      have own := (numbers (message.reasoningBlocks.getD [])).map
        (show Function.Injective Part.block from fun _ _ same => Part.block.inj same)
      rw [List.map_map] at own
      simp only
      rw [List.map_append, List.map_map]
      split
      · apply List.Nodup.append own (List.nodup_singleton _)
        intro part block text
        obtain rfl := List.mem_singleton.mp text
        obtain ⟨entry, -, same⟩ := List.mem_map.mp block
        cases same
      · rw [List.map_nil, List.append_nil]
        exact own
    | _ => simp

theorem partItems_sound (member : (part, item) ∈ partItems message) :
    message.shown part = some item.payload ∧
      ∀ number ∈ message.start part, item.eventSeqStart = number := by
  unfold partItems at member
  split at member
  next kind =>
    obtain ⟨⟨step, index⟩, there, same⟩ := List.mem_map.mp member
    cases same
    rw [List.mem_zipIdx_iff_getElem?] at there
    simp only at there
    constructor
    · simp [ChatMessage.shown, kind, there, toolStepItem]
    · intro number started
      simp only [ChatMessage.start, kind, there, if_true, Option.bind_some] at started
      simp [toolStepItem, Option.mem_def.mp started]
  next kind =>
    cases role : message.role with
    | assistant =>
      simp only [role] at member
      rcases List.mem_append.mp member with block | text
      · obtain ⟨⟨block, index⟩, there, same⟩ := List.mem_map.mp block
        cases same
        rw [List.mem_zipIdx_iff_getElem?] at there
        simp only at there
        constructor
        · simp [ChatMessage.shown, kind, role, there, reasoningBlockItem]
        · intro number started
          simp only [ChatMessage.start, there, Option.bind_some] at started
          simp [reasoningBlockItem, Option.mem_def.mp started]
      · split at text
        next shows =>
          cases List.mem_singleton.mp text
          constructor
          · simp only [ChatMessage.shown, if_neg kind, role, if_pos shows]
            rfl
          · intro number started
            simp only [ChatMessage.start, if_neg kind, role, if_true] at started
            simp [assistantTextItem, Option.mem_def.mp started]
        · cases text
    | user =>
      simp only [role] at member
      cases List.mem_singleton.mp member
      constructor
      · simp [ChatMessage.shown, kind, role, userTextItem, plainTextItem]
      · intro number started
        simp only [ChatMessage.start, if_neg kind, role, reduceCtorEq, if_false] at started
        simp [userTextItem, plainTextItem, Option.mem_def.mp started]
    | error =>
      simp only [role] at member
      cases List.mem_singleton.mp member
      constructor
      · simp [ChatMessage.shown, kind, role, errorTextItem, plainTextItem]
      · intro number started
        simp only [ChatMessage.start, if_neg kind, role, reduceCtorEq, if_false] at started
        simp [errorTextItem, plainTextItem, Option.mem_def.mp started]
    | tool =>
      simp only [role] at member
      cases member
    | system =>
      simp only [role] at member
      cases member

theorem partItems_complete (shown : (message.shown part).isSome) :
    part ∈ (partItems message).map Prod.fst := by
  unfold partItems
  cases part with
  | text =>
    by_cases kind : message.kind = .toolSteps
    · simp [ChatMessage.shown, kind] at shown
    · rw [if_neg kind]
      cases role : message.role with
      | assistant =>
        simp only [ChatMessage.shown, if_neg kind, role] at shown
        split at shown
        next shows =>
          simp only
          rw [if_pos shows]
          simp
        · cases shown
      | user => simp
      | error => simp
      | tool => simp [ChatMessage.shown, kind, role] at shown
      | system => simp [ChatMessage.shown, kind, role] at shown
  | block index =>
    simp only [ChatMessage.shown] at shown
    split at shown
    next own =>
      simp only [Bool.and_eq_true, decide_eq_true_eq] at own
      rw [Option.isSome_map] at shown
      obtain ⟨block, there⟩ := Option.isSome_iff_exists.mp shown
      rw [if_neg own.1, own.2, List.map_append, List.map_map]
      apply List.mem_append_left
      exact List.mem_map.mpr ⟨(block, index), List.mem_zipIdx_iff_getElem?.mpr there, rfl⟩
    · cases shown
  | step index =>
    simp only [ChatMessage.shown] at shown
    split at shown
    next own =>
      rw [Option.isSome_map] at shown
      obtain ⟨step, there⟩ := Option.isSome_iff_exists.mp shown
      rw [if_pos own, List.map_map]
      exact List.mem_map.mpr ⟨(step, index), List.mem_zipIdx_iff_getElem?.mpr there, rfl⟩
    · cases shown

theorem spotItems_items (messages : List ChatMessage) :
    (spotItems messages).map Prod.snd = messages.flatMap messageItems := by
  have items (entry : ChatMessage × Nat) :
      ((partItems entry.1).map fun item => ((entry.2, item.1), item.2)).map Prod.snd =
        messageItems entry.1 := by
    rw [List.map_map, ← partItems_items]
    rfl
  rw [spotItems, List.map_flatMap]
  simp only [items]
  conv => rhs; rw [← List.zipIdx_map_fst 0 messages, List.flatMap_map]

theorem spotItems_nodup (messages : List ChatMessage) :
    ((spotItems messages).map Prod.fst).Nodup := by
  have spots (entry : ChatMessage × Nat) :
      ((partItems entry.1).map fun item => ((entry.2, item.1), item.2)).map Prod.fst =
        ((partItems entry.1).map Prod.fst).map (Prod.mk entry.2) := by
    rw [List.map_map, List.map_map]
    rfl
  rw [spotItems, List.map_flatMap]
  simp only [spots]
  rw [List.nodup_flatMap]
  constructor
  · intro entry _
    exact (partItems_nodup entry.1).map (fun _ _ same => (Prod.mk.inj same).2)
  · have places : (messages.zipIdx.map Prod.snd).Nodup := by
      rw [List.zipIdx_map_snd]
      exact List.nodup_range'
    refine (List.pairwise_map.mp places).imp ?_
    intro first second apart spot one other
    obtain ⟨_, -, rfl⟩ := List.mem_map.mp one
    obtain ⟨_, -, same⟩ := List.mem_map.mp other
    exact apart (Prod.mk.inj same).1.symm

theorem spotItems_sound (member : (spot, item) ∈ spotItems messages) :
    shownAt messages spot = some item.payload ∧
      ∀ number ∈ startAt messages spot, item.eventSeqStart = number := by
  obtain ⟨⟨message, place⟩, there, inside⟩ := List.mem_flatMap.mp member
  obtain ⟨⟨part, own⟩, among, same⟩ := List.mem_map.mp inside
  cases same
  rw [List.mem_zipIdx_iff_getElem?] at there
  simp only at there
  rw [shownAt, startAt, there]
  exact partItems_sound among

theorem spotItems_complete (shown : (shownAt messages spot).isSome) :
    spot ∈ (spotItems messages).map Prod.fst := by
  obtain ⟨place, part⟩ := spot
  cases there : messages[place]? with
  | none => simp [shownAt, there] at shown
  | some message =>
    rw [shownAt, there] at shown
    obtain ⟨⟨_, item⟩, member, rfl⟩ := List.mem_map.mp (partItems_complete shown)
    apply List.mem_map.mpr
    refine ⟨((place, _), item), List.mem_flatMap.mpr ?_, rfl⟩
    exact ⟨(message, place), List.mem_zipIdx_iff_getElem?.mpr there,
      List.mem_map.mpr ⟨_, member, rfl⟩⟩

def sortedItems (host : Host) (messages : List ChatMessage) : List (Spot × TimelineItem) :=
  ((spotItems messages).mapIdx fun index entry => (entry.1, placed index entry.2)).mergeSort
    fun left right => notAfter host left.2 right.2

theorem sortedItems_items (host : Host) (messages : List ChatMessage) :
    (sortedItems host messages).map Prod.snd = buildTimeline host messages := by
  rw [sortedItems, List.map_mergeSort (s := notAfter host) (f := Prod.snd) fun _ _ _ _ => rfl,
    buildTimeline, ← spotItems_items]
  congr 1
  simp only [List.mapIdx_eq_zipIdx_map, List.zipIdx_map, List.map_map]
  rfl

theorem sortedItems_spots (host : Host) (messages : List ChatMessage) :
    ((sortedItems host messages).map Prod.fst).Perm ((spotItems messages).map Prod.fst) := by
  have unplaced : ((spotItems messages).mapIdx fun index entry =>
      (entry.1, placed index entry.2)).map Prod.fst = (spotItems messages).map Prod.fst := by
    rw [List.mapIdx_eq_zipIdx_map, List.map_map]
    conv => rhs; rw [← List.zipIdx_map_fst 0 (spotItems messages), List.map_map]
    rfl
  rw [← unplaced]
  exact (List.mergeSort_perm _ _).map Prod.fst

theorem sortedItems_sound {host : Host} (member : (spot, item) ∈ sortedItems host messages) :
    shownAt messages spot = some item.payload ∧
      ∀ number ∈ startAt messages spot, item.eventSeqStart = number := by
  rw [sortedItems, List.mem_mergeSort, List.mem_mapIdx] at member
  obtain ⟨index, inside, same⟩ := member
  cases same
  have there : ((spotItems messages)[index].1, (spotItems messages)[index].2) ∈
      spotItems messages := List.getElem_mem inside
  have sound := spotItems_sound there
  exact sound

theorem sortedItems_sorted (host : Host) (messages : List ChatMessage) :
    (sortedItems host messages).Pairwise fun left right =>
      left.2.eventSeqStart ≤ right.2.eventSeqStart := by
  have sorted : (sortedItems host messages).Pairwise fun left right =>
      notAfter host left.2 right.2 :=
    List.pairwise_mergeSort (fun first second third => notAfter_trans first.2 second.2 third.2)
      (fun first second => notAfter_total first.2 second.2) _
  exact sorted.imp notAfter_start

variable {host : Host} {log : List StreamEvent} {turnId segment : String} {event : StreamEvent}

theorem firstWrite_mem (first : firstWrite host messages spot log = some event) : event ∈ log := by
  induction log generalizing messages with
  | nil => cases first
  | cons other rest ih =>
    rw [firstWrite] at first
    split at first
    · cases first
      exact List.mem_cons_self
    · exact List.mem_cons_of_mem _ (ih first)

theorem event_of_number {first second : Option StreamEvent} (numbered : Numbered log)
    (one : ∀ event ∈ first, event ∈ log) (other : ∀ event ∈ second, event ∈ log)
    (same : first.map StreamEvent.eventSeq = second.map StreamEvent.eventSeq) :
    first = second := by
  have distinct : (log.map StreamEvent.eventSeq).Nodup :=
    (List.pairwise_cons.mp numbered).2.imp Nat.ne_of_lt
  cases first with
  | none =>
    rw [Option.map_none, eq_comm, Option.map_eq_none_iff] at same
    exact same.symm
  | some first =>
    obtain ⟨second, rfl, numbers⟩ := Option.map_eq_some_iff.mp same.symm
    congr 1
    exact List.inj_on_of_nodup_map distinct (one first rfl) (other second rfl) numbers.symm

theorem startAt_messagesOf (host : Host) (named : ∀ event ∈ log, DeltasNamed event) (spot : Spot) :
    startAt (messagesOf host log) spot =
        (firstWrite host [] spot log).map StreamEvent.eventSeq ∧
      AllShaped (messagesOf host log) := by
  have none_shaped : AllShaped [] := fun _ member => absurd member List.not_mem_nil
  have run := starts_with_firstWrite host none_shaped
    (fun event member => (named event member).current) spot
  refine ⟨run.1.trans ?_, run.2⟩
  simp [startAt]

theorem text_opener {place : Nat} (numbered : Numbered log)
    (named : ∀ event ∈ log, DeltasNamed event)
    (there : (messagesOf host log)[place]? = some message) (own : isOfTurn turnId message)
    (placed : message.responseSegmentId = some segment) :
    firstWrite host [] (place, .text) log = log.find? (opensText host turnId segment) := by
  apply event_of_number numbered
  · exact fun event => firstWrite_mem
  · exact fun event => List.mem_of_find?_eq_some
  · obtain ⟨number, opened, start⟩ :=
      textStart_known (textStarts_messagesOf named) there own placed
    rw [← (startAt_messagesOf host named _).1, opened, startAt, there, Option.bind_some,
      start_of_turn own]
    exact start

theorem block_opener {place index : Nat} {block : ReasoningBlock} (numbered : Numbered log)
    (named : ∀ event ∈ log, DeltasNamed event)
    (there : (messagesOf host log)[place]? = some message) (own : isOfTurn turnId message)
    (inside : (message.reasoningBlocks.getD [])[index]? = some block)
    (placed : block.reasoningSegmentId = some segment) :
    firstWrite host [] (place, .block index) log =
      log.find? (opensBlock host turnId segment) := by
  apply event_of_number numbered
  · exact fun event => firstWrite_mem
  · exact fun event => List.mem_of_find?_eq_some
  · have seen : block.startEventSeq ∈
        (messagesOf host log).flatMap (ChatMessage.blockStarts turnId segment) := by
      apply List.mem_flatMap.mpr
      refine ⟨message, List.mem_of_getElem? there, ?_⟩
      rw [ChatMessage.blockStarts, if_pos own]
      apply List.mem_flatMap.mpr
      refine ⟨block, List.mem_of_getElem? inside, ?_⟩
      simp [ReasoningBlock.startOf, placed]
    rw [blockStarts_messagesOf named] at seen
    rw [← (startAt_messagesOf host named _).1, startAt, there, Option.bind_some, start_of_turn own]
    simp only [inside, Option.bind_some]
    cases opened : log.find? (opensBlock host turnId segment) with
    | none => simp [opened] at seen
    | some first => simpa [opened] using seen

theorem shown_opened (all : AllShaped messages) (shown : (shownAt messages spot).isSome) :
    (startAt messages spot).isSome ∨ EmptyDraft messages spot := by
  obtain ⟨place, part⟩ := spot
  cases there : messages[place]? with
  | none => simp [shownAt, there] at shown
  | some message =>
    have shaped := all.get there
    rw [shownAt, there, Option.bind_some] at shown
    rw [startAt, there, Option.bind_some]
    cases part with
    | text =>
      by_cases kind : message.kind = .toolSteps
      · simp [ChatMessage.shown, kind] at shown
      · by_cases role : message.role = .assistant
        · by_cases empty : message.content = ""
          next =>
            -- Nothing but a draft is shown without a text.
            have draft : message.isDraft := by
              simpa [ChatMessage.shown, kind, role, empty] using shown
            exact .inr ⟨rfl, message, there, role, empty, draft⟩
          · left
            simpa [ChatMessage.start, kind, role] using shaped.content kind role empty
        · left
          simpa [ChatMessage.start, kind, role] using shaped.plain kind role
    | block index =>
      left
      simp only [ChatMessage.shown] at shown
      split at shown
      · rw [Option.isSome_map] at shown
        obtain ⟨block, inside⟩ := Option.isSome_iff_exists.mp shown
        rw [ChatMessage.start, inside]
        exact shaped.blocks block (List.mem_of_getElem? inside)
      · cases shown
    | step index =>
      left
      simp only [ChatMessage.shown] at shown
      split at shown
      next kind =>
        rw [Option.isSome_map] at shown
        obtain ⟨step, inside⟩ := Option.isSome_iff_exists.mp shown
        rw [ChatMessage.start, if_pos kind, inside]
        simp [(shaped.steps kind).1]
      · cases shown

end

/-- The items are those of the messages' parts, each once, in the order in which events open the
parts. -/
structure ShownInOrder (messages : List ChatMessage) (opener : Spot → Option StreamEvent)
    (items : List TimelineItem) (order : List Spot) : Prop where
  once : order.Nodup
  parts : ∀ spot, spot ∈ order ↔ (shownAt messages spot).isSome
  payloads : order.map (shownAt messages) = items.map fun item => some item.payload
  opened : ∀ spot ∈ order, (opener spot).isSome ∨ EmptyDraft messages spot
  inOrder : order.Pairwise fun earlier later =>
    ∀ first ∈ opener earlier, ∀ second ∈ opener later, first.eventSeq ≤ second.eventSeq

/-- The text and the block of a segment are there once, opened by the segment's own events. -/
structure OpenedBySegment (host : Host) (messages : List ChatMessage) (log : List StreamEvent)
    (opener : Spot → Option StreamEvent) : Prop where
  oneText : ∀ turnId segment, (messages.filter fun message =>
      isOfTurn turnId message && message.responseSegmentId = some segment).length =
    if log.any (opensText host turnId segment) then 1 else 0
  texts : ∀ place message turnId segment, messages[place]? = some message →
    isOfTurn turnId message → message.responseSegmentId = some segment →
    opener (place, .text) = log.find? (opensText host turnId segment)
  oneBlock : ∀ turnId segment, (messages.flatMap (ChatMessage.blocksOf turnId segment)).length =
    if log.any (opensBlock host turnId segment) then 1 else 0
  blocks : ∀ place message turnId index block segment, messages[place]? = some message →
    isOfTurn turnId message → (message.reasoningBlocks.getD [])[index]? = some block →
    block.reasoningSegmentId = some segment →
    opener (place, .block index) = log.find? (opensBlock host turnId segment)

section

variable {host : Host} {log : List StreamEvent}

theorem shownInOrder_messagesOf (named : ∀ event ∈ log, DeltasNamed event) :
    ShownInOrder (messagesOf host log) (fun spot => firstWrite host [] spot log)
      (buildTimeline host (messagesOf host log))
      ((sortedItems host (messagesOf host log)).map Prod.fst) := by
  refine ⟨?_, ?_, ?_, ?_, ?_⟩
  · exact (sortedItems_spots host _).nodup_iff.mpr (spotItems_nodup _)
  · intro spot
    rw [(sortedItems_spots host _).mem_iff]
    constructor
    · intro member
      obtain ⟨entry, inside, rfl⟩ := List.mem_map.mp member
      rw [(spotItems_sound inside).1]
      rfl
    · exact spotItems_complete
  · rw [← sortedItems_items, List.map_map, List.map_map]
    apply List.map_congr_left
    intro entry member
    exact (sortedItems_sound member).1
  · intro spot member
    obtain ⟨entry, inside, rfl⟩ := List.mem_map.mp member
    obtain ⟨start, shaped⟩ := startAt_messagesOf host named entry.1
    have shown : (shownAt (messagesOf host log) entry.1).isSome := by
      rw [(sortedItems_sound inside).1]
      rfl
    rw [← Option.isSome_map (f := StreamEvent.eventSeq), ← start]
    exact shown_opened shaped shown
  · rw [List.pairwise_map]
    refine (sortedItems_sorted host _).imp_of_mem ?_
    intro earlier later before after sorted first opener second other
    -- An item starts with the number of the event that opens its part.
    have number {entry : Spot × TimelineItem} {event : StreamEvent}
        (member : entry ∈ sortedItems host (messagesOf host log))
        (opens : firstWrite host [] entry.1 log = some event) :
        entry.2.eventSeqStart = event.eventSeq := by
      apply (sortedItems_sound member).2
      rw [(startAt_messagesOf host named entry.1).1, opens]
      rfl
    rw [← number before opener, ← number after other]
    exact sorted

end

variable (host : Host)

theorem timeline_in_order {session : ChatSession} {log : List StreamEvent}
    (unfilled : Unfilled session) (numbered : Numbered log)
    (named : ∀ event ∈ log, DeltasNamed event) :
    (∃ order, ShownInOrder (applySessionEvents host session log).messages
        (fun spot => firstWrite host [] spot log)
        (buildTimeline host (applySessionEvents host session log).messages) order) ∧
      OpenedBySegment host (applySessionEvents host session log).messages log
        fun spot => firstWrite host [] spot log := by
  rw [replayed_messages unfilled numbered]
  refine ⟨⟨_, shownInOrder_messagesOf named⟩, ?_, ?_, ?_, ?_⟩
  next => exact fun turnId segment => texts_of_segment named
  next => exact fun place message turnId segment there own => text_opener numbered named there own
  next => exact fun turnId segment => blocks_of_segment named
  next =>
    exact fun place message turnId index block segment there own =>
      block_opener numbered named there own

theorem timeline_in_order_of_thought :
    (∃ order, ShownInOrder (applySessionEvents plainHost {} thoughtLog).messages
        (fun spot => firstWrite plainHost [] spot thoughtLog)
        (buildTimeline plainHost (applySessionEvents plainHost {} thoughtLog).messages) order) ∧
      OpenedBySegment plainHost (applySessionEvents plainHost {} thoughtLog).messages thoughtLog
        fun spot => firstWrite plainHost [] spot thoughtLog :=
  timeline_in_order plainHost ⟨rfl, rfl⟩ (by decide) (by decide +kernel)

def startedCall (seq : Nat) : StreamEvent :=
  turnEvent seq .toolCallStarted [("tool_call_id", .str "call_1")]

def emptyThought : List StreamEvent :=
  [turnEvent 1 .reasoningDelta
      [("content_delta", .str ""), ("reasoning_segment_id", .str "reason_1")],
    startedCall 2,
    turnEvent 3 .reasoningDelta
      [("content_delta", .str "I see"), ("reasoning_segment_id", .str "reason_1")]]

def earlyCompletion : List StreamEvent :=
  [turnEvent 1 .responseCompleted [("content", .str "ok"), ("response_segment_id", .str "resp_1")],
    startedCall 2,
    turnEvent 3 .responseTextDelta
      [("content_delta", .str "."), ("response_segment_id", .str "resp_1")]]

def timelineTypes (log : List StreamEvent) : List TimelineItemType :=
  (buildTimeline plainHost (applySessionEvents plainHost {} log).messages).map TimelineItem.type

/-- The first delta of a block or of a text is not always what opens it. -/
theorem first_delta_opens_nothing :
    (Numbered emptyThought ∧ (∀ event ∈ emptyThought, DeltasNamed event) ∧
      (emptyThought.find? (isReasoningOf "turn_1" "reason_1")).map StreamEvent.eventSeq = some 1 ∧
      (emptyThought.find? isToolStepEvent).map StreamEvent.eventSeq = some 2 ∧
      timelineTypes emptyThought = [.toolStep, .reasoningBlock, .assistantText]) ∧
    (Numbered earlyCompletion ∧ (∀ event ∈ earlyCompletion, DeltasNamed event) ∧
      (earlyCompletion.find? (isDeltaOf "turn_1" "resp_1")).map StreamEvent.eventSeq = some 3 ∧
      (earlyCompletion.find? isToolStepEvent).map StreamEvent.eventSeq = some 2 ∧
      timelineTypes earlyCompletion = [.assistantText, .toolStep]) := by
  -- The items are in their order before they are sorted.
  have sorted {log : List StreamEvent} (already :
      (((applySessionEvents plainHost {} log).messages.flatMap messageItems).mapIdx
        placed).Pairwise fun left right => notAfter plainHost left right = true) :
      timelineTypes log =
        (((applySessionEvents plainHost {} log).messages.flatMap messageItems).mapIdx placed).map
          TimelineItem.type := by
    rw [timelineTypes, buildTimeline, List.mergeSort_of_pairwise already]
  refine ⟨⟨by decide, by decide +kernel, by decide +kernel, by decide +kernel, ?_⟩,
    by decide, by decide +kernel, by decide +kernel, by decide +kernel, ?_⟩
  next =>
    rw [sorted (by decide +kernel)]
    decide +kernel
  next =>
    rw [sorted (by decide +kernel)]
    decide +kernel

end OpenJax.Web
