import OpenJax.Gateway.Rebuild

set_option autoImplicit false

namespace OpenJax.Gateway

open Shared Streaming Transcript

def SessionRuntime.replayFrom (session : SessionRuntime) (afterEventSeq : Option Nat) :
    Except ApiError (List StreamEventEnvelope) :=
  match session.eventLog.replayFrom afterEventSeq with
  | .error window =>
      .error (.invalidArgument "replay point is outside retention window"
        (.obj [("after_event_seq", .int window.requestedAfterSeq),
          ("min_allowed", .int window.minAllowed)]))
  | .ok replay => .ok (replay.map Prod.snd)

def retained (session : SessionRuntime) : List StreamEventEnvelope :=
  session.eventLog.entries.map Prod.snd

/-- The request is refused as too old, or answered with exactly the retained events after it. -/
def ReplaysAfter (session : SessionRuntime) (requested : Nat) : Prop :=
  (∃ error, session.replayFrom (some requested) = .error error) ∨
    session.replayFrom (some requested) =
      .ok ((retained session).filter fun event => requested < event.eventSeq)

inductive WindowInput where
  | publish (failure : Option ApiError) (event : StreamEventEnvelope)
  | clear (agent : AgentId)
  | rebuild (agent : AgentId) (replayCapacity : Nat)

def LiveSession.advance (live : LiveSession) : WindowInput → LiveSession
  | .publish failure event => publishEventForSession live failure event
  | .clear agent => { live with runtime := live.runtime.clearContextWithConfig agent }
  | .rebuild agent replayCapacity =>
      { live with runtime := buildSessionRuntime agent replayCapacity live.transcript }

def windowAfter (agent : AgentId) (replayCapacity : Nat) (inputs : List WindowInput) :
    LiveSession :=
  inputs.foldl LiveSession.advance ⟨buildSessionRuntime agent replayCapacity [], []⟩

/-- The events that the buffer does not count: those published before the last clear. -/
def uncounted (live : LiveSession) : Nat :=
  live.transcript.length + 1 - live.runtime.eventLog.nextSeq

def Misread (live : LiveSession) (requested : Nat) : Prop :=
  0 < uncounted live ∧ requested < live.transcript.lastEventSeq ∧
    ∃ first ∈ live.runtime.eventLog.entries.head?, first.1 ≤ requested

instance (live : LiveSession) (requested : Nat) : Decidable (Misread live requested) := by
  unfold Misread
  infer_instance

section Buffer

variable {α : Type}

structure Counts (buffer : ReplayBuffer α) (given : Nat) : Prop where
  next : buffer.nextSeq = given + 1
  roomy : 0 < buffer.capacity
  numbers : buffer.entries.map Prod.fst <:+ List.range' 1 given
  inhabited : 0 < given → buffer.entries ≠ []

theorem counts_new (capacity : Nat) : Counts (.withCapacity capacity : ReplayBuffer α) 0 where
  next := rfl
  roomy := Nat.lt_of_lt_of_le Nat.zero_lt_one (Nat.le_max_right _ _)
  numbers := List.suffix_rfl
  inhabited none := absurd none (Nat.lt_irrefl 0)

theorem Counts.push {buffer : ReplayBuffer α} {given : Nat} (counts : Counts buffer given)
    (item : α) : Counts (buffer.push item) (given + 1) where
  next := by simp [ReplayBuffer.push, counts.next]
  roomy := counts.roomy
  numbers := by
    have kept : (if buffer.capacity ≤ buffer.entries.length then buffer.entries.tail
        else buffer.entries) <:+ buffer.entries := by
      split
      · exact List.tail_suffix _
      · exact List.suffix_rfl
    have earlier := (kept.map Prod.fst).trans counts.numbers
    obtain ⟨dropped, whole⟩ := earlier
    refine ⟨dropped, ?_⟩
    simp only [ReplayBuffer.push, List.map_append, List.map_cons, List.map_nil, counts.next]
    rw [← List.append_assoc, whole, List.range'_1_concat, Nat.add_comm 1 given]
  inhabited _ := by simp [ReplayBuffer.push]

theorem mem_push {buffer : ReplayBuffer α} {item : α} {entry : Nat × α}
    (member : entry ∈ (buffer.push item).entries) :
    entry ∈ buffer.entries ∨ entry = (buffer.nextSeq, item) := by
  rcases List.mem_append.mp member with old | new
  · left
    split at old
    · exact List.mem_of_mem_tail old
    · exact old
  · exact .inr (List.mem_singleton.mp new)

theorem head?_numbers {entries : List (Nat × α)} {first : Nat × α}
    (leads : entries.head? = some first) : (entries.map Prod.fst).head? = some first.1 := by
  rw [List.head?_map, leads, Option.map_some]

theorem mem_suffix_range {numbers : List Nat} {given first : Nat}
    (suffix : numbers <:+ List.range' 1 given) (head : numbers.head? = some first) (number : Nat) :
    number ∈ numbers ↔ first ≤ number ∧ number ≤ given := by
  rw [List.suffix_iff_eq_drop, List.drop_range'] at suffix
  generalize (List.range' 1 given).length - numbers.length = dropped at suffix
  subst suffix
  rw [List.head?_range'] at head
  split at head
  · cases head
  · cases head
    rw [List.mem_range'_1]
    omega

end Buffer

/-- The buffer counts the events since the last clear, and each of its events is that many
places further on in the transcript. -/
structure Windowed (live : LiveSession) : Prop where
  counts : Counts live.runtime.eventLog (live.runtime.eventLog.nextSeq - 1)
  published : live.runtime.eventLog.nextSeq ≤ live.transcript.length + 1
  numbered : live.transcript.map TranscriptRecord.eventSeq =
    List.range' 1 live.transcript.length
  shifted : ∀ entry ∈ live.runtime.eventLog.entries,
    entry.2.eventSeq = entry.1 + uncounted live

section Preservation

variable {live : LiveSession}

theorem lastEventSeq_of_numbered {journal : Journal Json}
    (numbered : journal.map TranscriptRecord.eventSeq = List.range' 1 journal.length) :
    journal.lastEventSeq = journal.length := by
  have last := congrArg List.getLast? numbered
  rw [List.getLast?_map, List.getLast?_range'] at last
  rw [Journal.lastEventSeq, last]
  split <;> simp_all

theorem numbered_append {journal : Journal Json}
    (numbered : journal.map TranscriptRecord.eventSeq = List.range' 1 journal.length)
    (record : TranscriptRecord Json) :
    (journal.append record).map TranscriptRecord.eventSeq =
      List.range' 1 (journal.append record).length := by
  have stamped : (journal.stamp record).eventSeq = journal.length + 1 := by
    rw [← lastEventSeq_of_numbered numbered]
    rfl
  have length : (journal.append record).length = journal.length + 1 := by simp [Journal.append]
  rw [length, List.range'_1_concat, Journal.append, List.map_append, numbered, List.map_cons,
    stamped, List.map_nil, Nat.add_comm]

theorem Windowed.publish (windowed : Windowed live) (event : StreamEventEnvelope) :
    Windowed
      { runtime := live.runtime.publishEvent (envelopeOf (live.transcript.stamp (recordOf event)))
        transcript := live.transcript.append (recordOf event) } := by
  obtain ⟨counts, published, numbered, shifted⟩ := windowed
  have length : (live.transcript.append (recordOf event)).length = live.transcript.length + 1 := by
    simp [Journal.append]
  have next : (live.runtime.eventLog.push
      (envelopeOf (live.transcript.stamp (recordOf event)))).nextSeq =
        live.runtime.eventLog.nextSeq + 1 := rfl
  have positive : 0 < live.runtime.eventLog.nextSeq := by
    rw [counts.next]
    exact Nat.succ_pos _
  have same : uncounted
      { runtime := live.runtime.publishEvent (envelopeOf (live.transcript.stamp (recordOf event)))
        transcript := live.transcript.append (recordOf event) } = uncounted live := by
    simp only [uncounted, length, SessionRuntime.publishEvent, next]
    omega
  refine ⟨?_, ?_, numbered_append numbered _, ?_⟩
  · have pushed := counts.push (envelopeOf (live.transcript.stamp (recordOf event)))
    rw [Nat.sub_add_cancel positive] at pushed
    exact pushed
  · rw [length]
    simp only [SessionRuntime.publishEvent, next]
    omega
  · intro entry member
    rw [same]
    rcases mem_push member with old | rfl
    · exact shifted entry old
    · have seq : (envelopeOf (live.transcript.stamp (recordOf event))).eventSeq =
          live.transcript.length + 1 := by
        rw [← lastEventSeq_of_numbered numbered]
        rfl
      rw [seq, uncounted]
      omega

theorem windowed_fresh {replayCapacity : Nat} {session : SessionRuntime}
    {transcript : Journal Json} (log : session.eventLog = .withCapacity replayCapacity)
    (numbered : transcript.map TranscriptRecord.eventSeq = List.range' 1 transcript.length) :
    Windowed ⟨session, transcript⟩ := by
  refine ⟨?_, ?_, numbered, ?_⟩
  · rw [log]
    exact counts_new replayCapacity
  · simp [log, ReplayBuffer.withCapacity]
  · intro entry member
    rw [log] at member
    exact absurd member List.not_mem_nil

theorem counts_pushAll {buffer : ReplayBuffer StreamEventEnvelope} {given : Nat}
    (counts : Counts buffer given) (aligned : ∀ entry ∈ buffer.entries, entry.2.eventSeq = entry.1)
    {events : List StreamEventEnvelope}
    (numbered : events.map StreamEventEnvelope.eventSeq =
      List.range' (given + 1) events.length) :
    Counts (events.foldl ReplayBuffer.push buffer) (given + events.length) ∧
      ∀ entry ∈ (events.foldl ReplayBuffer.push buffer).entries, entry.2.eventSeq = entry.1 := by
  induction events generalizing buffer given with
  | nil => exact ⟨counts, aligned⟩
  | cons event rest ih =>
    rw [List.map_cons, List.length_cons, List.range'_succ, List.cons.injEq] at numbered
    have later := ih (counts.push event) (by
      intro entry member
      rcases mem_push member with old | rfl
      · exact aligned entry old
      · rw [numbered.1, counts.next]) numbered.2
    rw [List.length_cons, Nat.add_comm rest.length 1, ← Nat.add_assoc]
    exact later

theorem replay_eventLog (session : SessionRuntime) (events : Journal Json) :
    (events.foldl replayRecord session).eventLog =
      (events.map envelopeOf).foldl ReplayBuffer.push session.eventLog := by
  induction events generalizing session with
  | nil => rfl
  | cons row rest ih =>
    have pushed : (replayRecord session row).eventLog = session.eventLog.push (envelopeOf row) := by
      unfold replayRecord
      cases row.turnId <;> rfl
    rw [List.foldl_cons, ih, pushed, List.map_cons, List.foldl_cons]

theorem windowed_rebuilt (agent : AgentId) (replayCapacity : Nat) {transcript : Journal Json}
    (numbered : transcript.map TranscriptRecord.eventSeq = List.range' 1 transcript.length) :
    Windowed ⟨buildSessionRuntime agent replayCapacity transcript, transcript⟩ := by
  have log : (runtimeForReplay agent replayCapacity transcript).eventLog =
      .withCapacity replayCapacity := by
    unfold runtimeForReplay
    cases transcript.getLast? <;> rfl
  have events : (transcript.map envelopeOf).map StreamEventEnvelope.eventSeq =
      List.range' (0 + 1) (transcript.map envelopeOf).length := by
    rw [List.map_map, List.length_map]
    exact numbered
  have pushed := counts_pushAll (counts_new replayCapacity)
    (fun _ absent => absurd absent List.not_mem_nil) events
  rw [List.length_map, Nat.zero_add, ← log, ← replay_eventLog] at pushed
  have next := pushed.1.next
  have none : uncounted ⟨buildSessionRuntime agent replayCapacity transcript, transcript⟩ = 0 := by
    simp [uncounted, buildSessionRuntime, next]
  refine ⟨?_, ?_, numbered, ?_⟩
  · have given : (buildSessionRuntime agent replayCapacity transcript).eventLog.nextSeq - 1 =
        transcript.length := by
      simp [buildSessionRuntime, next]
    dsimp only
    rw [given]
    exact pushed.1
  · simp [buildSessionRuntime, next]
  · intro entry member
    rw [none]
    exact pushed.2 entry member

theorem Windowed.advance (windowed : Windowed live) (input : WindowInput) :
    Windowed (live.advance input) := by
  cases input with
  | publish failure event =>
    cases failure with
    | some error => exact windowed
    | none => exact windowed.publish event
  | clear agent => exact windowed_fresh rfl windowed.numbered
  | rebuild agent replayCapacity => exact windowed_rebuilt agent replayCapacity windowed.numbered

theorem windowed_after (agent : AgentId) (replayCapacity : Nat) (inputs : List WindowInput) :
    Windowed (windowAfter agent replayCapacity inputs) := by
  have preserved (live : LiveSession) (windowed : Windowed live) :
      Windowed (inputs.foldl LiveSession.advance live) := by
    induction inputs generalizing live with
    | nil => exact windowed
    | cons input rest ih => exact ih _ (windowed.advance input)
  exact preserved _ (windowed_rebuilt agent replayCapacity rfl)

end Preservation

section Replay

variable {live : LiveSession}

theorem Windowed.total (windowed : Windowed live) :
    live.transcript.lastEventSeq = live.runtime.eventLog.nextSeq - 1 + uncounted live := by
  have published := windowed.published
  have next := windowed.counts.next
  rw [lastEventSeq_of_numbered windowed.numbered, uncounted]
  omega

/-- A request is misread exactly where a retained event's own number and the buffer's number for
it lie on the two sides of it. -/
theorem misread_iff (windowed : Windowed live) (requested : Nat) :
    Misread live requested ↔ ∃ entry ∈ live.runtime.eventLog.entries,
      entry.1 ≤ requested ∧ requested < entry.2.eventSeq := by
  have total := windowed.total
  have head {first : Nat × StreamEventEnvelope}
      (leads : live.runtime.eventLog.entries.head? = some first) :=
    mem_suffix_range windowed.counts.numbers (head?_numbers leads)
  constructor
  · rintro ⟨shift, before, first, leads, reached⟩
    have own := (head leads first.1).mp (List.mem_map_of_mem (List.mem_of_mem_head? leads))
    have member := (head leads (min requested (live.runtime.eventLog.nextSeq - 1))).mpr (by omega)
    obtain ⟨entry, listed, number⟩ := List.mem_map.mp member
    have seq := windowed.shifted entry listed
    exact ⟨entry, listed, by omega, by omega⟩
  · rintro ⟨entry, listed, low, high⟩
    have seq := windowed.shifted entry listed
    cases leads : live.runtime.eventLog.entries.head? with
    | none =>
      rw [List.head?_eq_none_iff] at leads
      rw [leads] at listed
      exact absurd listed List.not_mem_nil
    | some first =>
      have bounds := (head leads entry.1).mp (List.mem_map_of_mem listed)
      exact ⟨by omega, by omega, first, leads, by omega⟩

theorem replaysAfter_iff (windowed : Windowed live) (requested : Nat) :
    ReplaysAfter live.runtime requested ↔ ¬ Misread live requested := by
  rw [misread_iff windowed]
  unfold ReplaysAfter SessionRuntime.replayFrom ReplayBuffer.replayFrom
  dsimp only
  by_cases old : requested <
      (live.runtime.eventLog.entries.head?.map fun entry => entry.1 - 1).getD 0
  · -- Too old for the buffer: then it is before every retained event.
    rw [if_pos old]
    refine iff_of_true (.inl ⟨_, rfl⟩) ?_
    rintro ⟨entry, listed, low, -⟩
    cases leads : live.runtime.eventLog.entries.head? with
    | none => simp [leads] at old
    | some first =>
      have bounds := (mem_suffix_range windowed.counts.numbers (head?_numbers leads) entry.1).mp
        (List.mem_map_of_mem listed)
      simp only [leads, Option.map_some, Option.getD_some] at old
      omega
  · rw [if_neg old]
    simp only [reduceCtorEq, exists_false, false_or, Except.ok.injEq, Option.all_some, retained]
    rw [List.filter_map]
    constructor
    · intro same
      rintro ⟨entry, listed, low, high⟩
      have kept : entry.2 ∈ (live.runtime.eventLog.entries.filter
          fun entry => decide (requested < entry.1)).map Prod.snd := by
        rw [same]
        exact List.mem_map_of_mem (List.mem_filter.mpr ⟨listed, by simpa using high⟩)
      obtain ⟨other, found, equal⟩ := List.mem_map.mp kept
      obtain ⟨among, beyond⟩ := List.mem_filter.mp found
      have first := windowed.shifted entry listed
      have second := windowed.shifted other among
      rw [equal] at second
      have later : requested < other.1 := by simpa using beyond
      omega
    · intro apart
      congr 1
      apply List.filter_congr
      intro entry listed
      have seq := windowed.shifted entry listed
      have exact : ¬ (entry.1 ≤ requested ∧ requested < entry.2.eventSeq) :=
        fun both => apart ⟨entry, listed, both⟩
      simp only [Function.comp_apply, decide_eq_decide]
      omega

theorem retained_ascending (windowed : Windowed live) :
    ((retained live.runtime).map StreamEventEnvelope.eventSeq).Pairwise (· < ·) := by
  have numbers : (live.runtime.eventLog.entries.map Prod.fst).Pairwise (· < ·) :=
    (List.pairwise_lt_range' 1).sublist windowed.counts.numbers.sublist
  have seqs : (retained live.runtime).map StreamEventEnvelope.eventSeq =
      (live.runtime.eventLog.entries.map Prod.fst).map (· + uncounted live) := by
    simp only [retained, List.map_map]
    exact List.map_congr_left fun entry listed => windowed.shifted entry listed
  rw [seqs, List.pairwise_map]
  exact numbers.imp fun before => Nat.add_lt_add_right before _

end Replay

/-- A replay answers as asked unless the request falls between the buffer's first number and the
last event while the two numberings differ. -/
theorem replay_answers_iff (agent : AgentId) (replayCapacity : Nat) (inputs : List WindowInput)
    (requested : Nat) :
    (ReplaysAfter (windowAfter agent replayCapacity inputs).runtime requested ∧
      ((retained (windowAfter agent replayCapacity inputs).runtime).map
        StreamEventEnvelope.eventSeq).Pairwise (· < ·)) ↔
      ¬ Misread (windowAfter agent replayCapacity inputs) requested := by
  have windowed := windowed_after agent replayCapacity inputs
  rw [replaysAfter_iff windowed]
  exact and_iff_left (retained_ascending windowed)

def plainEvent : StreamEventEnvelope := envelopeOf startedRecord

theorem replay_misses_after_clear :
    ¬ ∀ (agent : AgentId) (replayCapacity : Nat) (inputs : List WindowInput) (requested : Nat),
      ReplaysAfter (windowAfter agent replayCapacity inputs).runtime requested := by
  intro answers
  have answered := answers 0 4
    [.publish none plainEvent, .publish none plainEvent, .clear 1, .publish none plainEvent] 2
  rw [replaysAfter_iff (windowed_after _ _ _)] at answered
  exact answered (by decide)

end OpenJax.Gateway
