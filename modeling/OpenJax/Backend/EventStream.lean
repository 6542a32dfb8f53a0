import OpenJax.Shared.Json
import OpenJax.Shared.Machine
import OpenJax.Shared.Redelivery
import Mathlib.Logic.Function.Basic

set_option autoImplicit false

namespace OpenJax.Backend

open OpenJax.Shared

structure EventEnvelope where
  requestId : String
  sessionId : String
  turnId : Option String
  eventSeq : Nat
  turnSeq : Nat
  timestamp : String
  eventType : String
  streamSource : String
  payload : List (String × Json)

structure SessionRuntime where
  sessionId : String
  nextEventSeq : Nat
  turnSeqCounter : String → Nat
  eventLog : List EventEnvelope
  replayLimit : Int

def SessionRuntime.new (sessionId : String) (replayLimit : Int) : SessionRuntime :=
  ⟨sessionId, 1, fun _ => 0, [], replayLimit⟩

structure Publication where
  requestId : String
  turnId : Option String
  eventType : String
  payload : List (String × Json)
  streamSource : String
  now : String

/-- A slice from the negated limit on: the last entries, all of them for 0, or fewer. -/
def sliceFromEnd {α : Type} (limit : Int) (log : List α) : List α :=
  if 0 < limit then log.drop (log.length - limit.toNat) else log.drop (-limit).toNat

namespace SessionRuntime

def currentTurnSeq (runtime : SessionRuntime) : Option String → Nat
  | some turnId => if turnId = "" then 0 else runtime.turnSeqCounter turnId + 1
  | none => 0

def envelope (runtime : SessionRuntime) (publication : Publication) : EventEnvelope where
  requestId := publication.requestId
  sessionId := runtime.sessionId
  turnId := publication.turnId
  eventSeq := runtime.nextEventSeq
  turnSeq := runtime.currentTurnSeq publication.turnId
  timestamp := publication.now
  eventType := publication.eventType
  streamSource := publication.streamSource
  payload := publication.payload

def publish (runtime : SessionRuntime) (publication : Publication) : SessionRuntime :=
  let eventLog := runtime.eventLog ++ [runtime.envelope publication]
  { runtime with
    turnSeqCounter :=
      match publication.turnId with
      | some turnId =>
          if turnId = "" then runtime.turnSeqCounter
          else Function.update runtime.turnSeqCounter turnId
            (runtime.currentTurnSeq publication.turnId)
      | none => runtime.turnSeqCounter
    nextEventSeq := runtime.nextEventSeq + 1
    eventLog :=
      if runtime.replayLimit < eventLog.length then sliceFromEnd runtime.replayLimit eventLog
      else eventLog }

def after (runtime : SessionRuntime) (cursor : Int) : List EventEnvelope :=
  runtime.eventLog.filter fun event => cursor < event.eventSeq

def replayFrom (runtime : SessionRuntime) (afterEventSeq : Option Int) :
    Except Int (List EventEnvelope) :=
  match afterEventSeq with
  | none => .ok runtime.eventLog
  | some requested =>
      -- A 0 is no cursor to the source's truth test: the whole log is replayed unchecked.
      if requested = 0 then .ok runtime.eventLog
      else
        let minAllowed := (runtime.eventLog.head?.map fun event => (event.eventSeq : Int) - 1).getD 0
        if requested < minAllowed then .error minAllowed else .ok (runtime.after requested)

def waitNewEvents (runtime : SessionRuntime) (cursor : Int) : Option (List EventEnvelope) :=
  if runtime.eventLog.any fun event => cursor < event.eventSeq then some (runtime.after cursor)
  else none

end SessionRuntime

inductive StreamPhase where
  | requested
  | rejected (minAllowed : Int)
  | replaying (left : List EventEnvelope)
  | waiting
  | handing (left : List EventEnvelope)
  | closed

structure Stream where
  runtime : SessionRuntime
  phase : StreamPhase
  cursor : Int
  received : List EventEnvelope
  -- Every event of the session, whether the log still has it or not.
  published : List EventEnvelope

inductive StreamAction where
  | publish (publication : Publication)
  | request
  | yield
  | wait
  | disconnect

namespace Stream

def start (sessionId : String) (replayLimit : Int) : Stream :=
  ⟨.new sessionId replayLimit, .requested, 0, [], []⟩

def step (afterEventSeq : Option Int) (stream : Stream) : StreamAction → Option Stream
  | .publish publication =>
      some { stream with
        runtime := stream.runtime.publish publication
        published := stream.published ++ [stream.runtime.envelope publication] }
  | .request =>
      match stream.phase with
      | .requested =>
          match stream.runtime.replayFrom afterEventSeq with
          | .error minAllowed => some { stream with phase := .rejected minAllowed }
          | .ok replay =>
              some { stream with phase := .replaying replay, cursor := afterEventSeq.getD 0 }
      | _ => none
  | .yield =>
      match stream.phase with
      | .replaying (event :: left) =>
          some { stream with
            phase := .replaying left
            cursor := max stream.cursor event.eventSeq
            received := stream.received ++ [event] }
      | .handing (event :: left) =>
          if event.eventSeq ≤ stream.cursor then some { stream with phase := .handing left }
          else
            some { stream with
              phase := .handing left
              cursor := event.eventSeq
              received := stream.received ++ [event] }
      | .replaying [] | .handing [] => some { stream with phase := .waiting }
      | _ => none
  | .wait =>
      match stream.phase with
      | .waiting =>
          (stream.runtime.waitNewEvents stream.cursor).map fun events =>
            { stream with phase := .handing events }
      | _ => none
  | .disconnect =>
      match stream.phase with
      | .replaying _ | .waiting | .handing _ => some { stream with phase := .closed }
      | _ => none

def queue (stream : Stream) : List EventEnvelope :=
  match stream.phase with
  | .replaying left | .handing left => left
  | _ => []

def isOpen (stream : Stream) : Bool :=
  match stream.phase with
  | .replaying _ | .waiting | .handing _ => true
  | _ => false

def handed (stream : Stream) : Int :=
  (stream.queue.getLast?.map fun event => (event.eventSeq : Int)).getD stream.cursor

end Stream

/-- Every event behind the cursor is still in the log: its oldest one is not past the next. -/
def SessionRuntime.Holds (runtime : SessionRuntime) (cursor : Int) : Prop :=
  ((runtime.eventLog.head?.map EventEnvelope.eventSeq).getD runtime.nextEventSeq : Int) ≤
    cursor + 1

namespace Stream

/-- Publishing does not outrun the client, and a request that is not checked needs no check. -/
def Paced (afterEventSeq : Option Int) (stream : Stream) : StreamAction → Prop
  | .publish publication =>
      stream.isOpen → (stream.runtime.publish publication).Holds stream.handed
  | .request =>
      afterEventSeq.getD 0 = 0 ∨ stream.runtime.eventLog = [] →
        stream.runtime.Holds (afterEventSeq.getD 0)
  | _ => True

/-- What the client receives are the published events behind its cursor, from the first one on,
and what it has not received is on its way or still in the log. -/
structure Delivers (requested : Int) (stream : Stream) : Prop where
  exactly : stream.received <+:
    stream.published.filter fun event => requested < event.eventSeq
  numbers : stream.received.map (fun event => (event.eventSeq : Int)) =
    (List.range stream.received.length).map fun count : Nat => requested + 1 + count
  kept : stream.isOpen → ∀ event ∈ stream.published, requested < event.eventSeq →
    event ∈ stream.received ∨ event ∈ stream.queue ∨ event ∈ stream.runtime.eventLog

end Stream

section

variable {runtime : SessionRuntime} {published : List EventEnvelope}

structure SessionRuntime.Retains (runtime : SessionRuntime) (published : List EventEnvelope)
    (dropped : Nat) : Prop where
  numbered : NumberedBy EventEnvelope.eventSeq published
  next : runtime.nextEventSeq = published.length + 1
  log : runtime.eventLog = published.drop dropped
  within : dropped ≤ published.length

namespace SessionRuntime

theorem retains_new (sessionId : String) (replayLimit : Int) :
    (new sessionId replayLimit).Retains [] 0 where
  numbered index entry there := by simp at there
  next := rfl
  log := rfl
  within := Nat.le_refl 0

variable {dropped : Nat}

theorem Retains.oldest (retains : runtime.Retains published dropped) :
    (runtime.eventLog.head?.map EventEnvelope.eventSeq).getD runtime.nextEventSeq =
      dropped + 1 := by
  rw [retains.log, List.head?_drop]
  cases found : published[dropped]? with
  | some first => exact retains.numbered dropped first found
  | none =>
    have all := List.getElem?_eq_none_iff.mp found
    have within := retains.within
    rw [Option.map_none, Option.getD_none, retains.next]
    omega

theorem Retains.holds (retains : runtime.Retains published dropped) (cursor : Int) :
    runtime.Holds cursor ↔ (dropped : Int) ≤ cursor := by
  rw [Holds, retains.oldest]
  omega

theorem Retains.after_eq (retains : runtime.Retains published dropped) (cursor : Nat) :
    runtime.after cursor = published.drop (max dropped cursor) := by
  rw [after, retains.log, ← retains.numbered.filter_drop dropped cursor]
  simp only [Int.ofNat_lt]

theorem sliceFromEnd_drop {α : Type} (limit : Int) (log : List α) :
    ∃ count, sliceFromEnd limit log = log.drop count := by
  unfold sliceFromEnd
  split <;> exact ⟨_, rfl⟩

theorem Retains.publish (retains : runtime.Retains published dropped)
    (publication : Publication) :
    ∃ later, (runtime.publish publication).Retains
      (published ++ [runtime.envelope publication]) later := by
  have grown : runtime.eventLog ++ [runtime.envelope publication] =
      (published ++ [runtime.envelope publication]).drop dropped := by
    rw [retains.log, List.drop_append_of_le_length retains.within]
  obtain ⟨count, shorter⟩ : ∃ count, (runtime.publish publication).eventLog =
      (published ++ [runtime.envelope publication]).drop count := by
    rw [SessionRuntime.publish]
    dsimp only
    rw [grown]
    split
    · obtain ⟨count, same⟩ := sliceFromEnd_drop runtime.replayLimit
        ((published ++ [runtime.envelope publication]).drop dropped)
      exact ⟨_, same.trans List.drop_drop⟩
    · exact ⟨dropped, rfl⟩
  have size : (published ++ [runtime.envelope publication]).length = published.length + 1 :=
    List.length_append
  have numbered := retains.numbered.append
    (show (runtime.envelope publication).eventSeq = _ from retains.next)
  have next : (runtime.publish publication).nextEventSeq =
      (published ++ [runtime.envelope publication]).length + 1 := by
    rw [size, ← retains.next]
    rfl
  rcases Nat.le_total count (published.length + 1) with within | outside
  · exact ⟨count, numbered, next, shorter, size ▸ within⟩
  · refine ⟨published.length + 1, numbered, next, ?_, Nat.le_of_eq size.symm⟩
    rw [shorter, List.drop_of_length_le (size ▸ outside),
      List.drop_of_length_le (Nat.le_of_eq size)]

end SessionRuntime

namespace Stream

variable {stream next : Stream} {requested dropped : Nat}

structure Tracks (requested dropped : Nat) (stream : Stream) : Prop where
  cursor : stream.cursor = (requested + stream.received.length : Nat)
  delivered : stream.received ++ stream.queue <+: stream.published.drop requested
  kept : dropped ≤ requested + (stream.received ++ stream.queue).length

variable {event : EventEnvelope}

theorem eventSeq_eq (numbered : NumberedBy EventEnvelope.eventSeq published)
    {front back : List EventEnvelope}
    (delivered : front ++ event :: back <+: published.drop requested) :
    event.eventSeq = requested + front.length + 1 := by
  obtain ⟨rest, whole⟩ := delivered
  have there : (published.drop requested)[front.length]? = some event := by
    rw [← whole, List.append_assoc, List.getElem?_append_right (Nat.le_refl _), Nat.sub_self]
    rfl
  rw [List.getElem?_drop] at there
  exact numbered _ _ there

theorem Tracks.handed_eq (tracks : Tracks requested dropped stream)
    (numbered : NumberedBy EventEnvelope.eventSeq stream.published) :
    stream.handed = (requested + (stream.received ++ stream.queue).length : Nat) := by
  rw [handed]
  rcases List.eq_nil_or_concat stream.queue with none | ⟨front, last, whole⟩
  · rw [none, List.append_nil]
    exact tracks.cursor
  · have delivered := tracks.delivered
    rw [whole, List.concat_eq_append, ← List.append_assoc] at delivered
    have number := eventSeq_eq numbered delivered
    rw [whole, List.concat_eq_append, List.getLast?_concat, Option.map_some, Option.getD_some,
      number]
    simp only [List.length_append, List.length_singleton, Nat.add_assoc]

theorem Tracks.wait (tracks : Tracks requested dropped stream)
    (retains : stream.runtime.Retains stream.published dropped) (idle : stream.queue = []) :
    stream.received ++ stream.runtime.after stream.cursor = stream.published.drop requested := by
  have delivered := tracks.delivered
  have kept := tracks.kept
  rw [idle, List.append_nil] at delivered kept
  obtain ⟨rest, whole⟩ := delivered
  rw [tracks.cursor, retains.after_eq, Nat.max_eq_right kept, ← List.drop_drop, ← whole,
    List.drop_left]

variable {afterEventSeq : Option Int}

theorem replayed_eq {replay : List EventEnvelope}
    (retains : stream.runtime.Retains stream.published dropped)
    (paced : stream.Paced afterEventSeq .request)
    (replayed : stream.runtime.replayFrom afterEventSeq = .ok replay) :
    ∃ requested : Nat, afterEventSeq.getD 0 = requested ∧ dropped ≤ requested ∧
      replay = stream.published.drop requested := by
  have whole (none : afterEventSeq.getD 0 = 0) :
      dropped = 0 ∧ stream.runtime.eventLog = stream.published := by
    have held := (retains.holds _).mp (paced (.inl none))
    have all : dropped = 0 := by omega
    exact ⟨all, by rw [retains.log, all, List.drop_zero]⟩
  unfold SessionRuntime.replayFrom at replayed
  cases afterEventSeq with
  | none =>
    cases replayed
    exact ⟨0, rfl, Nat.le_of_eq (whole rfl).1, (whole rfl).2⟩
  | some asked =>
    dsimp only at replayed
    split at replayed
    next none =>
      cases replayed
      exact ⟨0, none, Nat.le_of_eq (whole none).1, (whole none).2⟩
    next some =>
      split at replayed
      · cases replayed
      next inside =>
        cases replayed
        -- The window check, and for an empty log what is required instead of it.
        have held : stream.runtime.Holds asked ∧ 0 ≤ asked := by
          cases first : stream.runtime.eventLog.head? with
          | none =>
            rw [first] at inside
            exact ⟨paced (.inr (List.head?_eq_none_iff.mp first)), by simpa using inside⟩
          | some event =>
            have oldest := retains.oldest
            rw [first] at inside oldest
            rw [Option.map_some, Option.getD_some] at inside oldest
            rw [SessionRuntime.Holds, first, Option.map_some, Option.getD_some]
            omega
        have within := (retains.holds asked).mp held.1
        obtain ⟨requested, rfl⟩ := Int.eq_ofNat_of_zero_le held.2
        refine ⟨requested, rfl, by omega, ?_⟩
        rw [retains.after_eq, Nat.max_eq_right (by omega)]

def Follows (afterEventSeq : Option Int) (stream : Stream) : Prop :=
  ∃ dropped, stream.runtime.Retains stream.published dropped ∧
    match stream.phase with
    | .requested | .rejected _ => stream.received = []
    | .replaying _ | .waiting | .handing _ =>
        ∃ requested : Nat, afterEventSeq.getD 0 = requested ∧ stream.Tracks requested dropped
    | .closed =>
        ∃ requested : Nat, afterEventSeq.getD 0 = requested ∧
          stream.received <+: stream.published.drop requested

theorem follows_start (sessionId : String) (replayLimit : Int) (afterEventSeq : Option Int) :
    (start sessionId replayLimit).Follows afterEventSeq :=
  ⟨0, SessionRuntime.retains_new sessionId replayLimit, rfl⟩

theorem prefix_published {front : List EventEnvelope}
    (delivered : front <+: stream.published.drop requested) (event : EventEnvelope) :
    front <+: (stream.published ++ [event]).drop requested := by
  rw [List.drop_append]
  exact delivered.trans (List.prefix_append _ _)

theorem Tracks.publish (tracks : Tracks requested dropped stream) {later : Nat}
    {runtime : SessionRuntime}
    (within : later ≤ requested + (stream.received ++ stream.queue).length) :
    Tracks requested later
      { stream with runtime, published := stream.published ++ [event] } where
  cursor := tracks.cursor
  delivered := prefix_published tracks.delivered event
  kept := within

theorem Tracks.next_eq (tracks : Tracks requested dropped stream)
    (retains : stream.runtime.Retains stream.published dropped) {left : List EventEnvelope}
    (queued : stream.queue = event :: left) : (event.eventSeq : Int) = stream.cursor + 1 := by
  have number := eventSeq_eq retains.numbered (queued ▸ tracks.delivered)
  rw [tracks.cursor, number]
  rfl

theorem Tracks.receive (tracks : Tracks requested dropped stream)
    (retains : stream.runtime.Retains stream.published dropped) {left : List EventEnvelope}
    (queued : stream.queue = event :: left) {phase : StreamPhase}
    (shorter : ({ stream with phase } : Stream).queue = left) :
    Tracks requested dropped
      { stream with phase, cursor := event.eventSeq, received := stream.received ++ [event] } where
  cursor := by
    rw [tracks.next_eq retains queued, tracks.cursor, List.length_append]
    rfl
  delivered := by
    have same := tracks.delivered
    rw [queued, List.append_cons] at same
    exact shorter ▸ same
  kept := by
    have same := tracks.kept
    rw [queued, List.append_cons] at same
    exact shorter ▸ same

theorem follows_step (follows : stream.Follows afterEventSeq) {action : StreamAction}
    (paced : stream.Paced afterEventSeq action)
    (stepped : stream.step afterEventSeq action = some next) : next.Follows afterEventSeq := by
  obtain ⟨dropped, retains, follows⟩ := follows
  obtain ⟨runtime, phase, cursor, received, published⟩ := stream
  cases action with
  | publish publication =>
    cases stepped
    obtain ⟨later, kept⟩ := retains.publish publication
    refine ⟨later, kept, ?_⟩
    cases phase with
    | requested | rejected minAllowed => exact follows
    | closed =>
      obtain ⟨requested, cursor, delivered⟩ := follows
      exact ⟨requested, cursor, prefix_published delivered _⟩
    | replaying left | waiting | handing left =>
      obtain ⟨requested, cursor, tracks⟩ := follows
      have held := (kept.holds _).mp (paced rfl)
      rw [tracks.handed_eq retains.numbered] at held
      exact ⟨requested, cursor, tracks.publish (Int.ofNat_le.mp held)⟩
  | request =>
    cases phase with
    | requested =>
      simp only [step] at stepped
      split at stepped
      · cases stepped; exact ⟨dropped, retains, follows⟩
      next replay replayed =>
        cases stepped
        obtain ⟨requested, asked, within, rfl⟩ := replayed_eq retains paced replayed
        obtain rfl : received = [] := follows
        exact ⟨dropped, retains, requested, asked, asked, List.prefix_rfl,
          Nat.le_add_right_of_le within⟩
    | _ => simp [step] at stepped
  | yield =>
    cases phase with
    | replaying left =>
      obtain ⟨requested, asked, tracks⟩ := follows
      cases left with
      | nil =>
        cases stepped
        exact ⟨dropped, retains, requested, asked, tracks.cursor, tracks.delivered, tracks.kept⟩
      | cons event left =>
        have following := tracks.next_eq retains rfl
        simp only [step, Option.some.injEq] at stepped
        rw [Int.max_eq_right (by dsimp only at following; omega)] at stepped
        subst stepped
        exact ⟨dropped, retains, requested, asked, tracks.receive retains rfl rfl⟩
    | handing left =>
      obtain ⟨requested, asked, tracks⟩ := follows
      cases left with
      | nil =>
        cases stepped
        exact ⟨dropped, retains, requested, asked, tracks.cursor, tracks.delivered, tracks.kept⟩
      | cons event left =>
        have following := tracks.next_eq retains rfl
        simp only [step] at stepped
        rw [if_neg (by dsimp only at following; omega)] at stepped
        cases stepped
        exact ⟨dropped, retains, requested, asked, tracks.receive retains rfl rfl⟩
    | _ => simp [step] at stepped
  | wait =>
    cases phase with
    | waiting =>
      obtain ⟨requested, asked, tracks⟩ := follows
      have whole := tracks.wait retains rfl
      simp only [step, SessionRuntime.waitNewEvents] at stepped
      split at stepped
      · cases stepped
        refine ⟨dropped, retains, requested, asked, tracks.cursor, ?_, ?_⟩
        · exact ⟨[], (List.append_nil _).trans whole⟩
        · have kept := tracks.kept
          simp only [queue, List.append_nil, List.length_append] at kept ⊢
          omega
      · cases stepped
    | _ => simp [step] at stepped
  | disconnect =>
    cases phase with
    | replaying left | waiting | handing left =>
      cases stepped
      obtain ⟨requested, asked, tracks⟩ := follows
      exact ⟨dropped, retains, requested, asked, (List.prefix_append _ _).trans tracks.delivered⟩
    | _ => simp [step] at stepped

theorem numbers_eq (numbered : NumberedBy EventEnvelope.eventSeq published)
    {received : List EventEnvelope} (delivered : received <+: published.drop requested) :
    received.map (fun event => (event.eventSeq : Int)) =
      (List.range received.length).map fun count : Nat => (requested : Int) + 1 + count := by
  refine List.ext_getElem (by simp) fun index within _ => ?_
  rw [List.length_map] at within
  have split : received.take index ++ received[index] :: received.drop (index + 1) <+:
      published.drop requested := by
    rwa [← List.drop_eq_getElem_cons within, List.take_append_drop]
  have number := eventSeq_eq numbered split
  rw [List.length_take, Nat.min_eq_left (Nat.le_of_lt within)] at number
  simp only [List.getElem_map, List.getElem_range, number]
  omega

theorem Tracks.lossless (tracks : Tracks requested dropped stream)
    (retains : stream.runtime.Retains stream.published dropped)
    (member : event ∈ stream.published.drop requested) :
    event ∈ stream.received ∨ event ∈ stream.queue ∨ event ∈ stream.runtime.eventLog := by
  obtain ⟨rest, whole⟩ := tracks.delivered
  have behind : rest = stream.published.drop
      (requested + (stream.received ++ stream.queue).length) := by
    rw [← List.drop_drop, ← whole, List.drop_left]
  rw [← whole, List.mem_append, List.mem_append, or_assoc] at member
  refine member.imp_right (Or.imp_right fun later => ?_)
  rw [behind] at later
  rw [retains.log]
  exact (List.drop_suffix_drop_left _ tracks.kept).mem later

theorem Follows.delivers (follows : stream.Follows afterEventSeq) :
    (∃ minAllowed, stream.phase = .rejected minAllowed) ∨
      stream.Delivers (afterEventSeq.getD 0) := by
  obtain ⟨dropped, retains, follows⟩ := follows
  have behind (requested : Nat) :
      stream.published.filter (fun event => (requested : Int) < event.eventSeq) =
        stream.published.drop requested := by
    have whole := retains.numbered.filter_drop 0 requested
    rw [List.drop_zero, Nat.zero_max] at whole
    simpa only [Int.ofNat_lt] using whole
  obtain ⟨runtime, phase, cursor, received, published⟩ := stream
  cases phase with
  | rejected minAllowed => exact .inl ⟨minAllowed, rfl⟩
  | requested =>
    obtain rfl : received = [] := follows
    exact .inr ⟨List.nil_prefix, rfl, fun never => by cases never⟩
  | closed =>
    obtain ⟨requested, asked, delivered⟩ := follows
    refine .inr ⟨?_, ?_, fun never => by cases never⟩
    · rw [asked]
      exact behind requested ▸ delivered
    · rw [asked]
      exact numbers_eq retains.numbered delivered
  | replaying left | waiting | handing left =>
    obtain ⟨requested, asked, tracks⟩ := follows
    have delivered := (List.prefix_append received _).trans tracks.delivered
    refine .inr ⟨?_, ?_, fun _ event member later => ?_⟩
    · rw [asked]
      exact behind requested ▸ delivered
    · rw [asked]
      exact numbers_eq retains.numbered delivered
    · refine tracks.lossless retains (behind requested ▸ List.mem_filter.mpr ⟨member, ?_⟩)
      rw [asked] at later
      exact decide_eq_true later

/-- In a run that is paced the client is refused, or it misses nothing and gets nothing twice. -/
theorem paced_run_delivers (sessionId : String) (replayLimit : Int) (afterEventSeq : Option Int)
    {actions : List StreamAction}
    (paced : Meets (step afterEventSeq) (Paced afterEventSeq) (start sessionId replayLimit) actions)
    (ran : run (step afterEventSeq) (start sessionId replayLimit) actions = some stream) :
    (∃ minAllowed, stream.phase = .rejected minAllowed) ∨
      stream.Delivers (afterEventSeq.getD 0) :=
  (run_invariant (fun _ _ _ follows paced stepped => follows_step follows paced stepped)
    (follows_start sessionId replayLimit afterEventSeq) paced ran).delivers

end Stream

end

namespace Stream

def examplePublication : Publication := ⟨"req", none, "turn_started", [], "synthetic", "now"⟩

def pacedActions : List StreamAction :=
  [.publish examplePublication, .request, .publish examplePublication, .yield, .yield, .wait,
    .publish examplePublication, .yield, .yield, .wait, .yield]

instance decidableHolds (runtime : SessionRuntime) (cursor : Int) :
    Decidable (runtime.Holds cursor) :=
  inferInstanceAs (Decidable (_ ≤ _))

instance decidablePaced (afterEventSeq : Option Int) (stream : Stream) :
    (action : StreamAction) → Decidable (stream.Paced afterEventSeq action)
  | .publish publication =>
      inferInstanceAs (Decidable
        (stream.isOpen → (stream.runtime.publish publication).Holds stream.handed))
  | .request =>
      have : Decidable (stream.runtime.eventLog = []) :=
        decidable_of_iff _ List.isEmpty_iff
      inferInstanceAs (Decidable (afterEventSeq.getD 0 = 0 ∨ stream.runtime.eventLog = [] →
        stream.runtime.Holds (afterEventSeq.getD 0)))
  | .yield | .wait | .disconnect => inferInstanceAs (Decidable True)

theorem paced_run_delivers_replayed :
    (∃ minAllowed, ((run (step (some 0)) (start "s" 2) pacedActions).get (by decide)).phase =
        .rejected minAllowed) ∨
      ((run (step (some 0)) (start "s" 2) pacedActions).get (by decide)).Delivers 0 :=
  paced_run_delivers "s" 2 (some 0) (by decide) (Option.some_get _).symm

def trimmedActions : List StreamAction :=
  [.publish examplePublication, .publish examplePublication, .request, .yield]

theorem first_event_missed :
    ¬∀ (replayLimit requested : Int) (actions : List StreamAction) (stream : Stream),
      run (step (some requested)) (start "s" replayLimit) actions = some stream →
        (∃ minAllowed, stream.phase = .rejected minAllowed) ∨ stream.Delivers requested := by
  intro all
  rcases all 1 0 trimmedActions
    ((run (step (some 0)) (start "s" 1) trimmedActions).get (by decide))
    (Option.some_get _).symm with ⟨minAllowed, refused⟩ | delivers
  · cases refused
  · exact absurd delivers.numbers (by decide)

end Stream

end OpenJax.Backend
