import OpenJax.Web.Reducer
import OpenJax.Shared.Redelivery
import OpenJax.Shared.Machine

set_option autoImplicit false

namespace OpenJax.Web

open Shared

variable (host : Host)

def mergeHydratedSessionFromTimeline (current : ChatSession) (timelineEvents : List StreamEvent) :
    ChatSession :=
  let incremental := timelineEvents.filter fun event => current.lastEventSeq < event.eventSeq
  if incremental.isEmpty then current else applySessionEvents host current incremental

theorem mergeHydrated_applies (current : ChatSession) (events : List StreamEvent) :
    mergeHydratedSessionFromTimeline host current events =
      applySessionEvents host current
        (events.filter fun event => current.lastEventSeq < event.eventSeq) := by
  unfold mergeHydratedSessionFromTimeline
  by_cases seen : events.filter (fun event => current.lastEventSeq < event.eventSeq) = []
  · simp [seen, applySessionEvents]
  · simp [List.isEmpty_eq_false_iff.mpr seen]

/-- Whether the event, come a second time, is taken for the first one of a restarted gateway. -/
def restartsSequence (event : StreamEvent) : Bool :=
  event.eventSeq = 1 ||
    event.turnSeq = some 1 && (event.type = .turnStarted || event.type = .responseStarted)

theorem looksLikeSequenceReset_ordinary {event : StreamEvent}
    (ordinary : ¬restartsSequence event = true) (session : ChatSession) :
    looksLikeSequenceReset session event = false := by
  unfold looksLikeSequenceReset
  unfold restartsSequence at ordinary
  rw [Bool.not_eq_true] at ordinary
  rw [ordinary, Bool.and_false]

theorem applySingle_skipsApplied :
    SkipsApplied (applySingleSessionEvent host) ChatSession.lastEventSeq StreamEvent.eventSeq
      fun event => restartsSequence event = true where
  skips session _ seen ordinary :=
    applySingle_skipped host seen (looksLikeSequenceReset_ordinary ordinary session)
  advances _ _ later := applySingle_position host (.inl later)

def turnCount (log : List StreamEvent) (turn : String) : Nat :=
  (log.filter fun event => event.turnId = some turn).length

/-- The events of a session in the numbers of its gateway: `event_seq` from 1 on over the session,
`turn_seq` from 1 on in every turn. -/
structure SessionLog (log : List StreamEvent) : Prop where
  numbered : log.map StreamEvent.eventSeq = List.range' 1 log.length
  turns : ∀ index (inside : index < log.length), ∀ turn ∈ log[index].turnId,
    log[index].turnSeq = some (turnCount (log.take (index + 1)) turn)

instance (log : List StreamEvent) : Decidable (SessionLog log) :=
  have : Decidable (∀ index (inside : index < log.length), ∀ turn ∈ log[index].turnId,
      log[index].turnSeq = some (turnCount (log.take (index + 1)) turn)) := inferInstance
  decidable_of_iff (log.map StreamEvent.eventSeq = List.range' 1 log.length ∧ _)
    ⟨fun both => SessionLog.mk both.1 both.2, fun log => ⟨log.numbered, log.turns⟩⟩

theorem SessionLog.numberedBy {log : List StreamEvent} (wellNumbered : SessionLog log) :
    NumberedBy StreamEvent.eventSeq log := by
  intro index event there
  have inside := (List.getElem?_eq_some_iff.mp there).1
  have number := congrArg (fun numbers => numbers[index]?) wellNumbered.numbered
  simp only [List.getElem?_map, there, Option.map_some, List.getElem?_range' inside] at number
  have same := Option.some.inj number
  omega

inductive Delivery where
  -- A stream that the gateway replays from an earlier point on.
  | replay (start count : Nat)
  -- The timeline as far as it goes at that time.
  | timeline (count : Nat)

namespace Delivery

def start : Delivery → Nat
  | .replay start _ => start
  | .timeline _ => 0

def stop : Delivery → Nat
  | .replay start count => start + count
  | .timeline count => count

def events (log : List StreamEvent) : Delivery → List StreamEvent
  | .replay start count => (log.drop start).take count
  | .timeline count => log.take count

def Gapless (session : ChatSession) (delivery : Delivery) : Prop :=
  delivery.start ≤ session.lastEventSeq

/-- No event that a replay brings again looks like a restart; a timeline brings none again. -/
def Ordinary (log : List StreamEvent) (session : ChatSession) : Delivery → Prop
  | .replay start count =>
      ∀ event ∈ (log.drop start).take count, event.eventSeq ≤ session.lastEventSeq →
        ¬restartsSequence event = true
  | .timeline _ => True

end Delivery

def deliver (log : List StreamEvent) (session : ChatSession) (delivery : Delivery) : ChatSession :=
  match delivery with
  | .replay _ _ => applySessionEvents host session (delivery.events log)
  | .timeline _ => mergeHydratedSessionFromTimeline host session (delivery.events log)

def deliverAll (log : List StreamEvent) (session : ChatSession) (deliveries : List Delivery) :
    ChatSession :=
  deliveries.foldl (deliver host log) session

def Along (condition : ChatSession → Delivery → Prop) (log : List StreamEvent)
    (session : ChatSession) (deliveries : List Delivery) : Prop :=
  Meets (fun session delivery => some (deliver host log session delivery)) condition session
    deliveries

section

variable {host} {log : List StreamEvent} {start : ChatSession}

theorem deliver_prefix (wellNumbered : SessionLog log) (fresh : start.lastEventSeq = 0)
    {reached : Nat} (inside : reached ≤ log.length) (delivery : Delivery)
    (gapless : delivery.Gapless (applySessionEvents host start (log.take reached)))
    (ordinary : delivery.Ordinary log (applySessionEvents host start (log.take reached))) :
    deliver host log (applySessionEvents host start (log.take reached)) delivery =
      applySessionEvents host start (log.take (max reached (min delivery.stop log.length))) := by
  have numbered := wellNumbered.numberedBy
  have receiver := applySingle_skipsApplied host
  have position := receiver.position_take numbered fresh inside
  change (applySessionEvents host start (log.take reached)).lastEventSeq = reached at position
  cases delivery with
  | replay first count =>
    simp only [Delivery.Gapless, Delivery.start, position] at gapless
    simp only [Delivery.Ordinary, position] at ordinary
    have run := receiver.foldl_run numbered fresh (List.take_prefix count (log.drop first)) gapless
      inside ordinary
    rw [deliver, Delivery.events, applySessionEvents, applySessionEvents, run]
    rw [List.length_take, List.length_drop, Delivery.stop]
    congr 3
    omega
  | timeline count =>
    rw [deliver, Delivery.events, mergeHydrated_applies, position,
      numbered.filter_take count reached]
    have run := receiver.foldl_run numbered fresh
      (List.take_prefix (count - reached) (log.drop reached)) (Nat.le_refl _) inside
      (by
        intro event member seen
        have later := numbered.of_mem_drop (List.mem_of_mem_take member)
        omega)
    rw [applySessionEvents, applySessionEvents, run]
    rw [List.length_take, List.length_drop, Delivery.stop]
    congr 2
    omega

def furthest (log : List StreamEvent) (reached : Nat) (deliveries : List Delivery) : Nat :=
  deliveries.foldl (fun reached delivery => max reached (min delivery.stop log.length)) reached

theorem deliverAll_prefix (wellNumbered : SessionLog log) (fresh : start.lastEventSeq = 0)
    {deliveries : List Delivery} {reached : Nat} (inside : reached ≤ log.length)
    (along : Along host (fun session delivery => delivery.Gapless session ∧
      delivery.Ordinary log session) log (applySessionEvents host start (log.take reached))
      deliveries) :
    deliverAll host log (applySessionEvents host start (log.take reached)) deliveries =
      applySessionEvents host start (log.take (furthest log reached deliveries)) := by
  induction deliveries generalizing reached with
  | nil => rfl
  | cons delivery rest ih =>
    obtain ⟨allowed, later⟩ := along
    have delivered := deliver_prefix wellNumbered fresh inside delivery allowed.1 allowed.2
    have next := later _ rfl
    rw [delivered] at next
    have remaining := ih (by omega) next
    rw [deliverAll, List.foldl_cons, delivered]
    exact remaining

theorem furthest_covers {deliveries : List Delivery} {reached : Nat} (inside : reached ≤ log.length)
    (covers : reached = log.length ∨ ∃ delivery ∈ deliveries, log.length ≤ delivery.stop) :
    furthest log reached deliveries = log.length := by
  induction deliveries generalizing reached with
  | nil =>
    rcases covers with all | ⟨_, member, -⟩
    · exact all
    · cases member
  | cons delivery rest ih =>
    have next : furthest log reached (delivery :: rest) =
      furthest log (max reached (min delivery.stop log.length)) rest := rfl
    rw [next]
    apply ih (by omega)
    rcases covers with all | ⟨last, member, reaches⟩
    · omega
    · rcases List.mem_cons.mp member with rfl | among
      · omega
      · exact .inr ⟨last, among, reaches⟩

end

def plainHost : Host := ⟨fun _ => "", fun _ => none, id, id⟩

def greetingEvent (seq turnSeq : Nat) (type : EventType) (payload : Payload) : StreamEvent :=
  { turnId := some "turn_1", eventSeq := seq, turnSeq := some turnSeq, type := type
    payload := payload }

def greetingLog : List StreamEvent :=
  [{ eventSeq := 1, turnSeq := some 0, type := .userMessage, payload := [("content", .str "hi")] },
    greetingEvent 2 1 .turnStarted [],
    greetingEvent 3 2 .responseStarted [("response_segment_id", .str "resp_1")],
    greetingEvent 4 3 .responseTextDelta
      [("content_delta", .str "Hello"), ("stream_source", .str "model_live"),
        ("response_segment_id", .str "resp_1")]]

instance (log : List StreamEvent) (session : ChatSession) (delivery : Delivery) :
    Decidable (delivery.Ordinary log session) := by
  unfold Delivery.Ordinary
  split <;> infer_instance

instance (session : ChatSession) (delivery : Delivery) : Decidable (delivery.Gapless session) :=
  inferInstanceAs (Decidable (_ ≤ _))

instance (condition : ChatSession → Delivery → Prop)
    [∀ session delivery, Decidable (condition session delivery)] (log : List StreamEvent)
    (session : ChatSession) (deliveries : List Delivery) :
    Decidable (Along host condition log session deliveries) :=
  inferInstanceAs (Decidable (Meets ..))

end OpenJax.Web
