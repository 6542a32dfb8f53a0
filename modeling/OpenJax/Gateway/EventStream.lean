import OpenJax.Shared.Machine
import OpenJax.Gateway.ReplayWindow

set_option autoImplicit false

namespace OpenJax.Gateway

open Shared Transcript

structure StreamConfig where
  eventChannelCapacity : Nat
  eventReplayLimit : Nat
  -- Configured values of zero are replaced by the defaults.
  capacityPositive : 0 < eventChannelCapacity
  limitPositive : 0 < eventReplayLimit

def resolveResumeSeq (afterEventSeq : Option Nat) (lastEventId : Option String) : Option Nat :=
  afterEventSeq <|> lastEventId.bind parseU64

def shouldEmitBroadcastEvent (lastSentEventSeq eventSeq : Nat) : Bool :=
  lastSentEventSeq < eventSeq

def minAllowed (config : StreamConfig) (transcript : Journal Json) : Nat :=
  transcript.lastEventSeq - config.eventReplayLimit

def replayEventsFromTranscript (config : StreamConfig) (transcript : Journal Json)
    (failure : Option ApiError) (afterEventSeq : Option Nat) :
    Except ApiError (List StreamEventEnvelope) :=
  match failure with
  | some error => .error error
  | none =>
      if transcript.isEmpty then .ok []
      else
        let lowest := minAllowed config transcript
        let replay (floor : Nat) :=
          (transcript.filter fun record => floor < record.eventSeq).map envelopeOf
        match afterEventSeq with
        | none => .ok (replay lowest)
        | some requested =>
            if requested < lowest then
              .error (.invalidArgument "replay point is outside retention window"
                (.obj [("after_event_seq", .int requested), ("min_allowed", .int lowest)]))
            else .ok (replay requested)

def recoveryError (route : EventRoute) (timestamp : String) (lastSentEventSeq : Nat) :
    StreamEventEnvelope :=
  { requestId := route.requestId
    sessionId := route.sessionId
    turnId := none
    -- The number of the next event of the session, which this is not.
    eventSeq := min (lastSentEventSeq + 1) 0xFFFFFFFFFFFFFFFF
    turnSeq := 0
    timestamp := timestamp
    eventType := "response_error"
    streamSource := "replay"
    payload := .obj [("code", .str "REPLAY_WINDOW_EXCEEDED"),
      ("message", .str "event replay window exceeded; reconnect required"),
      ("retryable", .bool true)] }

/-- The two loops that send events of the transcript: the replay sends all it was given, the
recovery skips what has been sent. -/
inductive ReplayLoop where
  | replay
  | recovery
  deriving DecidableEq

inductive Connection where
  | closed
  | subscribed (afterEventSeq : Option Nat) (position : Nat)
  | streaming (loop : ReplayLoop) (pending : List StreamEventEnvelope)
      (lastSentEventSeq position : Nat)

structure StreamClient where
  requested : Option Nat
  -- The request of the current connection.
  resumed : Option Nat
  -- The number after which the client is owed events.
  floor : Nat
  received : List StreamEventEnvelope

structure EventStream where
  transcript : Journal Json
  -- The records that were there when the session's channel was made.
  base : Nat
  -- Appended and not yet broadcast: the publisher still holds the session.
  unsent : Option StreamEventEnvelope
  sent : List StreamEventEnvelope
  connection : Connection
  client : StreamClient

inductive StreamInput where
  | append (failure : Option ApiError) (event : StreamEventEnvelope)
  | broadcast
  | restart
  | open (afterEventSeq : Option Nat) (lastEventId : Option String)
  | resume (afterEventSeq : Option Nat) (lastEventId : Option String)
  | readTranscript (failure : Option ApiError)
  | yield
  | receive (failure : Option ApiError) (route : EventRoute) (timestamp : String)
  | disconnect

namespace EventStream

def initial : EventStream := ⟨[], 0, none, [], .closed, ⟨none, none, 0, []⟩⟩

def deliver (stream : EventStream) (event : StreamEventEnvelope) (connection : Connection) :
    EventStream :=
  { stream with
    connection := connection
    client := { stream.client with received := stream.client.received ++ [event] } }

def subscribe (stream : EventStream) (client : StreamClient) : Option EventStream :=
  match stream.connection, stream.unsent with
  | .closed, none =>
      some { stream with
        connection := .subscribed client.resumed stream.sent.length
        client := client }
  | _, _ => none

def readTranscript (config : StreamConfig) (stream : EventStream) (failure : Option ApiError) :
    Option EventStream :=
  match stream.connection with
  | .subscribed afterEventSeq position =>
      match replayEventsFromTranscript config stream.transcript failure afterEventSeq with
      | .error _ => some { stream with connection := .closed }
      | .ok replay =>
          let floor := if afterEventSeq.isSome then stream.client.floor
            else minAllowed config stream.transcript
          some { stream with
            connection := .streaming .replay replay
              ((replay.getLast?.map StreamEventEnvelope.eventSeq).getD 0) position
            client := { stream.client with floor := floor } }
  | _ => none

def yieldPending (stream : EventStream) : Option EventStream :=
  match stream.connection with
  | .streaming loop (event :: rest) lastSentEventSeq position =>
      if loop = .recovery ∧ event.eventSeq ≤ lastSentEventSeq then
        some { stream with connection := .streaming loop rest lastSentEventSeq position }
      else some (stream.deliver event (.streaming loop rest event.eventSeq position))
  | _ => none

def Lagged (config : StreamConfig) (stream : EventStream) (position : Nat) : Prop :=
  position + config.eventChannelCapacity < stream.sent.length

instance (config : StreamConfig) (stream : EventStream) (position : Nat) :
    Decidable (Lagged config stream position) :=
  inferInstanceAs (Decidable (_ < _))

def recover (config : StreamConfig) (stream : EventStream) (failure : Option ApiError)
    (route : EventRoute) (timestamp : String) (lastSentEventSeq : Nat) : EventStream :=
  match replayEventsFromTranscript config stream.transcript failure (some lastSentEventSeq) with
  | .ok (event :: rest) =>
      { stream with
        connection := .streaming .recovery (event :: rest) lastSentEventSeq
          (stream.sent.length - config.eventChannelCapacity) }
  | _ => stream.deliver (recoveryError route timestamp lastSentEventSeq) .closed

def receive (config : StreamConfig) (stream : EventStream) (failure : Option ApiError)
    (route : EventRoute) (timestamp : String) : Option EventStream :=
  match stream.connection with
  | .streaming loop [] lastSentEventSeq position =>
      if Lagged config stream position then
        some (recover config stream failure route timestamp lastSentEventSeq)
      else
        stream.sent[position]?.map fun event =>
          if shouldEmitBroadcastEvent lastSentEventSeq event.eventSeq then
            stream.deliver event (.streaming loop [] event.eventSeq (position + 1))
          else
            { stream with connection := .streaming loop [] lastSentEventSeq (position + 1) }
  | _ => none

def step (config : StreamConfig) (stream : EventStream) : StreamInput → Option EventStream
  | .append failure event =>
      if stream.unsent.isSome then none
      else
        match appendEvent stream.transcript failure event with
        | .error _ => some stream
        | .ok (transcript, persisted) =>
            some { stream with transcript := transcript, unsent := some persisted }
  | .broadcast =>
      stream.unsent.map fun event => { stream with unsent := none, sent := stream.sent ++ [event] }
  | .restart =>
      some { stream with
        base := stream.transcript.length, unsent := none, sent := [], connection := .closed }
  | .open afterEventSeq lastEventId =>
      let requested := resolveResumeSeq afterEventSeq lastEventId
      stream.subscribe ⟨requested, requested, requested.getD 0, []⟩
  | .resume afterEventSeq lastEventId =>
      let requested := resolveResumeSeq afterEventSeq lastEventId
      -- The client asks for what follows the last event it received.
      if requested.isSome ∧
          requested = stream.client.received.getLast?.map StreamEventEnvelope.eventSeq then
        stream.subscribe { stream.client with resumed := requested }
      else none
  | .readTranscript failure => stream.readTranscript config failure
  | .yield => stream.yieldPending
  | .receive failure route timestamp => stream.receive config failure route timestamp
  | .disconnect => some { stream with connection := .closed }

/-- What a client has received is what the session has published after its request, each event
once and in order. -/
structure Delivered (stream : EventStream) : Prop where
  ascending : (stream.client.received.map StreamEventEnvelope.eventSeq).Pairwise (· < ·)
  newer : ∀ requested, stream.client.requested = some requested →
    ∀ event ∈ stream.client.received, requested < event.eventSeq
  genuine : ∀ event ∈ stream.client.received, ∃ record ∈ stream.transcript,
    envelopeOf record = event
  owed : ∀ requested, stream.client.requested = some requested →
    stream.client.floor = requested
  unskipped : ∀ record ∈ stream.transcript, stream.client.floor < record.eventSeq →
    ∀ last ∈ stream.client.received, record.eventSeq ≤ last.eventSeq →
      envelopeOf record ∈ stream.client.received
  -- A connection that has taken all that was published has sent all of it.
  caughtUp : ∀ loop lastSentEventSeq, stream.unsent = none →
    stream.connection = .streaming loop [] lastSentEventSeq stream.sent.length →
      ∀ record ∈ stream.transcript, stream.client.floor < record.eventSeq →
        envelopeOf record ∈ stream.client.received

/-- The first request is for a number that had been published when the connection subscribed,
or that is below the last one when the transcript is read; and a lag is met by a connection
that has sent or been asked for nothing older, with newer events at hand. -/
def Watermarked (config : StreamConfig) (stream : EventStream) (input : StreamInput) : Prop :=
  match input, stream.connection with
  | .readTranscript _, .subscribed afterEventSeq position =>
      ∀ requested ∈ afterEventSeq,
        requested ≤ stream.base + position ∨ requested < stream.transcript.lastEventSeq
  | .receive failure _ _, .streaming _ [] lastSentEventSeq position =>
      Lagged config stream position →
        failure = none ∧ stream.client.resumed.getD 0 ≤ lastSentEventSeq ∧
          lastSentEventSeq < stream.transcript.lastEventSeq ∧
          minAllowed config stream.transcript ≤ lastSentEventSeq
  | _, _ => True

instance (config : StreamConfig) (stream : EventStream) (input : StreamInput) :
    Decidable (Watermarked config stream input) := by
  unfold Watermarked
  split <;> infer_instance

end EventStream

section Numbers

theorem prefix_snoc {α : Type} {taken whole : List α} (leads : taken <+: whole) {next : α}
    (follows : whole[taken.length]? = some next) : taken ++ [next] <+: whole := by
  obtain ⟨rest, rfl⟩ := leads
  cases rest with
  | nil => simp at follows
  | cons head rest =>
    have same : head = next := by simpa using follows
    subst same
    exact ⟨rest, by simp⟩

theorem filter_beyond {journal : Journal Json} {start : Nat}
    (numbered : journal.map TranscriptRecord.eventSeq = List.range' (start + 1) journal.length)
    (count : Nat) :
    (journal.filter fun record => start + count < record.eventSeq) = journal.drop count := by
  induction journal generalizing start count with
  | nil => simp
  | cons record rest ih =>
    rw [List.map_cons, List.length_cons, List.range'_succ, List.cons.injEq] at numbered
    obtain ⟨first, later⟩ := numbered
    cases count with
    | zero =>
      have all := ih later 0
      rw [List.drop_zero, List.filter_eq_self] at all
      rw [List.drop_zero, List.filter_eq_self]
      intro other member
      rcases List.mem_cons.mp member with rfl | within
      · simp [first]
      · have beyond := all other within
        simp only [decide_eq_true_eq] at beyond ⊢
        omega
    | succ count =>
      have dropped : ¬ start + (count + 1) < record.eventSeq := by omega
      have shift : start + (count + 1) = start + 1 + count := by omega
      rw [List.drop_succ_cons, List.filter_cons_of_neg (by simpa using dropped), shift]
      exact ih later count

theorem eventSeq_of_getElem? {journal : Journal Json}
    (numbered : journal.map TranscriptRecord.eventSeq = List.range' 1 journal.length)
    {index : Nat} {record : TranscriptRecord Json} (found : journal[index]? = some record) :
    record.eventSeq = index + 1 := by
  have mapped := congrArg (·[index]?) numbered
  have within : index < journal.length := (List.getElem?_eq_some_iff.mp found).1
  simp only [List.getElem?_map, found, Option.map_some, List.getElem?_range' within] at mapped
  have same := Option.some.inj mapped
  omega

end Numbers

namespace EventStream

def owedEvents (stream : EventStream) : List StreamEventEnvelope :=
  (stream.transcript.drop stream.client.floor).map envelopeOf

def mark (stream : EventStream) : Nat :=
  stream.client.floor + stream.client.received.length

/-- Where a connection stands: what it holds continues what the client has received, and what it
will take from the channel continues what it holds. -/
def Connected (stream : EventStream) : Prop :=
  match stream.connection with
  | .closed => True
  | .subscribed afterEventSeq position =>
      position ≤ stream.sent.length ∧ stream.client.resumed = afterEventSeq ∧
        (∀ requested, afterEventSeq = some requested → stream.mark = requested) ∧
        (afterEventSeq = none → stream.client.requested = none ∧ stream.client.received = [])
  | .streaming loop pending lastSentEventSeq position =>
      stream.client.received ++ pending <+: stream.owedEvents ∧
        position ≤ stream.sent.length ∧
        stream.base + position ≤ stream.mark + pending.length ∧
        stream.mark + pending.length ≤ stream.transcript.length ∧
        stream.client.resumed.getD 0 ≤ stream.mark + pending.length ∧
        (loop = .recovery → lastSentEventSeq = stream.mark) ∧
        (pending = [] → lastSentEventSeq = stream.mark ∨
          -- Nothing was replayed and nothing has been sent.
          lastSentEventSeq = 0 ∧ stream.base + position = stream.mark ∧
            stream.client.resumed.getD 0 = stream.mark)

structure Linked (stream : EventStream) : Prop where
  numbered : stream.transcript.map TranscriptRecord.eventSeq =
    List.range' 1 stream.transcript.length
  based : stream.base ≤ stream.transcript.length
  channel : stream.sent ++ stream.unsent.toList =
    (stream.transcript.drop stream.base).map envelopeOf
  owed : ∀ requested, stream.client.requested = some requested →
    stream.client.floor = requested
  received : stream.client.received <+: stream.owedEvents
  connected : stream.Connected

theorem linked_initial : Linked initial :=
  ⟨rfl, Nat.le_refl _, rfl, fun _ absent => (nomatch absent), List.prefix_rfl, trivial⟩

section Facts

variable {stream : EventStream}

theorem Linked.sent_length (linked : Linked stream) :
    stream.base + (stream.sent.length + stream.unsent.toList.length) =
      stream.transcript.length := by
  have lengths := congrArg List.length linked.channel
  have based := linked.based
  simp only [List.length_append, List.length_map, List.length_drop] at lengths
  omega

variable {event : StreamEventEnvelope}

theorem Linked.sent_get (linked : Linked stream) {position : Nat}
    (found : stream.sent[position]? = some event) :
    event.eventSeq = stream.base + position + 1 ∧
      (stream.transcript.map envelopeOf)[stream.base + position]? = some event := by
  have within : position < stream.sent.length := (List.getElem?_eq_some_iff.mp found).1
  have whole : (stream.transcript.map envelopeOf)[stream.base + position]? = some event := by
    rw [← found, ← List.getElem?_append_left within, linked.channel]
    simp [List.getElem?_drop]
  refine ⟨?_, whole⟩
  rw [List.getElem?_map, Option.map_eq_some_iff] at whole
  obtain ⟨record, listed, rfl⟩ := whole
  exact eventSeq_of_getElem? linked.numbered listed

theorem owed_get {index : Nat}
    (found : (stream.transcript.map envelopeOf)[stream.client.floor + index]? = some event) :
    stream.owedEvents[index]? = some event := by
  rw [← found]
  simp [owedEvents, List.getElem?_drop]

theorem Linked.owed_seqs (linked : Linked stream) :
    stream.owedEvents.map StreamEventEnvelope.eventSeq =
      List.range' (stream.client.floor + 1)
        (stream.transcript.length - stream.client.floor) := by
  have mapped : stream.owedEvents.map StreamEventEnvelope.eventSeq =
      (stream.transcript.map TranscriptRecord.eventSeq).drop stream.client.floor := by
    rw [owedEvents, List.map_map, ← List.map_drop]
    rfl
  rw [mapped, linked.numbered, List.drop_range']
  congr 1
  omega

theorem Linked.owed_seq (linked : Linked stream) {index : Nat}
    (found : stream.owedEvents[index]? = some event) :
    event.eventSeq = stream.client.floor + index + 1 := by
  rw [owedEvents, List.getElem?_map, List.getElem?_drop, Option.map_eq_some_iff] at found
  obtain ⟨record, listed, rfl⟩ := found
  exact eventSeq_of_getElem? linked.numbered listed

end Facts

section Steps

variable {config : StreamConfig} {stream next : EventStream}

theorem Connected.published (connected : stream.Connected)
    (sameBase : next.base = stream.base) (sameClient : next.client = stream.client)
    (sameConnection : next.connection = stream.connection)
    (sent : stream.sent.length ≤ next.sent.length)
    (longer : stream.transcript.length ≤ next.transcript.length)
    (grown : stream.owedEvents <+: next.owedEvents) : next.Connected := by
  have sameMark : next.mark = stream.mark := by simp [mark, sameClient]
  unfold Connected at connected ⊢
  rw [sameConnection, sameMark, sameClient, sameBase]
  cases state : stream.connection with
  | closed => trivial
  | subscribed afterEventSeq position =>
    rw [state] at connected
    exact ⟨connected.1.trans sent, connected.2⟩
  | streaming loop pending lastSentEventSeq position =>
    rw [state] at connected
    obtain ⟨held, taken, behind, within, rest⟩ := connected
    exact ⟨held.trans grown, taken.trans sent, behind, within.trans longer, rest⟩

theorem Linked.append (linked : Linked stream) (idle : stream.unsent = none)
    (event : StreamEventEnvelope) :
    Linked { stream with
      transcript := stream.transcript.append (recordOf event)
      unsent := some (envelopeOf (stream.transcript.stamp (recordOf event))) } := by
  have length : (stream.transcript.append (recordOf event)).length =
      stream.transcript.length + 1 := by simp [Journal.append]
  have grown : stream.owedEvents <+:
      ((stream.transcript.append (recordOf event)).drop stream.client.floor).map envelopeOf := by
    rw [owedEvents, Journal.append, List.drop_append]
    exact ⟨_, (List.map_append).symm⟩
  have channel := linked.channel
  have based := linked.based
  rw [idle, Option.toList_none, List.append_nil] at channel
  constructor
  · exact numbered_append linked.numbered _
  · dsimp only
    omega
  · dsimp only
    rw [Journal.append, List.drop_append_of_le_length based, List.map_append, ← channel]
    rfl
  · exact linked.owed
  · exact linked.received.trans grown
  · exact linked.connected.published rfl rfl rfl (Nat.le_refl _) (by dsimp only; omega) grown

theorem Linked.broadcast (linked : Linked stream) {event : StreamEventEnvelope}
    (waiting : stream.unsent = some event) :
    Linked { stream with unsent := none, sent := stream.sent ++ [event] } := by
  have channel := linked.channel
  rw [waiting, Option.toList_some] at channel
  constructor
  · exact linked.numbered
  · exact linked.based
  · simpa using channel
  · exact linked.owed
  · exact linked.received
  · exact linked.connected.published rfl rfl rfl (by simp) (Nat.le_refl _) List.prefix_rfl

theorem Linked.closed (linked : Linked stream) : Linked { stream with connection := .closed } :=
  { linked with connected := trivial }

theorem Linked.restarted (linked : Linked stream) :
    Linked { stream with
      base := stream.transcript.length, unsent := none, sent := [], connection := .closed } :=
  { linked with based := Nat.le_refl _, channel := by simp, connected := trivial }

theorem subscribe_some {client : StreamClient} (subscribed : stream.subscribe client = some next) :
    next = { stream with
      connection := .subscribed client.resumed stream.sent.length, client := client } := by
  unfold subscribe at subscribed
  split at subscribed
  · exact (Option.some.inj subscribed).symm
  · cases subscribed

theorem Linked.opened (linked : Linked stream) (requested : Option Nat) :
    Linked { stream with
      connection := .subscribed requested stream.sent.length
      client := ⟨requested, requested, requested.getD 0, []⟩ } := by
  constructor
  · exact linked.numbered
  · exact linked.based
  · exact linked.channel
  · intro wanted asked
    dsimp only at asked ⊢
    rw [asked, Option.getD_some]
  · exact List.nil_prefix
  · refine ⟨Nat.le_refl _, rfl, ?_, fun absent => ⟨absent, rfl⟩⟩
    intro wanted asked
    simp [mark, asked]

theorem Linked.mark_eq (linked : Linked stream) {last : StreamEventEnvelope}
    (received : stream.client.received.getLast? = some last) : last.eventSeq = stream.mark := by
  rw [List.getLast?_eq_getElem?] at received
  have within : stream.client.received.length - 1 < stream.client.received.length :=
    (List.getElem?_eq_some_iff.mp received).1
  have owed := List.prefix_iff_getElem?.mp linked.received _ within
  have seq := linked.owed_seq (owed.trans ((List.getElem?_eq_getElem within).symm.trans received))
  rw [mark]
  omega

theorem Linked.resumed (linked : Linked stream) {requested : Option Nat}
    (last : requested.isSome ∧
      requested = stream.client.received.getLast?.map StreamEventEnvelope.eventSeq) :
    Linked { stream with
      connection := .subscribed requested stream.sent.length
      client := { stream.client with resumed := requested } } := by
  constructor
  · exact linked.numbered
  · exact linked.based
  · exact linked.channel
  · exact linked.owed
  · exact linked.received
  · refine ⟨Nat.le_refl _, rfl, ?_, ?_⟩
    · intro wanted asked
      rw [last.2, Option.map_eq_some_iff] at asked
      obtain ⟨event, found, rfl⟩ := asked
      exact (linked.mark_eq found).symm
    · intro absent
      rw [absent] at last
      exact absurd last.1 Bool.false_ne_true

theorem Linked.received_append (linked : Linked stream) :
    stream.client.received ++ (stream.transcript.drop stream.mark).map envelopeOf =
      stream.owedEvents := by
  have taken := List.prefix_iff_eq_take.mp linked.received
  have rest : (stream.transcript.drop stream.mark).map envelopeOf =
      stream.owedEvents.drop stream.client.received.length := by
    rw [owedEvents, ← List.map_drop, List.drop_drop, mark]
  rw [rest]
  nth_rewrite 1 [taken]
  exact List.take_append_drop _ _

theorem replay_drop (numbered : stream.transcript.map TranscriptRecord.eventSeq =
    List.range' 1 stream.transcript.length) (floor : Nat) :
    (stream.transcript.filter fun record => floor < record.eventSeq).map envelopeOf =
      (stream.transcript.drop floor).map envelopeOf := by
  have beyond := @filter_beyond _ 0 numbered floor
  rw [Nat.zero_add] at beyond
  rw [beyond]

theorem replay_within (linked : Linked stream) {afterEventSeq : Option Nat}
    (within : ∀ requested, afterEventSeq = some requested →
      minAllowed config stream.transcript ≤ requested) :
    replayEventsFromTranscript config stream.transcript none afterEventSeq =
      .ok ((stream.transcript.drop
        (afterEventSeq.getD (minAllowed config stream.transcript))).map envelopeOf) := by
  unfold replayEventsFromTranscript
  dsimp only
  cases none : stream.transcript.isEmpty with
  | true =>
    rw [List.isEmpty_iff] at none
    simp [none]
  | false =>
    simp only [Bool.false_eq_true, ite_false, replay_drop linked.numbered]
    cases asked : afterEventSeq with
    | none => rfl
    | some requested => exact if_neg (Nat.not_lt.mpr (within requested asked))

variable {failure : Option ApiError}

theorem replay_refused {afterEventSeq : Option Nat} {replay : List StreamEventEnvelope}
    (linked : Linked stream)
    (answered : replayEventsFromTranscript config stream.transcript failure afterEventSeq =
      .ok replay) :
    replay = (stream.transcript.drop
      (afterEventSeq.getD (minAllowed config stream.transcript))).map envelopeOf := by
  cases failure with
  | some error => cases answered
  | none =>
    by_cases within : ∀ requested, afterEventSeq = some requested →
        minAllowed config stream.transcript ≤ requested
    · rw [replay_within linked within] at answered
      exact (Except.ok.inj answered).symm
    · push Not at within
      obtain ⟨requested, rfl, low⟩ := within
      unfold replayEventsFromTranscript at answered
      dsimp only at answered
      rw [if_pos low] at answered
      split at answered
      · next none =>
        rw [List.isEmpty_iff] at none
        simp [minAllowed, Journal.lastEventSeq, none] at low
      · cases answered

theorem Linked.readTranscript (linked : Linked stream)
    (allowed : Watermarked config stream (.readTranscript failure))
    (stepped : stream.readTranscript config failure = some next) : Linked next := by
  unfold EventStream.readTranscript at stepped
  have connected := linked.connected
  have total := linked.sent_length
  have last := lastEventSeq_of_numbered linked.numbered
  have positive := config.limitPositive
  unfold Connected at connected
  unfold Watermarked at allowed
  cases state : stream.connection with
  | closed => simp [state] at stepped
  | streaming loop pending lastSentEventSeq position => simp [state] at stepped
  | subscribed afterEventSeq position =>
    simp only [state] at stepped connected allowed
    obtain ⟨taken, resumed, request, fresh⟩ := connected
    cases answer : replayEventsFromTranscript config stream.transcript failure afterEventSeq with
    | error error =>
      rw [answer] at stepped
      cases stepped
      exact linked.closed
    | ok replay =>
      rw [answer] at stepped
      cases stepped
      have replayed := replay_refused linked answer
      have count := congrArg List.length replayed
      rw [List.length_map, List.length_drop] at count
      cases asked : afterEventSeq with
      | some requested =>
        subst asked
        have point := request requested rfl
        have whole := linked.received_append
        have bound := allowed requested rfl
        rw [point] at whole
        simp only [Option.getD_some] at replayed count
        simp only [Option.isSome_some, if_true]
        rw [← replayed] at whole
        refine { linked with connected := ⟨?_, taken, ?_, ?_, ?_, nofun, ?_⟩ }
        · exact whole ▸ List.prefix_rfl
        · change stream.base + position ≤ stream.mark + replay.length
          omega
        · change stream.mark + replay.length ≤ stream.transcript.length
          omega
        · change stream.client.resumed.getD 0 ≤ stream.mark + replay.length
          rw [resumed, Option.getD_some]
          omega
        · rintro rfl
          right
          refine ⟨rfl, ?_, ?_⟩
          · change stream.base + position = stream.mark
            rw [List.length_nil] at count
            omega
          · change stream.client.resumed.getD 0 = stream.mark
            rw [resumed, Option.getD_some, point]
      | none =>
        subst asked
        obtain ⟨unasked, empty⟩ := fresh rfl
        simp only [Option.getD_none] at replayed count
        simp only [Option.isSome_none, Bool.false_eq_true, if_false]
        have lowest : minAllowed config stream.transcript =
          stream.transcript.length - config.eventReplayLimit := by rw [minAllowed, last]
        refine ⟨linked.numbered, linked.based, linked.channel, ?_, ?_, ?_⟩
        · intro requested some
          rw [unasked] at some
          cases some
        · rw [empty]
          exact List.nil_prefix
        · simp only [Connected, mark, owedEvents, empty, List.nil_append, List.length_nil]
          refine ⟨replayed ▸ List.prefix_rfl, taken, ?_, ?_, ?_, nofun, ?_⟩
          · omega
          · omega
          · rw [resumed, Option.getD_none]
            omega
          · rintro rfl
            left
            rw [List.length_nil] at count
            simp only [List.getLast?_nil, Option.map_none, Option.getD_none]
            omega

theorem Linked.yield (linked : Linked stream) (stepped : stream.yieldPending = some next) :
    Linked next := by
  unfold yieldPending at stepped
  have connected := linked.connected
  unfold Connected at connected
  split at stepped
  · next loop event rest lastSentEventSeq position state =>
    rw [state] at connected
    obtain ⟨held, taken, behind, within, resumed, recovering, -⟩ := connected
    have owed : stream.owedEvents[stream.client.received.length]? = some event := by
      obtain ⟨later, whole⟩ := held
      simp [← whole]
    have seq := linked.owed_seq owed
    rw [List.length_cons] at behind within resumed
    split at stepped
    · next sent =>
      -- A recovery starts behind the last event sent.
      have point := recovering sent.1
      have passed := sent.2
      rw [point, mark] at passed
      omega
    · cases stepped
      have longer : (stream.deliver event
          (.streaming loop rest event.eventSeq position)).mark = stream.mark + 1 := by
        simp [mark, deliver]
        omega
      have numbered : event.eventSeq = stream.mark + 1 := seq
      refine { linked with received := prefix_snoc linked.received owed, connected := ?_ }
      unfold Connected
      rw [longer]
      simp only [deliver]
      refine ⟨?_, taken, ?_, ?_, ?_, fun _ => numbered, fun _ => .inl numbered⟩
      · simpa [owedEvents] using held
      · omega
      · omega
      · omega
  · cases stepped

theorem Linked.recovered (linked : Linked stream) {loop : ReplayLoop}
    {lastSentEventSeq position : Nat}
    (state : stream.connection = .streaming loop [] lastSentEventSeq position)
    (resumed : stream.client.resumed.getD 0 ≤ lastSentEventSeq)
    (newer : lastSentEventSeq < stream.transcript.lastEventSeq)
    (within : minAllowed config stream.transcript ≤ lastSentEventSeq) (route : EventRoute)
    (timestamp : String) : Linked (recover config stream none route timestamp lastSentEventSeq) := by
  have connected := linked.connected
  have total := linked.sent_length
  have whole := linked.received_append
  have last := lastEventSeq_of_numbered linked.numbered
  unfold Connected at connected
  rw [state] at connected
  obtain ⟨-, taken, behind, bounded, -, -, idle⟩ := connected
  have point : lastSentEventSeq = stream.mark := by
    rcases idle rfl with sent | ⟨none, -, asked⟩
    · exact sent
    · omega
  have answer : replayEventsFromTranscript config stream.transcript none (some lastSentEventSeq) =
      _ := replay_within linked fun requested same => Option.some.inj same ▸ within
  rw [Option.getD_some, point] at answer
  have count : ((stream.transcript.drop stream.mark).map envelopeOf).length =
      stream.transcript.length - stream.mark := by simp
  unfold recover
  rw [point, answer]
  cases missed : (stream.transcript.drop stream.mark).map envelopeOf with
  | nil =>
    rw [missed, List.length_nil] at count
    omega
  | cons event rest =>
    rw [missed] at whole count
    dsimp only
    refine { linked with connected := ⟨?_, Nat.sub_le _ _, ?_, ?_, ?_, fun _ => rfl, nofun⟩ }
    · exact whole ▸ List.prefix_rfl
    · change stream.base + (stream.sent.length - config.eventChannelCapacity) ≤
        stream.mark + (event :: rest).length
      omega
    · change stream.mark + (event :: rest).length ≤ stream.transcript.length
      omega
    · change stream.client.resumed.getD 0 ≤ stream.mark + (event :: rest).length
      omega

theorem Linked.taken (linked : Linked stream) {loop : ReplayLoop}
    {lastSentEventSeq position : Nat} {event : StreamEventEnvelope}
    (state : stream.connection = .streaming loop [] lastSentEventSeq position)
    (found : stream.sent[position]? = some event) :
    Linked (if shouldEmitBroadcastEvent lastSentEventSeq event.eventSeq then
      stream.deliver event (.streaming loop [] event.eventSeq (position + 1))
    else { stream with connection := .streaming loop [] lastSentEventSeq (position + 1) }) := by
  have connected := linked.connected
  have total := linked.sent_length
  have inside : position < stream.sent.length := (List.getElem?_eq_some_iff.mp found).1
  obtain ⟨seq, listed⟩ := linked.sent_get found
  unfold Connected at connected
  rw [state] at connected
  obtain ⟨held, -, behind, bounded, resumed, recovering, idle⟩ := connected
  have sentSoFar := idle rfl
  rw [List.length_nil, Nat.add_zero] at behind bounded resumed
  by_cases emits : lastSentEventSeq < event.eventSeq
  · rw [if_pos (by simpa [shouldEmitBroadcastEvent] using emits)]
    have point : stream.base + position = stream.mark := by omega
    have owed := owed_get (point ▸ listed)
    have longer : (stream.deliver event
        (.streaming loop [] event.eventSeq (position + 1))).mark = stream.mark + 1 := by
      simp [mark, deliver]
      omega
    have numbered : event.eventSeq = stream.mark + 1 := by omega
    have extended := prefix_snoc linked.received owed
    refine { linked with received := extended, connected := ?_ }
    unfold Connected
    rw [longer]
    simp only [deliver, List.append_nil, List.length_nil, Nat.add_zero]
    refine ⟨extended, inside, ?_, ?_, ?_, fun _ => numbered, fun _ => .inl numbered⟩
    · omega
    · omega
    · omega
  · rw [if_neg (by simpa [shouldEmitBroadcastEvent] using emits)]
    have sent : lastSentEventSeq = stream.mark := by omega
    refine { linked with connected := ⟨held, inside, ?_, bounded, resumed, recovering,
      fun _ => .inl sent⟩ }
    change stream.base + (position + 1) ≤ stream.mark
    omega

theorem Linked.receive (linked : Linked stream) {route : EventRoute} {timestamp : String}
    (allowed : Watermarked config stream (.receive failure route timestamp))
    (stepped : stream.receive config failure route timestamp = some next) : Linked next := by
  unfold EventStream.receive at stepped
  unfold Watermarked at allowed
  split at stepped
  · next loop lastSentEventSeq position state =>
    simp only [state] at allowed
    split at stepped
    · next lagged =>
      obtain ⟨readable, resumed, newer, within⟩ := allowed lagged
      cases stepped
      subst readable
      exact linked.recovered state resumed newer within route timestamp
    · obtain ⟨event, found, rfl⟩ := Option.map_eq_some_iff.mp stepped
      exact linked.taken state found
  · cases stepped

theorem linked_preserved (config : StreamConfig) :
    Preserves (step config) (Watermarked config) Linked := by
  intro stream input next linked allowed stepped
  cases input with
  | append failure event =>
    cases waiting : stream.unsent with
    | some other => simp [step, waiting] at stepped
    | none =>
      cases failure with
      | some error =>
        simp only [step, waiting, Option.isSome_none, Bool.false_eq_true, if_false,
          appendEvent] at stepped
        exact Option.some.inj stepped ▸ linked
      | none =>
        simp only [step, waiting, Option.isSome_none, Bool.false_eq_true, if_false,
          appendEvent] at stepped
        exact Option.some.inj stepped ▸ linked.append waiting event
  | broadcast =>
    obtain ⟨event, waiting, rfl⟩ := Option.map_eq_some_iff.mp stepped
    exact linked.broadcast waiting
  | restart => exact Option.some.inj stepped ▸ linked.restarted
  | «open» afterEventSeq lastEventId =>
    obtain rfl := subscribe_some stepped
    exact linked.opened (resolveResumeSeq afterEventSeq lastEventId)
  | resume afterEventSeq lastEventId =>
    simp only [step] at stepped
    split at stepped
    · next last =>
      obtain rfl := subscribe_some stepped
      exact linked.resumed last
    · cases stepped
  | readTranscript failure => exact linked.readTranscript allowed stepped
  | yield => exact linked.yield stepped
  | receive failure route timestamp => exact linked.receive allowed stepped
  | disconnect => exact Option.some.inj stepped ▸ linked.closed

end Steps

section Client

variable {stream : EventStream}

theorem Linked.unskipped (linked : Linked stream) {record : TranscriptRecord Json}
    (listed : record ∈ stream.transcript) (beyond : stream.client.floor < record.eventSeq)
    {last : StreamEventEnvelope} (member : last ∈ stream.client.received)
    (before : record.eventSeq ≤ last.eventSeq) :
    envelopeOf record ∈ stream.client.received := by
  obtain ⟨index, within, rfl⟩ := List.getElem_of_mem member
  have lastOwed := List.prefix_iff_getElem?.mp linked.received index within
  have lastSeq := linked.owed_seq lastOwed
  obtain ⟨place, inside, rfl⟩ := List.getElem_of_mem listed
  have seq := eventSeq_of_getElem? linked.numbered (List.getElem?_eq_getElem inside)
  -- Its place among the events owed is one of those received.
  have early : place - stream.client.floor < stream.client.received.length := by omega
  have owed := List.prefix_iff_getElem?.mp linked.received _ early
  rw [owedEvents, List.getElem?_map, List.getElem?_drop,
    Nat.add_sub_cancel' (by omega), List.getElem?_eq_getElem inside, Option.map_some] at owed
  rw [Option.some.inj owed]
  exact List.getElem_mem early

theorem Linked.delivered (linked : Linked stream) : Delivered stream := by
  have ascending : (stream.client.received.map StreamEventEnvelope.eventSeq) <+:
      List.range' (stream.client.floor + 1)
        (stream.transcript.length - stream.client.floor) := by
    rw [← linked.owed_seqs]
    exact linked.received.map _
  refine ⟨?_, ?_, ?_, linked.owed, ?_, ?_⟩
  · exact (List.pairwise_lt_range' 1).sublist ascending.sublist
  · intro requested asked event member
    have listed := ascending.subset (List.mem_map_of_mem member)
    have owed := linked.owed requested asked
    rw [List.mem_range'_1] at listed
    omega
  · intro event member
    have listed := linked.received.subset member
    obtain ⟨record, kept, same⟩ := List.mem_map.mp listed
    exact ⟨record, List.mem_of_mem_drop kept, same⟩
  · intro record listed beyond last member before
    exact linked.unskipped listed beyond member before
  · intro loop lastSentEventSeq quiet state record listed beyond
    have connected := linked.connected
    have total := linked.sent_length
    have whole := linked.received_append
    unfold Connected at connected
    rw [state] at connected
    obtain ⟨-, -, behind, -⟩ := connected
    rw [quiet, Option.toList_none] at total
    simp only [List.length_nil, Nat.add_zero] at behind total
    have done : stream.transcript.drop stream.mark = [] := by
      rw [List.drop_eq_nil_iff]
      omega
    rw [done, List.map_nil, List.append_nil] at whole
    rw [whole, owedEvents]
    obtain ⟨place, inside, rfl⟩ := List.getElem_of_mem listed
    have seq := eventSeq_of_getElem? linked.numbered (List.getElem?_eq_getElem inside)
    refine List.mem_map_of_mem (List.mem_iff_getElem?.mpr ⟨place - stream.client.floor, ?_⟩)
    rw [List.getElem?_drop, Nat.add_sub_cancel' (by omega), List.getElem?_eq_getElem inside]

end Client

/-- In every run whose replays and recoveries start from a watermark that is where the client is,
the client has received all that it is owed, each event once and in order. -/
theorem stream_delivers (config : StreamConfig) {inputs : List StreamInput}
    {stream : EventStream} (watermarked : Meets (step config) (Watermarked config) initial inputs)
    (ran : run (step config) initial inputs = some stream) : Delivered stream :=
  (run_invariant (linked_preserved config) linked_initial watermarked ran).delivered

def narrowChannel : StreamConfig := ⟨1, 4, by decide, by decide⟩

def published : List StreamInput := [.append none plainEvent, .broadcast]

def resumingRun : List StreamInput :=
  published ++ [.open none none, .readTranscript none, .yield] ++ published ++
    [.receive none ⟨"", ""⟩ "", .disconnect] ++ published ++
    [.resume none (some "2"), .readTranscript none, .yield]

theorem stream_delivers_resuming :
    ∃ stream, run (step narrowChannel) initial resumingRun = some stream ∧ Delivered stream := by
  have ends : (run (step narrowChannel) initial resumingRun).isSome := by decide +kernel
  exact ⟨_, Option.some_get ends |>.symm,
    stream_delivers narrowChannel (by decide +kernel) (Option.some_get ends).symm⟩

def laggingRun : List StreamInput :=
  published ++ [.open (some 1) none, .readTranscript none] ++ published ++ published ++
    [.receive none ⟨"", ""⟩ "", .yield]

theorem stream_repeats_after_lag :
    ¬ ∀ (config : StreamConfig) (inputs : List StreamInput) (stream : EventStream),
      run (step config) initial inputs = some stream → Delivered stream := by
  intro delivers
  have repeats : (run (step narrowChannel) initial laggingRun).any (fun stream =>
      stream.client.requested = some 1 ∧
        ∃ event ∈ stream.client.received, event.eventSeq ≤ 1) = true := by decide +kernel
  obtain ⟨stream, ran, repeated⟩ := (Option.any_eq_true _ _).mp repeats
  obtain ⟨asked, event, member, old⟩ := of_decide_eq_true repeated
  exact Nat.not_le.mpr ((delivers _ _ stream ran).newer 1 asked event member) old

end EventStream

end OpenJax.Gateway
