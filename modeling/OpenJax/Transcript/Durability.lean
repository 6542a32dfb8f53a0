import OpenJax.Transcript.Contents

set_option autoImplicit false

namespace OpenJax.Transcript

open Shared TranscriptStore

variable {Payload : Type}

def WholeCut : FileStep → Prop
  | .extend _ bytes _ => bytes = [lineFeed]
  | .rewrite _ bytes count => count = bytes.length
  | _ => True

/-- Every session can be read back with all that was acknowledged of it, and appended to. -/
def Survives (json : TranscriptJson Payload) (store : TranscriptStore)
    (history : History Payload) : Prop :=
  (∀ sessionId, ∃ records,
    ((TranscriptStore.replay json store sessionId none).run history.tree).result = .ok records ∧
      (history.of sessionId).Sublist records) ∧
  ∀ record, ∃ written, ((append json store record).run history.tree).result = .ok written

section Lists

variable {α : Type} (chunks : List (List α)) (item : α)

theorem take_modify_sublist (index count : Nat) :
    (chunks.take count).flatten.Sublist
      ((chunks.modify index (· ++ [item])).take count).flatten := by
  induction chunks generalizing index count with
  | nil => simp
  | cons first rest ih =>
    cases count with
    | zero => simp
    | succ count =>
      cases index with
      | zero => simp
      | succ index => simpa using ih index count

theorem take_modify_flatten {index : Nat} (below : index < chunks.length) :
    ((chunks.modify index (· ++ [item])).take (index + 1)).flatten =
      (chunks.take (index + 1)).flatten ++ [item] := by
  induction chunks generalizing index with
  | nil => simp at below
  | cons first rest ih =>
    cases index with
    | zero => simp
    | succ index =>
      have inner := ih (Nat.lt_of_succ_lt_succ below)
      simp [inner]

theorem flatten_sublist {front whole : List (List α)} (begins : front <+: whole) :
    front.flatten.Sublist whole.flatten := by
  obtain ⟨rest, rfl⟩ := begins
  rw [List.flatten_append]
  exact List.sublist_append_left _ _

end Lists

/-- What is acknowledged stands in the segments up to the active one, all of them whole. -/
structure Durable (json : TranscriptJson Payload) (files : SessionFiles Payload)
    (acknowledged : List (TranscriptRecord Payload)) : Prop where
  whole : ∀ bytes, files.manifest ≠ .torn bytes
  ended : ∀ text ∈ files.segments, text.pending = []
  held : ∃ chunks, files.Holds json chunks ∧
    acknowledged.Sublist (chunks.take (files.active + 1)).flatten
  fresh : files.manifest = .missing → acknowledged = []

section Steps

variable {json : TranscriptJson Payload} {store : TranscriptStore} {sessionId : String}
  {files left : SessionFiles Payload} {acknowledged : List (TranscriptRecord Payload)}
  {record : TranscriptRecord Payload}

theorem durable_empty (json : TranscriptJson Payload) :
    Durable json (.empty : SessionFiles Payload) [] where
  whole := by simp [SessionFiles.empty]
  ended := by simp [SessionFiles.empty]
  held := ⟨[], rfl, by simp⟩
  fresh := fun _ => rfl

theorem recovered_active {mark : Mark} {tail : Option (TranscriptRecord Payload)}
    (active : files.active = mark.active) : (files.recovered mark tail).active = files.active := by
  cases tail with
  | none => rfl
  | some record =>
    simp only [SessionFiles.recovered]
    split
    · simp [SessionFiles.active, ← active]
    · rfl

theorem recovered_manifest (files : SessionFiles Payload) (mark : Mark)
    (tail : Option (TranscriptRecord Payload)) :
    (files.recovered mark tail).manifest = files.manifest ∨
      (files.recovered mark tail).manifest = .whole (mark.recovered tail) := by
  cases tail with
  | none => exact .inl rfl
  | some record =>
    simp only [SessionFiles.recovered]
    split
    · exact .inr rfl
    · exact .inl rfl

theorem Durable.recovered (durable : Durable json files acknowledged) {mark : Mark}
    (active : files.active = mark.active) (tail : Option (TranscriptRecord Payload)) :
    Durable json (files.recovered mark tail) acknowledged where
  whole := by
    rcases recovered_manifest files mark tail with same | replaced
    · rw [same]
      exact durable.whole
    · simp [replaced]
  ended := by
    rw [segments_recovered]
    exact durable.ended
  held := by
    obtain ⟨chunks, holds, inside⟩ := durable.held
    refine ⟨chunks, holds_recovered.mpr holds, ?_⟩
    rw [recovered_active active]
    exact inside
  fresh := by
    rcases recovered_manifest files mark tail with same | replaced
    · rw [same]
      exact durable.fresh
    · simp [replaced]

theorem Durable.ensure (durable : Durable json files acknowledged) (index : Nat) :
    Durable json (files.ensure index) acknowledged where
  whole := by
    rw [SessionFiles.manifest_ensure]
    exact durable.whole
  ended := by
    intro text among
    rw [SessionFiles.segments_ensure] at among
    rcases List.mem_append.mp among with old | new
    · exact durable.ended text old
    · split at new <;> simp_all [SegmentText.empty]
  held := by
    obtain ⟨chunks, holds, inside⟩ := durable.held
    refine ⟨_, holds_ensure.mpr ⟨chunks, holds, rfl⟩, inside.trans ?_⟩
    have active : (files.ensure index).active = files.active := by simp [SessionFiles.active]
    rw [active]
    exact flatten_sublist ((List.prefix_append chunks _).take _)
  fresh := by
    rw [SessionFiles.manifest_ensure]
    exact durable.fresh

theorem Durable.opened (durable : Durable json files acknowledged) (plan : Plan json files record) :
    Durable json plan.opened acknowledged :=
  ((durable.recovered (active_of_mark plan.marked) plan.tail).ensure _).ensure _

theorem Durable.written (durable : Durable json files acknowledged) (plan : Plan json files record)
    (wellFormed : files.WellFormed json sessionId) :
    Durable json plan.written acknowledged where
  whole := (durable.opened plan).whole
  ended := by
    intro text among
    obtain ⟨place, bound, rfl⟩ := List.mem_iff_getElem.mp among
    simp only [Plan.written, SessionFiles.segments_update, List.length_modify] at bound
    simp only [Plan.written, SessionFiles.segments_update, List.getElem_modify]
    split
    · rfl
    · exact (durable.opened plan).ended _ (List.getElem_mem bound)
  held := by
    obtain ⟨text, there⟩ := plan.target wellFormed
    obtain ⟨chunks, holds, inside⟩ := (durable.opened plan).held
    have pending := (durable.opened plan).ended text (List.mem_of_getElem? there)
    refine ⟨_, (plan.holds_written wellFormed).mpr ⟨chunks, text, holds, there, pending, rfl⟩, ?_⟩
    exact inside.trans (take_modify_sublist chunks plan.nextRecord plan.index _)
  fresh := (durable.opened plan).fresh

theorem Durable.committed (durable : Durable json files acknowledged)
    (plan : Plan json files record) (wellFormed : files.WellFormed json sessionId) :
    Durable json plan.committed (acknowledged ++ [plan.nextRecord]) where
  whole := by simp [Plan.committed]
  ended := (durable.written plan wellFormed).ended
  held := by
    obtain ⟨text, there⟩ := plan.target wellFormed
    obtain ⟨chunks, holds, inside⟩ := (durable.opened plan).held
    have pending := (durable.opened plan).ended text (List.mem_of_getElem? there)
    have bound := (plan.opened_bounds wellFormed).1
    rw [holds.length] at bound
    refine ⟨_, (plan.holds_written wellFormed).mpr ⟨chunks, text, holds, there, pending, rfl⟩, ?_⟩
    have active : plan.committed.active = plan.index := rfl
    rw [active, take_modify_flatten chunks plan.nextRecord bound]
    apply List.Sublist.append_right
    have openedActive : plan.opened.active = plan.mark.active := by
      rw [← plan.active_recovered]
      simp [SessionFiles.active, Plan.opened]
    rw [openedActive] at inside
    apply inside.trans (flatten_sublist _)
    apply List.take_prefix_take_left
    rcases plan.chosen with same | following <;> omega
  fresh := by simp [Plan.committed]

theorem Durable.fewer (durable : Durable json files acknowledged)
    {fewer : List (TranscriptRecord Payload)} (sub : fewer.Sublist acknowledged) :
    Durable json files fewer where
  whole := durable.whole
  ended := durable.ended
  held := by
    obtain ⟨chunks, holds, inside⟩ := durable.held
    exact ⟨chunks, holds, sub.trans inside⟩
  fresh := by
    intro missing
    rw [durable.fresh missing] at sub
    exact List.sublist_nil.mp sub

theorem Durable.interrupted (durable : Durable json files acknowledged) {step : FileStep}
    (wellFormed : files.WellFormed json record.sessionId)
    (interrupted : Interrupted json store files record step left) (clean : WholeCut step) :
    Durable json left acknowledged := by
  cases interrupted with
  | preparing => exact durable
  | tearing plan before earlier bytes torn count short =>
    simp only [WholeCut] at clean
    omega
  | recovering plan => exact durable.recovered (active_of_mark plan.marked) plan.tail
  | creating plan => exact (durable.recovered (active_of_mark plan.marked) plan.tail).ensure _
  | opening plan => exact durable.opened plan
  | writing plan count =>
    simp only [WholeCut] at clean
    obtain ⟨rest, opens⟩ := json.record.toVec_eq_cons plan.nextRecord
    rw [opens] at clean
    simp [openingBrace, lineFeed] at clean
  | ending plan => exact durable.written plan wellFormed
  | committing plan =>
    exact (durable.committed plan wellFormed).fewer (List.sublist_append_left _ _)

end Steps

theorem durable_kept (json : TranscriptJson Payload) (store : TranscriptStore) :
    SessionInvariant json store (fun _ _ step => WholeCut step) (Durable json) where
  initial := durable_empty json
  settled := by
    intro files left request result acknowledged wellFormed durable settled
    cases settled with
    | failed => simpa [acknowledgement] using durable
    | appended plan => exact durable.committed plan wellFormed
    | recovered sessionId whole =>
      have active := active_of_mark (mark_of_whole whole "")
      simpa [acknowledgement] using durable.recovered active _
    | kept => simpa [acknowledgement] using durable
  stopped := by
    intro tree files left request step acknowledged _ wellFormed durable clean stopped
    cases stopped with
    | appending interrupted => exact durable.interrupted wellFormed interrupted clean
    | tearing sessionId bytes torn count short =>
      simp only [WholeCut] at clean
      omega
    | recovering sessionId step whole =>
      exact durable.recovered (active_of_mark (mark_of_whole whole "")) _
    | kept => exact durable

section Recovery

variable {json : TranscriptJson Payload} {store : TranscriptStore} {sessionId : String}
  {files : SessionFiles Payload} {acknowledged : List (TranscriptRecord Payload)}
  {tree : FileTree}

theorem filter_isAfter_none (records : List (TranscriptRecord Payload)) :
    records.filter (isAfter none) = records := by
  rw [List.filter_eq_self]
  exact fun _ _ => rfl

theorem Durable.replays (durable : Durable json files acknowledged)
    (stored : Stored json store sessionId files tree)
    (wellFormed : files.WellFormed json sessionId) :
    ∃ records, ((TranscriptStore.replay json store sessionId none).run tree).result = .ok records ∧
      acknowledged.Sublist records := by
  cases text : files.manifest with
  | missing =>
    refine ⟨[], ?_, ?_⟩
    · rw [replay_missing stored text]
    · rw [durable.fresh text]
  | torn bytes => exact absurd text (durable.whole bytes)
  | whole mark =>
    obtain ⟨chunks, holds, inside⟩ := durable.held
    refine ⟨chunks.flatten, ?_, ?_⟩
    · rw [replay_whole stored wellFormed text holds, filter_isAfter_none]
    · exact inside.trans (flatten_sublist (List.take_prefix _ _))

theorem Durable.appends {record : TranscriptRecord Payload}
    (durable : Durable json files acknowledged)
    (stored : Stored json store record.sessionId files tree)
    (wellFormed : files.WellFormed json record.sessionId) :
    ∃ written, ((append json store record).run tree).result = .ok written := by
  rcases (append_establishes stored wellFormed).1 with failed | ⟨plan, appended, _⟩
  · obtain ⟨error, _, _, unmarked | unreadable⟩ := failed
    · obtain ⟨bytes, torn⟩ := torn_of_unmarked unmarked
      exact absurd torn (durable.whole bytes)
    · obtain ⟨chunks, holds, _⟩ := durable.held
      exact absurd unreadable (not_unreadable_of_holds holds)
  · exact ⟨plan.nextRecord, appended⟩

end Recovery

/-- As long as nothing is left half written, all that was acknowledged is replayed in order and
the store goes on taking records. -/
theorem acknowledged_survive (json : TranscriptJson Payload) (store : TranscriptStore)
    {events : List (Event Payload)} {history : History Payload}
    (clean : Meets (historyStep json store) (CutsMeet json store fun _ _ step => WholeCut step)
      .start events)
    (ran : run (historyStep json store) .start events = some history) :
    Survives json store history := by
  have sessions := sessions_run (durable_kept json store) clean ran
  constructor
  · intro sessionId
    obtain ⟨files, stored, wellFormed, durable⟩ := sessions sessionId
    exact durable.replays stored wellFormed
  · intro record
    obtain ⟨files, stored, wellFormed, durable⟩ := sessions record.sessionId
    exact durable.appends stored wellFormed

def cutThenServed : List (Event Unit) :=
  [.interrupted (.append userMessage) 4, .served (.append userMessage)]

theorem meets_cutThenServed {condition : FileTree → Request Unit → FileStep → Prop}
    (created : ∀ path, condition .empty (.append userMessage) (.createFile path)) :
    Meets (historyStep nullPayloads (.new [])) (CutsMeet nullPayloads (.new []) condition) .start
      cutThenServed := by
  refine ⟨?_, fun next _ => ⟨trivial, fun _ _ => trivial⟩⟩
  intro step left stop
  have made : ((serve nullPayloads (.new []) (.append userMessage)).stoppedAfter .empty 4).map
      Prod.fst = some (some (.createFile (segmentPath (.new []) "sess_1" 0))) := rfl
  rw [show History.start.tree = FileTree.empty from rfl] at stop ⊢
  rw [stop] at made
  simp only [Option.map_some, Option.some.injEq] at made
  rw [made]
  exact created _

theorem acknowledged_survive_witness : ∃ history,
    run (historyStep nullPayloads (.new [])) .start cutThenServed = some history ∧
    Survives nullPayloads (.new []) history := by
  obtain ⟨history, ran⟩ : ∃ history,
      run (historyStep nullPayloads (.new [])) .start cutThenServed = some history := ⟨_, rfl⟩
  exact ⟨history, ran, acknowledged_survive nullPayloads (.new [])
    (meets_cutThenServed fun _ => trivial) ran⟩

theorem torn_tail_blocks {json : TranscriptJson Payload} {store : TranscriptStore}
    {record : TranscriptRecord Payload} {files : SessionFiles Payload} {tree : FileTree}
    (stored : Stored json store record.sessionId files tree)
    (wellFormed : files.WellFormed json record.sessionId)
    {line : List (Piece (TranscriptRecord Payload))} (last : files.lastLine files.active = some line)
    (torn : ∀ other, line ≠ [json.record.complete other]) (written : TranscriptRecord Payload) :
    ((append json store record).run tree).result ≠ .ok written := by
  intro succeeded
  rcases (append_establishes stored wellFormed).1 with failed | ⟨plan, _, _⟩
  · obtain ⟨error, failed, _⟩ := failed
    simp [failed] at succeeded
  · have tailed := plan.tailed
    rw [SessionFiles.EndsWith, ← active_of_mark plan.marked, last] at tailed
    obtain ⟨other, _, same⟩ := Option.map_eq_some_iff.mp tailed.symm
    exact torn other same.symm

/-- The first record of a session, cut short after its first byte, is the last one that the
session is asked for with success. -/
theorem first_record_blocks {json : TranscriptJson Payload} {store : TranscriptStore}
    {record : TranscriptRecord Payload} {text : Bytes}
    (written : json.record.toVec
      (numbered (.newEmpty record.sessionId record.timestamp) record) = text)
    (long : 1 < text.length) (fits : text.length + 1 ≤ store.segmentMaxBytes) :
    ∃ steps history, run (historyStep json store) .start [.interrupted (.append record) steps] =
      some history ∧ ¬ Survives json store history := by
  have stored := stored_empty json store record.sessionId
  have wellFormed := wellFormed_empty json record.sessionId
  have marked : (SessionFiles.empty : SessionFiles Payload).mark record.timestamp =
      some ⟨0, 0, 0, record.timestamp⟩ := rfl
  have tailed : SessionFiles.EndsWith json .empty 0 none := rfl
  let plan : Plan json .empty record := .of store marked tailed
  have same : json.record.toVec plan.nextRecord = text := by
    rw [← written, newEmpty_eq]
    rfl
  have first : plan.index = 0 := by
    rw [first_index, same, if_neg (Nat.not_lt.mpr fits)]
  have reaches := append_reaches_writing stored wellFormed
    (by simp [SessionFiles.Unreadable, SessionFiles.empty]) marked tailed Nat.one_pos
    (json.record.length_pos _)
  obtain ⟨steps, history, stepped, _, left⟩ := interrupted_of_reaches .start reaches
  refine ⟨steps, history, ?_, ?_⟩
  · rw [run, stepped]
    rfl
  · intro survives
    obtain ⟨other, succeeded⟩ := survives.2 record
    have formed : (plan.writing 1).WellFormed json record.sessionId := by
      apply plan.writing_wellFormed wellFormed
      exact ⟨Nat.one_pos, json.record.length_pos _⟩
    have last : (plan.writing 1).lastLine (plan.writing 1).active =
        some [⟨plan.nextRecord, 1⟩] := by
      have missing : plan.opened.manifest = .missing := by
        rw [Plan.opened, SessionFiles.manifest_ensure, SessionFiles.manifest_ensure]
        rfl
      have opened : plan.opened.segments = [.empty] := by
        rw [Plan.opened, first]
        rfl
      have active : (plan.writing 1).active = 0 := by
        rw [SessionFiles.active, Plan.writing, SessionFiles.manifest_update, missing]
      rw [active, SessionFiles.lastLine, Plan.writing, SessionFiles.segments_update, first, opened]
      rfl
    refine absurd succeeded (torn_tail_blocks left formed last ?_ other)
    intro whole complete
    simp only [ObjectCodec.complete, List.cons.injEq, Piece.mk.injEq, and_true] at complete
    rw [← complete.1, same] at complete
    omega

theorem torn_record_stops_session : ∃ steps history,
    run (historyStep nullPayloads (.new [])) .start [.interrupted (.append userMessage) steps] =
      some history ∧ ¬ Survives nullPayloads (.new []) history :=
  first_record_blocks (congrArg nullPayloads.record.toVec numbered_userMessage)
    userMessage_length.1 userMessage_length.2

end OpenJax.Transcript
