import OpenJax.Transcript.Durability

set_option autoImplicit false

namespace OpenJax.Transcript

open Shared TranscriptStore

variable {Payload : Type}

def activeSegmentPath (json : TranscriptJson Payload) (store : TranscriptStore) (tree : FileTree)
    (sessionId : String) : Path :=
  let activeSegment :=
    match tree.lookup (store.manifestPath sessionId) with
    | some (.file bytes) =>
        ((json.manifest.fromSlice bytes).map TranscriptManifest.activeSegment).getD firstSegmentFile
    | _ => firstSegmentFile
  store.segmentsRoot sessionId ++ [activeSegment]

def EndedInActive (json : TranscriptJson Payload) (store : TranscriptStore) (tree : FileTree)
    (request : Request Payload) : FileStep → Prop
  | .extend path bytes count =>
      count = bytes.length → path = activeSegmentPath json store tree request.sessionId
  | _ => True

section Chunks

def lastRecord (chunks : List (List (TranscriptRecord Payload))) (active : Nat) :
    Option (TranscriptRecord Payload) :=
  chunks[active]?.bind List.getLast?

def highest (last : Nat) (tail : Option (TranscriptRecord Payload)) : Nat :=
  max last ((tail.map TranscriptRecord.eventSeq).getD 0)

/-- The records are in ascending order and end with the active segment. -/
structure Ascending (last active : Nat) (chunks : List (List (TranscriptRecord Payload))) :
    Prop where
  sorted : chunks.flatten.Pairwise fun left right => left.eventSeq < right.eventSeq
  bounded : ∀ record ∈ chunks.flatten, record.eventSeq ≤ last
  beyond : ∀ later ∈ chunks.drop (active + 1), later = []

variable {chunks added : List (List (TranscriptRecord Payload))} {last active index : Nat}
  {record : TranscriptRecord Payload}

theorem Ascending.mono (ascending : Ascending last active chunks) {wider : Nat}
    (most : last ≤ wider) : Ascending wider active chunks where
  sorted := ascending.sorted
  bounded := fun record among => Nat.le_trans (ascending.bounded record among) most
  beyond := ascending.beyond

theorem flatten_of_empty (empty : ∀ records ∈ added, records = []) : added.flatten = [] :=
  List.flatten_eq_nil_iff.mpr empty

theorem Ascending.addEmpty (ascending : Ascending last active chunks)
    (empty : ∀ records ∈ added, records = []) : Ascending last active (chunks ++ added) := by
  have same : (chunks ++ added).flatten = chunks.flatten := by
    simp [flatten_of_empty empty]
  constructor
  · rw [same]
    exact ascending.sorted
  · rw [same]
    exact ascending.bounded
  · intro later among
    rw [List.drop_append] at among
    rcases List.mem_append.mp among with old | new
    · exact ascending.beyond later old
    · exact empty later (List.mem_of_mem_drop new)

theorem lastRecord_addEmpty (empty : ∀ records ∈ added, records = []) :
    lastRecord (chunks ++ added) active = lastRecord chunks active := by
  unfold lastRecord
  rcases Nat.lt_or_ge active chunks.length with within | past
  · rw [List.getElem?_append_left within]
  · rw [List.getElem?_append_right past, List.getElem?_eq_none past]
    cases found : added[active - chunks.length]? with
    | none => rfl
    | some records => simp [empty records (List.mem_of_getElem? found)]

theorem flatten_add (record : TranscriptRecord Payload)
    (beyond : ∀ later ∈ chunks.drop (active + 1), later = [])
    (chosen : index = active ∨ index = active + 1) (bound : index < chunks.length) :
    (chunks.modify index (· ++ [record])).flatten = chunks.flatten ++ [record] ∧
      ∀ later ∈ (chunks.modify index (· ++ [record])).drop (index + 1), later = [] := by
  obtain ⟨front, back, whole, length⟩ := split_at (List.getElem?_eq_getElem bound)
  generalize chunks[index] = middle at whole
  subst whole length
  have later : ∀ records ∈ back, records = [] := by
    intro records among
    apply beyond
    rw [List.mem_iff_getElem?] at among ⊢
    obtain ⟨place, found⟩ := among
    rcases chosen with same | following
    · refine ⟨place, ?_⟩
      rw [List.getElem?_drop, ← same, List.getElem?_append_right (by omega)]
      simp [found, show front.length + 1 + place - front.length = place + 1 by omega]
    · refine ⟨place + 1, ?_⟩
      rw [List.getElem?_drop, ← following, List.getElem?_append_right (by omega)]
      simp [found]
  rw [modify_middle]
  constructor
  · simp [flatten_of_empty later]
  · simpa using later

theorem Ascending.add (ascending : Ascending last active chunks)
    (chosen : index = active ∨ index = active + 1) (bound : index < chunks.length)
    (follows : record.eventSeq = last + 1) :
    Ascending record.eventSeq index (chunks.modify index (· ++ [record])) := by
  obtain ⟨flat, later⟩ := flatten_add record ascending.beyond chosen bound
  refine ⟨?_, ?_, later⟩
  · rw [flat, List.pairwise_append]
    refine ⟨ascending.sorted, List.pairwise_singleton _ _, ?_⟩
    intro old among new single
    rw [List.mem_singleton.mp single, follows]
    exact Nat.lt_succ_of_le (ascending.bounded old among)
  · intro old among
    rw [flat] at among
    rcases List.mem_append.mp among with before | single
    · exact Nat.le_trans (ascending.bounded old before) (by omega)
    · rw [List.mem_singleton.mp single]

theorem lastRecord_add (bound : index < chunks.length) :
    lastRecord (chunks.modify index (· ++ [record])) index = some record := by
  simp [lastRecord, bound]

end Chunks

section Files

variable {json : TranscriptJson Payload} {store : TranscriptStore} {sessionId : String}
  {files left : SessionFiles Payload} {chunks : List (List (TranscriptRecord Payload))}
  {record : TranscriptRecord Payload} {tree : FileTree}

def SessionFiles.lastEventSeq (files : SessionFiles Payload) : Nat :=
  match files.manifest with
  | .whole mark => mark.lastEventSeq
  | _ => 0

/-- Whatever can be replayed of the files is in order, and the next number follows it. -/
def Increasing (json : TranscriptJson Payload) (files : SessionFiles Payload) : Prop :=
  (∀ bytes, files.manifest ≠ .torn bytes) → ∀ chunks, files.Holds json chunks →
    Ascending (highest files.lastEventSeq (lastRecord chunks files.active)) files.active chunks

theorem lastEventSeq_recovered (mark : Mark) (tail : Option (TranscriptRecord Payload)) :
    (mark.recovered tail).lastEventSeq = highest mark.lastEventSeq tail := by
  cases tail with
  | none => simp [Mark.recovered, highest]
  | some record =>
    simp only [Mark.recovered, highest, Option.map_some, Option.getD_some]
    split
    next newer => exact (Nat.max_eq_right (Nat.le_of_lt newer)).symm
    next older => exact (Nat.max_eq_left (Nat.le_of_not_lt older)).symm

theorem lastEventSeq_of_mark {timestamp : String} {mark : Mark}
    (marked : files.mark timestamp = some mark) : files.lastEventSeq = mark.lastEventSeq := by
  unfold SessionFiles.mark at marked
  unfold SessionFiles.lastEventSeq
  cases text : files.manifest <;> rw [text] at marked
  case torn => simp at marked
  all_goals rw [← Option.some.inj marked]

theorem tail_of_holds (holds : files.Holds json chunks) {index : Nat}
    {tail : Option (TranscriptRecord Payload)} (tailed : files.EndsWith json index tail) :
    tail = lastRecord chunks index := by
  have entry := holds.getElem index
  apply Option.map_injective complete_injective
  rw [← tailed, SessionFiles.lastLine, lastRecord]
  cases there : files.segments[index]? with
  | none =>
    rw [there] at entry
    cases found : chunks[index]? with
    | none => rfl
    | some records => simp [found] at entry
  | some text =>
    rw [there] at entry
    cases found : chunks[index]? with
    | none => simp [found] at entry
    | some records =>
      simp only [found, Option.map_some, Option.some.injEq] at entry
      simp [entry, List.getLast?_map]

theorem activeSegmentPath_eq (stored : Stored json store sessionId files tree)
    (wellFormed : files.WellFormed json sessionId) :
    activeSegmentPath json store tree sessionId = segmentPath store sessionId files.active := by
  have first : segmentPath store sessionId 0 = store.segmentsRoot sessionId ++ [firstSegmentFile] := by
    rw [segmentPath, ← segmentName_one]
  unfold activeSegmentPath SessionFiles.active
  rw [stored.manifest]
  cases text : files.manifest with
  | missing => simp [ManifestText.node, first]
  | torn bytes => simp [ManifestText.node, wellFormed.torn bytes text, first]
  | whole mark =>
    simp [ManifestText.node, json.manifest.roundTrip, Mark.manifest, segmentPath]

section Steps

variable {mark : Mark} {tail : Option (TranscriptRecord Payload)}

theorem highest_mono {less more : Nat} (most : less ≤ more)
    (tail : Option (TranscriptRecord Payload)) : highest less tail ≤ highest more tail := by
  unfold highest
  omega

theorem lastEventSeq_grows (whole : files.lastEventSeq = mark.lastEventSeq) :
    files.lastEventSeq ≤ (files.recovered mark tail).lastEventSeq := by
  cases tail with
  | none => exact Nat.le_refl _
  | some record =>
    simp only [SessionFiles.recovered]
    split
    · simp only [SessionFiles.lastEventSeq, SessionFiles.withManifest] at whole ⊢
      rw [whole, lastEventSeq_recovered, highest]
      omega
    · exact Nat.le_refl _

theorem Increasing.recovered (increasing : Increasing json files) {timestamp : String}
    (marked : files.mark timestamp = some mark) : Increasing json (files.recovered mark tail) := by
  intro _ chunks holds
  rw [recovered_active (active_of_mark marked)]
  have before := increasing (not_torn_of_mark marked) chunks (holds_recovered.mp holds)
  exact before.mono (highest_mono (lastEventSeq_grows (lastEventSeq_of_mark marked)) _)

theorem Increasing.ensure (increasing : Increasing json files) (index : Nat) :
    Increasing json (files.ensure index) := by
  intro whole chunks holds
  obtain ⟨earlier, held, rfl⟩ := holds_ensure.mp holds
  have empty : ∀ records ∈ if files.segments.length ≤ index then
      [([] : List (TranscriptRecord Payload))] else [], records = [] := by
    intro records among
    split at among <;> simp_all
  have active : (files.ensure index).active = files.active := by simp [SessionFiles.active]
  have last : (files.ensure index).lastEventSeq = files.lastEventSeq := by
    simp [SessionFiles.lastEventSeq]
  rw [active, last, lastRecord_addEmpty empty]
  exact (increasing (by simpa using whole) earlier held).addEmpty empty

namespace Plan

variable (plan : Plan json files record)

theorem increasing_opened (increasing : Increasing json files) : Increasing json plan.opened :=
  ((increasing.recovered plan.marked).ensure _).ensure _

theorem ascending_opened (increasing : Increasing json files)
    (holds : plan.opened.Holds json chunks) :
    Ascending (plan.mark.recovered plan.tail).lastEventSeq plan.mark.active chunks := by
  obtain ⟨earlier, held, rfl⟩ := plan.holds_opened.mp holds
  have before := increasing (not_torn_of_mark plan.marked) earlier held
  have tailed := plan.tailed
  rw [active_of_mark plan.marked, lastEventSeq_of_mark plan.marked, ← tail_of_holds held tailed,
    ← lastEventSeq_recovered] at before
  exact before.addEmpty plan.added_empty

theorem ascending_written (increasing : Increasing json files)
    (wellFormed : files.WellFormed json sessionId) (holds : plan.written.Holds json chunks) :
    Ascending plan.nextRecord.eventSeq plan.index chunks ∧
      lastRecord chunks plan.index = some plan.nextRecord := by
  obtain ⟨earlier, text, held, _, _, rfl⟩ := (plan.holds_written wellFormed).mp holds
  have bound := (plan.opened_bounds wellFormed).1
  rw [held.length] at bound
  exact ⟨(plan.ascending_opened increasing held).add plan.chosen bound rfl, lastRecord_add bound⟩

theorem increasing_ended (increasing : Increasing json files)
    (wellFormed : files.WellFormed json sessionId) (same : plan.index = plan.mark.active)
    {left : SessionFiles Payload} (manifest : left.manifest = plan.opened.manifest)
    (written : ∀ chunks, left.Holds json chunks → plan.written.Holds json chunks) :
    Increasing json left := by
  intro _ chunks holds
  obtain ⟨ascending, last⟩ := plan.ascending_written increasing wellFormed (written chunks holds)
  have active : left.active = plan.index := by
    rw [same, ← plan.active_recovered]
    simp [SessionFiles.active, manifest, opened]
  rw [active, last]
  exact ascending.mono (Nat.le_max_right _ _)

theorem increasing_committed (increasing : Increasing json files)
    (wellFormed : files.WellFormed json sessionId) : Increasing json plan.committed := by
  intro _ chunks holds
  obtain ⟨ascending, _⟩ := plan.ascending_written increasing wellFormed holds
  exact ascending.mono (Nat.le_max_left _ _)

end Plan

theorem Increasing.interrupted (increasing : Increasing json files) {step : FileStep}
    (stored : Stored json store record.sessionId files tree)
    (wellFormed : files.WellFormed json record.sessionId)
    (interrupted : Interrupted json store files record step left)
    (clean : EndedInActive json store tree (.append record) step) : Increasing json left := by
  have path := activeSegmentPath_eq stored wellFormed
  cases interrupted with
  | preparing => exact increasing
  | tearing plan before earlier bytes torn count short lost =>
    intro whole
    exact absurd rfl (whole torn)
  | recovering plan => exact increasing.recovered plan.marked
  | creating plan => exact (increasing.recovered plan.marked).ensure _
  | opening plan => exact plan.increasing_opened increasing
  | writing plan count begun bounded =>
    intro whole chunks holds
    have full := (plan.holds_writing wellFormed holds).1
    have same : plan.index = plan.mark.active := by
      rw [← active_of_mark plan.marked]
      exact segmentPath_injective store record.sessionId ((clean full).trans path)
    refine plan.increasing_ended increasing wellFormed same ?_ ?_ whole chunks holds
    · simp [Plan.writing]
    · exact fun _ held => (plan.holds_writing wellFormed held).2
  | ending plan =>
    have same : plan.index = plan.mark.active := by
      rw [← active_of_mark plan.marked]
      exact segmentPath_injective store record.sessionId ((clean rfl).trans path)
    refine plan.increasing_ended increasing wellFormed same ?_ fun _ held => held
    simp [Plan.written]
  | committing plan => exact plan.increasing_committed increasing wellFormed

theorem increasing_kept (json : TranscriptJson Payload) (store : TranscriptStore) :
    SessionInvariant json store (EndedInActive json store) fun files _ => Increasing json files where
  initial := by
    intro _ chunks holds
    have nothing : chunks = [] := by
      simpa [SessionFiles.Holds, SessionFiles.empty] using holds
    rw [nothing]
    constructor <;> simp
  settled := by
    intro files left request result acknowledged wellFormed increasing settled
    cases settled with
    | failed => exact increasing
    | appended plan => exact plan.increasing_committed increasing wellFormed
    | recovered sessionId whole => exact increasing.recovered (mark_of_whole whole "")
    | kept => exact increasing
  stopped := by
    intro tree files left request step acknowledged stored wellFormed increasing clean stopped
    cases stopped with
    | appending interrupted => exact increasing.interrupted stored wellFormed interrupted clean
    | tearing sessionId bytes torn count short lost =>
      intro whole
      exact absurd rfl (whole torn)
    | recovering sessionId step whole => exact increasing.recovered (mark_of_whole whole "")
    | kept => exact increasing

end Steps

end Files

/-- What is replayed of a session is in ascending order of its numbers, each of them given
once, unless a crash came between a record in a fresh segment and the manifest. -/
theorem replayed_ascending (json : TranscriptJson Payload) (store : TranscriptStore)
    {events : List (Event Payload)} {history : History Payload}
    (clean : Meets (historyStep json store) (CutsMeet json store (EndedInActive json store))
      .start events)
    (ran : run (historyStep json store) .start events = some history)
    {sessionId : String} {after : Option Nat} {records : List (TranscriptRecord Payload)}
    (replayed : ((TranscriptStore.replay json store sessionId after).run history.tree).result =
      .ok records) :
    (records.map TranscriptRecord.eventSeq).Pairwise (· < ·) := by
  have sessions := sessions_run (increasing_kept json store) clean ran
  obtain ⟨files, stored, wellFormed, increasing⟩ := sessions sessionId
  rw [List.pairwise_map]
  rcases replay_ok stored wellFormed replayed with rfl | ⟨mark, chunks, whole, holds, rfl⟩
  · exact List.Pairwise.nil
  · have ascending := increasing (by simp [whole]) chunks holds
    exact ascending.sorted.filter _

theorem replayed_ascending_witness : ∃ history records,
    run (historyStep nullPayloads (.new [])) .start cutThenServed = some history ∧
    ((TranscriptStore.replay nullPayloads (.new []) "sess_1" none).run history.tree).result =
        .ok records ∧
    (records.map TranscriptRecord.eventSeq).Pairwise (· < ·) := by
  obtain ⟨history, ran⟩ : ∃ history,
      run (historyStep nullPayloads (.new [])) .start cutThenServed = some history := ⟨_, rfl⟩
  have sessions := sessions_run (durable_kept nullPayloads (.new []))
    (meets_cutThenServed fun _ => trivial) ran
  obtain ⟨files, stored, wellFormed, durable⟩ := sessions "sess_1"
  obtain ⟨records, replayed, _⟩ := durable.replays stored wellFormed
  exact ⟨history, records, ran, replayed, replayed_ascending nullPayloads (.new [])
    (meets_cutThenServed fun _ => trivial) ran replayed⟩

/-- A session whose first record outgrows a segment: the record is written to the second
segment, and written there again with the same number when the manifest was not. -/
theorem first_record_repeats {json : TranscriptJson Payload} {store : TranscriptStore}
    {record : TranscriptRecord Payload}
    (outgrown : store.segmentMaxBytes < (json.record.toVec
      (numbered (.newEmpty record.sessionId record.timestamp) record)).length + 1) :
    ∃ steps history first second, run (historyStep json store) .start
      [.interrupted (.append record) steps, .served (.append record)] = some history ∧
      ((TranscriptStore.replay json store record.sessionId none).run history.tree).result =
          .ok [first, second] ∧
      first.eventSeq = second.eventSeq := by
  have wellFormed := wellFormed_empty json record.sessionId
  have marked : (SessionFiles.empty : SessionFiles Payload).mark record.timestamp =
      some ⟨0, 0, 0, record.timestamp⟩ := rfl
  have tailed : SessionFiles.EndsWith json .empty 0 none := rfl
  let plan : Plan json .empty record := .of store marked tailed
  have second : plan.index = 1 := by
    rw [first_index, if_pos]
    rw [newEmpty_eq] at outgrown
    exact outgrown
  have reaches := append_reaches_ending (stored_empty json store record.sessionId) wellFormed
    (by simp [SessionFiles.Unreadable, SessionFiles.empty]) marked tailed
  obtain ⟨steps, cut, stepped, _, stored⟩ := interrupted_of_reaches .start reaches
  have formed : plan.written.WellFormed json record.sessionId := plan.written_wellFormed wellFormed
  have missing : plan.written.manifest = .missing := by
    rw [Plan.written, SessionFiles.manifest_update, Plan.opened, SessionFiles.manifest_ensure,
      SessionFiles.manifest_ensure]
    rfl
  have segments : plan.written.segments =
      [.empty, ⟨[[json.record.complete plan.nextRecord]], []⟩] := by
    rw [Plan.written, SessionFiles.segments_update, Plan.opened, second]
    rfl
  have holds : plan.written.Holds json [[], [plan.nextRecord]] := by
    rw [SessionFiles.Holds, segments]
    rfl
  -- The manifest is still missing, and the first segment is empty: nothing tells the next
  -- append of the record in the second one.
  obtain ⟨again, appended, kept⟩ : ∃ again : Plan json plan.written record,
      ((append json store record).run cut.tree).result = .ok again.nextRecord ∧
        Stored json store record.sessionId again.committed
          ((append json store record).run cut.tree).final := by
    rcases (append_establishes stored formed).1 with failed | appended
    · obtain ⟨_, _, _, unmarked | unreadable⟩ := failed
      · obtain ⟨bytes, torn⟩ := torn_of_unmarked unmarked
        exact absurd (missing.symm.trans torn) (by simp)
      · exact absurd unreadable (not_unreadable_of_holds holds)
    · exact appended
  have fresh : again.mark = ⟨0, 0, 0, record.timestamp⟩ := by
    have found := again.marked
    rw [SessionFiles.mark, missing] at found
    exact (Option.some.inj found).symm
  have nothing : again.tail = none := by
    rw [tail_of_holds holds again.tailed, fresh]
    rfl
  have same : again.nextRecord.eventSeq = plan.nextRecord.eventSeq := by
    simp only [Plan.nextRecord, fresh, nothing]
    rfl
  have near : again.index ≤ 1 := by
    rcases again.chosen with first | following <;> simp_all
  have kind : again.opened.segments = plan.written.segments := by
    rw [Plan.opened, SessionFiles.segments_ensure, SessionFiles.segments_ensure,
      segments_recovered, fresh, segments]
    simp
    omega
  have opened : again.opened.Holds json [[], [plan.nextRecord]] := by
    rw [SessionFiles.Holds, kind]
    exact holds
  obtain ⟨text, there⟩ := again.target formed
  have pending : text.pending = [] := by
    have among := List.mem_of_getElem? there
    rw [kind, segments] at among
    rcases List.mem_pair.mp among with rfl | rfl <;> rfl
  have left := (again.holds_written formed).mpr ⟨_, text, opened, there, pending, rfl⟩
  have replayed := replay_whole kept (again.committed_wellFormed formed) rfl left none
  rw [filter_isAfter_none] at replayed
  have ran : run (historyStep json store) .start
      [.interrupted (.append record) steps, .served (.append record)] = some
        ⟨((append json store record).run cut.tree).final,
          cut.acknowledged ++ acknowledgement ((serve json store (.append record)).run
            cut.tree).result⟩ := by
    rw [run, stepped]
    rfl
  have result := congrArg Outcome.result replayed
  rcases again.chosen with first | following
  · refine ⟨steps, _, again.nextRecord, plan.nextRecord, ran, ?_, same⟩
    simpa [first, fresh] using result
  · refine ⟨steps, _, plan.nextRecord, again.nextRecord, ran, ?_, same.symm⟩
    simpa [following, fresh] using result

theorem numbers_repeat : ∃ steps history first second,
    run (historyStep nullPayloads (.withSegmentMaxBytes [] 1)) .start
      [.interrupted (.append userMessage) steps, .served (.append userMessage)] = some history ∧
    ((TranscriptStore.replay nullPayloads (.withSegmentMaxBytes [] 1) "sess_1" none).run
        history.tree).result =
      .ok [first, second] ∧
    first.eventSeq = second.eventSeq := by
  apply first_record_repeats
  have limit : (TranscriptStore.withSegmentMaxBytes [] 1).segmentMaxBytes = 1 := rfl
  have long := userMessage_length.1
  rw [numbered_userMessage, limit]
  omega

end OpenJax.Transcript
