import OpenJax.Transcript.Service

set_option autoImplicit false

namespace OpenJax.Transcript

open Shared TranscriptStore

section

variable {Payload : Type} {json : TranscriptJson Payload} {sessionId : String}
  {files : SessionFiles Payload} {chunks : List (List (TranscriptRecord Payload))}

theorem complete_injective : Function.Injective fun record => [json.record.complete record] := by
  intro first second same
  simpa [ObjectCodec.complete] using congrArg (fun line => line.head?.map Piece.value) same

theorem SessionFiles.Holds.getElem (holds : files.Holds json chunks) (index : Nat) :
    files.segments[index]?.map SegmentText.lines =
      chunks[index]?.map fun records => records.map fun record => [json.record.complete record] := by
  have entry := congrArg (fun list => list[index]?) holds
  simpa using entry

theorem SessionFiles.Holds.length (holds : files.Holds json chunks) :
    files.segments.length = chunks.length := by
  simpa using congrArg List.length holds

variable {text : SegmentText Payload} {piece : Piece (TranscriptRecord Payload)}

theorem readable_addPiece {records : List (TranscriptRecord Payload)} :
    (text.addPiece piece).Readable json.record records ↔
      ∃ earlier, text.Readable json.record earlier ∧ text.pending = [] ∧
        piece = json.record.complete piece.value ∧ records = earlier ++ [piece.value] := by
  unfold SegmentText.Readable
  rw [SegmentText.lines_addPiece]
  constructor
  · intro lines
    rcases records.eq_nil_or_concat with empty | ⟨earlier, last, rfl⟩
    · simp [empty] at lines
    · rw [List.concat_eq_append, List.map_append] at lines
      obtain ⟨closed, open'⟩ := List.append_inj' lines rfl
      have single : text.pending ++ [piece] = [] ++ [json.record.complete last] := by
        simpa using open'
      obtain ⟨pending, here⟩ := List.append_inj' single rfl
      have whole : piece = json.record.complete last := by simpa using here
      refine ⟨earlier, ?_, pending, ?_, ?_⟩
      · simpa [SegmentText.lines, pending] using closed
      · rw [whole]
        rfl
      · rw [List.concat_eq_append, whole]
        rfl
  · rintro ⟨earlier, lines, pending, whole, same⟩
    have closed : text.closed = earlier.map fun record => [json.record.complete record] := by
      simpa [SegmentText.lines, pending] using lines
    rw [same, List.map_append, closed, pending, List.nil_append, whole]
    rfl

theorem holds_ensure {index : Nat} :
    (files.ensure index).Holds json chunks ↔
      ∃ earlier, files.Holds json earlier ∧
        chunks = earlier ++ if files.segments.length ≤ index then [[]] else [] := by
  unfold SessionFiles.Holds
  rw [SessionFiles.segments_ensure]
  by_cases grows : files.segments.length ≤ index
  · simp only [grows, if_true, List.map_append, List.map_cons, List.map_nil,
      SegmentText.lines_empty]
    constructor
    · intro lines
      rcases chunks.eq_nil_or_concat with empty | ⟨earlier, last, rfl⟩
      · simp [empty] at lines
      · rw [List.concat_eq_append, List.map_append] at lines
        obtain ⟨front, back⟩ := List.append_inj' lines rfl
        have nothing : last = [] := by simpa using back
        exact ⟨earlier, front, by simp [nothing]⟩
    · rintro ⟨earlier, lines, same⟩
      simp [same, lines]
  · simp only [grows, if_false, List.append_nil]
    constructor
    · exact fun lines => ⟨chunks, lines, rfl⟩
    · rintro ⟨earlier, lines, same⟩
      rw [same]
      exact lines

theorem modify_middle {α : Type} (front : List α) (middle : α) (back : List α) (change : α → α) :
    (front ++ middle :: back).modify front.length change = front ++ change middle :: back := by
  induction front with
  | nil => simp
  | cons first rest ih => simp [ih]

theorem split_at {α : Type} {list : List α} {index : Nat} {item : α}
    (there : list[index]? = some item) :
    ∃ front back, list = front ++ item :: back ∧ front.length = index := by
  obtain ⟨bound, rfl⟩ := List.getElem?_eq_some_iff.mp there
  refine ⟨list.take index, list.drop (index + 1), ?_, ?_⟩
  · rw [← List.drop_eq_getElem_cons bound, List.take_append_drop]
  · rw [List.length_take]
    omega

theorem holds_middle {front back : List (SegmentText Payload)} {manifest : ManifestText} :
    (⟨manifest, front ++ text :: back⟩ : SessionFiles Payload).Holds json chunks ↔
      ∃ first records last, chunks = first ++ records :: last ∧
        (⟨manifest, front⟩ : SessionFiles Payload).Holds json first ∧
        text.Readable json.record records ∧
        (⟨manifest, back⟩ : SessionFiles Payload).Holds json last := by
  unfold SessionFiles.Holds SegmentText.Readable
  constructor
  · intro lines
    rw [List.map_append, List.map_cons] at lines
    obtain ⟨first, others, rfl, here, rest⟩ := List.append_eq_map_iff.mp lines
    obtain ⟨records, last, rfl, middle, behind⟩ := List.map_eq_cons_iff.mp rest
    exact ⟨first, records, last, rfl, here.symm, middle.symm, behind.symm⟩
  · rintro ⟨first, records, last, same, here, middle, behind⟩
    simp [same, here, middle, behind]

theorem holds_update {index : Nat} (there : files.segments[index]? = some text)
    {change : SegmentText Payload → SegmentText Payload}
    (lines : (change text).lines = (text.addPiece piece).lines) :
    (files.update index change).Holds json chunks ↔
      ∃ earlier, files.Holds json earlier ∧ text.pending = [] ∧
        piece = json.record.complete piece.value ∧
        chunks = earlier.modify index (· ++ [piece.value]) := by
  obtain ⟨manifest, segments⟩ := files
  obtain ⟨front, back, rfl, rfl⟩ := split_at there
  rw [SessionFiles.update, modify_middle, holds_middle]
  have readable (records : List (TranscriptRecord Payload)) :
      (change text).Readable json.record records ↔
        (text.addPiece piece).Readable json.record records := by
    rw [SegmentText.Readable, SegmentText.Readable, lines]
  simp only [readable, readable_addPiece]
  constructor
  · rintro ⟨first, records, last, same, before, middle, behind⟩
    obtain ⟨earlier, held, pending, whole, grown⟩ := middle
    refine ⟨first ++ earlier :: last, ?_, pending, whole, ?_⟩
    · exact holds_middle.mpr ⟨first, earlier, last, rfl, before, held, behind⟩
    · rw [same, grown, before.length, modify_middle]
  · rintro ⟨earlier, holds, pending, whole, same⟩
    obtain ⟨first, records, last, rfl, before, held, behind⟩ := holds_middle.mp holds
    refine ⟨first, records ++ [piece.value], last, ?_, before, ?_, behind⟩
    · rw [same, before.length, modify_middle]
    · exact ⟨records, held, pending, whole, rfl⟩

theorem holds_recovered {mark : Mark} {tail : Option (TranscriptRecord Payload)} :
    (files.recovered mark tail).Holds json chunks ↔ files.Holds json chunks := by
  rw [SessionFiles.Holds, segments_recovered]
  rfl

theorem not_unreadable_of_holds (holds : files.Holds json chunks) : ¬ files.Unreadable json := by
  rintro ⟨text, among, bad⟩
  have lines : text.lines ∈ files.segments.map SegmentText.lines := List.mem_map_of_mem among
  rw [holds] at lines
  obtain ⟨records, _, same⟩ := List.mem_map.mp lines
  exact bad records same.symm

namespace Plan

variable {record : TranscriptRecord Payload} (plan : Plan json files record)

def added : List (List (TranscriptRecord Payload)) :=
  (if files.segments.length ≤ plan.mark.active then [[]] else []) ++
    if ((files.recovered plan.mark plan.tail).ensure plan.mark.active).segments.length ≤ plan.index
    then [[]] else []

theorem added_empty : ∀ records ∈ plan.added, records = [] := by
  intro records among
  rcases List.mem_append.mp among with first | second
  · split at first <;> simp_all
  · split at second <;> simp_all

theorem holds_ensured : ((files.recovered plan.mark plan.tail).ensure plan.mark.active).Holds json
    chunks ↔ ∃ earlier, files.Holds json earlier ∧
      chunks = earlier ++ if files.segments.length ≤ plan.mark.active then [[]] else [] := by
  rw [holds_ensure]
  simp only [holds_recovered, segments_recovered]

theorem holds_opened : plan.opened.Holds json chunks ↔
    ∃ earlier, files.Holds json earlier ∧ chunks = earlier ++ plan.added := by
  rw [opened, holds_ensure]
  simp only [holds_ensured]
  constructor
  · rintro ⟨middle, ⟨earlier, holds, first⟩, second⟩
    exact ⟨earlier, holds, by rw [second, first, added, List.append_assoc]⟩
  · rintro ⟨earlier, holds, same⟩
    exact ⟨_, ⟨earlier, holds, rfl⟩, by rw [same, added, List.append_assoc]⟩

theorem target (wellFormed : files.WellFormed json sessionId) :
    ∃ text, plan.opened.segments[plan.index]? = some text :=
  ⟨_, List.getElem?_eq_getElem (plan.opened_bounds wellFormed).1⟩

theorem holds_written (wellFormed : files.WellFormed json sessionId) :
    plan.written.Holds json chunks ↔ ∃ earlier text, plan.opened.Holds json earlier ∧
      plan.opened.segments[plan.index]? = some text ∧ text.pending = [] ∧
      chunks = earlier.modify plan.index (· ++ [plan.nextRecord]) := by
  obtain ⟨text, there⟩ := plan.target wellFormed
  rw [written, holds_update there (SegmentText.lines_addPiece_endLine _)]
  constructor
  · rintro ⟨earlier, holds, pending, _, same⟩
    exact ⟨earlier, text, holds, there, pending, same⟩
  · rintro ⟨earlier, other, holds, found, pending, same⟩
    cases there.symm.trans found
    exact ⟨earlier, holds, pending, rfl, same⟩

theorem holds_writing (wellFormed : files.WellFormed json sessionId) {count : Nat}
    (holds : (plan.writing count).Holds json chunks) :
    count = (json.record.toVec plan.nextRecord).length ∧ plan.written.Holds json chunks := by
  obtain ⟨text, there⟩ := plan.target wellFormed
  obtain ⟨earlier, held, pending, whole, same⟩ := (holds_update there rfl).mp holds
  have size := congrArg Piece.size whole
  exact ⟨size, (plan.holds_written wellFormed).mpr ⟨earlier, text, held, there, pending, same⟩⟩

end Plan

end

section

variable {Payload : Type} {json : TranscriptJson Payload} {store : TranscriptStore}
  {sessionId : String} {files : SessionFiles Payload} {tree : FileTree}

section Records

variable (stored : Stored json store sessionId files tree) (ready : Ready store sessionId tree)
  {index : Nat} (below : index < files.segments.length) (record : TranscriptRecord Payload)
include stored ready below

theorem reaches_writing {count : Nat} (begun : 0 < count)
    (bounded : count ≤ (json.record.toVec record).length) :
    (writeRecord (segmentPath store sessionId index) (json.record.toVec record)).Reaches tree
      (.extend (segmentPath store sessionId index) (json.record.toVec record) count)
      (Stored json store sessionId (files.update index (.addPiece ⟨record, count⟩))) := by
  obtain ⟨text, there, found⟩ := stored.segment_there below
  apply Program.reaches_bind_of_value (withContext_run_of_value (openAppend_run found))
  apply Program.Reaches.bind
  apply Program.Reaches.mapError
  apply (reaches_writeAll found begun bounded).mono
  intro next same
  rw [same]
  exact stored.extend ready there (SegmentText.bytes_addPiece _)

theorem reaches_ending :
    (writeRecord (segmentPath store sessionId index) (json.record.toVec record)).Reaches tree
      (.extend (segmentPath store sessionId index) [lineFeed] 1)
      (Stored json store sessionId (files.update index fun text =>
        (text.addPiece (json.record.complete record)).endLine)) := by
  obtain ⟨text, there, found⟩ := stored.segment_there below
  apply Program.reaches_bind_of_value (withContext_run_of_value (openAppend_run found))
  apply (returns_writeAll found (json.record.toVec_ne_nil record)).mapError.reaches_bind
  intro _ middle same
  subst same
  apply Program.Reaches.mapError
  apply (reaches_writeAll (FileTree.lookup_insert_self _ _ _) Nat.one_pos (by simp)).mono
  intro next same
  rw [same]
  exact stored.extendLine ready there record

end Records

section Appends

variable {record : TranscriptRecord Payload} {mark : Mark}
  {tail : Option (TranscriptRecord Payload)}

theorem append_reaches (stored : Stored json store record.sessionId files tree)
    (wellFormed : files.WellFormed json record.sessionId)
    (readable : ¬ files.Unreadable json) (marked : files.mark record.timestamp = some mark)
    (tailed : files.EndsWith json mark.active tail) {step : FileStep} {kind : FileTree → Prop}
    (writes : ∀ next, let plan := Plan.of store marked tailed
      Stored json store record.sessionId plan.opened next → Ready store record.sessionId next →
      (writeRecord (segmentPath store record.sessionId plan.index)
        (json.record.toVec plan.nextRecord)).Reaches next step kind) :
    (append json store record).Reaches tree step kind := by
  let plan : Plan json files record := .of store marked tailed
  have bounds := wellFormed.mark_bounds marked
  apply (returns_createDirAll stored.clear).mapError.reaches_bind
  intro _ tree reached
  have stored := stored.opened reached.1
  have ready : Ready store record.sessionId tree := reached.2
  have loaded : (loadOrCreateManifest json (store.manifestPath record.sessionId) record).run tree =
      ⟨.ok (mark.manifest record.sessionId), tree, []⟩ := by
    rcases loadOrCreateManifest_run stored wellFormed with ⟨other, found, loads⟩ | failed
    · cases found.symm.trans marked
      exact loads
    · simp [failed.1] at marked
  apply Program.reaches_bind_of_value loaded
  rcases recoverManifest_spec stored wellFormed ready mark with failed | ⟨other, ends, recovers⟩
  · exact absurd failed.1 readable
  have same : tail = other := by
    have lines := tailed.symm.trans ends
    exact Option.map_injective complete_injective lines
  subst same
  apply recovers.reaches_bind
  intro recovered tree reached
  obtain ⟨manifest, warnings⟩ := recovered
  obtain ⟨rfl, stored, ready⟩ := reached
  have least : (mark.recovered tail).active ≤ (files.recovered mark tail).segments.length := by
    simpa using bounds.1
  apply (returns_rotate stored ready (mark.recovered tail) least).reaches_bind
  intro rotated tree reached
  obtain ⟨rfl, stored, ready⟩ := reached
  have chosen := chooseSegment_run stored (mark.recovered tail)
    ((json.record.toVec plan.nextRecord).length + 1)
  rw [active_recovered] at stored chosen
  apply Program.reaches_bind_of_value chosen
  have again := returns_rotate stored ready
    { mark.recovered tail with active := plan.index } (plan.ensured_length wellFormed)
  apply again.reaches_bind
  intro result tree reached
  obtain ⟨rfl, stored, ready⟩ := reached
  exact (writes tree stored ready).bind

theorem append_reaches_writing (stored : Stored json store record.sessionId files tree)
    (wellFormed : files.WellFormed json record.sessionId)
    (readable : ¬ files.Unreadable json) (marked : files.mark record.timestamp = some mark)
    (tailed : files.EndsWith json mark.active tail) {count : Nat} (begun : 0 < count)
    (bounded : count ≤ (json.record.toVec (Plan.of store marked tailed).nextRecord).length) :
    (append json store record).Reaches tree
      (.extend (segmentPath store record.sessionId (Plan.of store marked tailed).index)
        (json.record.toVec (Plan.of store marked tailed).nextRecord) count)
      (Stored json store record.sessionId ((Plan.of store marked tailed).writing count)) := by
  apply append_reaches stored wellFormed readable marked tailed
  intro next plan stored ready
  exact reaches_writing stored ready (plan.opened_bounds wellFormed).1 plan.nextRecord begun bounded

theorem append_reaches_ending (stored : Stored json store record.sessionId files tree)
    (wellFormed : files.WellFormed json record.sessionId)
    (readable : ¬ files.Unreadable json) (marked : files.mark record.timestamp = some mark)
    (tailed : files.EndsWith json mark.active tail) :
    (append json store record).Reaches tree
      (.extend (segmentPath store record.sessionId (Plan.of store marked tailed).index)
        [lineFeed] 1)
      (Stored json store record.sessionId (Plan.of store marked tailed).written) := by
  apply append_reaches stored wellFormed readable marked tailed
  intro next plan stored ready
  exact reaches_ending stored ready (plan.opened_bounds wellFormed).1 plan.nextRecord

theorem interrupted_of_reaches (history : History Payload) {step : FileStep}
    {kind : FileTree → Prop} (reaches : (append json store record).Reaches history.tree step kind) :
    ∃ steps left, historyStep json store history (.interrupted (.append record) steps) =
      some left ∧ left.acknowledged = history.acknowledged ∧ kind left.tree := by
  have served : (serve json store (.append record)).Reaches history.tree step kind := reaches.map
  obtain ⟨steps, next, stop, holds⟩ := served.stoppedAfter
  exact ⟨steps, ⟨next, history.acknowledged⟩, by simp [historyStep, stop], rfl, holds⟩

theorem first_index (store : TranscriptStore) (record : TranscriptRecord Payload)
    (marked : (SessionFiles.empty : SessionFiles Payload).mark record.timestamp = some mark)
    (tailed : SessionFiles.EndsWith json .empty mark.active none) :
    (Plan.of store marked tailed).index =
      if (json.record.toVec (Plan.of store marked tailed).nextRecord).length + 1 >
        store.segmentMaxBytes then 1 else 0 := by
  have fresh : mark.active = 0 := (active_of_mark marked).symm
  simp only [Plan.of, Plan.nextRecord, SessionFiles.outgrown, SessionFiles.segments_ensure, fresh]
  simp [SessionFiles.recovered, SessionFiles.empty]

end Appends

end

end OpenJax.Transcript
