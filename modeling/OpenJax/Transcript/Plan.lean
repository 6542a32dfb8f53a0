import OpenJax.Transcript.SessionFiles

set_option autoImplicit false

namespace OpenJax.Transcript

open Shared TranscriptStore

variable {Payload : Type}

namespace SessionFiles

def mark (files : SessionFiles Payload) (timestamp : String) : Option Mark :=
  match files.manifest with
  | .missing => some ⟨0, 0, 0, timestamp⟩
  | .torn _ => none
  | .whole mark => some mark

def lastLine (files : SessionFiles Payload) (index : Nat) :
    Option (List (Piece (TranscriptRecord Payload))) :=
  files.segments[index]?.bind fun text => text.lines.getLast?

def EndsWith (json : TranscriptJson Payload) (files : SessionFiles Payload) (index : Nat)
    (tail : Option (TranscriptRecord Payload)) : Prop :=
  files.lastLine index = tail.map fun record => [json.record.complete record]

def outgrown (json : TranscriptJson Payload) (store : TranscriptStore)
    (files : SessionFiles Payload) (index size : Nat) : Bool :=
  match files.segments[index]? with
  | none => false
  | some text => decide ((text.bytes json.record).length + size > store.segmentMaxBytes)

def Unreadable (json : TranscriptJson Payload) (files : SessionFiles Payload) : Prop :=
  ∃ text ∈ files.segments, ∀ records, ¬ text.Readable json.record records

end SessionFiles

def Mark.recovered (mark : Mark) (tail : Option (TranscriptRecord Payload)) : Mark :=
  match tail with
  | none => mark
  | some record =>
      if record.eventSeq > mark.lastEventSeq then
        { mark with
          lastEventSeq := record.eventSeq
          lastTurnSeq := record.turnSeq
          updatedAt := record.timestamp }
      else mark

def SessionFiles.recovered (files : SessionFiles Payload) (mark : Mark)
    (tail : Option (TranscriptRecord Payload)) : SessionFiles Payload :=
  match tail with
  | none => files
  | some record =>
      if record.eventSeq > mark.lastEventSeq then
        files.withManifest (.whole (mark.recovered (some record)))
      else files

structure Plan (json : TranscriptJson Payload) (files : SessionFiles Payload)
    (record : TranscriptRecord Payload) where
  mark : Mark
  tail : Option (TranscriptRecord Payload)
  index : Nat
  marked : files.mark record.timestamp = some mark
  tailed : files.EndsWith json mark.active tail
  chosen : index = mark.active ∨ index = mark.active + 1

namespace Plan

variable {json : TranscriptJson Payload} {files : SessionFiles Payload}
  {record : TranscriptRecord Payload} (plan : Plan json files record)

def nextRecord : TranscriptRecord Payload :=
  numbered ((plan.mark.recovered plan.tail).manifest record.sessionId) record

def opened : SessionFiles Payload :=
  ((files.recovered plan.mark plan.tail).ensure plan.mark.active).ensure plan.index

def writing (count : Nat) : SessionFiles Payload :=
  plan.opened.update plan.index (.addPiece ⟨plan.nextRecord, count⟩)

def written : SessionFiles Payload :=
  plan.opened.update plan.index fun text =>
    (text.addPiece (json.record.complete plan.nextRecord)).endLine

def nextMark : Mark :=
  { lastEventSeq := plan.nextRecord.eventSeq
    lastTurnSeq := plan.nextRecord.turnSeq
    active := plan.index
    updatedAt := plan.nextRecord.timestamp }

def committed : SessionFiles Payload := plan.written.withManifest (.whole plan.nextMark)

end Plan

def Plan.of {json : TranscriptJson Payload} {files : SessionFiles Payload}
    {record : TranscriptRecord Payload} (store : TranscriptStore) {mark : Mark}
    {tail : Option (TranscriptRecord Payload)} (marked : files.mark record.timestamp = some mark)
    (tailed : files.EndsWith json mark.active tail) : Plan json files record where
  mark := mark
  tail := tail
  index :=
    if ((files.recovered mark tail).ensure mark.active).outgrown json store mark.active
        ((json.record.toVec
          (numbered ((mark.recovered tail).manifest record.sessionId) record)).length + 1) then
      mark.active + 1
    else mark.active
  marked := marked
  tailed := tailed
  chosen := by split <;> simp

inductive Interrupted (json : TranscriptJson Payload) (store : TranscriptStore)
    (files : SessionFiles Payload) (record : TranscriptRecord Payload) :
    FileStep → SessionFiles Payload → Prop where
  | preparing (step : FileStep) : Interrupted json store files record step files
  | tearing (plan : Plan json files record) (before : SessionFiles Payload)
      (earlier : before = files ∨ before = plan.written) (bytes torn : Bytes) (count : Nat)
      (short : count < bytes.length) (lost : json.manifest.fromSlice torn = none) :
      Interrupted json store files record
        (.rewrite (store.manifestPath record.sessionId) bytes count)
        (before.withManifest (.torn torn))
  | recovering (plan : Plan json files record) (step : FileStep) :
      Interrupted json store files record step (files.recovered plan.mark plan.tail)
  | creating (plan : Plan json files record) (step : FileStep) :
      Interrupted json store files record step
        ((files.recovered plan.mark plan.tail).ensure plan.mark.active)
  | opening (plan : Plan json files record) (step : FileStep) :
      Interrupted json store files record step plan.opened
  | writing (plan : Plan json files record) (count : Nat) (begun : 0 < count)
      (bounded : count ≤ (json.record.toVec plan.nextRecord).length) :
      Interrupted json store files record
        (.extend (segmentPath store record.sessionId plan.index)
          (json.record.toVec plan.nextRecord) count)
        (plan.writing count)
  | ending (plan : Plan json files record) :
      Interrupted json store files record
        (.extend (segmentPath store record.sessionId plan.index) [lineFeed] 1) plan.written
  | committing (plan : Plan json files record) (step : FileStep) :
      Interrupted json store files record step plan.committed

section WellFormedness

variable {json : TranscriptJson Payload} {store : TranscriptStore} {sessionId : String}
  {record : TranscriptRecord Payload} {files left : SessionFiles Payload}

@[simp] theorem segments_recovered (mark : Mark) (tail : Option (TranscriptRecord Payload)) :
    (files.recovered mark tail).segments = files.segments := by
  cases tail with
  | none => rfl
  | some record =>
    simp only [SessionFiles.recovered]
    split <;> rfl

@[simp] theorem active_recovered (mark : Mark) (tail : Option (TranscriptRecord Payload)) :
    (mark.recovered tail).active = mark.active := by
  cases tail with
  | none => rfl
  | some record =>
    simp only [Mark.recovered]
    split <;> rfl

variable {timestamp : String} {mark : Mark}

theorem SessionFiles.WellFormed.mark_bounds {sessionId : String}
    (wellFormed : files.WellFormed json sessionId) (marked : files.mark timestamp = some mark) :
    mark.active ≤ files.segments.length ∧ files.segments.length ≤ mark.active + 2 := by
  have active := wellFormed.active
  have span := wellFormed.span
  unfold SessionFiles.mark at marked
  unfold SessionFiles.active at span
  cases text : files.manifest with
  | missing =>
    rw [text] at marked span
    cases marked
    exact ⟨Nat.zero_le _, span (by simp)⟩
  | torn bytes => simp [text] at marked
  | whole found =>
    rw [text] at marked span
    obtain rfl := Option.some.inj marked
    exact ⟨Nat.le_of_lt (active found text), span (by simp)⟩

theorem ensure_length (files : SessionFiles Payload) (index : Nat)
    (least : index ≤ files.segments.length) : index < (files.ensure index).segments.length := by
  rw [SessionFiles.segments_ensure, List.length_append]
  split <;> simp <;> omega

theorem active_of_mark (marked : files.mark timestamp = some mark) :
    files.active = mark.active := by
  unfold SessionFiles.mark at marked
  unfold SessionFiles.active
  cases text : files.manifest <;> rw [text] at marked
  case torn => simp at marked
  all_goals
    cases marked
    rfl

theorem not_torn_of_mark (marked : files.mark timestamp = some mark) (bytes : Bytes) :
    files.manifest ≠ .torn bytes := by
  intro torn
  simp [SessionFiles.mark, torn] at marked

theorem SessionFiles.WellFormed.withTorn (wellFormed : files.WellFormed json sessionId)
    {torn : Bytes} (lost : json.manifest.fromSlice torn = none) :
    (files.withManifest (.torn torn)).WellFormed json sessionId where
  segments := wellFormed.segments
  torn := by
    intro bytes same
    cases same
    exact lost
  active := by simp
  span := by
    intro whole
    exact absurd rfl (whole torn)

theorem SessionFiles.WellFormed.withWhole (wellFormed : files.WellFormed json sessionId) (active : mark.active < files.segments.length)
    (span : files.segments.length ≤ mark.active + 2) :
    (files.withManifest (.whole mark)).WellFormed json sessionId where
  segments := wellFormed.segments
  torn := by simp
  active := by
    intro other same
    cases same
    exact active
  span := fun _ => span

theorem SessionFiles.WellFormed.ensure (wellFormed : files.WellFormed json sessionId)
    {index : Nat} (least : index ≤ files.segments.length) (near : index ≤ files.active + 1) :
    (files.ensure index).WellFormed json sessionId where
  segments := by
    intro text among
    rw [segments_ensure] at among
    rcases List.mem_append.mp among with old | new
    · exact wellFormed.segments text old
    · have made : text = .empty := by
        by_contra other
        split at new <;> simp_all
      rw [made]
      exact SegmentText.wellFormed_empty
  torn := by
    intro bytes
    rw [manifest_ensure]
    exact wellFormed.torn bytes
  active := by
    intro mark
    rw [manifest_ensure, segments_ensure, List.length_append]
    intro whole
    have bound := wellFormed.active mark whole
    omega
  span := by
    intro whole
    have same : (files.ensure index).active = files.active := by
      simp [SessionFiles.active]
    rw [same, segments_ensure, List.length_append]
    have span := wellFormed.span (by simpa using whole)
    split <;> simp <;> omega

theorem SessionFiles.WellFormed.update (wellFormed : files.WellFormed json sessionId)
    {index : Nat} {change : SegmentText Payload → SegmentText Payload}
    (kept : ∀ text, text.WellFormed json.record sessionId →
      (change text).WellFormed json.record sessionId) :
    (files.update index change).WellFormed json sessionId where
  segments := by
    intro text among
    obtain ⟨place, bound, rfl⟩ := List.mem_iff_getElem.mp among
    rw [segments_update, List.length_modify] at bound
    simp only [segments_update, List.getElem_modify]
    split
    · exact kept _ (wellFormed.segments _ (List.getElem_mem bound))
    · exact wellFormed.segments _ (List.getElem_mem bound)
  torn := wellFormed.torn
  active := by
    intro mark whole
    rw [segments_update, List.length_modify]
    exact wellFormed.active mark whole
  span := by
    intro whole
    rw [segments_update, List.length_modify]
    exact wellFormed.span whole

namespace Plan

variable (plan : Plan json files record)

theorem active_recovered : (files.recovered plan.mark plan.tail).active = plan.mark.active := by
  cases found : plan.tail with
  | none => exact active_of_mark plan.marked
  | some tail =>
    simp only [SessionFiles.recovered]
    split
    · simp [SessionFiles.active]
    · exact active_of_mark plan.marked

theorem recovered_wellFormed (wellFormed : files.WellFormed json sessionId) :
    (files.recovered plan.mark plan.tail).WellFormed json sessionId := by
  have tailed := plan.tailed
  have bounds := wellFormed.mark_bounds plan.marked
  cases found : plan.tail with
  | none => exact wellFormed
  | some tail =>
    simp only [SessionFiles.recovered]
    split
    · apply wellFormed.withWhole
      · rw [Transcript.active_recovered]
        by_contra beyond
        have nothing : files.segments[plan.mark.active]? = none :=
          List.getElem?_eq_none (Nat.le_of_not_lt beyond)
        simp [found, SessionFiles.EndsWith, SessionFiles.lastLine, nothing] at tailed
      · rw [Transcript.active_recovered]
        exact bounds.2
    · exact wellFormed

theorem recovered_not_torn (bytes : Bytes) :
    (files.recovered plan.mark plan.tail).manifest ≠ .torn bytes := by
  cases plan.tail with
  | none => exact not_torn_of_mark plan.marked bytes
  | some tail =>
    simp only [SessionFiles.recovered]
    split
    · simp
    · exact not_torn_of_mark plan.marked bytes

theorem ensured_wellFormed (wellFormed : files.WellFormed json sessionId) :
    ((files.recovered plan.mark plan.tail).ensure plan.mark.active).WellFormed json sessionId := by
  have bounds := wellFormed.mark_bounds plan.marked
  apply (plan.recovered_wellFormed wellFormed).ensure
  · simpa using bounds.1
  · rw [plan.active_recovered]
    omega

theorem ensured_length (wellFormed : files.WellFormed json sessionId) :
    plan.index ≤
      ((files.recovered plan.mark plan.tail).ensure plan.mark.active).segments.length := by
  have bounds := wellFormed.mark_bounds plan.marked
  have grown := ensure_length (files.recovered plan.mark plan.tail) plan.mark.active
    (by simpa using bounds.1)
  rcases plan.chosen with same | following <;> omega

theorem opened_wellFormed (wellFormed : files.WellFormed json sessionId) :
    plan.opened.WellFormed json sessionId := by
  apply (plan.ensured_wellFormed wellFormed).ensure (plan.ensured_length wellFormed)
  have same : ((files.recovered plan.mark plan.tail).ensure plan.mark.active).active =
      plan.mark.active := by
    rw [← plan.active_recovered]
    simp [SessionFiles.active]
  rw [same]
  rcases plan.chosen with same | following <;> omega

theorem opened_bounds (wellFormed : files.WellFormed json sessionId) :
    plan.index < plan.opened.segments.length ∧
      plan.opened.segments.length ≤ plan.mark.active + 2 := by
  constructor
  · exact ensure_length _ _ (plan.ensured_length wellFormed)
  · have span := (plan.opened_wellFormed wellFormed).span (by
      simpa [opened] using plan.recovered_not_torn)
    have same : plan.opened.active = plan.mark.active := by
      rw [← plan.active_recovered]
      simp [SessionFiles.active, opened]
    rwa [same] at span

theorem writing_wellFormed (wellFormed : files.WellFormed json record.sessionId) {count : Nat}
    (begun : json.record.Begun ⟨plan.nextRecord, count⟩) :
    (plan.writing count).WellFormed json record.sessionId :=
  (plan.opened_wellFormed wellFormed).update fun _ own => own.addPiece begun rfl

theorem written_wellFormed (wellFormed : files.WellFormed json record.sessionId) :
    plan.written.WellFormed json record.sessionId := by
  apply (plan.opened_wellFormed wellFormed).update
  intro text own
  apply (own.addPiece (json.record.begun_complete plan.nextRecord) rfl).endLine
  simp [SegmentText.addPiece]

theorem committed_wellFormed (wellFormed : files.WellFormed json record.sessionId) :
    plan.committed.WellFormed json record.sessionId := by
  have bounds := plan.opened_bounds wellFormed
  apply (plan.written_wellFormed wellFormed).withWhole
  · simpa [nextMark, written] using bounds.1
  · have near : plan.mark.active ≤ plan.index := by
      rcases plan.chosen with same | following <;> omega
    have span := bounds.2
    simp only [nextMark, written, SessionFiles.segments_update, List.length_modify]
    omega

end Plan

theorem Interrupted.wellFormed {step : FileStep}
    (interrupted : Interrupted json store files record step left)
    (wellFormed : files.WellFormed json record.sessionId) :
    left.WellFormed json record.sessionId := by
  cases interrupted with
  | preparing => exact wellFormed
  | tearing plan before earlier bytes torn count short lost =>
    apply SessionFiles.WellFormed.withTorn _ lost
    rcases earlier with rfl | rfl
    · exact wellFormed
    · exact plan.written_wellFormed wellFormed
  | recovering plan => exact plan.recovered_wellFormed wellFormed
  | creating plan => exact plan.ensured_wellFormed wellFormed
  | opening plan => exact plan.opened_wellFormed wellFormed
  | writing plan count begun bounded => exact plan.writing_wellFormed wellFormed ⟨begun, bounded⟩
  | ending plan => exact plan.written_wellFormed wellFormed
  | committing plan => exact plan.committed_wellFormed wellFormed

end WellFormedness

end OpenJax.Transcript
