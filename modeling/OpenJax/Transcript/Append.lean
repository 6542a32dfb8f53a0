import OpenJax.Transcript.Plan

set_option autoImplicit false

namespace OpenJax.Transcript

open Shared TranscriptStore

variable {Payload : Type}

def Tearing (json : TranscriptJson Payload) (store : TranscriptStore) (sessionId : String)
    (files : SessionFiles Payload) (step : FileStep) (next : FileTree) : Prop :=
  ∃ bytes torn count, step = .rewrite (store.manifestPath sessionId) bytes count ∧
    count < bytes.length ∧ json.manifest.fromSlice torn = none ∧
    Stored json store sessionId (files.withManifest (.torn torn)) next

section Specifications

variable {json : TranscriptJson Payload} {store : TranscriptStore} {sessionId : String}
  {files : SessionFiles Payload} {tree next : FileTree}

theorem pathExists_manifest (stored : Stored json store sessionId files tree) :
    (pathExists (store.manifestPath sessionId)).run tree =
      ⟨.ok (files.manifest.node json sessionId).isSome, tree, []⟩ := by
  have named : (store.manifestPath sessionId).isEmpty = false := by simp [manifestPath]
  rw [pathExists_run, stored.manifest, named, Bool.false_or]

theorem readManifest_whole (stored : Stored json store sessionId files tree) {mark : Mark}
    (whole : files.manifest = .whole mark) :
    (readManifest json (store.manifestPath sessionId)).run tree =
      ⟨.ok (mark.manifest sessionId), tree, []⟩ := by
  have found := stored.manifest
  rw [whole] at found
  have text : isUtf8 (json.manifest.toVec (mark.manifest sessionId)) := json.manifest.utf8 _
  have content := readToString_run found
  rw [if_pos text] at content
  rw [readManifest, Program.bind_run_of_value (withContext_run_of_value content),
    json.manifest.roundTrip]
  rfl

theorem readManifest_torn (stored : Stored json store sessionId files tree) {bytes : Bytes}
    (torn : files.manifest = .torn bytes) (lost : json.manifest.fromSlice bytes = none) :
    ∃ error, (readManifest json (store.manifestPath sessionId)).run tree =
      ⟨.error error, tree, []⟩ := by
  have found := stored.manifest
  rw [torn] at found
  have content := readToString_run found
  by_cases text : isUtf8 bytes
  · rw [if_pos text] at content
    rw [readManifest, Program.bind_run_of_value (withContext_run_of_value content), lost]
    exact ⟨_, rfl⟩
  · rw [if_neg text] at content
    rw [readManifest, Program.bind_run_of_error (withContext_run_of_error content)]
    exact ⟨_, rfl⟩

theorem segmentPath_isEmpty (index : Nat) :
    (segmentPath store sessionId index).isEmpty = false := by
  simp [segmentPath]

variable {text : SegmentText Payload} {index : Nat}

theorem readable_of_segments (there : files.segments[index]? = some text)
    (bad : ∀ records, ¬ text.Readable json.record records) : files.Unreadable json :=
  ⟨text, List.mem_of_getElem? there, bad⟩

theorem last_line (text : SegmentText Payload) (wellFormed : text.WellFormed json.record sessionId) :
    ((splitLines (text.bytes json.record)).reverse.find? fun line => !isBlank line) =
      text.lines.getLast?.map json.record.joined := by
  rw [wellFormed.splitLines_bytes, ← List.map_reverse, ← List.head?_reverse]
  cases backwards : text.lines.reverse with
  | nil => rfl
  | cons line rest =>
    have among : line ∈ text.lines := by
      rw [← List.mem_reverse, backwards]
      simp
    have here := wellFormed.line among
    have black := SegmentText.isBlank_joined here.1 fun piece listed => (here.2 piece listed).1
    simp [black]

theorem readSegmentTail_run (stored : Stored json store sessionId files tree)
    (wellFormed : files.WellFormed json sessionId) (index : Nat) :
    (∃ tail, files.EndsWith json index tail ∧
      (readSegmentTail json (segmentPath store sessionId index)).run tree = ⟨.ok tail, tree, []⟩) ∨
    (files.Unreadable json ∧ ∃ error,
      (readSegmentTail json (segmentPath store sessionId index)).run tree =
        ⟨.error error, tree, []⟩) := by
  have found := stored.segment index
  cases there : files.segments[index]? with
  | none =>
    rw [there] at found
    have missing : (pathExists (segmentPath store sessionId index)).run tree =
        ⟨.ok false, tree, []⟩ := by
      simp [pathExists_run, segmentPath_isEmpty, found]
    refine .inl ⟨none, by simp [SessionFiles.EndsWith, SessionFiles.lastLine, there], ?_⟩
    rw [readSegmentTail, Program.bind_run_of_value missing]
    rfl
  | some text =>
    rw [there] at found
    have exists_ : (pathExists (segmentPath store sessionId index)).run tree =
        ⟨.ok true, tree, []⟩ := by
      simp [pathExists_run, segmentPath_isEmpty, found]
    have file : (isDir (segmentPath store sessionId index)).run tree = ⟨.ok false, tree, []⟩ := by
      simp [isDir_run, FileTree.isDirectory, segmentPath_isEmpty, found]
    have content := readToString_run found
    have own := wellFormed.segments text (List.mem_of_getElem? there)
    rw [readSegmentTail, Program.bind_run_of_value exists_]
    simp only [if_true]
    rw [Program.bind_run_of_value file]
    simp only [Bool.false_eq_true, if_false]
    by_cases valid : isUtf8 (text.bytes json.record)
    · rw [if_pos valid] at content
      rw [Program.bind_run_of_value (withContext_run_of_value content), last_line text own]
      cases last : text.lines.getLast? with
      | none =>
        exact .inl ⟨none, by simp [SessionFiles.EndsWith, SessionFiles.lastLine, there, last], rfl⟩
      | some line =>
        have among : line ∈ text.lines := List.mem_of_getLast? last
        have begun := fun piece listed => ((own.line among).2 piece listed).1
        cases read : json.record.fromSlice (json.record.joined line) with
        | some record =>
          have single := (json.record.fromSlice_joined begun record).mp read
          refine .inl ⟨some record, ?_, ?_⟩
          · simp [SessionFiles.EndsWith, SessionFiles.lastLine, there, last, single]
          · simp only [Option.map_some, read]
            rfl
        | none =>
          refine .inr ⟨readable_of_segments there ?_, ?_⟩
          · intro records readable
            rw [readable, List.mem_map] at among
            obtain ⟨record, _, rfl⟩ := among
            have found := (json.record.fromSlice_joined begun record).mpr rfl
            rw [read] at found
            simp at found
          · simp only [Option.map_some, read]
            exact ⟨_, rfl⟩
    · rw [if_neg valid] at content
      refine .inr ⟨readable_of_segments there ?_, ?_⟩
      · intro records readable
        exact valid readable.isUtf8_bytes
      · rw [Program.bind_run_of_error (withContext_run_of_error content)]
        exact ⟨_, rfl⟩

theorem returns_writeManifest (stored : Stored json store sessionId files tree)
    (ready : Ready store sessionId tree) (mark : Mark) :
    (writeManifest json (store.manifestPath sessionId) (mark.manifest sessionId)).Returns tree
      (fun _ next => Stored json store sessionId (files.withManifest (.whole mark)) next ∧
        Ready store sessionId next)
      (fun step next => Tearing json store sessionId files step next ∨
        Stored json store sessionId (files.withManifest (.whole mark)) next) := by
  have file : tree.lookup (store.manifestPath sessionId) ≠ some .directory := by
    rw [stored.manifest]
    cases files.manifest <;> simp [ManifestText.node]
  have whole : Stored json store sessionId (files.withManifest (.whole mark))
      (tree.insert (store.manifestPath sessionId)
        (.file (json.manifest.toVec (mark.manifest sessionId)))) :=
    stored.insert_manifest ready rfl
  apply Program.Returns.mapError
  apply (returns_writeFile file ready.sessionRoot).mono
  · intro _ next same
    rw [same]
    exact ⟨whole, ready.insert (manifestPath_not_above store sessionId sessionId)⟩
  · intro step next passed
    obtain ⟨count, bounded, rfl, rfl⟩ := passed
    rcases Nat.lt_or_eq_of_le bounded with short | full
    · have lost := json.manifest.fromSlice_take short
      exact .inl ⟨_, _, count, rfl, short, lost, stored.insert_manifest ready rfl⟩
    · rw [full, List.take_length]
      exact .inr whole

theorem Stored.ensure (stored : Stored json store sessionId files tree)
    (ready : Ready store sessionId tree) (least : index ≤ files.segments.length) :
    (openAppend (segmentPath store sessionId index)).Returns tree
      (fun _ next => Stored json store sessionId (files.ensure index) next ∧
        Ready store sessionId next)
      (fun _ next => Stored json store sessionId (files.ensure index) next) := by
  have found := stored.segment index
  cases there : files.segments[index]? with
  | some text =>
    rw [there] at found
    have bound : index < files.segments.length := (List.getElem?_eq_some_iff.mp there).1
    have same : files.ensure index = files := by
      simp [SessionFiles.ensure, Nat.not_le.mpr bound]
    rw [same]
    apply Program.establishes_of_run (openAppend_run found)
    exact ⟨(), rfl, stored, ready⟩
  | none =>
    rw [there] at found
    have bound : files.segments.length ≤ index := List.getElem?_eq_none_iff.mp there
    have equal : files.segments.length = index := Nat.le_antisymm bound least
    have grown : (files.ensure index).segments = files.segments ++ [.empty] := by
      simp [SessionFiles.segments_ensure, bound]
    have kept : Stored json store sessionId (files.ensure index)
        (tree.insert (segmentPath store sessionId index) (.file [])) := by
      rw [← SegmentText.bytes_empty]
      apply stored.insert_segment ready
      · simp
      · rw [grown, ← equal]
        simp
      · intro other differs
        rw [grown]
        rcases Nat.lt_or_gt_of_ne differs with before | behind
        · rw [List.getElem?_append_left (by omega)]
        · rw [List.getElem?_eq_none (by simp; omega), List.getElem?_eq_none (by omega)]
    have made := openAppend_run_of_missing found (ready.parent (segmentName (index + 1)))
    rw [Program.Returns, Program.Establishes, made]
    refine ⟨⟨(), rfl, kept, ready.insert (child_not_above store sessionId sessionId _)⟩, ?_⟩
    simpa using kept

theorem returns_rotate (stored : Stored json store sessionId files tree)
    (ready : Ready store sessionId tree) (mark : Mark)
    (least : mark.active ≤ files.segments.length) :
    (rotateIfActiveSegmentUnwritable json sessionId (store.segmentsRoot sessionId)
        (store.manifestPath sessionId) (mark.manifest sessionId)).Returns tree
      (fun result next => result = (mark.manifest sessionId, []) ∧
        Stored json store sessionId (files.ensure mark.active) next ∧ Ready store sessionId next)
      (fun _ next => Stored json store sessionId (files.ensure mark.active) next) := by
  apply Program.Returns.bind (stored.ensure ready least).attempt
  intro opened next reached
  obtain ⟨value, rfl, kept⟩ := reached
  exact Program.establishes_pure ⟨(mark.manifest sessionId, []), rfl, rfl, kept⟩

theorem shouldRotateBySize_run (stored : Stored json store sessionId files tree) (mark : Mark)
    (size : Nat) :
    (store.shouldRotateBySize (store.segmentsRoot sessionId) (mark.manifest sessionId) size).run
      tree = ⟨.ok (files.outgrown json store mark.active size), tree, []⟩ := by
  have found := stored.segment mark.active
  unfold shouldRotateBySize SessionFiles.outgrown
  cases there : files.segments[mark.active]? with
  | none =>
    rw [there] at found
    have missing : (pathExists (segmentPath store sessionId mark.active)).run tree =
        ⟨.ok false, tree, []⟩ := by
      simp [pathExists_run, segmentPath_isEmpty, found]
    exact Program.bind_run_of_value missing
  | some text =>
    rw [there] at found
    have exists_ : (pathExists (segmentPath store sessionId mark.active)).run tree =
        ⟨.ok true, tree, []⟩ := by
      simp [pathExists_run, segmentPath_isEmpty, found]
    have file : (isDir (segmentPath store sessionId mark.active)).run tree =
        ⟨.ok false, tree, []⟩ := by
      simp [isDir_run, FileTree.isDirectory, segmentPath_isEmpty, found]
    refine (Program.bind_run_of_value exists_).trans ?_
    simp only [if_true]
    refine (Program.bind_run_of_value file).trans ?_
    simp only [Bool.false_eq_true, if_false]
    exact Program.bind_run_of_value (withContext_run_of_value (fileLength_run found))

theorem chooseSegment_run (stored : Stored json store sessionId files tree) (mark : Mark)
    (size : Nat) :
    (store.chooseSegment (store.segmentsRoot sessionId) (mark.manifest sessionId) size).run tree =
      ⟨.ok (Mark.manifest sessionId
        { mark with active :=
            if files.outgrown json store mark.active size then mark.active + 1
            else mark.active }), tree, []⟩ := by
  refine (Program.bind_run_of_value (shouldRotateBySize_run stored mark size)).trans ?_
  cases files.outgrown json store mark.active size with
  | false => rfl
  | true => simp [Mark.manifest, Program.ofExcept, Bind.bind, pure]

theorem recoverManifest_spec (stored : Stored json store sessionId files tree)
    (wellFormed : files.WellFormed json sessionId) (ready : Ready store sessionId tree)
    (mark : Mark) :
    (files.Unreadable json ∧ ∃ error,
      (recoverManifestFromTailIfNeeded json sessionId (store.segmentsRoot sessionId)
        (store.manifestPath sessionId) (mark.manifest sessionId)).run tree =
        ⟨.error error, tree, []⟩) ∨
    ∃ tail, files.EndsWith json mark.active tail ∧
      (recoverManifestFromTailIfNeeded json sessionId (store.segmentsRoot sessionId)
        (store.manifestPath sessionId) (mark.manifest sessionId)).Returns tree
        (fun result next => result.1 = (mark.recovered tail).manifest sessionId ∧
          Stored json store sessionId (files.recovered mark tail) next ∧
          Ready store sessionId next)
        (fun step next => Tearing json store sessionId files step next ∨
          Stored json store sessionId (files.recovered mark tail) next) := by
  rcases readSegmentTail_run stored wellFormed mark.active with ⟨tail, ends, read⟩ | failed
  · refine .inr ⟨tail, ends, ?_⟩
    apply Program.establishes_bind_of_value read
    cases tail with
    | none => exact Program.establishes_pure ⟨_, rfl, rfl, stored, ready⟩
    | some record =>
      by_cases newer : record.eventSeq > mark.lastEventSeq
      · have marked : mark.recovered (some record) =
            { mark with
              lastEventSeq := record.eventSeq
              lastTurnSeq := record.turnSeq
              updatedAt := record.timestamp } := by
          simp [Mark.recovered, newer]
        have left : files.recovered mark (some record) =
            files.withManifest (.whole (mark.recovered (some record))) := by
          simp [SessionFiles.recovered, newer]
        simp only [Mark.manifest, newer, if_true, left, marked]
        apply Program.Returns.bind (returns_writeManifest stored ready
          { mark with
            lastEventSeq := record.eventSeq
            lastTurnSeq := record.turnSeq
            updatedAt := record.timestamp })
        intro _ next reached
        exact Program.establishes_pure ⟨_, rfl, rfl, reached⟩
      · have left : files.recovered mark (some record) = files := by
          simp [SessionFiles.recovered, newer]
        have marked : mark.recovered (some record) = mark := by
          simp [Mark.recovered, newer]
        simp only [Mark.manifest, newer, if_false, left, marked]
        exact Program.establishes_pure ⟨_, rfl, rfl, stored, ready⟩
  · obtain ⟨unreadable, error, read⟩ := failed
    exact .inl ⟨unreadable, error, Program.bind_run_of_error read⟩

theorem Stored.extend (stored : Stored json store sessionId files tree)
    (ready : Ready store sessionId tree) (there : files.segments[index]? = some text)
    {change : SegmentText Payload → SegmentText Payload} {bytes : Bytes}
    (grown : (change text).bytes json.record = text.bytes json.record ++ bytes) :
    Stored json store sessionId (files.update index change)
      (tree.insert (segmentPath store sessionId index)
        (.file (text.bytes json.record ++ bytes))) := by
  rw [← grown]
  apply stored.insert_segment ready
  · simp
  · simp [there]
  · intro other differs
    simp [differs.symm]

theorem Stored.extendLine (stored : Stored json store sessionId files tree)
    (ready : Ready store sessionId tree) (there : files.segments[index]? = some text)
    (record : TranscriptRecord Payload) :
    Stored json store sessionId
      (files.update index fun text => (text.addPiece (json.record.complete record)).endLine)
      ((tree.insert (segmentPath store sessionId index)
          (.file (text.bytes json.record ++ json.record.toVec record))).insert
        (segmentPath store sessionId index)
        (.file (text.bytes json.record ++ json.record.toVec record ++ [lineFeed]))) := by
  have begun : Stored json store sessionId
      (files.update index (.addPiece (json.record.complete record)))
      (tree.insert (segmentPath store sessionId index)
        (.file (text.bytes json.record ++ json.record.toVec record))) := by
    apply stored.extend ready there
    rw [SegmentText.bytes_addPiece, ObjectCodec.bytes_complete]
  have lineBytes : (text.addPiece (json.record.complete record)).endLine.bytes json.record =
      text.bytes json.record ++ json.record.toVec record ++ [lineFeed] := by simp
  rw [← lineBytes]
  apply begun.insert_segment (ready.insert (child_not_above store sessionId sessionId _))
  · simp
  · simp [there]
  · intro other differs
    simp [differs.symm]

theorem returns_writeRecord (stored : Stored json store sessionId files tree)
    (ready : Ready store sessionId tree) (below : index < files.segments.length)
    (record : TranscriptRecord Payload) :
    (writeRecord (segmentPath store sessionId index) (json.record.toVec record)).Returns tree
      (fun _ next => Stored json store sessionId (files.update index fun text =>
          (text.addPiece (json.record.complete record)).endLine) next ∧
        Ready store sessionId next)
      (fun step next =>
        (∃ count, 0 < count ∧ count ≤ (json.record.toVec record).length ∧
          step = .extend (segmentPath store sessionId index) (json.record.toVec record) count ∧
          Stored json store sessionId (files.update index (.addPiece ⟨record, count⟩)) next) ∨
        (step = .extend (segmentPath store sessionId index) [lineFeed] 1 ∧
          Stored json store sessionId (files.update index fun text =>
            (text.addPiece (json.record.complete record)).endLine) next)) := by
  obtain ⟨text, there, found⟩ := stored.segment_there below
  have begun (count : Nat) : Stored json store sessionId
      (files.update index (.addPiece ⟨record, count⟩))
      (tree.insert (segmentPath store sessionId index)
        (.file (text.bytes json.record ++ (json.record.toVec record).take count))) :=
    stored.extend ready there (SegmentText.bytes_addPiece _)
  have apart := child_not_above store sessionId sessionId (segmentName (index + 1))
  apply Program.establishes_bind_of_value (withContext_run_of_value (openAppend_run found))
  apply Program.Returns.bind
  · apply Program.Returns.mapError
    apply (returns_writeAll found (json.record.toVec_ne_nil record)).mono fun _ _ same => same
    intro step next passed
    obtain ⟨count, positive, bounded, rfl, rfl⟩ := passed
    exact .inl ⟨count, positive, bounded, rfl, begun count⟩
  · intro _ next same
    subst same
    have ended := stored.extendLine ready there record
    apply Program.Returns.mapError
    apply (returns_writeAll (FileTree.lookup_insert_self _ _ _) (by simp)).mono
    · intro _ next same
      rw [same]
      exact ⟨ended, (ready.insert apart).insert apart⟩
    · intro step next passed
      obtain ⟨count, positive, bounded, rfl, rfl⟩ := passed
      have one : count = 1 := by
        simp at bounded
        omega
      subst one
      exact .inr ⟨rfl, ended⟩

end Specifications

section Append

variable {json : TranscriptJson Payload} {store : TranscriptStore}
  {record : TranscriptRecord Payload} {files : SessionFiles Payload} {tree : FileTree}

theorem newEmpty_eq (sessionId timestamp : String) :
    TranscriptManifest.newEmpty sessionId timestamp =
      (⟨0, 0, 0, timestamp⟩ : Mark).manifest sessionId := by
  simp [TranscriptManifest.newEmpty, Mark.manifest, segmentName_one]

theorem loadOrCreateManifest_run (stored : Stored json store record.sessionId files tree)
    (wellFormed : files.WellFormed json record.sessionId) :
    (∃ mark, files.mark record.timestamp = some mark ∧
      (loadOrCreateManifest json (store.manifestPath record.sessionId) record).run tree =
        ⟨.ok (mark.manifest record.sessionId), tree, []⟩) ∨
    (files.mark record.timestamp = none ∧ ∃ error,
      (loadOrCreateManifest json (store.manifestPath record.sessionId) record).run tree =
        ⟨.error error, tree, []⟩) := by
  have there := pathExists_manifest stored
  rw [loadOrCreateManifest, Program.bind_run_of_value there]
  cases text : files.manifest with
  | missing =>
    refine .inl ⟨_, by rw [SessionFiles.mark, text], ?_⟩
    simp only [ManifestText.node, Option.isSome_none, Bool.false_eq_true, if_false, newEmpty_eq]
    rfl
  | torn bytes =>
    refine .inr ⟨by rw [SessionFiles.mark, text], ?_⟩
    simp only [ManifestText.node, Option.isSome_some, if_true]
    exact readManifest_torn stored text (wellFormed.torn bytes text)
  | whole mark =>
    refine .inl ⟨mark, by rw [SessionFiles.mark, text], ?_⟩
    simp only [ManifestText.node, Option.isSome_some, if_true]
    exact readManifest_whole stored text

theorem finish_establishes (plan : Plan json files record)
    (stored : Stored json store record.sessionId
      ((files.recovered plan.mark plan.tail).ensure plan.mark.active) tree)
    (ready : Ready store record.sessionId tree)
    (least : plan.mark.active ≤ files.segments.length) :
    (do
      let (final, _) ← rotateIfActiveSegmentUnwritable json record.sessionId
        (store.segmentsRoot record.sessionId) (store.manifestPath record.sessionId)
        (Mark.manifest record.sessionId
          { plan.mark.recovered plan.tail with active := plan.index })
      writeRecord (store.segmentsRoot record.sessionId ++ [final.activeSegment])
        (json.record.toVec plan.nextRecord)
      writeManifest json (store.manifestPath record.sessionId)
        { final with
          lastEventSeq := plan.nextRecord.eventSeq
          lastTurnSeq := plan.nextRecord.turnSeq
          updatedAt := plan.nextRecord.timestamp }
      pure plan.nextRecord : FileProgram (TranscriptRecord Payload)).Establishes tree
      (fun result next => result = .ok plan.nextRecord ∧
        Stored json store record.sessionId plan.committed next)
      (fun step next => ∃ left, Interrupted json store files record step left ∧
        Stored json store record.sessionId left next) := by
  have bound : plan.index ≤
      ((files.recovered plan.mark plan.tail).ensure plan.mark.active).segments.length := by
    have grown := ensure_length (files.recovered plan.mark plan.tail) plan.mark.active
      (by simpa using least)
    rcases plan.chosen with same | following <;> omega
  have rotated := returns_rotate stored ready
    { plan.mark.recovered plan.tail with active := plan.index } bound
  apply Program.Returns.bind (rotated.mono (fun _ _ same => same) fun step next opened =>
    ⟨plan.opened, .opening plan step, opened⟩)
  intro result opened reached
  obtain ⟨rfl, stored, ready⟩ := reached
  have recorded := returns_writeRecord stored ready (ensure_length _ _ bound) plan.nextRecord
  apply Program.Returns.bind
  · apply recorded.mono fun _ _ same => same
    intro step next passed
    rcases passed with ⟨count, positive, bounded, rfl, left⟩ | ⟨rfl, left⟩
    · exact ⟨plan.writing count, .writing plan count positive bounded, left⟩
    · exact ⟨plan.written, .ending plan, left⟩
  intro _ written reached
  obtain ⟨stored, ready⟩ := reached
  apply Program.Returns.bind
  · apply (returns_writeManifest stored ready plan.nextMark).mono fun _ _ same => same
    intro step next passed
    rcases passed with ⟨bytes, torn, count, rfl, short, lost, left⟩ | left
    · exact ⟨_, .tearing plan plan.written (.inr rfl) bytes torn count short lost, left⟩
    · exact ⟨plan.committed, .committing plan step, left⟩
  intro _ committed reached
  exact Program.establishes_pure ⟨rfl, reached.1⟩

theorem append_establishes (stored : Stored json store record.sessionId files tree)
    (wellFormed : files.WellFormed json record.sessionId) :
    (append json store record).Establishes tree
      (fun result next =>
        (∃ error, result = .error error ∧ Stored json store record.sessionId files next ∧
          (files.mark record.timestamp = none ∨ files.Unreadable json)) ∨
        ∃ plan : Plan json files record, result = .ok plan.nextRecord ∧
          Stored json store record.sessionId plan.committed next)
      (fun step next => ∃ left, Interrupted json store files record step left ∧
        Stored json store record.sessionId left next) := by
  apply Program.Returns.bind
  · apply Program.Returns.mapError
    apply (returns_createDirAll stored.clear).mono fun _ _ same => same
    exact fun step next opened => ⟨files, .preparing step, stored.opened opened⟩
  intro _ tree reached
  have stored := stored.opened reached.1
  have ready : Ready store record.sessionId tree := reached.2
  rcases loadOrCreateManifest_run stored wellFormed with ⟨mark, marked, loaded⟩ | failed
  case inr =>
    obtain ⟨unmarked, error, failed⟩ := failed
    apply Program.establishes_of_run (Program.bind_run_of_error failed)
    exact .inl ⟨error, rfl, stored, .inl unmarked⟩
  apply Program.establishes_bind_of_value loaded
  rcases recoverManifest_spec stored wellFormed ready mark with failed | ⟨tail, tailed, recovers⟩
  case inl =>
    obtain ⟨unreadable, error, failed⟩ := failed
    apply Program.establishes_of_run (Program.bind_run_of_error failed)
    exact .inl ⟨error, rfl, stored, .inr unreadable⟩
  let plan : Plan json files record := .of store marked tailed
  have bounds := wellFormed.mark_bounds marked
  apply Program.Returns.bind
  · apply recovers.mono fun _ _ same => same
    intro step next passed
    rcases passed with ⟨bytes, torn, count, rfl, short, lost, left⟩ | left
    · exact ⟨_, .tearing plan files (.inl rfl) bytes torn count short lost, left⟩
    · exact ⟨_, .recovering plan step, left⟩
  intro recovered tree reached
  obtain ⟨manifest, warnings⟩ := recovered
  obtain ⟨rfl, stored, ready⟩ := reached
  have least : (mark.recovered tail).active ≤ (files.recovered mark tail).segments.length := by
    simpa using bounds.1
  have rotates := returns_rotate stored ready (mark.recovered tail) least
  rw [active_recovered] at rotates
  apply Program.Returns.bind
  · apply rotates.mono fun _ _ same => same
    exact fun step next left => ⟨_, .creating plan step, left⟩
  intro rotated tree reached
  obtain ⟨rfl, stored, ready⟩ := reached
  have chosen := chooseSegment_run stored (mark.recovered tail)
    ((json.record.toVec plan.nextRecord).length + 1)
  rw [active_recovered] at chosen
  apply Program.establishes_bind_of_value chosen
  apply (finish_establishes plan stored ready bounds.1).mono
  · exact fun result next ended => .inr ⟨plan, ended⟩
  · exact fun _ _ same => same

end Append

end OpenJax.Transcript
