import OpenJax.Transcript.Append

set_option autoImplicit false

namespace OpenJax.Transcript

open Shared TranscriptStore

variable {Payload : Type}

/-- The records of the segments, where every line of each of them is one whole record. -/
def SessionFiles.Holds (json : TranscriptJson Payload) (files : SessionFiles Payload)
    (chunks : List (List (TranscriptRecord Payload))) : Prop :=
  files.segments.map SegmentText.lines =
    chunks.map fun records => records.map fun record => [json.record.complete record]

section Ordering

theorem orderedSegments_eq {names : List String} {count : Nat} (distinct : names.Nodup)
    (named : ∀ name, name ∈ names ↔ ∃ index, index < count ∧ name = segmentName (index + 1)) :
    orderedSegments names = (List.range count).map fun index => segmentName (index + 1) := by
  have kept : names.filter (fun name => (parseSegmentIndex name).isOk) = names := by
    rw [List.filter_eq_self]
    intro name listed
    obtain ⟨index, _, rfl⟩ := (named name).mp listed
    simp [Except.isOk, Except.toBool]
  have members : names.Perm ((List.range count).map fun index => segmentName (index + 1)) := by
    have injective : Function.Injective fun index => segmentName (index + 1) :=
      fun first second same => Nat.succ_injective (segmentName_injective same)
    rw [List.perm_ext_iff_of_nodup distinct (List.nodup_range.map injective)]
    intro name
    simp [named, eq_comm]
  let order := fun left right : String =>
    decide ((parseSegmentIndex left).toOption.getD 0 ≤ (parseSegmentIndex right).toOption.getD 0)
  have transitive : ∀ first second third, order first second → order second third →
      order first third := by
    simp only [order, decide_eq_true_eq]
    omega
  have total : ∀ first second, order first second || order second first := by
    simp only [order, Bool.or_eq_true, decide_eq_true_eq]
    omega
  rw [orderedSegments, kept]
  refine List.Perm.eq_of_pairwise ?_ (List.pairwise_mergeSort transitive total names) ?_ ?_
  · intro left right first second before behind
    rw [List.mem_mergeSort] at first
    obtain ⟨leftIndex, _, rfl⟩ := (named left).mp first
    obtain ⟨rightIndex, _, rfl⟩ := List.mem_map.mp second
    simp only [order, parseSegmentIndex_segmentName, Except.toOption, Option.getD_some,
      decide_eq_true_eq] at before behind
    have same : leftIndex = rightIndex := by omega
    rw [same]
  · rw [List.pairwise_map]
    apply List.pairwise_le_range.imp
    intro first second before
    simp only [order, parseSegmentIndex_segmentName, Except.toOption, Option.getD_some,
      decide_eq_true_eq]
    omega
  · exact (List.mergeSort_perm _ _).trans members

end Ordering

variable {json : TranscriptJson Payload} {store : TranscriptStore} {sessionId : String}
  {files : SessionFiles Payload} {tree : FileTree}

theorem orderedSegments_children (stored : Stored json store sessionId files tree) :
    orderedSegments (tree.children (store.segmentsRoot sessionId)) =
      (List.range files.segments.length).map fun index => segmentName (index + 1) := by
  apply orderedSegments_eq (tree.nodup_children _)
  intro name
  rw [FileTree.mem_children]
  constructor
  · intro there
    obtain ⟨index, rfl⟩ := stored.only name there
    have found := stored.segment index
    rw [segmentPath] at found
    rw [found, Option.isSome_map, isSome_getElem?] at there
    exact ⟨index, by simpa using there, rfl⟩
  · rintro ⟨index, bound, same⟩
    have found := stored.segment index
    rw [segmentPath, ← same] at found
    simp [found, bound]

theorem replaySegment_run (stored : Stored json store sessionId files tree)
    (wellFormed : files.WellFormed json sessionId) (manifest : TranscriptManifest)
    (after : Option Nat) {index : Nat} {text : SegmentText Payload}
    (there : files.segments[index]? = some text) :
    (replaySegment json (segmentPath store sessionId index) manifest after).run tree =
      ⟨replayLines json (segmentPath store sessionId index) manifest after
        (text.lines.map json.record.joined), tree, []⟩ := by
  have found := stored.segment index
  rw [there] at found
  have own := wellFormed.segments text (List.mem_of_getElem? there)
  have opened : ((openRead (segmentPath store sessionId index)).attempt).run tree =
      ⟨.ok (.ok ()), tree, []⟩ := by
    simp [openRead, Program.attempt, Program.inspect, found]
  rw [replaySegment, Program.bind_run_of_value opened,
    Program.bind_run_of_value (withContext_run_of_value (readFile_run found)),
    own.splitLines_bytes]
  rfl

variable {chunks : List (List (TranscriptRecord Payload))}

theorem replaySegments_run (stored : Stored json store sessionId files tree)
    (wellFormed : files.WellFormed json sessionId) (manifest : TranscriptManifest)
    (after : Option Nat) (holds : files.Holds json chunks) (indices : List Nat)
    (bounded : ∀ index ∈ indices, index < files.segments.length) :
    (replaySegments json (store.segmentsRoot sessionId) manifest after
      (indices.map fun index => segmentName (index + 1))).run tree =
      ⟨.ok (wanted manifest after (indices.flatMap fun index => chunks[index]?.getD [])),
        tree, []⟩ := by
  induction indices with
  | nil => rfl
  | cons index rest ih =>
    have bound := bounded index (by simp)
    have there : files.segments[index]? = some files.segments[index] :=
      List.getElem?_eq_getElem bound
    have lines := congrArg (fun list => list[index]?) holds
    simp only [List.getElem?_map, there, Option.map_some] at lines
    obtain ⟨records, found, complete⟩ := Option.map_eq_some_iff.mp lines.symm
    have segment := replaySegment_run stored wellFormed manifest after there
    rw [← complete, List.map_map] at segment
    have read := replayLines_complete json (segmentPath store sessionId index) manifest after
      records
    simp only [Function.comp_def] at segment
    rw [read] at segment
    have remaining := ih fun other listed => bounded other (by simp [listed])
    rw [List.map_cons, replaySegments]
    refine (Program.bind_run_of_value segment).trans ?_
    refine (Program.bind_run_of_value remaining).trans ?_
    simp [pure, wanted, found]

theorem whole_of_replaySegments (stored : Stored json store sessionId files tree)
    (wellFormed : files.WellFormed json sessionId) {manifest : TranscriptManifest}
    {after : Option Nat} (indices : List Nat)
    (bounded : ∀ index ∈ indices, index < files.segments.length)
    {result : List (TranscriptRecord Payload)}
    (replayed : ((replaySegments json (store.segmentsRoot sessionId) manifest after
      (indices.map fun index => segmentName (index + 1))).run tree).result = .ok result) :
    ∀ index ∈ indices, ∀ text, files.segments[index]? = some text →
      ∃ records, text.Readable json.record records := by
  induction indices generalizing result with
  | nil => simp
  | cons index rest ih =>
    have bound := bounded index (by simp)
    have there : files.segments[index]? = some files.segments[index] :=
      List.getElem?_eq_getElem bound
    generalize files.segments[index] = text at there
    have own := wellFormed.segments text (List.mem_of_getElem? there)
    have segment := replaySegment_run stored wellFormed manifest after there
    obtain ⟨records, read, continued⟩ := Program.bind_result_ok.mp replayed
    obtain ⟨others, remaining, _⟩ := Program.bind_result_ok.mp continued
    rw [← segmentPath, segment] at read remaining
    intro other listed another found
    rcases List.mem_cons.mp listed with here | later
    · subst here
      cases there.symm.trans found
      apply complete_of_replayLines _ read
      intro line among
      exact ⟨(own.line among).1, fun piece inside => ((own.line among).2 piece inside).1⟩
    · exact ih (fun other listed => bounded other (by simp [listed])) remaining other later
        another found

theorem holds_of_each (each : ∀ text ∈ files.segments, ∃ records,
    text.Readable json.record records) : ∃ chunks, files.Holds json chunks := by
  unfold SessionFiles.Holds
  generalize files.segments = segments at each ⊢
  induction segments with
  | nil => exact ⟨[], rfl⟩
  | cons text rest ih =>
    obtain ⟨records, readable⟩ := each text (by simp)
    obtain ⟨chunks, holds⟩ := ih fun other among => each other (by simp [among])
    refine ⟨records :: chunks, ?_⟩
    rw [List.map_cons, List.map_cons, holds, readable]

variable {records : List (TranscriptRecord Payload)}

theorem SessionFiles.Holds.chunk (holds : files.Holds json chunks) (among : records ∈ chunks) :
    ∃ text ∈ files.segments, text.Readable json.record records := by
  have mapped : (records.map fun record => [json.record.complete record]) ∈
      files.segments.map SegmentText.lines := by
    rw [holds]
    exact List.mem_map.mpr ⟨records, among, rfl⟩
  obtain ⟨text, listed, lines⟩ := List.mem_map.mp mapped
  exact ⟨text, listed, lines⟩

theorem SessionFiles.Holds.own (holds : files.Holds json chunks)
    (wellFormed : files.WellFormed json sessionId) {record : TranscriptRecord Payload}
    (among : record ∈ chunks.flatten) : record.sessionId = sessionId := by
  obtain ⟨records, chunk, inside⟩ := List.mem_flatten.mp among
  obtain ⟨text, listed, readable⟩ := holds.chunk chunk
  have line : [json.record.complete record] ∈ text.lines := by
    rw [readable]
    exact List.mem_map.mpr ⟨record, inside, rfl⟩
  have pieces := ((wellFormed.segments text listed).line line).2
  exact (pieces (json.record.complete record) (by simp)).2

theorem wanted_own {manifest : TranscriptManifest} {after : Option Nat}
    (own : ∀ record ∈ records, record.sessionId = manifest.sessionId) :
    wanted manifest after records = records.filter (isAfter after) := by
  apply List.filter_congr
  intro record among
  simp [own record among]

theorem range_flatMap_getElem {α : Type} (chunks : List (List α)) :
    ((List.range chunks.length).flatMap fun index => chunks[index]?.getD []) = chunks.flatten := by
  rw [List.flatMap_def]
  congr 1
  apply List.ext_getElem?
  intro index
  by_cases bound : index < chunks.length <;> simp [bound]

section Replaying

variable (stored : Stored json store sessionId files tree)
  (wellFormed : files.WellFormed json sessionId)
include stored

theorem replay_missing (missing : files.manifest = .missing) (after : Option Nat) :
    (TranscriptStore.replay json store sessionId after).run tree = ⟨.ok [], tree, []⟩ := by
  have there := pathExists_manifest stored
  rw [missing] at there
  exact Program.bind_run_of_value there

theorem replay_present {mark : Mark} (whole : files.manifest = .whole mark) (after : Option Nat) :
    (TranscriptStore.replay json store sessionId after).run tree =
      (replaySegments json (store.segmentsRoot sessionId) (mark.manifest sessionId) after
        ((List.range files.segments.length).map fun index => segmentName (index + 1))).run tree := by
  have there := pathExists_manifest stored
  rw [whole] at there
  have directory : tree.lookup (store.segmentsRoot sessionId) = some .directory :=
    stored.ready (.inl (by simp [whole])) _ (segmentsRoot_ne_nil store sessionId)
      (List.prefix_refl _)
  have listed : (pathExists (store.segmentsRoot sessionId)).run tree = ⟨.ok true, tree, []⟩ := by
    simp [pathExists_run, directory]
  have opens : tree.isDirectory (store.segmentsRoot sessionId) := by
    simp [FileTree.isDirectory, directory]
  rw [TranscriptStore.replay, Program.bind_run_of_value there]
  refine (Program.bind_run_of_value (readManifest_whole stored whole)).trans ?_
  refine (Program.bind_run_of_value listed).trans ?_
  refine (Program.bind_run_of_value (withContext_run_of_value (readDir_run opens))).trans ?_
  rw [orderedSegments_children stored]

include wellFormed

theorem replay_whole {mark : Mark} (whole : files.manifest = .whole mark)
    {chunks : List (List (TranscriptRecord Payload))} (holds : files.Holds json chunks)
    (after : Option Nat) :
    (TranscriptStore.replay json store sessionId after).run tree =
      ⟨.ok (chunks.flatten.filter (isAfter after)), tree, []⟩ := by
  have lengths : files.segments.length = chunks.length := by
    simpa using congrArg List.length holds
  have own : ∀ record ∈ chunks.flatten,
      record.sessionId = (mark.manifest sessionId).sessionId :=
    fun record among => holds.own wellFormed among
  rw [replay_present stored whole after,
    replaySegments_run stored wellFormed (mark.manifest sessionId) after holds _ (by simp),
    lengths, range_flatMap_getElem, wanted_own own]

theorem replay_ok {after : Option Nat} {result : List (TranscriptRecord Payload)}
    (replayed : ((TranscriptStore.replay json store sessionId after).run tree).result = .ok result) :
    result = [] ∨ ∃ mark chunks, files.manifest = .whole mark ∧ files.Holds json chunks ∧
      result = chunks.flatten.filter (isAfter after) := by
  cases text : files.manifest with
  | missing =>
    rw [replay_missing stored text after] at replayed
    exact .inl (Except.ok.inj replayed).symm
  | torn bytes =>
    have there := pathExists_manifest stored
    rw [text] at there
    obtain ⟨error, failed⟩ := readManifest_torn stored text (wellFormed.torn bytes text)
    rw [TranscriptStore.replay, Program.bind_run_of_value there] at replayed
    obtain ⟨manifest, read, _⟩ := Program.bind_result_ok.mp replayed
    simp [failed] at read
  | whole mark =>
    have segments := replayed
    rw [replay_present stored text after] at segments
    have each := whole_of_replaySegments stored wellFormed _ (by simp) segments
    have readable : ∀ text ∈ files.segments, ∃ records, text.Readable json.record records := by
      intro text among
      obtain ⟨index, bound, rfl⟩ := List.mem_iff_getElem.mp among
      exact each index (by simpa using bound) _ (List.getElem?_eq_getElem bound)
    obtain ⟨chunks, holds⟩ := holds_of_each readable
    rw [replay_whole stored wellFormed text holds after] at replayed
    exact .inr ⟨mark, chunks, rfl, holds, (Except.ok.inj replayed).symm⟩

end Replaying

end OpenJax.Transcript
