import OpenJax.Transcript.SegmentText

set_option autoImplicit false

namespace OpenJax.Transcript

open Shared TranscriptStore

variable {Payload : Type}

structure Mark where
  lastEventSeq : Nat
  lastTurnSeq : Nat
  active : Nat
  updatedAt : String

def Mark.manifest (sessionId : String) (mark : Mark) : TranscriptManifest :=
  { schemaVersion := transcriptSchemaVersion
    sessionId := sessionId
    lastEventSeq := mark.lastEventSeq
    lastTurnSeq := mark.lastTurnSeq
    activeSegment := segmentName (mark.active + 1)
    updatedAt := mark.updatedAt }

inductive ManifestText where
  | missing
  | torn (bytes : Bytes)
  | whole (mark : Mark)

def ManifestText.node (json : TranscriptJson Payload) (sessionId : String) :
    ManifestText → Option Node
  | .missing => none
  | .torn bytes => some (.file bytes)
  | .whole mark => some (.file (json.manifest.toVec (mark.manifest sessionId)))

structure SessionFiles (Payload : Type) where
  manifest : ManifestText
  segments : List (SegmentText Payload)

namespace SessionFiles

def empty : SessionFiles Payload := ⟨.missing, []⟩

def active (files : SessionFiles Payload) : Nat :=
  match files.manifest with
  | .whole mark => mark.active
  | _ => 0

def withManifest (files : SessionFiles Payload) (manifest : ManifestText) : SessionFiles Payload :=
  { files with manifest := manifest }

def ensure (files : SessionFiles Payload) (index : Nat) : SessionFiles Payload :=
  if files.segments.length ≤ index then { files with segments := files.segments ++ [.empty] }
  else files

def update (files : SessionFiles Payload) (index : Nat)
    (change : SegmentText Payload → SegmentText Payload) : SessionFiles Payload :=
  { files with segments := files.segments.modify index change }

structure WellFormed (json : TranscriptJson Payload) (sessionId : String)
    (files : SessionFiles Payload) : Prop where
  segments : ∀ text ∈ files.segments, text.WellFormed json.record sessionId
  torn : ∀ bytes, files.manifest = .torn bytes → json.manifest.fromSlice bytes = none
  active : ∀ mark, files.manifest = .whole mark → mark.active < files.segments.length
  /-- The segment after the active one may have been begun, but none after that. -/
  span : (∀ bytes, files.manifest ≠ .torn bytes) → files.segments.length ≤ files.active + 2

variable (files : SessionFiles Payload)

@[simp] theorem manifest_withManifest (manifest : ManifestText) :
    (files.withManifest manifest).manifest = manifest := rfl

variable (index : Nat)

@[simp] theorem manifest_ensure : (files.ensure index).manifest = files.manifest := by
  unfold ensure
  split <;> rfl

@[simp] theorem manifest_update (change : SegmentText Payload → SegmentText Payload) :
    (files.update index change).manifest = files.manifest := rfl

theorem segments_ensure :
    (files.ensure index).segments =
      files.segments ++ if files.segments.length ≤ index then [.empty] else [] := by
  unfold ensure
  split <;> simp

@[simp] theorem segments_update (change : SegmentText Payload → SegmentText Payload) :
    (files.update index change).segments = files.segments.modify index change := rfl

end SessionFiles

def segmentPath (store : TranscriptStore) (sessionId : String) (index : Nat) : Path :=
  store.segmentsRoot sessionId ++ [segmentName (index + 1)]

section Paths

variable (store : TranscriptStore) (sessionId : String)

theorem segmentsRoot_ne_nil : store.segmentsRoot sessionId ≠ [] := by
  simp [segmentsRoot]

theorem manifestPath_not_above (other : String) :
    ¬ store.manifestPath sessionId <+: store.segmentsRoot other := by
  intro leads
  have same := leads.eq_of_length (by simp [manifestPath, segmentsRoot, sessionRoot])
  simp [manifestPath, segmentsRoot, sessionRoot, manifestFile, segmentsDir] at same

theorem child_not_above (other name : String) :
    ¬ store.segmentsRoot sessionId ++ [name] <+: store.segmentsRoot other := by
  intro leads
  have short := leads.length_le
  simp [segmentsRoot, sessionRoot] at short

theorem manifestPath_ne_child (other name : String) :
    store.manifestPath sessionId ≠ store.segmentsRoot other ++ [name] := by
  intro same
  have lengths := congrArg List.length same
  simp [manifestPath, segmentsRoot, sessionRoot] at lengths

theorem segmentPath_injective {first second : Nat}
    (same : segmentPath store sessionId first = segmentPath store sessionId second) :
    first = second := by
  have names : segmentName (first + 1) = segmentName (second + 1) := by
    simpa [segmentPath] using same
  exact Nat.succ_injective (segmentName_injective names)

end Paths

/-- The tree holds these files for the session, and nothing else in its segments directory. -/
structure Stored (json : TranscriptJson Payload) (store : TranscriptStore) (sessionId : String)
    (files : SessionFiles Payload) (tree : FileTree) : Prop where
  clear : tree.Clear (store.segmentsRoot sessionId)
  ready : files.manifest ≠ .missing ∨ files.segments ≠ [] →
    ∀ other, other ≠ [] → other <+: store.segmentsRoot sessionId →
      tree.lookup other = some .directory
  manifest : tree.lookup (store.manifestPath sessionId) = files.manifest.node json sessionId
  segment : ∀ index, tree.lookup (segmentPath store sessionId index) =
    files.segments[index]?.map fun text => .file (text.bytes json.record)
  only : ∀ name, (tree.lookup (store.segmentsRoot sessionId ++ [name])).isSome →
    ∃ index, name = segmentName (index + 1)

def Ready (store : TranscriptStore) (sessionId : String) (tree : FileTree) : Prop :=
  ∀ other, other ≠ [] → other <+: store.segmentsRoot sessionId →
    tree.lookup other = some .directory

section Storing

variable {json : TranscriptJson Payload} {store : TranscriptStore} {sessionId : String}
  {files : SessionFiles Payload} {tree next : FileTree}

theorem stored_empty (json : TranscriptJson Payload) (store : TranscriptStore)
    (sessionId : String) : Stored json store sessionId .empty .empty where
  clear := by simp [FileTree.Clear]
  ready := by simp [SessionFiles.empty]
  manifest := by simp [SessionFiles.empty, ManifestText.node]
  segment := by simp [SessionFiles.empty]
  only := by simp

theorem wellFormed_empty (json : TranscriptJson Payload) (sessionId : String) :
    (SessionFiles.empty : SessionFiles Payload).WellFormed json sessionId where
  segments := by simp [SessionFiles.empty]
  torn := by simp [SessionFiles.empty]
  active := by simp [SessionFiles.empty]
  span := by simp [SessionFiles.empty]

theorem Ready.parent (ready : Ready store sessionId tree) (name : String) :
    tree.isDirectory (store.segmentsRoot sessionId ++ [name]).dropLast := by
  have there := ready _ (segmentsRoot_ne_nil store sessionId) (List.prefix_refl _)
  simp [FileTree.isDirectory, there]

theorem Ready.sessionRoot (ready : Ready store sessionId tree) :
    tree.isDirectory (store.manifestPath sessionId).dropLast := by
  have there := ready (store.sessionRoot sessionId) (by simp [TranscriptStore.sessionRoot])
    (List.prefix_append _ _)
  simp [FileTree.isDirectory, manifestPath, there]

theorem Ready.insert (ready : Ready store sessionId tree) {path : Path} {node : Node}
    (apart : ¬ path <+: store.segmentsRoot sessionId) :
    Ready store sessionId (tree.insert path node) := by
  intro other inhabited leads
  have differs : other ≠ path := by
    intro same
    exact apart (same ▸ leads)
  rw [FileTree.lookup_insert, if_neg differs]
  exact ready other inhabited leads

theorem Stored.segment_there (stored : Stored json store sessionId files tree) {index : Nat}
    (below : index < files.segments.length) :
    ∃ text, files.segments[index]? = some text ∧
      tree.lookup (segmentPath store sessionId index) = some (.file (text.bytes json.record)) := by
  have there : files.segments[index]? = some files.segments[index] :=
    List.getElem?_eq_getElem below
  have found := stored.segment index
  rw [there] at found
  exact ⟨_, there, found⟩

theorem Stored.insert_manifest (stored : Stored json store sessionId files tree)
    (ready : Ready store sessionId tree) {manifest : ManifestText} {bytes : Bytes}
    (text : manifest.node json sessionId = some (.file bytes)) :
    Stored json store sessionId (files.withManifest manifest)
      (tree.insert (store.manifestPath sessionId) (.file bytes)) where
  clear := by
    intro other leads content
    have differs : other ≠ store.manifestPath sessionId := by
      intro same
      exact manifestPath_not_above store sessionId sessionId (same ▸ leads)
    rw [FileTree.lookup_insert, if_neg differs]
    exact stored.clear other leads content
  ready := fun _ => ready.insert (manifestPath_not_above store sessionId sessionId)
  manifest := by simp [text]
  segment := by
    intro index
    rw [FileTree.lookup_insert, segmentPath,
      if_neg (manifestPath_ne_child store sessionId sessionId _).symm]
    exact stored.segment index
  only := by
    intro name
    rw [FileTree.lookup_insert, if_neg (manifestPath_ne_child store sessionId sessionId name).symm]
    exact stored.only name

theorem Stored.insert_segment (stored : Stored json store sessionId files tree)
    (ready : Ready store sessionId tree) {changed : SessionFiles Payload} {index : Nat}
    {text : SegmentText Payload} (same : changed.manifest = files.manifest)
    (here : changed.segments[index]? = some text)
    (elsewhere : ∀ other, other ≠ index → changed.segments[other]? = files.segments[other]?) :
    Stored json store sessionId changed
      (tree.insert (segmentPath store sessionId index) (.file (text.bytes json.record))) where
  clear := by
    intro other leads content
    have differs : other ≠ segmentPath store sessionId index := by
      intro equal
      exact child_not_above store sessionId sessionId _ (equal ▸ leads)
    rw [FileTree.lookup_insert, if_neg differs]
    exact stored.clear other leads content
  ready := fun _ => ready.insert (child_not_above store sessionId sessionId _)
  manifest := by
    rw [FileTree.lookup_insert, segmentPath,
      if_neg (manifestPath_ne_child store sessionId sessionId _), same]
    exact stored.manifest
  segment := by
    intro other
    rw [FileTree.lookup_insert]
    by_cases equal : other = index
    · simp [equal, here]
    · have differs : segmentPath store sessionId other ≠ segmentPath store sessionId index := by
        intro paths
        exact equal (segmentPath_injective store sessionId paths)
      rw [if_neg differs, elsewhere other equal]
      exact stored.segment other
  only := by
    intro name
    rw [FileTree.lookup_insert]
    by_cases equal : store.segmentsRoot sessionId ++ [name] = segmentPath store sessionId index
    · intro _
      exact ⟨index, by simpa [segmentPath] using equal⟩
    · rw [if_neg equal]
      exact stored.only name

theorem Stored.opened (stored : Stored json store sessionId files tree) {other : String}
    (opened : FileTree.Opened (store.segmentsRoot other).inits.tail tree next) :
    Stored json store sessionId files next := by
  have kept {path : Path} (apart : ¬ path <+: store.segmentsRoot other) :
      next.lookup path = tree.lookup path := by
    rcases opened path with same | ⟨listed, _⟩
    · exact same
    · exact absurd ((mem_inits_tail _ _).mp listed).2 apart
  constructor
  case clear =>
    intro path leads content
    rw [ne_eq, opened.of_file]
    exact stored.clear path leads content
  case ready =>
    intro begun path inhabited leads
    exact opened.of_directory (stored.ready begun path inhabited leads)
  case manifest =>
    rw [kept (manifestPath_not_above store sessionId other)]
    exact stored.manifest
  case segment =>
    intro index
    rw [segmentPath, kept (child_not_above store sessionId other _)]
    exact stored.segment index
  case only =>
    intro name
    rw [kept (child_not_above store sessionId other name)]
    exact stored.only name

def Written (store : TranscriptStore) (sessionId : String) (path : Path) : Prop :=
  path = store.manifestPath sessionId ∨ ∃ name, path = store.segmentsRoot sessionId ++ [name]

theorem Stored.insert_other (stored : Stored json store sessionId files tree) {other : String}
    (different : other ≠ sessionId) {path : Path} {node : Node}
    (written : Written store other path) :
    Stored json store sessionId files (tree.insert path node) := by
  have apart : ¬ path <+: store.segmentsRoot sessionId := by
    rcases written with rfl | ⟨name, rfl⟩
    · exact manifestPath_not_above store other sessionId
    · exact child_not_above store other sessionId name
  have notManifest : store.manifestPath sessionId ≠ path := by
    rcases written with rfl | ⟨name, rfl⟩
    · simpa [manifestPath, sessionRoot] using different.symm
    · exact manifestPath_ne_child store sessionId other name
  have notChild (name : String) : store.segmentsRoot sessionId ++ [name] ≠ path := by
    rcases written with rfl | ⟨child, rfl⟩
    · exact (manifestPath_ne_child store other sessionId name).symm
    · intro same
      have roots := (List.append_inj' same rfl).1
      simp [segmentsRoot, sessionRoot, different.symm] at roots
  constructor
  case clear =>
    intro other leads content
    have differs : other ≠ path := by
      intro same
      exact apart (same ▸ leads)
    rw [FileTree.lookup_insert, if_neg differs]
    exact stored.clear other leads content
  case ready =>
    intro begun
    exact Ready.insert (stored.ready begun) apart
  case manifest =>
    rw [FileTree.lookup_insert, if_neg notManifest]
    exact stored.manifest
  case segment =>
    intro index
    rw [FileTree.lookup_insert, segmentPath, if_neg (notChild _)]
    exact stored.segment index
  case only =>
    intro name
    rw [FileTree.lookup_insert, if_neg (notChild name)]
    exact stored.only name

end Storing

end OpenJax.Transcript
