import OpenJax.Shared.FileTree
import OpenJax.Shared.ObjectText
import OpenJax.Transcript.Types

set_option autoImplicit false

namespace OpenJax.Transcript

open Shared

def segmentPrefix : String := "segment-"

def segmentSuffix : String := ".jsonl"

/-- `format!("segment-\x7bindex:06\x7d.jsonl")` -/
def segmentName (index : Nat) : String :=
  segmentPrefix ++ String.ofList ((Nat.toDigits 10 index).leftpad 6 '0') ++ segmentSuffix

/-- A decimal number as the standard library reads it. The `u64` it is read into counts
segments here, and no store sees as many as it can count. -/
def parseIndex (digits : List Char) : Option Nat :=
  let number :=
    match digits with
    | '+' :: rest => rest
    | other => other
  if !number.isEmpty && number.all Char.isDigit then some (Nat.ofDigitChars 10 number 0) else none

def parseSegmentIndex (fileName : String) : Except Failure Nat :=
  let name := fileName.toList
  if segmentPrefix.toList.isPrefixOf name && segmentSuffix.toList.isSuffixOf name then
    let digits :=
      (name.drop segmentPrefix.length).take
        (name.length - segmentSuffix.length - segmentPrefix.length)
    match parseIndex digits with
    | some index => .ok index
    | none => .error (.context ("parse segment index from " ++ fileName) .parse)
  else .error (.message ("invalid segment filename: " ++ fileName))

def nextSegmentName (current : String) : Except Failure String := do
  let index ← parseSegmentIndex current
  pure (segmentName (index + 1))

theorem segmentName_one : segmentName 1 = firstSegmentFile := by decide

theorem parseIndex_of_digits {digits : List Char} (inhabited : digits ≠ [])
    (plain : ∀ c ∈ digits, c.isDigit) :
    parseIndex digits = some (Nat.ofDigitChars 10 digits 0) := by
  unfold parseIndex
  split
  next rest =>
    have digit := plain '+' (by simp)
    simp at digit
  · simpa [inhabited] using plain

theorem parseIndex_padded (index : Nat) :
    parseIndex ((Nat.toDigits 10 index).leftpad 6 '0') = some index := by
  have plain : ∀ c ∈ (Nat.toDigits 10 index).leftpad 6 '0', c.isDigit := by
    intro c among
    rcases List.mem_append.mp among with zero | digit
    · rw [List.eq_of_mem_replicate zero]
      decide
    · exact Nat.isDigit_of_mem_toDigits (by decide) (by decide) digit
  have inhabited : (Nat.toDigits 10 index).leftpad 6 '0' ≠ [] := by
    intro empty
    have short := congrArg List.length empty
    simp [List.leftpad] at short
  rw [parseIndex_of_digits inhabited plain]
  simp [List.leftpad, Nat.ofDigitChars_append]

@[simp] theorem parseSegmentIndex_segmentName (index : Nat) :
    parseSegmentIndex (segmentName index) = .ok index := by
  have name : (segmentName index).toList =
      segmentPrefix.toList ++
        ((Nat.toDigits 10 index).leftpad 6 '0' ++ segmentSuffix.toList) := by
    simp [segmentName]
  have starts : segmentPrefix.toList.isPrefixOf (segmentName index).toList := by
    rw [name, List.isPrefixOf_iff_prefix]
    exact List.prefix_append _ _
  have ends : segmentSuffix.toList.isSuffixOf (segmentName index).toList := by
    rw [name, List.isSuffixOf_iff_suffix, ← List.append_assoc]
    exact List.suffix_append _ _
  have digits : ((segmentName index).toList.drop segmentPrefix.length).take
      ((segmentName index).toList.length - segmentSuffix.length - segmentPrefix.length) =
      (Nat.toDigits 10 index).leftpad 6 '0' := by
    rw [name, ← String.length_toList, ← String.length_toList, List.drop_left]
    apply List.take_left'
    simp only [List.length_append]
    omega
  simp only [parseSegmentIndex, starts, ends, digits, parseIndex_padded, Bool.and_self, if_true]

theorem segmentName_injective : Function.Injective segmentName := by
  intro first second same
  have indices := congrArg parseSegmentIndex same
  simpa using indices

@[simp] theorem nextSegmentName_segmentName (index : Nat) :
    nextSegmentName (segmentName index) = .ok (segmentName (index + 1)) := by
  simp [nextSegmentName, Bind.bind, Except.bind, pure, Except.pure]

def sessionsDir : String := "sessions"

def segmentsDir : String := "segments"

def manifestFile : String := "manifest.json"

-- The store remembers nothing between two calls: all it knows is in the files.
structure TranscriptStore where
  root : Path
  segmentMaxBytes : Nat

/-- How records and manifests are written as JSON. Records have payloads whose text is read
back as it was. -/
structure TranscriptJson (Payload : Type) where
  record : LineCodec (TranscriptRecord Payload)
  manifest : ObjectCodec TranscriptManifest

namespace TranscriptStore

variable {Payload : Type}

def new (root : Path) : TranscriptStore := ⟨root, defaultSegmentMaxBytes⟩

def withSegmentMaxBytes (root : Path) (segmentMaxBytes : Nat) : TranscriptStore :=
  ⟨root, max segmentMaxBytes 1⟩

-- A session id is one name of a path: the gateway makes them from the letters of a UUID.
def sessionRoot (store : TranscriptStore) (sessionId : String) : Path :=
  store.root ++ [sessionsDir, sessionId]

def segmentsRoot (store : TranscriptStore) (sessionId : String) : Path :=
  store.sessionRoot sessionId ++ [segmentsDir]

def manifestPath (store : TranscriptStore) (sessionId : String) : Path :=
  store.sessionRoot sessionId ++ [manifestFile]

def readManifest (json : TranscriptJson Payload) (manifestPath : Path) :
    FileProgram TranscriptManifest := do
  let manifestRaw ← withContext ("read transcript manifest " ++ display manifestPath)
    (readToString manifestPath)
  match json.manifest.fromSlice manifestRaw with
  | some manifest => pure manifest
  | none => .fail (.context ("parse transcript manifest " ++ display manifestPath) .parse)

def writeManifest (json : TranscriptJson Payload) (manifestPath : Path)
    (manifest : TranscriptManifest) : FileProgram Unit :=
  withContext ("write transcript manifest " ++ display manifestPath)
    (writeFile manifestPath (json.manifest.toVec manifest))

def readSegmentTail (json : TranscriptJson Payload) (segmentPath : Path) :
    FileProgram (Option (TranscriptRecord Payload)) := do
  if ← pathExists segmentPath then
    if ← isDir segmentPath then pure none
    else
      let content ← withContext ("read transcript segment " ++ display segmentPath)
        (readToString segmentPath)
      match (splitLines content).reverse.find? fun line => !isBlank line with
      | none => pure none
      | some lastLine =>
          match json.record.fromSlice lastLine with
          | some record => pure (some record)
          | none => .fail (.context ("parse transcript tail line " ++ display segmentPath) .parse)
  else pure none

def recoverManifestFromTailIfNeeded (json : TranscriptJson Payload) (sessionId : String)
    (segmentsRoot manifestPath : Path) (manifest : TranscriptManifest) :
    FileProgram (TranscriptManifest × List String) := do
  let tail ← readSegmentTail json (segmentsRoot ++ [manifest.activeSegment])
  match tail with
  | none => pure (manifest, [])
  | some tailRecord =>
      if tailRecord.eventSeq > manifest.lastEventSeq then
        let recovered :=
          { manifest with
            lastEventSeq := tailRecord.eventSeq
            lastTurnSeq := tailRecord.turnSeq
            updatedAt := tailRecord.timestamp }
        writeManifest json manifestPath recovered
        pure (recovered,
          ["manifest_tail_recovered session=" ++ sessionId ++ " manifest_seq=" ++
            toString manifest.lastEventSeq ++ " tail_seq=" ++ toString tailRecord.eventSeq])
      else pure (manifest, [])

def rotateIfActiveSegmentUnwritable (json : TranscriptJson Payload) (sessionId : String)
    (segmentsRoot manifestPath : Path) (manifest : TranscriptManifest) :
    FileProgram (TranscriptManifest × List String) := do
  let opened ← (openAppend (segmentsRoot ++ [manifest.activeSegment])).attempt
  match opened with
  | .ok () => pure (manifest, [])
  | .error _ =>
      let staleSegment := manifest.activeSegment
      let rotated ← Program.ofExcept (nextSegmentName staleSegment)
      let switched := { manifest with activeSegment := rotated }
      writeManifest json manifestPath switched
      let rotatedPath := segmentsRoot ++ [rotated]
      withContext ("open rotated transcript segment " ++ display rotatedPath)
        (openAppend rotatedPath)
      pure (switched,
        ["active_segment_unwritable_rotated session=" ++ sessionId ++ " from=" ++ staleSegment ++
          " to=" ++ rotated])

def shouldRotateBySize (store : TranscriptStore) (segmentsRoot : Path)
    (manifest : TranscriptManifest) (newRecordSize : Nat) : FileProgram Bool := do
  let segmentPath := segmentsRoot ++ [manifest.activeSegment]
  if ← pathExists segmentPath then
    if ← isDir segmentPath then pure false
    else
      let length ← withContext ("read segment metadata " ++ display segmentPath)
        (fileLength segmentPath)
      pure (decide (length + newRecordSize > store.segmentMaxBytes))
  else pure false

def chooseSegment (store : TranscriptStore) (segmentsRoot : Path) (manifest : TranscriptManifest)
    (newRecordSize : Nat) : FileProgram TranscriptManifest := do
  if ← store.shouldRotateBySize segmentsRoot manifest newRecordSize then
    let next ← Program.ofExcept (nextSegmentName manifest.activeSegment)
    pure { manifest with activeSegment := next }
  else pure manifest

def loadOrCreateManifest (json : TranscriptJson Payload) (manifestPath : Path)
    (record : TranscriptRecord Payload) : FileProgram TranscriptManifest := do
  if ← pathExists manifestPath then readManifest json manifestPath
  else pure (.newEmpty record.sessionId record.timestamp)

def numbered (manifest : TranscriptManifest) (record : TranscriptRecord Payload) :
    TranscriptRecord Payload :=
  { record with
    schemaVersion := transcriptSchemaVersion
    eventSeq := manifest.lastEventSeq + 1
    sessionId := manifest.sessionId }

def writeRecord (segmentPath : Path) (encoded : Bytes) : FileProgram Unit := do
  withContext ("open transcript segment " ++ display segmentPath) (openAppend segmentPath)
  withContext ("write transcript record " ++ display segmentPath) (writeAll segmentPath encoded)
  withContext ("flush transcript newline " ++ display segmentPath)
    (writeAll segmentPath [lineFeed])

def append (json : TranscriptJson Payload) (store : TranscriptStore)
    (record : TranscriptRecord Payload) : FileProgram (TranscriptRecord Payload) := do
  let segmentsRoot := store.segmentsRoot record.sessionId
  let manifestPath := store.manifestPath record.sessionId
  withContext ("create transcript dir " ++ display segmentsRoot) (createDirAll segmentsRoot)
  let loaded ← loadOrCreateManifest json manifestPath record
  let (recovered, _) ←
    recoverManifestFromTailIfNeeded json record.sessionId segmentsRoot manifestPath loaded
  let (manifest, _) ←
    rotateIfActiveSegmentUnwritable json record.sessionId segmentsRoot manifestPath recovered
  let nextRecord := numbered manifest record
  let encoded := json.record.toVec nextRecord
  let chosen ← store.chooseSegment segmentsRoot manifest (encoded.length + 1)
  let (final, _) ←
    rotateIfActiveSegmentUnwritable json record.sessionId segmentsRoot manifestPath chosen
  writeRecord (segmentsRoot ++ [final.activeSegment]) encoded
  writeManifest json manifestPath
    { final with
      lastEventSeq := nextRecord.eventSeq
      lastTurnSeq := nextRecord.turnSeq
      updatedAt := nextRecord.timestamp }
  pure nextRecord

/-- `after.map(|seq| record.event_seq > seq).unwrap_or(true)` -/
def isAfter (after : Option Nat) (record : TranscriptRecord Payload) : Bool :=
  (after.map fun seq => decide (record.eventSeq > seq)).getD true

def replayLines (json : TranscriptJson Payload) (segmentPath : Path)
    (manifest : TranscriptManifest) (after : Option Nat) :
    List Bytes → Except Failure (List (TranscriptRecord Payload))
  | [] => .ok []
  | line :: rest =>
      if !isUtf8 line then
        .error (.context ("read transcript line from " ++ display segmentPath) (.io .invalidData))
      else if isBlank line then replayLines json segmentPath manifest after rest
      else
        match json.record.fromSlice line with
        | none => .error (.context ("parse transcript line in " ++ display segmentPath) .parse)
        | some record => do
            let others ← replayLines json segmentPath manifest after rest
            pure (if record.sessionId = manifest.sessionId ∧ isAfter after record then
              record :: others else others)

def openRead (path : Path) : FileProgram Unit :=
  .inspect fun tree =>
    if (tree.lookup path).isSome then .ok () else .error (.io .notFound)

def replaySegment (json : TranscriptJson Payload) (segmentPath : Path)
    (manifest : TranscriptManifest) (after : Option Nat) :
    FileProgram (List (TranscriptRecord Payload)) := do
  let opened ← (openRead segmentPath).attempt
  match opened with
  | .error (.io .isADirectory) => pure []
  | .error error => .fail (.context ("open transcript segment " ++ display segmentPath) error)
  | .ok () =>
      let content ← withContext ("read transcript line from " ++ display segmentPath)
        (readFile segmentPath)
      Program.ofExcept (replayLines json segmentPath manifest after (splitLines content))

def replaySegments (json : TranscriptJson Payload) (segmentsRoot : Path)
    (manifest : TranscriptManifest) (after : Option Nat) :
    List String → FileProgram (List (TranscriptRecord Payload))
  | [] => pure []
  | name :: rest => do
      let records ← replaySegment json (segmentsRoot ++ [name]) manifest after
      let others ← replaySegments json segmentsRoot manifest after rest
      pure (records ++ others)

/-- `sort_by_key`, which is stable. -/
def orderedSegments (names : List String) : List String :=
  (names.filter fun name => (parseSegmentIndex name).isOk).mergeSort fun left right =>
    decide ((parseSegmentIndex left).toOption.getD 0 ≤ (parseSegmentIndex right).toOption.getD 0)

def replay (json : TranscriptJson Payload) (store : TranscriptStore) (sessionId : String)
    (after : Option Nat) : FileProgram (List (TranscriptRecord Payload)) := do
  let manifestPath := store.manifestPath sessionId
  if ← pathExists manifestPath then
    let manifest ← readManifest json manifestPath
    let segmentsRoot := store.segmentsRoot sessionId
    if ← pathExists segmentsRoot then
      let names ← withContext ("read segments dir " ++ display segmentsRoot) (readDir segmentsRoot)
      replaySegments json segmentsRoot manifest after (orderedSegments names)
    else pure []
  else pure []

def recoverManifestFromActiveSegmentTail (json : TranscriptJson Payload) (store : TranscriptStore)
    (sessionId : String) : FileProgram (List String) := do
  let manifestPath := store.manifestPath sessionId
  if ← pathExists manifestPath then
    let manifest ← readManifest json manifestPath
    let (_, warnings) ← recoverManifestFromTailIfNeeded json sessionId
      (store.segmentsRoot sessionId) manifestPath manifest
    pure warnings
  else pure []

def rotateWhenActiveSegmentUnwritable (json : TranscriptJson Payload) (store : TranscriptStore)
    (sessionId : String) : FileProgram (List String) := do
  let manifestPath := store.manifestPath sessionId
  if ← pathExists manifestPath then
    let segmentsRoot := store.segmentsRoot sessionId
    withContext ("create transcript dir " ++ display segmentsRoot) (createDirAll segmentsRoot)
    let manifest ← readManifest json manifestPath
    let (_, warnings) ←
      rotateIfActiveSegmentUnwritable json sessionId segmentsRoot manifestPath manifest
    pure warnings
  else pure []

end TranscriptStore

end OpenJax.Transcript
