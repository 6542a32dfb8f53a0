import OpenJax.Shared.Faults
import OpenJax.Shared.Rows
import OpenJax.Transcript.Store
import Mathlib.Data.Prod.Lex
import Mathlib.Data.String.Basic
import Mathlib.Data.List.Perm.Basic

set_option autoImplicit false

namespace OpenJax.Transcript

open Shared

def sessionIndexSchemaVersion : Nat := 1

structure IndexSessionEntry where
  sessionId : String
  title : Option String
  createdAt : String
  updatedAt : String
  lastEventSeq : Nat
  lastPreview : String
  deriving DecidableEq

structure SessionIndexSnapshot where
  schemaVersion : Nat
  updatedAt : String
  sessions : List IndexSessionEntry
  deriving DecidableEq

inductive IndexLogOpKind where
  | upsertSession
  | deleteSession
  deriving DecidableEq

structure SessionIndexLogRecord where
  op : IndexLogOpKind
  sessionId : String
  ts : String
  payload : Option IndexSessionEntry
  deriving DecidableEq

structure UtcTime where
  year : Int
  month : Nat
  day : Nat
  hour : Nat
  minute : Nat
  second : Nat
  millisecond : Nat
  deriving DecidableEq

def padded (width : Nat) (number : Int) : String :=
  let sign := if number < 0 then "-" else ""
  let digits := toString number.natAbs
  sign ++ String.ofList (List.replicate (width - (sign.length + digits.length)) '0') ++ digits

def formatUtcMillis (time : UtcTime) : String :=
  padded 4 time.year ++ "-" ++ padded 2 time.month ++ "-" ++ padded 2 time.day ++ "T" ++
    padded 2 time.hour ++ ":" ++ padded 2 time.minute ++ ":" ++ padded 2 time.second ++ "." ++
      padded 3 time.millisecond ++ "Z"

/-- `parse` is the RFC 3339 reader of the third-party package, with the conversion to UTC. -/
def normalizeRfc3339UtcMillis (parse : String → Option UtcTime) (input : String) :
    Option String :=
  (parse input).map formatUtcMillis

def Renormalizes (parse : String → Option UtcTime) (normal : String) : Prop :=
  normalizeRfc3339UtcMillis parse normal = some normal

def upsertEntry (entry : IndexSessionEntry) : List IndexSessionEntry → List IndexSessionEntry
  | [] => [entry]
  | existing :: entries =>
      if existing.sessionId = entry.sessionId then entry :: entries
      else existing :: upsertEntry entry entries

def removeEntry (sessionId : String) (entries : List IndexSessionEntry) :
    List IndexSessionEntry :=
  entries.filter fun entry => entry.sessionId != sessionId

def findEntry (sessionId : String) (entries : List IndexSessionEntry) :
    Option IndexSessionEntry :=
  entries.find? fun entry => entry.sessionId == sessionId

def UniqueIds (entries : List IndexSessionEntry) : Prop :=
  (entries.map IndexSessionEntry.sessionId).Nodup

theorem UniqueIds.perm {entries others : List IndexSessionEntry} (unique : UniqueIds entries)
    (order : entries.Perm others) : UniqueIds others :=
  (order.map _).nodup_iff.mp unique

variable {entries : List IndexSessionEntry}

theorem UniqueIds.remove (unique : UniqueIds entries) (sessionId : String) :
    UniqueIds (removeEntry sessionId entries) :=
  unique.sublist (List.filter_sublist.map _)

theorem notMem_removeEntry (sessionId : String) (entries : List IndexSessionEntry) :
    sessionId ∉ (removeEntry sessionId entries).map IndexSessionEntry.sessionId := by
  intro among
  obtain ⟨entry, kept, same⟩ := List.mem_map.mp among
  have other := (List.mem_filter.mp kept).2
  simp [same] at other

theorem removeEntry_of_notMem {sessionId : String}
    (absent : sessionId ∉ entries.map IndexSessionEntry.sessionId) :
    removeEntry sessionId entries = entries := by
  rw [removeEntry, List.filter_eq_self]
  intro entry among
  have other : entry.sessionId ≠ sessionId :=
    fun same => absent (same ▸ List.mem_map_of_mem among)
  simpa using other

theorem upsertEntry_perm (entry : IndexSessionEntry) (unique : UniqueIds entries) :
    (upsertEntry entry entries).Perm (entry :: removeEntry entry.sessionId entries) := by
  induction entries with
  | nil => exact .refl _
  | cons existing entries ih =>
    rw [UniqueIds, List.map_cons, List.nodup_cons] at unique
    rw [upsertEntry]
    by_cases same : existing.sessionId = entry.sessionId
    · have rest : removeEntry entry.sessionId entries = entries :=
        removeEntry_of_notMem (same ▸ unique.1)
      have dropped : removeEntry entry.sessionId (existing :: entries) =
          removeEntry entry.sessionId entries := by
        simp [removeEntry, same]
      rw [if_pos same, dropped, rest]
    · have kept : removeEntry entry.sessionId (existing :: entries) =
          existing :: removeEntry entry.sessionId entries := by
        simp [removeEntry, same]
      rw [if_neg same, kept]
      exact ((ih unique.2).cons existing).trans (.swap entry existing _)

theorem UniqueIds.upsert (unique : UniqueIds entries) (entry : IndexSessionEntry) :
    UniqueIds (upsertEntry entry entries) := by
  apply UniqueIds.perm _ (upsertEntry_perm entry unique).symm
  rw [UniqueIds, List.map_cons, List.nodup_cons]
  exact ⟨notMem_removeEntry _ _, unique.remove _⟩

theorem mem_upsertEntry {entry other : IndexSessionEntry}
    (among : other ∈ upsertEntry entry entries) : other = entry ∨ other ∈ entries := by
  induction entries with
  | nil => exact .inl (List.mem_singleton.mp among)
  | cons existing entries ih =>
    rw [upsertEntry] at among
    split at among
    · exact (List.mem_cons.mp among).imp_right (List.mem_cons_of_mem _)
    · rcases List.mem_cons.mp among with rfl | later
      · exact .inr List.mem_cons_self
      · exact (ih later).imp_right (List.mem_cons_of_mem _)

def IndexSessionEntry.key (entry : IndexSessionEntry) : Lex (String × String) :=
  toLex (entry.updatedAt, entry.sessionId)

def sortEntriesDesc (entries : List IndexSessionEntry) : List IndexSessionEntry :=
  entries.mergeSort fun left right => decide (right.key ≤ left.key)

def Descending (entries : List IndexSessionEntry) : Prop :=
  entries.Pairwise fun left right => right.key < left.key

theorem sortEntriesDesc_perm (entries : List IndexSessionEntry) :
    (sortEntriesDesc entries).Perm entries :=
  List.mergeSort_perm _ _

theorem descending_sortEntriesDesc (unique : UniqueIds entries) :
    Descending (sortEntriesDesc entries) := by
  have sorted : (sortEntriesDesc entries).Pairwise fun left right => right.key ≤ left.key := by
    have trans (first second third : IndexSessionEntry)
        (early : decide (second.key ≤ first.key) = true)
        (late : decide (third.key ≤ second.key) = true) :
        decide (third.key ≤ first.key) = true := by
      rw [decide_eq_true_eq] at early late ⊢
      exact late.trans early
    have total (first second : IndexSessionEntry) :
        (decide (second.key ≤ first.key) || decide (first.key ≤ second.key)) = true := by
      rw [Bool.or_eq_true, decide_eq_true_eq, decide_eq_true_eq]
      exact le_total _ _
    have pairs := List.pairwise_mergeSort trans total entries
    exact pairs.imp fun before => of_decide_eq_true before
  have apart : (sortEntriesDesc entries).Pairwise fun left right =>
      left.sessionId ≠ right.sessionId :=
    List.pairwise_map.mp (unique.perm (sortEntriesDesc_perm entries).symm)
  refine (sorted.and apart).imp fun {left right} both => lt_of_le_of_ne both.1 ?_
  intro same
  exact both.2 (congrArg (fun key => (ofLex key).2) same).symm

theorem sortEntriesDesc_eq {entries sorted : List IndexSessionEntry}
    (order : entries.Perm sorted) (descending : Descending sorted) (unique : UniqueIds sorted) :
    sortEntriesDesc entries = sorted := by
  have first := descending_sortEntriesDesc (unique.perm order.symm)
  refine List.Perm.eq_of_pairwise ?_ first descending ((sortEntriesDesc_perm entries).trans order)
  intro left right _ _ before after
  exact absurd before (lt_asymm after)

section

structure SessionMetadata where
  schemaVersion : Nat
  sessionId : String
  title : Option String
  createdAt : String
  updatedAt : String
  tags : List String

def SessionMetadata.fromIndexEntry (entry : IndexSessionEntry) : SessionMetadata :=
  { schemaVersion := sessionIndexSchemaVersion
    sessionId := entry.sessionId
    title := entry.title
    createdAt := entry.createdAt
    updatedAt := entry.updatedAt
    tags := [] }

/-- How the files are written as JSON and read back. `lastEventSeq` reads no more of a manifest
than the number. -/
structure IndexJson where
  record : LineCodec SessionIndexLogRecord
  snapshot : ObjectCodec SessionIndexSnapshot
  metadata : ObjectCodec SessionMetadata
  manifest : ObjectCodec TranscriptManifest
  lastEventSeq : Bytes → Option Nat
  lastEventSeq_toVec : ∀ written : TranscriptManifest,
    lastEventSeq (manifest.toVec written) = some written.lastEventSeq

/-- What a session's directory holds. The segments are not read here. -/
structure SessionDirectory where
  metadata : Option Bytes
  metadataTmp : Option Bytes
  manifest : Option Bytes
  segments : Bool

def SessionDirectory.empty : SessionDirectory := ⟨none, none, none, false⟩

def SessionDirectory.vacant (directory : SessionDirectory) : Bool :=
  directory.metadata.isNone && directory.metadataTmp.isNone && directory.manifest.isNone &&
    !directory.segments

def SessionDirectory.partlyRemoved (directory : SessionDirectory) (done : Nat) :
    SessionDirectory :=
  { metadata := if done.testBit 0 then none else directory.metadata
    metadataTmp := if done.testBit 1 then none else directory.metadataTmp
    manifest := if done.testBit 2 then none else directory.manifest
    segments := directory.segments && !done.testBit 3 }

/-- The sessions directory. A session id is one name of a path, and not the name of one of the
index's own files: the gateway makes the ids from the letters of a UUID. -/
structure IndexDisk where
  snapshot : Option Bytes
  snapshotTmp : Option Bytes
  log : Option Bytes
  logTmp : Option Bytes
  logBak : Option Bytes
  repairMarker : Bool
  sessions : Table String SessionDirectory
  staging : Table String SessionDirectory

def IndexDisk.empty : IndexDisk := ⟨none, none, none, none, none, false, ∅, ∅⟩

inductive IndexHealth where
  | healthy
  | repairRequired
  deriving DecidableEq

structure SessionIndexStore where
  disk : IndexDisk
  entries : List IndexSessionEntry
  health : IndexHealth

inductive LogPurpose where
  | operation
  | compensation
  | audit (sessionId : String)
  deriving DecidableEq

inductive JsonFile where
  | snapshot
  | metadata
  | staged
  deriving DecidableEq

/-- The calls on the file system. Each comes up once in an operation. -/
inductive CallSite where
  -- Opening the log, with its directory, and writing the text of the record.
  | record (purpose : LogPurpose)
  -- Writing the line feed, flushing and syncing.
  | newline (purpose : LogPurpose)
  -- Creating the temporary file, writing, flushing and syncing it.
  | writeTmp (file : JsonFile)
  | renameTmp (file : JsonFile)
  | syncParent (file : JsonFile)
  | clearStaging | createStaging | publish | discardStaging
  | readMetadata | removeSession
  | measureLog | countLines
  | rotateTmp | removeStaleBak | retireLog | publishLog | rollbackLog | discardTmp | syncLog
  | removeBak | removeLive | restoreLog | syncRestored
  | writeMarker | syncMarker | removeMarker | syncRemoved
  | createRoot | listStaging | removeStale (sessionId : String)
  | load | scan (audit : Bool)
  deriving DecidableEq

inductive IndexError where
  | io (site : CallSite)
  | notFound (site : CallSite)
  | occupied (site : CallSite)
  | invalidData
  | parse
  | schemaVersion (found : Nat)
  | missingPayload
  | invalidTimestamp (input : String)
  | message (text : String)
  | indexRepairRequired
  | context (text : String) (cause : IndexError)
  -- A context whose text begins with `index_repair_required`.
  | repairContext (text : String) (cause : IndexError)

/-- `format!("{err:#}").contains("index_repair_required")`; no path is taken to contain it. -/
def IndexError.mentionsRepair : IndexError → Bool
  | .indexRepairRequired | .repairContext .. => true
  | .context _ cause => cause.mentionsRepair
  | _ => false

abbrev IndexProgram (α : Type) := FaultProgram CallSite SessionIndexStore IndexError α

namespace SessionIndexStore

def onDisk (change : IndexDisk → IndexDisk) (store : SessionIndexStore) : SessionIndexStore :=
  { store with disk := change store.disk }

variable (change : IndexDisk → IndexDisk)

@[simp] theorem onDisk_disk (store : SessionIndexStore) :
    (store.onDisk change).disk = change store.disk := rfl

@[simp] theorem onDisk_entries (store : SessionIndexStore) :
    (store.onDisk change).entries = store.entries := rfl

@[simp] theorem onDisk_health (store : SessionIndexStore) :
    (store.onDisk change).health = store.health := rfl

end SessionIndexStore

def diskCall (site : CallSite) (change : IndexDisk → IndexDisk) : IndexProgram Unit :=
  .atomicCall site (.io site) fun store => .ok ((), store.onDisk change)

def syncCall (site : CallSite) : IndexProgram Unit := .quietCall site (.io site) fun _ => .ok ()

def IndexDisk.extendLog (disk : IndexDisk) (bytes : Bytes) : IndexDisk :=
  { disk with log := some (disk.log.getD [] ++ bytes) }

def appendLogRecordToPath (json : IndexJson) (purpose : LogPurpose)
    (record : SessionIndexLogRecord) : IndexProgram Unit := do
  let encoded := json.record.toVec record
  -- A write that does not succeed has not written the last byte.
  .call (.record purpose) (.io (.record purpose))
    (fun store => .ok ((), store.onDisk (·.extendLog encoded)))
    fun done => .onDisk (·.extendLog (encoded.dropLast.take done))
  .call (.newline purpose) (.io (.newline purpose))
    (fun store => .ok ((), store.onDisk (·.extendLog [lineFeed])))
    fun done => .onDisk (·.extendLog ([lineFeed].take done))

def IndexDisk.updateSession (disk : IndexDisk) (sessionId : String)
    (change : SessionDirectory → SessionDirectory) : IndexDisk :=
  match disk.sessions.lookup sessionId with
  | none => disk
  | some directory =>
      { disk with sessions := disk.sessions.insert sessionId (change directory) }

def IndexDisk.updateStaging (disk : IndexDisk) (sessionId : String)
    (change : SessionDirectory → SessionDirectory) : IndexDisk :=
  match disk.staging.lookup sessionId with
  | none => disk
  | some directory =>
      { disk with staging := disk.staging.insert sessionId (change directory) }

structure JsonTarget where
  file : JsonFile
  writeTmp : Bytes → IndexDisk → IndexDisk
  rename : IndexDisk → IndexDisk

def JsonTarget.snapshot : JsonTarget where
  file := .snapshot
  writeTmp bytes disk := { disk with snapshotTmp := some bytes }
  rename disk := { disk with snapshot := disk.snapshotTmp, snapshotTmp := none }

def SessionDirectory.renameTmp (directory : SessionDirectory) : SessionDirectory :=
  { directory with metadata := directory.metadataTmp, metadataTmp := none }

def JsonTarget.metadata (sessionId : String) : JsonTarget where
  file := .metadata
  writeTmp bytes disk :=
    disk.updateSession sessionId fun directory => { directory with metadataTmp := some bytes }
  rename disk := disk.updateSession sessionId SessionDirectory.renameTmp

def JsonTarget.staged (sessionId : String) : JsonTarget where
  file := .staged
  writeTmp bytes disk :=
    disk.updateStaging sessionId fun directory => { directory with metadataTmp := some bytes }
  rename disk := disk.updateStaging sessionId SessionDirectory.renameTmp

def writeJsonAtomic (target : JsonTarget) (encoded : Bytes) : IndexProgram Unit := do
  .call (.writeTmp target.file) (.io (.writeTmp target.file))
    (fun store => .ok ((), store.onDisk (target.writeTmp encoded)))
    fun done => .onDisk (target.writeTmp (encoded.take done))
  diskCall (.renameTmp target.file) target.rename
  syncCall (.syncParent target.file)

variable (json : IndexJson) (parse : String → Option UtcTime)

def normalizeEntry (entry : IndexSessionEntry) : Except IndexError IndexSessionEntry :=
  match normalizeRfc3339UtcMillis parse entry.updatedAt with
  | some updatedAt => .ok { entry with updatedAt := updatedAt }
  | none => .error (.invalidTimestamp entry.updatedAt)

def normalizeEntries : List IndexSessionEntry → Except IndexError (List IndexSessionEntry)
  | [] => .ok []
  | entry :: rest => do
      let first ← normalizeEntry parse entry
      let others ← normalizeEntries rest
      pure (first :: others)

def collectEntries (entries : List IndexSessionEntry) : List IndexSessionEntry :=
  entries.foldl (fun collected entry => upsertEntry entry collected) []

def loadSnapshot (disk : IndexDisk) : Except IndexError (List IndexSessionEntry) :=
  match disk.snapshot with
  | none => .ok []
  | some raw =>
      if !isUtf8 raw then .error .invalidData
      else
        match json.snapshot.fromSlice raw with
        | none => .error .parse
        | some snapshot =>
            if snapshot.schemaVersion ≠ sessionIndexSchemaVersion then
              .error (.schemaVersion snapshot.schemaVersion)
            else (normalizeEntries parse snapshot.sessions).map collectEntries

def applyLogRecord (record : SessionIndexLogRecord) (entries : List IndexSessionEntry) :
    Except IndexError (List IndexSessionEntry) :=
  match record.op with
  | .upsertSession =>
      match record.payload with
      | none => .error .missingPayload
      | some payload => (normalizeEntry parse payload).map fun entry => upsertEntry entry entries
  | .deleteSession => .ok (removeEntry record.sessionId entries)

def replayLogLines : List Bytes → List IndexSessionEntry →
    Except IndexError (List IndexSessionEntry)
  | [], entries => .ok entries
  | line :: rest, entries =>
      if !isUtf8 line then .error .invalidData
      else if isBlank line then replayLogLines rest entries
      else
        match json.record.fromSlice line with
        | none => .error .parse
        | some record => applyLogRecord parse record entries >>= replayLogLines rest

def replayLog (disk : IndexDisk) (entries : List IndexSessionEntry) :
    Except IndexError (List IndexSessionEntry) :=
  match disk.log with
  | none => .ok entries
  | some bytes => replayLogLines json parse (splitLines bytes) entries

def loadEntriesSnapshotAndLog (disk : IndexDisk) : Except IndexError (List IndexSessionEntry) :=
  loadSnapshot json parse disk >>= replayLog json parse disk

def readLastEventSeq (manifest : Option Bytes) : Except IndexError Nat :=
  match manifest with
  | none => .ok 0
  | some raw =>
      if !isUtf8 raw then .error .invalidData
      else
        match json.lastEventSeq raw with
        | none => .error .parse
        | some lastEventSeq => .ok lastEventSeq

def scanDirectory (name : String) (directory : SessionDirectory) :
    Except IndexError (Option IndexSessionEntry) :=
  match directory.metadata with
  | none => .ok none
  | some raw =>
      if !isUtf8 raw then .error .invalidData
      else
        match json.metadata.fromSlice raw with
        | none => .error .parse
        | some metadata =>
            if metadata.sessionId ≠ name then .ok none
            else do
              let lastEventSeq ← readLastEventSeq json directory.manifest
              let entry ← normalizeEntry parse
                { sessionId := metadata.sessionId
                  title := metadata.title
                  createdAt := metadata.createdAt
                  updatedAt := metadata.updatedAt
                  lastEventSeq := lastEventSeq
                  lastPreview := "" }
              pure (some entry)

def scanDirectories : List (Sigma fun _ : String => SessionDirectory) →
    Except IndexError (List IndexSessionEntry)
  | [] => .ok []
  | listed :: rest => do
      let found ← scanDirectory json parse listed.1 listed.2
      let others ← scanDirectories rest
      pure (found.toList ++ others)

def scanSessionsMetadata (disk : IndexDisk) : Except IndexError (List IndexSessionEntry) :=
  scanDirectories json parse disk.sessions.entries

end

end OpenJax.Transcript
