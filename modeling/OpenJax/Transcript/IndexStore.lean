import OpenJax.Transcript.IndexFiles

set_option autoImplicit false

namespace OpenJax.Transcript

open Shared

namespace SessionIndexStore

def compactMaxLines : Nat := 1000

def compactMaxBytes : Nat := 4 * 1024 * 1024

def upsertMemoryEntry (entry : IndexSessionEntry) (store : SessionIndexStore) : SessionIndexStore :=
  { store with entries := sortEntriesDesc (upsertEntry entry store.entries) }

def removeMemoryEntry (sessionId : String) (store : SessionIndexStore) : SessionIndexStore :=
  { store with entries := sortEntriesDesc (removeEntry sessionId store.entries) }

def ensureWritable : IndexProgram Unit := do
  if (← .inspect SessionIndexStore.health) = .repairRequired then .fail .indexRepairRequired

def setMarker (disk : IndexDisk) : IndexDisk := { disk with repairMarker := true }

def markRepairRequired : IndexProgram Unit := do
  .modify fun store => { store with health := .repairRequired }
  .call .writeMarker (.io .writeMarker) (fun store => .ok ((), store.onDisk setMarker))
    fun done => .onDisk fun disk => if done = 0 then disk else setMarker disk
  syncCall .syncMarker

def hasBak : IndexProgram Bool := .inspect fun store => store.disk.logBak.isSome

def dropBak (disk : IndexDisk) : IndexDisk := { disk with logBak := none }

def bakToLog (disk : IndexDisk) : IndexDisk := { disk with log := disk.logBak, logBak := none }

def retireLog : IndexProgram Unit := do
  if ← .inspect fun store => store.disk.log.isSome then
    if ← hasBak then diskCall .removeStaleBak dropBak
    diskCall .retireLog fun disk => { disk with logBak := disk.log, log := none }

def rollBackPublish (publishErr : IndexError) : IndexProgram Unit := do
  let rolledBack ← (do if ← hasBak then diskCall .rollbackLog bakToLog).attempt
  let _ ← (diskCall .discardTmp fun disk => { disk with logTmp := none }).attempt
  match rolledBack with
  | .error _ =>
      .fail (.repairContext "index_repair_required: compact rollback failed after publish failure"
        publishErr)
  | .ok () => .fail (.context "compact publish failed but rollback succeeded" publishErr)

def restoreBak : IndexProgram Unit := do
  diskCall .removeLive fun disk => { disk with log := none }
  diskCall .restoreLog bakToLog
  syncCall .syncRestored

def cleanUpBak : IndexProgram Unit := do
  syncCall .syncLog
  if ← hasBak then
    match ← (diskCall .removeBak dropBak).attempt with
    | .ok () => pure ()
    | .error cleanupErr =>
        match ← restoreBak.attempt with
        | .error _ =>
            .fail (.repairContext
              "index_repair_required: compact cleanup failed and rollback failed" cleanupErr)
        | .ok () => .fail (.context "compact cleanup failed but rollback succeeded" cleanupErr)

def rotateLogTmpBak : IndexProgram Unit := do
  .call .rotateTmp (.io .rotateTmp)
    (fun store => .ok ((), store.onDisk fun disk => { disk with logTmp := some [] }))
    fun done => .onDisk fun disk => if done = 0 then disk else { disk with logTmp := some [] }
  retireLog
  match ← (diskCall .publishLog fun disk =>
      { disk with log := disk.logTmp, logTmp := none }).attempt with
  | .error publishErr => rollBackPublish publishErr
  | .ok () => cleanUpBak

def countLogLines (bytes : Bytes) : Except IndexError Nat :=
  if (splitLines bytes).all isUtf8 then
    .ok ((splitLines bytes).filter fun line => !isBlank line).length
  else .error .invalidData

def compactionDue : IndexProgram Bool := do
  match ← .inspect fun store => store.disk.log with
  | none => pure false
  | some bytes => do
      syncCall .measureLog
      let lines ← .quietCall .countLines (.io .countLines) fun _ => countLogLines bytes
      pure (!(bytes.length < compactMaxBytes && lines < compactMaxLines))

variable (json : IndexJson) (parse : String → Option UtcTime) (now : UtcTime)

def snapshotOf (entries : List IndexSessionEntry) : SessionIndexSnapshot :=
  { schemaVersion := sessionIndexSchemaVersion
    updatedAt := formatUtcMillis now
    sessions := entries }

def compact : IndexProgram Unit := do
  let entries ← .inspect SessionIndexStore.entries
  writeJsonAtomic .snapshot (json.snapshot.toVec (snapshotOf now entries))
  match ← rotateLogTmpBak.attempt with
  | .ok () => pure ()
  | .error err =>
      if err.mentionsRepair then do
        markRepairRequired
        .fail (.repairContext "index_repair_required" err)
      else .fail err

def maybeCompact : IndexProgram Unit := do
  if ← compactionDue then compact json now

def upsertRecord (entry : IndexSessionEntry) : SessionIndexLogRecord :=
  { op := .upsertSession
    sessionId := entry.sessionId
    ts := formatUtcMillis now
    payload := some entry }

def deleteRecord (sessionId : String) : SessionIndexLogRecord :=
  { op := .deleteSession
    sessionId := sessionId
    ts := formatUtcMillis now
    payload := none }

def readMetadata (sessionId : String) : IndexProgram SessionMetadata :=
  .quietCall .readMetadata (.io .readMetadata) fun store =>
    match (store.disk.sessions.lookup sessionId).bind SessionDirectory.metadata with
    | none => .error (.notFound .readMetadata)
    | some raw =>
        if !isUtf8 raw then .error .invalidData
        else
          match json.metadata.fromSlice raw with
          | none => .error .parse
          | some metadata => .ok metadata

def writeSessionMetadata (sessionId : String) (mutate : SessionMetadata → SessionMetadata) :
    IndexProgram Unit := do
  let metadata ← readMetadata json sessionId
  writeJsonAtomic (.metadata sessionId) (json.metadata.toVec (mutate metadata))

def baseEntry (purpose sessionId : String) : IndexProgram IndexSessionEntry := do
  match ← .inspect fun store => findEntry sessionId store.entries with
  | some entry => pure entry
  | none => .fail (.message ("session not found for " ++ purpose ++ ": " ++ sessionId))

def normalizedTime (input : String) : IndexProgram String :=
  .ofExcept <|
    match normalizeRfc3339UtcMillis parse input with
    | some normal => .ok normal
    | none => .error (.invalidTimestamp input)

/-- What the operations on one entry share: the record is logged, then the metadata of the session
are written, then the entry is kept. -/
def storeEntry (context : String) (next : IndexSessionEntry)
    (mutate : SessionMetadata → SessionMetadata) : IndexProgram Unit := do
  appendLogRecordToPath json .operation (upsertRecord now next)
  match ← (writeSessionMetadata json next.sessionId mutate).attempt with
  | .error err => do
      markRepairRequired
      .fail (.repairContext ("index_repair_required: metadata update failed after " ++ context) err)
  | .ok () => .modify (upsertMemoryEntry next)

def publishStaged (sessionId : String) (disk : IndexDisk) : Except IndexError IndexDisk :=
  match disk.staging.lookup sessionId with
  | none => .error (.notFound .publish)
  | some staged =>
      -- A directory takes the place of an empty one only.
      if ((disk.sessions.lookup sessionId).all SessionDirectory.vacant) then
        .ok { disk with
          sessions := disk.sessions.insert sessionId staged
          staging := disk.staging.erase sessionId }
      else .error (.occupied .publish)

def removeStaged (site : CallSite) (sessionId : String) : IndexProgram Unit :=
  .call site (.io site)
    (fun store => .ok ((), store.onDisk fun disk =>
      { disk with staging := disk.staging.erase sessionId }))
    fun done => .onDisk (·.updateStaging sessionId (·.partlyRemoved done))

def stage (entry : IndexSessionEntry) : IndexProgram Unit := do
  if ← .inspect fun store => (store.disk.staging.lookup entry.sessionId).isSome then
    removeStaged .clearStaging entry.sessionId
  diskCall .createStaging fun disk =>
    { disk with staging := disk.staging.insert entry.sessionId .empty }
  writeJsonAtomic (.staged entry.sessionId)
    (json.metadata.toVec (.fromIndexEntry entry))

def publish (sessionId : String) : IndexProgram Unit :=
  .atomicCall .publish (.io .publish) fun store =>
    (publishStaged sessionId store.disk).map fun disk => ((), { store with disk := disk })

def compensateCreate (sessionId : String) (publishErr : IndexError) : IndexProgram Unit := do
  match ← (appendLogRecordToPath json .compensation (deleteRecord now sessionId)).attempt with
  | .error compensationErr => do
      markRepairRequired
      .fail (.repairContext "index_repair_required: compensation append failed after create publish failure" compensationErr)
  | .ok () => do
      .modify (removeMemoryEntry sessionId)
      let _ ← (removeStaged .discardStaging sessionId).attempt
      .fail (.context "create session index publish failed and rolled back" publishErr)

def createNormalized (normalized : IndexSessionEntry) : IndexProgram Unit := do
  stage json normalized
  appendLogRecordToPath json .operation (upsertRecord now normalized)
  .modify (upsertMemoryEntry normalized)
  match ← (publish normalized.sessionId).attempt with
  | .ok () => pure ()
  | .error publishErr => compensateCreate json now normalized.sessionId publishErr

def createEntry (entry : IndexSessionEntry) : IndexProgram Unit := do
  ensureWritable
  let updatedAt ← normalizedTime parse entry.updatedAt
  createNormalized json now { entry with updatedAt := updatedAt }

def upsertSessionEntry (entry : IndexSessionEntry) : IndexProgram Unit := do
  ensureWritable
  let updatedAt ← normalizedTime parse entry.updatedAt
  storeEntry json now "upsert log append" { entry with updatedAt := updatedAt } fun metadata =>
    { metadata with title := entry.title, createdAt := entry.createdAt, updatedAt := updatedAt }

def touchEntry (sessionId updatedAt : String) (lastEventSeq : Nat) (lastPreview : String) :
    IndexProgram Unit := do
  ensureWritable
  let updatedAt ← normalizedTime parse updatedAt
  let base ← baseEntry "touch" sessionId
  storeEntry json now "touch log append"
    { base with updatedAt := updatedAt, lastEventSeq := lastEventSeq, lastPreview := lastPreview }
    fun metadata => { metadata with updatedAt := updatedAt }

def setTitle (sessionId : String) (title : Option String) : IndexProgram Unit := do
  ensureWritable
  let base ← baseEntry "title update" sessionId
  let updatedAt := formatUtcMillis now
  storeEntry json now "title log append" { base with title := title, updatedAt := updatedAt }
    fun metadata => { metadata with title := title, updatedAt := updatedAt }

def setTitleIfEmpty (sessionId title : String) : IndexProgram Bool := do
  ensureWritable
  let base ← baseEntry "title update" sessionId
  let normalizedTitle := trim title
  if base.title.any (fun value => !(trim value).isEmpty) || normalizedTitle.isEmpty then
    pure false
  else do
    let updatedAt := formatUtcMillis now
    storeEntry json now "conditional title log append"
      { base with title := some normalizedTitle, updatedAt := updatedAt }
      fun metadata => { metadata with title := some normalizedTitle, updatedAt := updatedAt }
    pure true

def setTags (sessionId : String) (tags : List String) : IndexProgram Unit := do
  ensureWritable
  let base ← baseEntry "tags update" sessionId
  let updatedAt := formatUtcMillis now
  storeEntry json now "tags log append" { base with updatedAt := updatedAt }
    fun metadata => { metadata with tags := tags, updatedAt := updatedAt }

def removeSession (sessionId : String) : IndexProgram Unit :=
  .call .removeSession (.io .removeSession)
    (fun store =>
      if (store.disk.sessions.lookup sessionId).isSome then
        .ok ((), store.onDisk fun disk => { disk with sessions := disk.sessions.erase sessionId })
      else .error (.notFound .removeSession))
    fun done => .onDisk (·.updateSession sessionId (·.partlyRemoved done))

def compensateDelete (original : Option IndexSessionEntry) (removeErr : IndexError) :
    IndexProgram Unit := do
  match original with
  | none => .fail (.context "delete session index remove failed and rolled back" removeErr)
  | some entry =>
      match ← (appendLogRecordToPath json .compensation (upsertRecord now entry)).attempt with
      | .error compensationErr => do
          markRepairRequired
          .fail (.repairContext "index_repair_required: compensation append failed after delete remove failure" compensationErr)
      | .ok () => do
          .modify (upsertMemoryEntry entry)
          .fail (.context "delete session index remove failed and rolled back" removeErr)

def deleteKnown (sessionId : String) (original : Option IndexSessionEntry) :
    IndexProgram Unit := do
  appendLogRecordToPath json .operation (deleteRecord now sessionId)
  .modify (removeMemoryEntry sessionId)
  match ← (removeSession sessionId).attempt with
  | .ok () => pure ()
  | .error removeErr => compensateDelete json now original removeErr

def deleteEntry (sessionId : String) : IndexProgram Unit := do
  ensureWritable
  let original ← .inspect fun store => findEntry sessionId store.entries
  deleteKnown json now sessionId original

def createSessionIndexEntry (entry : IndexSessionEntry) : IndexProgram Unit := do
  createEntry json parse now entry
  maybeCompact json now

def upsertSessionIndexEntry (entry : IndexSessionEntry) : IndexProgram Unit := do
  upsertSessionEntry json parse now entry
  maybeCompact json now

def touchSessionIndexEntry (sessionId updatedAt : String) (lastEventSeq : Nat)
    (lastPreview : String) : IndexProgram Unit := do
  touchEntry json parse now sessionId updatedAt lastEventSeq lastPreview
  maybeCompact json now

def updateSessionTitle (sessionId : String) (title : Option String) : IndexProgram Unit := do
  setTitle json now sessionId title
  maybeCompact json now

def updateSessionTitleIfEmpty (sessionId title : String) : IndexProgram Bool := do
  let updated ← setTitleIfEmpty json now sessionId title
  if updated then maybeCompact json now
  pure updated

def updateSessionTags (sessionId : String) (tags : List String) : IndexProgram Unit := do
  setTags json now sessionId tags
  maybeCompact json now

def deleteSessionIndexEntry (sessionId : String) : IndexProgram Unit := do
  deleteEntry json now sessionId
  maybeCompact json now

def cleanupStagingDirs : List String → IndexProgram Unit
  | [] => pure ()
  | sessionId :: rest => do
      removeStaged (.removeStale sessionId) sessionId
      cleanupStagingDirs rest

def scan (audit : Bool) : IndexProgram (List IndexSessionEntry) :=
  .quietCall (.scan audit) (.io (.scan audit)) fun store =>
    scanSessionsMetadata json parse store.disk

def rebuildFromSessionsDir : IndexProgram (List IndexSessionEntry) := do
  let found ← scan json parse false
  writeJsonAtomic .snapshot (json.snapshot.toVec (snapshotOf now found))
  rotateLogTmpBak
  pure found

def auditIndexed (onDisk : List IndexSessionEntry) :
    List IndexSessionEntry → List IndexSessionEntry → IndexProgram (List IndexSessionEntry)
  | [], kept => pure kept
  | entry :: rest, kept => do
      if (findEntry entry.sessionId onDisk).isSome then auditIndexed onDisk rest kept
      else
        appendLogRecordToPath json (.audit entry.sessionId) (deleteRecord now entry.sessionId)
        auditIndexed onDisk rest (removeEntry entry.sessionId kept)

def auditOnDisk : List IndexSessionEntry → List IndexSessionEntry →
    IndexProgram (List IndexSessionEntry)
  | [], kept => pure kept
  | entry :: rest, kept => do
      if (findEntry entry.sessionId kept).isSome then auditOnDisk rest kept
      else
        appendLogRecordToPath json (.audit entry.sessionId) (upsertRecord now entry)
        auditOnDisk rest (upsertEntry entry kept)

/-- The audit takes the sessions in any order: its records are of different sessions. -/
def startupAudit (entries : List IndexSessionEntry) : IndexProgram (List IndexSessionEntry) := do
  let onDisk ← scan json parse true
  let kept ← auditIndexed json now onDisk entries entries
  auditOnDisk json now onDisk kept

def loadOrRebuild : IndexProgram (List IndexSessionEntry) := do
  match ← (FaultProgram.quietCall .load (.io .load) fun store =>
      loadEntriesSnapshotAndLog json parse store.disk).attempt with
  | .ok entries => pure entries
  | .error _ => rebuildFromSessionsDir json parse now

def removeMarker : IndexProgram Unit := do
  diskCall .removeMarker fun disk => { disk with repairMarker := false }
  syncCall .syncRemoved

def loadWithRecoveryOrFail (stale : List String) : IndexProgram (List IndexSessionEntry) := do
  syncCall .createRoot
  syncCall .listStaging
  cleanupStagingDirs stale
  let hasRepairMarker ← .inspect fun store => store.disk.repairMarker
  let loaded ← if hasRepairMarker then rebuildFromSessionsDir json parse now
    else loadOrRebuild json parse now
  let audited ← startupAudit json parse now loaded
  if hasRepairMarker then removeMarker
  pure (sortEntriesDesc audited)

def new (stale : List String) : IndexProgram Unit := do
  let entries ← loadWithRecoveryOrFail json parse now stale
  .modify fun store => { store with entries := entries, health := .healthy }

end SessionIndexStore

end OpenJax.Transcript
