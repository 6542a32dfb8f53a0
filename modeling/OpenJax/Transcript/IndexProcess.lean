import OpenJax.Shared.Machine
import OpenJax.Transcript.IndexRecovery

set_option autoImplicit false

namespace OpenJax.Transcript

open Shared FaultProgram SessionIndexStore

section

/-- The manifest of a transcript is written in place: a stop leaves a beginning of it. -/
structure ManifestRewrite where
  manifest : TranscriptManifest
  size : Nat

def IndexDisk.transcribe (json : IndexJson) (sessionId : String) (segments : Bool)
    (rewrite : Option ManifestRewrite) (disk : IndexDisk) : IndexDisk :=
  let directory := (disk.sessions.lookup sessionId).getD .empty
  { disk with
    sessions := disk.sessions.insert sessionId
      { directory with
        segments := directory.segments || segments
        manifest := rewrite.elim directory.manifest fun rewrite =>
          some ((json.manifest.toVec rewrite.manifest).take rewrite.size) } }

inductive IndexProcess where
  | up (store : SessionIndexStore)
  | down (disk : IndexDisk)

inductive IndexStep where
  | operation (operation : IndexOperation) (now : UtcTime) (answers : CallSite → CallAnswer)
  | transcript (sessionId : String) (segments : Bool) (rewrite : Option ManifestRewrite)
  | restart (stale : List String) (now : UtcTime) (answers : CallSite → CallAnswer)

def IndexProcess.disk : IndexProcess → IndexDisk
  | .up store => store.disk
  | .down disk => disk

def closedStore (disk : IndexDisk) : SessionIndexStore := ⟨disk, [], .healthy⟩

variable (json : IndexJson) (parse : String → Option UtcTime)

/-- A stop may come at any time: a restart needs no operation before it that was stopped. -/
def IndexProcess.step : IndexProcess → IndexStep → Option IndexProcess
  | .up store, .operation operation now answers =>
      match (operation.perform json parse now).run answers store with
      | (.stopped, next) => some (.down next.disk)
      | (_, next) => some (.up next)
  | .up store, .transcript sessionId segments rewrite =>
      some (.up (store.onDisk (·.transcribe json sessionId segments rewrite)))
  | process, .restart stale now answers =>
      match (new json parse now stale).run answers (closedStore process.disk) with
      | (.value (), next) => some (.up next)
      | (_, next) => some (.down next.disk)
  | .down _, _ => none

variable {json parse} {answers : CallSite → CallAnswer} {now : UtcTime}

section Steps

variable {ends : Ends SessionIndexStore IndexError Unit} {next : IndexProcess}

theorem operation_ends {store : SessionIndexStore} {operation : IndexOperation}
    (ended : ends.of ((operation.perform json parse now).run answers store))
    (stepped : IndexProcess.step json parse (.up store) (.operation operation now answers) =
      some next) :
    (∃ after, ends.value () after ∧ next = .up after) ∨
      (∃ error after, ends.failed error after ∧ next = .up after) ∨
      ∃ after, ends.stopped after ∧ next = .down after.disk := by
  simp only [IndexProcess.step] at stepped
  generalize (operation.perform json parse now).run answers store = outcome at ended stepped
  obtain ⟨ending, after⟩ := outcome
  cases ending with
  | value => exact .inl ⟨after, ended, (Option.some.inj stepped).symm⟩
  | failed error => exact .inr (.inl ⟨error, after, ended, (Option.some.inj stepped).symm⟩)
  | stopped => exact .inr (.inr ⟨after, ended, (Option.some.inj stepped).symm⟩)

theorem restart_ends {process : IndexProcess} {stale : List String}
    (ended : ends.of ((new json parse now stale).run answers (closedStore process.disk)))
    (stepped : process.step json parse (.restart stale now answers) = some next) :
    (∃ after, ends.value () after ∧ next = .up after) ∨
      (∃ error after, ends.failed error after ∧ next = .down after.disk) ∨
      ∃ after, ends.stopped after ∧ next = .down after.disk := by
  have started : IndexProcess.step json parse process (.restart stale now answers) =
      IndexProcess.step json parse (.down process.disk) (.restart stale now answers) := by
    cases process <;> rfl
  rw [started, IndexProcess.step, IndexProcess.disk] at stepped
  generalize (new json parse now stale).run answers (closedStore process.disk) = outcome
    at ended stepped
  obtain ⟨ending, after⟩ := outcome
  cases ending with
  | value => exact .inl ⟨after, ended, (Option.some.inj stepped).symm⟩
  | failed error => exact .inr (.inl ⟨error, after, ended, (Option.some.inj stepped).symm⟩)
  | stopped => exact .inr (.inr ⟨after, ended, (Option.some.inj stepped).symm⟩)

end Steps

section Apart

variable {γ : Type} {view : SessionIndexStore → γ}

structure FilesApart (view : SessionIndexStore → γ) : Prop where
  append : ∀ bytes store, view (store.onDisk (·.extendLog bytes)) = view store
  logs : LogsApart view
  writeTmp : ∀ bytes store, view (store.onDisk (JsonTarget.snapshot.writeTmp bytes)) = view store
  rename : ∀ store, view (store.onDisk JsonTarget.snapshot.rename) = view store
  staging : StagingApart view

theorem leaves_cleanupStagingDirs (apart : FilesApart view) (stale : List String) :
    Leaves view (cleanupStagingDirs stale) := by
  induction stale with
  | nil => exact leaves_pure _
  | cons sessionId rest ih =>
    exact (leaves_removeStaged apart.staging _ _).bind fun _ => ih

theorem leaves_rebuildFromSessionsDir (apart : FilesApart view) :
    Leaves view (rebuildFromSessionsDir json parse now) := by
  apply leaves_quietCall.bind
  intro found
  apply (leaves_writeJsonAtomic _ apart.writeTmp apart.rename).bind
  intro _
  apply (leaves_rotateLogTmpBak apart.logs).bind
  intro _
  exact leaves_pure _

theorem leaves_loadOrRebuild (apart : FilesApart view) :
    Leaves view (loadOrRebuild json parse now) := by
  apply leaves_quietCall.attempt.bind
  intro loaded
  cases loaded with
  | ok entries => exact leaves_pure _
  | error _ => exact leaves_rebuildFromSessionsDir apart

theorem leaves_startupAudit (apart : FilesApart view) (entries : List IndexSessionEntry) :
    Leaves view (startupAudit json parse now entries) := by
  have indexed (onDisk rest kept : List IndexSessionEntry) :
      Leaves view (auditIndexed json now onDisk rest kept) := by
    induction rest generalizing kept with
    | nil => exact leaves_pure _
    | cons entry rest ih =>
      exact leaves_ite (ih _) ((leaves_append apart.append).bind fun _ => ih _)
  have listed (rest kept : List IndexSessionEntry) :
      Leaves view (auditOnDisk json now rest kept) := by
    induction rest generalizing kept with
    | nil => exact leaves_pure _
    | cons entry rest ih =>
      exact leaves_ite (ih _) ((leaves_append apart.append).bind fun _ => ih _)
  apply leaves_quietCall.bind
  intro onDisk
  apply (indexed onDisk entries entries).bind
  exact fun kept => listed onDisk kept

end Apart

theorem filesApart_sessions : FilesApart fun store => store.disk.sessions :=
  ⟨fun _ _ => rfl, fun _ _ _ _ => rfl, fun _ _ => rfl, fun _ => rfl, fun _ _ => rfl⟩

theorem filesApart_marker : FilesApart fun store => store.disk.repairMarker :=
  ⟨fun _ _ => rfl, fun _ _ _ _ => rfl, fun _ _ => rfl, fun _ => rfl, fun _ _ => rfl⟩

theorem leaves_new (stale : List String) :
    Leaves (fun store => store.disk.sessions) (new json parse now stale) := by
  have apart := filesApart_sessions
  have unmarks : Leaves (fun store => store.disk.sessions) removeMarker :=
    (leaves_diskCall fun _ => rfl).bind fun _ => leaves_syncCall _
  apply Leaves.bind
  · apply (leaves_syncCall _).bind
    intro _
    apply (leaves_syncCall _).bind
    intro _
    apply (leaves_cleanupStagingDirs apart stale).bind
    intro _
    apply (leaves_inspect _).bind
    intro hasRepairMarker
    cases hasRepairMarker with
    | true =>
      apply (leaves_rebuildFromSessionsDir apart).bind
      intro loaded
      apply (leaves_startupAudit apart loaded).bind
      exact fun _ => unmarks.bind fun _ => leaves_pure _
    | false =>
      apply (leaves_loadOrRebuild apart).bind
      intro loaded
      apply (leaves_startupAudit apart loaded).bind
      exact fun _ => leaves_pure _
  · intro entries
    exact leaves_modify fun _ => rfl

theorem new_unmarked (stale : List String) :
    Triple answers (fun store => store.disk.repairMarker = false) (new json parse now stale)
      (.always fun store => store.disk.repairMarker = false) := by
  have apart := filesApart_marker
  have beside {α : Type} {program : IndexProgram α}
      (leaves : Leaves (fun store => store.disk.repairMarker) program) :
      Triple answers (fun store => store.disk.repairMarker = false) program
        (.always fun store => store.disk.repairMarker = false) :=
    leaves.triple (fun _ _ same unmarked => same.trans unmarked) answers
  apply Triple.bind fun _ store => store.disk.repairMarker = false
  · apply Triple.bind _ (beside (leaves_syncCall _))
    intro _
    apply Triple.bind _ (beside (leaves_syncCall _))
    intro _
    apply Triple.bind _ (beside (leaves_cleanupStagingDirs apart stale))
    intro _
    apply Triple.look
    intro hasRepairMarker
    cases hasRepairMarker with
    | true =>
      intro store marked
      simp [marked.1] at marked
    | false =>
      apply Triple.strengthen _ fun _ => And.left
      apply Triple.bind _ (beside (leaves_loadOrRebuild apart))
      intro loaded
      apply Triple.bind _ (beside (leaves_startupAudit apart loaded))
      intro audited
      exact triple_pure fun _ => id
  · intro entries
    exact triple_modify fun _ => id

end

section

variable {json : IndexJson} {parse : String → Option UtcTime} {answers : CallSite → CallAnswer}
  {now : UtcTime}

def proceeding : CallSite → CallAnswer := fun _ => .proceeds

theorem unfailing_proceeding : ¬ Failing proceeding := by
  rintro ⟨site, done, failed⟩
  cases failed

def cutAt (site : CallSite) (answer : CallAnswer) (called : CallSite) : CallAnswer :=
  if called = site then answer else .proceeds

variable {store : SessionIndexStore}

theorem sure_runs {α : Type} {pre : SessionIndexStore → Prop} {program : IndexProgram α}
    {value : α → SessionIndexStore → Prop}
    (sure : Triple proceeding pre program (sureEnds proceeding value)) (holds : pre store) :
    ∃ found next, program.run proceeding store = (.value found, next) ∧ value found next := by
  have ended := sure store holds
  generalize program.run proceeding store = outcome at ended ⊢
  match outcome, ended with
  | (.value found, next), ended => exact ⟨found, next, rfl, ended⟩
  | (.failed _, _), ended => exact ended.elim
  | (.stopped, _), ended =>
    obtain ⟨site, done, stopped⟩ := ended
    cases stopped

def besideStaging (store : SessionIndexStore) :
    Option Bytes × Option Bytes × Bool × Table String SessionDirectory ×
      List IndexSessionEntry × IndexHealth :=
  (store.disk.snapshot, store.disk.log, store.disk.repairMarker, store.disk.sessions,
    store.entries, store.health)

theorem stagingApart_besideStaging : StagingApart besideStaging := fun _ _ => rfl

def Prepared (origin : SessionIndexStore) (sessionId : String) (store : SessionIndexStore) : Prop :=
  besideStaging store = besideStaging origin ∧
    ∃ directory, store.disk.staging.lookup sessionId = some directory

structure Created (json : IndexJson) (now : UtcTime) (entry : IndexSessionEntry)
    (origin store : SessionIndexStore) : Prop where
  log : store.disk.log = some (origin.disk.log.getD [] ++
    (json.record.toVec (upsertRecord now entry) ++ [lineFeed]))
  snapshot : store.disk.snapshot = origin.disk.snapshot
  marker : store.disk.repairMarker = origin.disk.repairMarker
  others : ∀ sessionId, sessionId ≠ entry.sessionId →
    store.disk.sessions.lookup sessionId = origin.disk.sessions.lookup sessionId
  entries : store.entries = sortEntriesDesc (upsertEntry entry origin.entries)
  health : store.health = origin.health

variable {records : List SessionIndexLogRecord} {entry : IndexSessionEntry}

theorem Created.written {origin store : SessionIndexStore}
    (created : Created json now entry origin store)
    (log : origin.disk.log.getD [] = written json records) :
    store.disk.log = some (written json (records ++ [upsertRecord now entry])) := by
  rw [created.log, log, written_append]

section Sure

variable {origin : SessionIndexStore} (unfailing : ¬ Failing answers)

include unfailing

theorem stage_sure (entry : IndexSessionEntry) :
    Triple answers (fun store => besideStaging store = besideStaging origin) (stage json entry)
      (sureEnds answers fun _ => Prepared origin entry.sessionId) := by
  let beside (store : SessionIndexStore) : Prop := besideStaging store = besideStaging origin
  have changed (change : SessionDirectory → SessionDirectory) (store : SessionIndexStore)
      (holds : beside store) :
      beside (store.onDisk (·.updateStaging entry.sessionId change)) :=
    (updateStaging_apart stagingApart_besideStaging entry.sessionId change store).trans holds
  have clears : Triple answers beside (removeStaged .clearStaging entry.sessionId)
      (sureEnds answers fun _ => beside) :=
    call_sure unfailing fun store holds => ⟨(), _, rfl, holds⟩
  have creates : Triple answers beside (diskCall .createStaging fun disk =>
      { disk with staging := disk.staging.insert entry.sessionId .empty })
      (sureEnds answers fun _ => Prepared origin entry.sessionId) :=
    diskCall_sure unfailing fun store holds => ⟨holds, _, AList.lookup_insert _⟩
  have writes : Triple answers (Prepared origin entry.sessionId)
      (writeJsonAtomic (.staged entry.sessionId) (json.metadata.toVec (.fromIndexEntry entry)))
      (sureEnds answers fun _ => Prepared origin entry.sessionId) := by
    apply writeJsonAtomic_sure unfailing
    intro store holds
    obtain ⟨same, directory, there⟩ := holds
    have renamed : ((store.onDisk ((JsonTarget.staged entry.sessionId).writeTmp
        (json.metadata.toVec (.fromIndexEntry entry)))).onDisk
          (JsonTarget.staged entry.sessionId).rename).disk.staging.lookup entry.sessionId =
        some (SessionDirectory.renameTmp { directory with
          metadataTmp := some (json.metadata.toVec (.fromIndexEntry entry)) }) := by
      rw [onDisk_disk, JsonTarget.staged, lookup_updateStaging, if_pos rfl, onDisk_disk,
        lookup_updateStaging, if_pos rfl, there]
      rfl
    exact ⟨changed _ _ (changed _ _ same), _, renamed⟩
  apply Triple.look
  intro found
  apply triple_ite
  · intro _
    exact (clears.strengthen fun _ => And.left).bind _ fun _ => creates.bind _ fun _ => writes
  · exact fun _ => (creates.strengthen fun _ => And.left).bind _ fun _ => writes

theorem publish_sure {entry : IndexSessionEntry} {before : SessionIndexStore}
    (absent : before.disk.sessions.lookup entry.sessionId = none)
    {value : Unit → SessionIndexStore → Prop}
    (published : ∀ store directory, besideStaging store = besideStaging before →
      value () { store with disk := { store.disk with
        sessions := store.disk.sessions.insert entry.sessionId directory
        staging := store.disk.staging.erase entry.sessionId } }) :
    Triple answers (Prepared before entry.sessionId) (publish entry.sessionId)
      (sureEnds answers value) := by
  apply call_sure unfailing
  intro store holds
  obtain ⟨same, directory, there⟩ := holds
  have known : store.disk.sessions = before.disk.sessions := by
    simp only [besideStaging, Prod.mk.injEq] at same
    exact same.2.2.2.1
  have free : publishStaged entry.sessionId store.disk = .ok { store.disk with
      sessions := store.disk.sessions.insert entry.sessionId directory
      staging := store.disk.staging.erase entry.sessionId } := by
    simp [publishStaged, there, known, absent]
  exact ⟨(), _, by rw [free]; rfl, published store directory same⟩

theorem createNormalized_sure (entry : IndexSessionEntry)
    (absent : origin.disk.sessions.lookup entry.sessionId = none) :
    Triple answers (fun store => store = origin) (createNormalized json now entry)
      (sureEnds answers fun _ => Created json now entry origin) := by
  let logged := origin.onDisk (·.extendLog (json.record.toVec (upsertRecord now entry) ++ [lineFeed]))
  let remembered := upsertMemoryEntry entry logged
  apply Triple.bind fun _ => Prepared origin entry.sessionId
  · exact (stage_sure unfailing entry).strengthen fun store same => congrArg besideStaging same
  intro _
  apply Triple.bind fun _ => Prepared logged entry.sessionId
  · apply append_sure unfailing
    intro store holds
    refine ⟨?_, holds.2⟩
    have same := holds.1
    simp only [besideStaging, Prod.mk.injEq] at same
    obtain ⟨snapshot, log, rest⟩ := same
    simp only [logged, besideStaging, onDisk_disk, onDisk_entries, onDisk_health,
      IndexDisk.extendLog, snapshot, log, rest]
  intro _
  apply Triple.bind fun _ => Prepared remembered entry.sessionId
  · apply triple_modify
    intro store holds
    refine ⟨?_, holds.2⟩
    have same := holds.1
    simp only [besideStaging, Prod.mk.injEq] at same
    obtain ⟨snapshot, log, marker, sessions, entries, health⟩ := same
    simp only [remembered, besideStaging, upsertMemoryEntry, snapshot, log, marker, sessions,
      entries, health]
  intro _
  have publishes : Triple answers (Prepared remembered entry.sessionId) (publish entry.sessionId)
      (sureEnds answers fun _ => Created json now entry origin) := by
    have unlisted : remembered.disk.sessions.lookup entry.sessionId = none := absent
    apply publish_sure unfailing unlisted
    intro store directory same
    simp only [besideStaging, Prod.mk.injEq] at same
    obtain ⟨snapshot, log, marker, sessions, entries, health⟩ := same
    refine ⟨log, snapshot, marker, ?_, entries, health⟩
    intro sessionId other
    rw [AList.lookup_insert_ne other, sessions]
    rfl
  exact sure_tried publishes fun _ => triple_pure fun _ => id

end Sure

theorem create_runs {normal : String} (health : store.health = .healthy)
    (normalized : normalizeRfc3339UtcMillis parse entry.updatedAt = some normal)
    (absent : store.disk.sessions.lookup entry.sessionId = none) :
    ∃ next, ((IndexOperation.create entry).body json parse now).run proceeding store =
        (.value true, next) ∧ Created json now { entry with updatedAt := normal } store next := by
  have writable : ensureWritable.run proceeding store = (.value (), store) := by
    simp [ensureWritable, bind, pure, FaultProgram.inspect, health]
  have timed : (normalizedTime parse entry.updatedAt).run proceeding store =
      (.value normal, store) := by
    simp [normalizedTime, normalized, FaultProgram.ofExcept, pure]
  have creates : Triple proceeding (fun before => before = store)
      (createNormalized json now { entry with updatedAt := normal }) _ :=
    createNormalized_sure unfailing_proceeding { entry with updatedAt := normal } absent
  obtain ⟨_, next, ran, created⟩ := sure_runs creates rfl
  refine ⟨next, ?_, created⟩
  simp only [IndexOperation.body, createEntry, bind, pure, writable, timed, ran]

theorem countLogLines_written (records : List SessionIndexLogRecord) :
    countLogLines (written json records) = .ok records.length := by
  have text : (splitLines (written json records)).all isUtf8 := by
    rw [splitLines_written, List.all_map, List.all_eq_true]
    exact fun record _ => json.record.utf8 record
  have inked : (splitLines (written json records)).filter (fun line => !isBlank line) =
      splitLines (written json records) := by
    rw [splitLines_written, List.filter_eq_self]
    intro line listed
    obtain ⟨record, -, rfl⟩ := List.mem_map.mp listed
    simp [isBlank_toVec]
  rw [countLogLines, if_pos text, inked, splitLines_written, List.length_map]

theorem compactionDue_runs {bytes : Bytes} {lines : Nat}
    (measures : answers .measureLog = .proceeds) (counts : answers .countLines = .proceeds)
    (log : store.disk.log = some bytes) (counted : countLogLines bytes = .ok lines) :
    compactionDue.run answers store =
      (.value (!(bytes.length < compactMaxBytes && lines < compactMaxLines)), store) := by
  simp [compactionDue, bind, pure, FaultProgram.inspect, log, syncCall, FaultProgram.quietCall,
    FaultProgram.atomicCall, FaultProgram.call, measures, counts, Except.map, counted]

theorem compact_stopped (log : store.disk.log.isSome) :
    ∃ next, (compact json now).run (cutAt .removeBak (.stops 0)) store = (.stopped, next) ∧
      next.disk.snapshot = some (json.snapshot.toVec (snapshotOf now store.entries)) ∧
      next.disk.log = some [] := by
  obtain ⟨text, there⟩ := Option.isSome_iff_exists.mp log
  cases bak : store.disk.logBak <;>
    simp [compact, bind, pure, FaultProgram.inspect, writeJsonAtomic, FaultProgram.call, diskCall,
      FaultProgram.atomicCall, syncCall, FaultProgram.quietCall, FaultProgram.attempt,
      rotateLogTmpBak, retireLog, hasBak, cleanUpBak, cutAt, JsonTarget.snapshot, there, bak,
      dropBak, Except.map]

theorem create_performs_short {normal : String} {lines : Nat} (health : store.health = .healthy)
    (normalized : normalizeRfc3339UtcMillis parse entry.updatedAt = some normal)
    (absent : store.disk.sessions.lookup entry.sessionId = none)
    (short : (store.disk.log.getD [] ++ (json.record.toVec
      (upsertRecord now { entry with updatedAt := normal }) ++ [lineFeed])).length <
        compactMaxBytes) (counted : countLogLines (store.disk.log.getD [] ++ (json.record.toVec
      (upsertRecord now { entry with updatedAt := normal }) ++ [lineFeed])) = .ok lines)
    (few : lines < compactMaxLines) :
    ∃ next, ((IndexOperation.create entry).perform json parse now).run proceeding store =
        (.value (), next) ∧ Created json now { entry with updatedAt := normal } store next := by
  obtain ⟨next, ran, created⟩ := @create_runs json parse now store entry normal health normalized
    absent
  refine ⟨next, ?_, created⟩
  have idle : compactionDue.run proceeding next = (.value false, next) := by
    rw [compactionDue_runs rfl rfl created.log counted, decide_eq_true short, decide_eq_true few]
    rfl
  rw [IndexOperation.perform_eq]
  simp [bind, pure, ran, maybeCompact, idle]

theorem create_performs {normal : String} (health : store.health = .healthy)
    (normalized : normalizeRfc3339UtcMillis parse entry.updatedAt = some normal)
    (absent : store.disk.sessions.lookup entry.sessionId = none)
    (log : store.disk.log.getD [] = written json records) (short : (written json (records ++
      [upsertRecord now { entry with updatedAt := normal }])).length < compactMaxBytes)
    (few : records.length + 1 < compactMaxLines) :
    ∃ next, ((IndexOperation.create entry).perform json parse now).run proceeding store =
        (.value (), next) ∧ Created json now { entry with updatedAt := normal } store next := by
  rw [written_append] at short
  apply create_performs_short health normalized absent
  · rwa [log]
  · rw [log, ← written_append]
    exact countLogLines_written _
  · rwa [List.length_append]

theorem setTitle_fails {store next : SessionIndexStore} {sessionId : String}
    {title : Option String} {base : IndexSessionEntry} {error : IndexError}
    (health : store.health = .healthy) (found : findEntry sessionId store.entries = some base)
    (failed : (appendLogRecordToPath json .operation (upsertRecord now
        { base with title := title, updatedAt := formatUtcMillis now })).run answers store =
      (.failed error, next)) :
    ((IndexOperation.setTitle sessionId title).perform json parse now).run answers store =
      (.failed error, next) := by
  simp [IndexOperation.perform, updateSessionTitle, SessionIndexStore.setTitle, bind, pure,
    ensureWritable, FaultProgram.inspect, health, baseEntry, found, storeEntry, failed]

theorem append_unsynced (store : SessionIndexStore) (record : SessionIndexLogRecord) :
    (appendLogRecordToPath json .operation record).run (cutAt (.newline .operation) (.fails 1))
        store =
      (.failed (.io (.newline .operation)),
        store.onDisk (·.extendLog (json.record.toVec record ++ [lineFeed]))) := by
  simp [appendLogRecordToPath, bind, FaultProgram.call, cutAt, SessionIndexStore.onDisk,
    extendLog_extendLog]

theorem append_torn (store : SessionIndexStore) (record : SessionIndexLogRecord) :
    (appendLogRecordToPath json .operation record).run (cutAt (.record .operation) (.fails 1))
        store =
      (.failed (.io (.record .operation)),
        store.onDisk (·.extendLog ((json.record.toVec record).dropLast.take 1))) := by
  simp [appendLogRecordToPath, bind, FaultProgram.call, cutAt]

theorem written_extend (log : store.disk.log = some (written json records))
    (record : SessionIndexLogRecord) :
    (store.onDisk (·.extendLog (json.record.toVec record ++ [lineFeed]))).disk.log.getD [] =
      written json (records ++ [record]) := by
  rw [onDisk_disk, IndexDisk.extendLog, log, written_append]
  rfl

theorem new_empty : (new json parse now []).run proceeding (closedStore .empty) =
    (.value (), closedStore .empty) := by
  have scanned : scanSessionsMetadata json parse .empty = .ok [] := rfl
  have loaded : loadEntriesSnapshotAndLog json parse .empty = .ok [] := rfl
  have unmarked : IndexDisk.empty.repairMarker = false := rfl
  simp [new, loadWithRecoveryOrFail, loadOrRebuild, bind, pure, syncCall, FaultProgram.quietCall,
    FaultProgram.atomicCall, FaultProgram.call, proceeding, Except.map, cleanupStagingDirs,
    FaultProgram.inspect, FaultProgram.attempt, closedStore, loaded, scanned, startupAudit, scan,
    auditIndexed, auditOnDisk, FaultProgram.modify, sortEntriesDesc, unmarked]

end

end OpenJax.Transcript
