import OpenJax.Transcript.IndexDirectories

set_option autoImplicit false

namespace OpenJax.Transcript

open Shared FaultProgram SessionIndexStore

variable {json : IndexJson} {parse : String → Option UtcTime} {answers : CallSite → CallAnswer}
  {now : UtcTime}

def Stopping (answers : CallSite → CallAnswer) : Prop := ∃ site done, answers site = .stops done

def sureEnds {α : Type} (answers : CallSite → CallAnswer)
    (value : α → SessionIndexStore → Prop) : Ends SessionIndexStore IndexError α :=
  ⟨value, fun _ _ => False, fun _ => Stopping answers⟩

section Sure

variable {α : Type} {pre : SessionIndexStore → Prop} {value : α → SessionIndexStore → Prop}
  (unfailing : ¬ Failing answers)

include unfailing

variable {site : CallSite}

theorem call_sure {error : IndexError}
    {perform : SessionIndexStore → Except IndexError (α × SessionIndexStore)}
    {partly : Nat → SessionIndexStore → SessionIndexStore}
    (performs : ∀ store, pre store → ∃ found next, perform store = .ok (found, next) ∧
      value found next) :
    Triple answers pre (.call site error perform partly) (sureEnds answers value) := by
  apply triple_call
  · intro store found next _ holds done
    obtain ⟨other, after, performed, known⟩ := performs store holds
    rw [performed] at done
    simp only [Except.ok.injEq, Prod.mk.injEq] at done
    exact done.1 ▸ done.2 ▸ known
  · intro store refused holds done
    obtain ⟨_, _, performed, _⟩ := performs store holds
    simp [performed] at done
  · exact fun store done failed _ => unfailing ⟨site, done, failed⟩
  · exact fun store done stopped _ => ⟨site, done, stopped⟩

theorem diskCall_sure {value : Unit → SessionIndexStore → Prop} {change : IndexDisk → IndexDisk}
    (changed : ∀ store, pre store → value () (store.onDisk change)) :
    Triple answers pre (diskCall site change) (sureEnds answers value) :=
  call_sure unfailing fun store holds => ⟨(), _, rfl, changed store holds⟩

theorem quietCall_sure {error : IndexError} {look : SessionIndexStore → Except IndexError α}
    (looks : ∀ store, pre store → ∃ found, look store = .ok found ∧ value found store) :
    Triple answers pre (.quietCall site error look) (sureEnds answers value) := by
  apply call_sure unfailing
  intro store holds
  obtain ⟨found, looked, known⟩ := looks store holds
  exact ⟨found, store, by rw [looked]; rfl, known⟩

theorem syncCall_sure {value : Unit → SessionIndexStore → Prop}
    (synced : ∀ store, pre store → value () store) :
    Triple answers pre (syncCall site) (sureEnds answers value) :=
  quietCall_sure unfailing fun store holds => ⟨(), rfl, synced store holds⟩

omit unfailing in
theorem sure_tried {β : Type} {program : IndexProgram β}
    {rest : Except IndexError β → IndexProgram α} {middle : β → SessionIndexStore → Prop}
    (tried : Triple answers pre program (sureEnds answers middle))
    (continued : ∀ found, Triple answers (middle found) (rest (.ok found))
      (sureEnds answers value)) :
    Triple answers pre (program.attempt >>= rest) (sureEnds answers value) :=
  Triple.tried middle (fun _ _ => False) tried continued fun _ _ => False.elim

theorem writeJsonAtomic_sure {value : Unit → SessionIndexStore → Prop} {target : JsonTarget}
    {encoded : Bytes}
    (renamed : ∀ store, pre store →
      value () ((store.onDisk (target.writeTmp encoded)).onDisk target.rename)) :
    Triple answers pre (writeJsonAtomic target encoded) (sureEnds answers value) := by
  apply Triple.bind fun _ store => ∃ before, pre before ∧
    store = before.onDisk (target.writeTmp encoded)
  · exact call_sure unfailing fun store holds => ⟨(), _, rfl, store, holds, rfl⟩
  · intro _
    apply Triple.bind fun _ => value ()
    · apply diskCall_sure unfailing
      intro store half
      obtain ⟨before, holds, rfl⟩ := half
      exact renamed before holds
    · exact fun _ => syncCall_sure unfailing fun _ => id

theorem append_sure {value : Unit → SessionIndexStore → Prop} {purpose : LogPurpose}
    {record : SessionIndexLogRecord}
    (appended : ∀ store, pre store →
      value () (store.onDisk (·.extendLog (json.record.toVec record ++ [lineFeed])))) :
    Triple answers pre (appendLogRecordToPath json purpose record) (sureEnds answers value) := by
  apply Triple.bind fun _ store => ∃ before, pre before ∧
    store = before.onDisk (·.extendLog (json.record.toVec record))
  · exact call_sure unfailing fun store holds => ⟨(), _, rfl, store, holds, rfl⟩
  · intro _
    apply call_sure unfailing
    intro store half
    obtain ⟨before, holds, rfl⟩ := half
    have known := appended before holds
    refine ⟨(), _, rfl, ?_⟩
    simpa only [SessionIndexStore.onDisk, extendLog_extendLog] using known

theorem rotateLogTmpBak_sure {frame : SessionIndexStore → Prop}
    (apart : ∀ (log logTmp logBak : IndexDisk → Option Bytes) store, frame store →
      frame (store.onDisk fun disk =>
        { disk with log := log disk, logTmp := logTmp disk, logBak := logBak disk })) :
    Triple answers frame rotateLogTmpBak
      (sureEnds answers fun _ store => frame store ∧ store.disk.log = some []) := by
  let emptied (store : SessionIndexStore) : Prop := frame store ∧ store.disk.logTmp = some []
  have retires : Triple answers emptied retireLog (sureEnds answers fun _ => emptied) := by
    have retired : Triple answers emptied
        (diskCall .retireLog fun disk => { disk with logBak := disk.log, log := none })
        (sureEnds answers fun _ => emptied) :=
      diskCall_sure unfailing fun store holds => ⟨apart _ _ _ store holds.1, holds.2⟩
    have dropped : Triple answers emptied (diskCall .removeStaleBak dropBak)
        (sureEnds answers fun _ => emptied) :=
      diskCall_sure unfailing fun store holds => ⟨apart _ _ _ store holds.1, holds.2⟩
    apply Triple.look
    intro found
    apply triple_ite
    · intro _
      exact (hasBak_triple (dropped.bind _ fun _ => retired) retired).strengthen fun _ => And.left
    · exact fun _ => triple_pure fun _ => And.left
  let replaced (store : SessionIndexStore) : Prop := frame store ∧ store.disk.log = some []
  have cleans : Triple answers replaced cleanUpBak (sureEnds answers fun _ => replaced) := by
    have dropped : Triple answers replaced (diskCall .removeBak dropBak)
        (sureEnds answers fun _ => replaced) :=
      diskCall_sure unfailing fun store holds => ⟨apart _ _ _ store holds.1, holds.2⟩
    apply Triple.bind fun _ => replaced
    · exact syncCall_sure unfailing fun _ => id
    · intro _
      apply hasBak_triple
      · exact sure_tried dropped fun _ => triple_pure fun _ => id
      · exact triple_pure fun _ => id
  apply Triple.bind fun _ => emptied
  · exact call_sure unfailing fun store holds => ⟨(), _, rfl, apart _ _ _ store holds, rfl⟩
  · intro _
    apply Triple.bind _ retires
    intro _
    apply sure_tried (diskCall_sure unfailing _)
    · exact fun _ => cleans
    · exact fun store holds => ⟨apart _ _ _ store holds.1, holds.2⟩

end Sure

def Legible (log : Option Bytes) : Prop :=
  ∀ bytes, log = some bytes → ∀ line ∈ splitLines bytes, isUtf8 line

theorem legible_empty : Legible (some []) := by
  intro bytes same line listed
  cases same
  cases listed

theorem Legible.extend {disk : IndexDisk} (legible : Legible disk.log)
    (record : SessionIndexLogRecord) :
    Legible (disk.extendLog (json.record.toVec record ++ [lineFeed])).log := by
  intro bytes same
  cases same
  have earlier : ∀ line ∈ splitLines (disk.log.getD []), isUtf8 line := by
    cases there : disk.log with
    | none => exact fun line listed => by cases listed
    | some bytes => exact legible bytes there
  have text := json.record.utf8 record
  have single := json.record.oneLine record
  intro line listed
  rcases splitLines_extend (disk.log.getD []) single.1 single.2 (json.record.toVec_ne_nil record)
    with own | ⟨others, last, before, after⟩
  · rw [own] at listed
    rcases List.mem_append.mp listed with old | new
    · exact earlier line old
    · exact List.mem_singleton.mp new ▸ text
  · rw [after] at listed
    rcases List.mem_append.mp listed with old | new
    · exact earlier line (before ▸ List.mem_append_left _ old)
    · have begun := earlier last (before ▸ List.mem_append_right _ List.mem_cons_self)
      exact List.mem_singleton.mp new ▸ isUtf8_append begun text

theorem legible_of_replayed {lines : List Bytes} {entries found : List IndexSessionEntry}
    (replayed : replayLogLines json parse lines entries = .ok found) :
    ∀ line ∈ lines, isUtf8 line := by
  induction lines generalizing entries with
  | nil => simp
  | cons line rest ih =>
    rw [replayLogLines] at replayed
    split_ifs at replayed with broken blank
    · intro other listed
      rcases List.mem_cons.mp listed with rfl | later
      · simpa using broken
      · exact ih replayed other later
    · intro other listed
      cases read : json.record.fromSlice line with
      | none => simp [read] at replayed
      | some record =>
        rw [read] at replayed
        dsimp only at replayed
        cases applied : applyLogRecord parse record entries with
        | error refused => simp [applied, bind, Except.bind] at replayed
        | ok next =>
          rw [applied] at replayed
          rcases List.mem_cons.mp listed with rfl | later
          · simpa using broken
          · exact ih replayed other later

theorem legible_of_loaded {disk : IndexDisk} {found : List IndexSessionEntry}
    (loaded : loadEntriesSnapshotAndLog json parse disk = .ok found) : Legible disk.log := by
  intro bytes there
  cases snapshot : loadSnapshot json parse disk with
  | error refused => simp [loadEntriesSnapshotAndLog, snapshot, bind, Except.bind] at loaded
  | ok base =>
    simp only [loadEntriesSnapshotAndLog, snapshot, bind, Except.bind, replayLog, there] at loaded
    exact legible_of_replayed loaded

theorem countLogLines_legible {bytes : Bytes} (legible : ∀ line ∈ splitLines bytes, isUtf8 line) :
    ∃ lines, countLogLines bytes = .ok lines := by
  unfold countLogLines
  rw [if_pos (List.all_eq_true.mpr legible)]
  exact ⟨_, rfl⟩

section Compacting

variable {frame : SessionIndexStore → Prop}

structure BesideIndex (frame : SessionIndexStore → Prop) : Prop where
  logs : ∀ (log logTmp logBak : IndexDisk → Option Bytes) store, frame store →
    frame (store.onDisk fun disk =>
      { disk with log := log disk, logTmp := logTmp disk, logBak := logBak disk })
  snapshots : ∀ (snapshot snapshotTmp : IndexDisk → Option Bytes) store, frame store →
    frame (store.onDisk fun disk =>
      { disk with snapshot := snapshot disk, snapshotTmp := snapshotTmp disk })

theorem maybeCompact_sure (unfailing : ¬ Failing answers) (beside : BesideIndex frame) :
    Triple answers (fun store => frame store ∧ Legible store.disk.log) (maybeCompact json now)
      (sureEnds answers fun _ store => frame store ∧ Legible store.disk.log) := by
  let legible (store : SessionIndexStore) : Prop := frame store ∧ Legible store.disk.log
  have compacts : Triple answers legible (compact json now) (sureEnds answers fun _ => legible) := by
    apply Triple.look
    intro seen
    apply Triple.bind fun _ => frame
    · apply writeJsonAtomic_sure unfailing
      intro store holds
      exact beside.snapshots _ _ _ (beside.snapshots _ _ _ holds.1.1)
    · intro _
      apply sure_tried (rotateLogTmpBak_sure unfailing beside.logs)
      exact fun _ => triple_pure fun store holds => ⟨holds.1, holds.2 ▸ legible_empty⟩
  apply Triple.bind fun _ => legible
  · apply Triple.look
    intro log
    cases log with
    | none => exact triple_pure fun _ => And.left
    | some bytes =>
      apply Triple.bind fun _ store => legible store ∧ store.disk.log = some bytes
      · exact syncCall_sure unfailing fun _ => id
      · intro _
        apply Triple.bind fun _ => legible
        · apply quietCall_sure unfailing
          intro store holds
          obtain ⟨lines, counted⟩ := countLogLines_legible (holds.1.2 bytes holds.2)
          exact ⟨lines, counted, holds.1⟩
        · exact fun _ => triple_pure fun _ => id
  · intro due
    apply triple_ite
    · exact fun _ => compacts
    · exact fun _ => triple_pure fun _ => id

end Compacting

section Audit

variable {fit : String → Prop} {sessions : String → Bool}

def Readable (json : IndexJson) (fit : String → Prop) (sessions : String → Bool)
    (store : SessionIndexStore) : Prop :=
  Sited json fit True sessions store ∧ Legible store.disk.log

theorem besideIndex_sited : BesideIndex (Sited json fit True sessions) where
  logs _ _ _ _ := Sited.of_view rfl
  snapshots _ _ _ := Sited.of_view rfl

theorem append_readable (unfailing : ¬ Failing answers) {α : Type} {purpose : LogPurpose}
    {record : SessionIndexLogRecord} {rest : IndexProgram α}
    {value : α → SessionIndexStore → Prop}
    (continued : Triple answers (Readable json fit sessions) rest (sureEnds answers value)) :
    Triple answers (Readable json fit sessions)
      (do appendLogRecordToPath json purpose record; rest) (sureEnds answers value) := by
  apply Triple.bind fun _ => Readable json fit sessions
  · apply append_sure unfailing
    intro store holds
    exact ⟨⟨holds.1.whole, holds.1.known⟩, holds.2.extend record⟩
  · exact fun _ => continued

theorem findEntry_cons_self (entry : IndexSessionEntry) (rest : List IndexSessionEntry) :
    findEntry entry.sessionId (entry :: rest) = some entry := by
  simp [findEntry]

theorem findEntry_cons_ne {sessionId : String} {entry : IndexSessionEntry}
    {rest : List IndexSessionEntry} (other : sessionId ≠ entry.sessionId) :
    findEntry sessionId (entry :: rest) = findEntry sessionId rest := by
  simp [findEntry, Ne.symm other]

theorem auditIndexed_sure (unfailing : ¬ Failing answers) (onDisk : List IndexSessionEntry)
    (rest kept : List IndexSessionEntry) :
    Triple answers (Readable json fit sessions) (auditIndexed json now onDisk rest kept)
      (sureEnds answers fun audited store => Readable json fit sessions store ∧
        ∀ sessionId, findEntry sessionId audited =
          if (findEntry sessionId onDisk).isSome ∨ (findEntry sessionId rest).isNone then
            findEntry sessionId kept
          else none) := by
  induction rest generalizing kept with
  | nil =>
    apply triple_pure
    intro store holds
    exact ⟨holds, fun sessionId => by simp [findEntry]⟩
  | cons entry rest ih =>
    apply triple_ite
    · intro listed
      apply (ih kept).mono_value
      intro audited store holds
      refine ⟨holds.1, fun sessionId => (holds.2 sessionId).trans ?_⟩
      by_cases same : sessionId = entry.sessionId
      · subst same
        simp [listed]
      · rw [findEntry_cons_ne same]
    · intro unlisted
      apply append_readable unfailing
      apply (ih (removeEntry entry.sessionId kept)).mono_value
      intro audited store holds
      refine ⟨holds.1, fun sessionId => (holds.2 sessionId).trans ?_⟩
      rw [findEntry_removeEntry]
      by_cases same : sessionId = entry.sessionId
      · subst same
        simp [unlisted, findEntry_cons_self]
      · rw [findEntry_cons_ne same, if_neg same]

theorem auditOnDisk_sure (unfailing : ¬ Failing answers) (rest kept : List IndexSessionEntry) :
    Triple answers (Readable json fit sessions) (auditOnDisk json now rest kept)
      (sureEnds answers fun audited store => Readable json fit sessions store ∧
        ∀ sessionId, findEntry sessionId audited =
          (findEntry sessionId kept).or (findEntry sessionId rest)) := by
  induction rest generalizing kept with
  | nil =>
    apply triple_pure
    intro store holds
    exact ⟨holds, fun sessionId => by simp [findEntry]⟩
  | cons entry rest ih =>
    apply triple_ite
    · intro there
      apply (ih kept).mono_value
      intro audited store holds
      refine ⟨holds.1, fun sessionId => (holds.2 sessionId).trans ?_⟩
      by_cases same : sessionId = entry.sessionId
      · subst same
        obtain ⟨found, known⟩ := Option.isSome_iff_exists.mp there
        rw [known, Option.some_or, Option.some_or]
      · rw [findEntry_cons_ne same]
    · intro missing
      apply append_readable unfailing
      apply (ih (upsertEntry entry kept)).mono_value
      intro audited store holds
      refine ⟨holds.1, fun sessionId => (holds.2 sessionId).trans ?_⟩
      rw [findEntry_upsertEntry]
      by_cases same : sessionId = entry.sessionId
      · subst same
        have absent : findEntry entry.sessionId kept = none := by simpa using missing
        rw [if_pos rfl, findEntry_cons_self, absent, Option.some_or, Option.none_or]
      · rw [findEntry_cons_ne same, if_neg same]

variable (parses : ∀ stamp, fit stamp → (normalizeRfc3339UtcMillis parse stamp).isSome)

include parses

theorem scan_sure (unfailing : ¬ Failing answers) {pre : SessionIndexStore → Prop}
    (sited : ∀ store, pre store → Sited json fit True sessions store) (audit : Bool) :
    Triple answers pre (scan json parse audit)
      (sureEnds answers fun found store => pre store ∧
        ∀ sessionId, (findEntry sessionId found).isSome = sessions sessionId) := by
  apply quietCall_sure unfailing
  intro store holds
  obtain ⟨whole, known⟩ := sited store holds
  obtain ⟨found, scanned⟩ := scan_reads parses trivial whole
  obtain ⟨-, -, listing⟩ := scan_found whole scanned
  exact ⟨found, scanned, holds, fun sessionId => (listing sessionId).trans (congrFun known _)⟩

theorem startupAudit_sure (unfailing : ¬ Failing answers) (entries : List IndexSessionEntry) :
    Triple answers (Readable json fit sessions) (startupAudit json parse now entries)
      (sureEnds answers fun audited store => Readable json fit sessions store ∧
        (∀ sessionId, (findEntry sessionId audited).isSome = sessions sessionId) ∧
        ∀ sessionId entry, sessions sessionId → findEntry sessionId entries = some entry →
          findEntry sessionId audited = some entry) := by
  apply Triple.bind _ (scan_sure parses unfailing (fun _ holds => holds.1) true)
  intro onDisk start holds
  obtain ⟨readable, listing⟩ := holds
  refine (Triple.bind _ (auditIndexed_sure unfailing onDisk entries entries) fun kept start holds => ?_)
    start readable
  obtain ⟨readable, indexed⟩ := holds
  apply (auditOnDisk_sure unfailing onDisk kept).mono_value _ start readable
  intro audited store holds
  refine ⟨holds.1, fun sessionId => ?_, fun sessionId entry there known => ?_⟩
  · rw [holds.2, indexed, ← listing]
    cases listed : findEntry sessionId onDisk with
    | none =>
      cases known : findEntry sessionId entries <;> simp
    | some found =>
      cases known : findEntry sessionId entries <;> simp
  · have listed : (findEntry sessionId onDisk).isSome := (listing sessionId).trans there
    rw [holds.2, indexed, if_pos (.inl listed), known, Option.some_or]

theorem rebuildFromSessionsDir_sure (unfailing : ¬ Failing answers) :
    Triple answers (Sited json fit True sessions) (rebuildFromSessionsDir json parse now)
      (sureEnds answers fun _ => Readable json fit sessions) := by
  apply Triple.bind _ (scan_sure parses unfailing (fun _ => id) false)
  intro found
  apply Triple.bind fun _ => Sited json fit True sessions
  · apply writeJsonAtomic_sure unfailing
    exact fun store holds => ⟨holds.1.whole, holds.1.known⟩
  · intro _
    apply Triple.bind _ (rotateLogTmpBak_sure unfailing besideIndex_sited.logs)
    exact fun _ => triple_pure fun store holds => ⟨holds.1, holds.2 ▸ legible_empty⟩

structure Opening (json : IndexJson) (fit : String → Prop) (sessions : String → Bool)
    (origin : IndexDisk) (store : SessionIndexStore) : Prop where
  sited : Sited json fit True sessions store
  snapshot : store.disk.snapshot = origin.snapshot
  log : store.disk.log = origin.log
  marker : store.disk.repairMarker = origin.repairMarker

omit parses in
theorem cleanupStagingDirs_sure (unfailing : ¬ Failing answers) {origin : IndexDisk}
    (stale : List String) :
    Triple answers (Opening json fit sessions origin) (cleanupStagingDirs stale)
      (sureEnds answers fun _ => Opening json fit sessions origin) := by
  induction stale with
  | nil => exact triple_pure fun _ => id
  | cons sessionId rest ih =>
    apply Triple.bind fun _ => Opening json fit sessions origin
    · apply call_sure unfailing
      intro store opening
      exact ⟨(), _, rfl, ⟨opening.sited.whole, opening.sited.known⟩, opening.snapshot, opening.log,
        opening.marker⟩
    · exact fun _ => ih

structure Opened (json : IndexJson) (parse : String → Option UtcTime) (sessions : String → Bool)
    (origin : IndexDisk) (audited : List IndexSessionEntry) : Prop where
  listing : ∀ sessionId, (findEntry sessionId audited).isSome = sessions sessionId
  known : origin.repairMarker = false → ∀ loaded,
    loadEntriesSnapshotAndLog json parse origin = .ok loaded →
    ∀ sessionId entry, sessions sessionId → findEntry sessionId loaded = some entry →
      findEntry sessionId audited = some entry

theorem loadWithRecoveryOrFail_sure (unfailing : ¬ Failing answers) {origin : IndexDisk}
    (stale : List String) :
    Triple answers (Opening json fit sessions origin) (loadWithRecoveryOrFail json parse now stale)
      (sureEnds answers fun entries store => Readable json fit sessions store ∧
        ∃ audited, entries = sortEntriesDesc audited ∧
          Opened json parse sessions origin audited) := by
  -- Entries that say what the files say, where these are read at all.
  let faithful (loaded : List IndexSessionEntry) : Prop :=
    origin.repairMarker = false → ∀ read, loadEntriesSnapshotAndLog json parse origin = .ok read →
      loaded = read
  let opened (audited : List IndexSessionEntry) (store : SessionIndexStore) : Prop :=
    Readable json fit sessions store ∧ Opened json parse sessions origin audited
  have rebuilds (pre : SessionIndexStore → Prop)
      (sited : ∀ store, pre store → Sited json fit True sessions store)
      (unread : ∀ store, pre store → ∀ loaded, faithful loaded) :
      Triple answers pre (rebuildFromSessionsDir json parse now)
        (sureEnds answers fun loaded store => faithful loaded ∧ Readable json fit sessions store) := by
    intro store holds
    apply ((rebuildFromSessionsDir_sure parses unfailing).mono _ _ _) store (sited store holds)
    · exact fun loaded _ readable => ⟨unread store holds loaded, readable⟩
    · exact fun _ _ => id
    · exact fun _ => id
  have audits (loaded : List IndexSessionEntry) : Triple answers
      (fun store => faithful loaded ∧ Readable json fit sessions store)
      (startupAudit json parse now loaded) (sureEnds answers opened) := by
    apply Triple.given
    intro same
    apply (startupAudit_sure parses unfailing loaded).mono_value
    intro audited store holds
    refine ⟨holds.1, holds.2.1, fun unmarked read loaded sessionId entry there known => ?_⟩
    exact holds.2.2 sessionId entry there (same unmarked read loaded ▸ known)
  have sorted (audited : List IndexSessionEntry) : Triple answers (opened audited)
      (pure (sortEntriesDesc audited)) (sureEnds answers fun entries store =>
        Readable json fit sessions store ∧ ∃ audited, entries = sortEntriesDesc audited ∧
          Opened json parse sessions origin audited) :=
    triple_pure fun _ holds => ⟨holds.1, audited, rfl, holds.2⟩
  apply Triple.bind fun _ => Opening json fit sessions origin
  · exact syncCall_sure unfailing fun _ => id
  intro _
  apply Triple.bind fun _ => Opening json fit sessions origin
  · exact syncCall_sure unfailing fun _ => id
  intro _
  apply Triple.bind _ (cleanupStagingDirs_sure unfailing stale)
  intro _
  apply Triple.look
  intro hasRepairMarker
  cases hasRepairMarker with
  | true =>
    apply Triple.bind fun loaded store => faithful loaded ∧ Readable json fit sessions store
    · apply rebuilds _ fun _ holds => holds.1.sited
      intro store holds loaded unmarked
      have marked : origin.repairMarker = true := holds.1.marker.symm.trans holds.2
      simp [marked] at unmarked
    · intro loaded
      apply Triple.bind _ (audits loaded)
      intro audited
      apply Triple.bind fun _ => opened audited
      · apply Triple.bind fun _ => opened audited
        · apply diskCall_sure unfailing
          exact fun store holds => ⟨⟨⟨holds.1.1.whole, holds.1.1.known⟩, holds.1.2⟩, holds.2⟩
        · exact fun _ => syncCall_sure unfailing fun _ => id
      · exact fun _ => sorted audited
  | false =>
    have same (store : SessionIndexStore) (opening : Opening json fit sessions origin store) :
        loadEntriesSnapshotAndLog json parse store.disk =
          loadEntriesSnapshotAndLog json parse origin := by
      unfold loadEntriesSnapshotAndLog loadSnapshot replayLog
      rw [opening.snapshot, opening.log]
    apply Triple.bind fun loaded store => faithful loaded ∧ Readable json fit sessions store
    · apply Triple.tried
        (fun loaded store => faithful loaded ∧ Readable json fit sessions store)
        fun _ store => Sited json fit True sessions store ∧ ∀ loaded, faithful loaded
      · apply triple_quietCall_cases
        · intro store loaded holds read
          refine ⟨fun _ other readOther => ?_, holds.1.sited, legible_of_loaded read⟩
          rw [same store holds.1, readOther] at read
          exact (Except.ok.inj read).symm
        · intro store refused holds read
          refine ⟨holds.1.sited, fun loaded _ other readOther => ?_⟩
          rw [same store holds.1, readOther] at read
          cases read
        · exact fun _ done failed _ => absurd ⟨_, done, failed⟩ unfailing
        · exact fun _ done stopped _ => ⟨_, done, stopped⟩
      · exact fun _ => triple_pure fun _ => id
      · exact fun _ => rebuilds _ (fun _ => And.left) fun _ => And.right
    · intro loaded
      exact (audits loaded).bind _ sorted

theorem new_sure (unfailing : ¬ Failing answers) {origin : IndexDisk} (stale : List String) :
    Triple answers (Opening json fit sessions origin) (new json parse now stale)
      (sureEnds answers fun _ store => Readable json fit sessions store ∧
        ∃ audited, store.entries = sortEntriesDesc audited ∧
          Opened json parse sessions origin audited) := by
  apply Triple.bind _ (loadWithRecoveryOrFail_sure parses unfailing stale)
  intro entries
  apply triple_modify
  intro store holds
  obtain ⟨readable, audited, rfl, opened⟩ := holds
  exact ⟨⟨⟨readable.1.whole, readable.1.known⟩, readable.2⟩, audited, rfl, opened⟩

end Audit

section Operations

variable {fit : String → Prop} {sessions : String → Bool}

theorem leaves_compactionDue {γ : Type} {view : SessionIndexStore → γ} :
    Leaves view compactionDue := by
  apply (leaves_inspect _).bind
  intro log
  cases log with
  | none => exact leaves_pure _
  | some bytes =>
    exact (leaves_syncCall _).bind fun _ => leaves_quietCall.bind fun _ => leaves_pure _

theorem leaves_maybeCompact : Leaves (fun store => store.disk.sessions) (maybeCompact json now) := by
  apply leaves_compactionDue.bind
  intro due
  apply leaves_ite _ (leaves_pure _)
  apply (leaves_inspect _).bind
  intro entries
  apply (leaves_writeJsonAtomic _ (fun _ _ => rfl) fun _ => rfl).bind
  intro _
  apply (leaves_rotateLogTmpBak fun _ _ _ _ => rfl).attempt.bind
  intro rotated
  cases rotated with
  | ok _ => exact leaves_pure _
  | error err =>
    apply leaves_ite _ (leaves_fail _)
    exact (leaves_markRepairRequired (fun _ => rfl) fun _ => rfl).bind fun _ => leaves_fail _

theorem legible_steady (unfailing : ¬ Failing answers) :
    Steady json answers (fun store => Legible store.disk.log) fun _ => True where
  append purpose record := by
    have appends : Triple answers (fun store => Legible store.disk.log)
        (appendLogRecordToPath json purpose record)
        (sureEnds answers fun _ store => Legible store.disk.log) :=
      append_sure unfailing fun store legible => legible.extend record
    exact appends.mono (fun _ _ => id) (fun _ _ => False.elim) fun _ _ => trivial
  memory _ _ := id
  health _ := id
  marked _ := id
  staging _ _ := id
  stops _ _ := trivial

theorem legible_beside {α : Type} {program : IndexProgram α}
    (leaves : Leaves (fun store => store.disk.log) program) :
    Triple answers (fun store => Legible store.disk.log) program
      ⟨fun _ store => Legible store.disk.log, fun _ store => Legible store.disk.log,
        fun _ => True⟩ := by
  apply (leaves.triple _ answers).mono
  · exact fun _ _ => id
  · exact fun _ _ => id
  · exact fun _ _ => trivial
  · intro store next same legible
    exact same ▸ legible

theorem body_legible (unfailing : ¬ Failing answers) (operation : IndexOperation) :
    Triple answers (fun store => Legible store.disk.log) (operation.body json parse now)
      ⟨fun _ store => Legible store.disk.log, fun _ store => Legible store.disk.log,
        fun _ => True⟩ := by
  have steady : Steady json answers (fun store => Legible store.disk.log) fun _ => True :=
    legible_steady unfailing
  have apart : SessionsApart fun store : SessionIndexStore => store.disk.log := fun _ _ _ => rfl
  intro start legible
  have course : Triple answers
      (fun store => Legible store.disk.log ∧ store.entries = start.entries)
      (operation.body json parse now)
      ⟨fun _ store => Legible store.disk.log, fun _ store => Legible store.disk.log,
        fun _ => True⟩ := by
    apply IndexOperation.body_course
    · exact fun _ => And.right
    · exact fun _ _ => And.left
    · exact fun _ _ _ => And.left
    · intro entry normal _ _
      apply Triple.strengthen _ fun _ => And.left
      apply Triple.bind _ (legible_beside (leaves_stage apart.staging _))
      intro _
      apply Triple.bind _ (steady.append _ _)
      intro _
      apply Triple.bind fun _ store => Legible store.disk.log
      · exact triple_modify fun _ => id
      · intro _
        apply Triple.tried (fun _ store => Legible store.disk.log)
          fun _ store => Legible store.disk.log
        · exact legible_beside (leaves_publish apart _)
        · exact fun _ => triple_pure fun _ => id
        · exact fun _ => steady.compensateCreate _ _
    · intro context next mutate _ _ _ _
      exact (steady.storeEntry context next
        (legible_beside (leaves_writeSessionMetadata apart _ _))).strengthen fun _ => And.left
    · intro sessionId _
      apply Triple.strengthen _ fun _ => And.left
      apply Triple.bind _ (steady.append _ _)
      intro _
      apply Triple.bind fun _ store => Legible store.disk.log
      · exact triple_modify fun _ => id
      · intro _
        apply Triple.tried (fun _ store => Legible store.disk.log)
          fun _ store => Legible store.disk.log
        · exact legible_beside (leaves_removeSession apart _)
        · exact fun _ => triple_pure fun _ => id
        · exact fun _ => steady.compensateDelete _ _
  exact course start ⟨legible, rfl⟩

/-- Where no call fails, an operation that is refused leaves the sessions as they are, and one that
is stopped leaves them so or as they are to be. -/
theorem perform_readable (unfailing : ¬ Failing answers) (operation : IndexOperation)
    (fits : ∀ stamp, operation.stamp parse now = some stamp → fit stamp) :
    Triple answers (Readable json fit sessions) (operation.perform json parse now)
      ⟨fun _ => Readable json fit (operation.lists sessions),
        fun _ => Readable json fit sessions,
        fun store => Sited json fit True sessions store ∨
          Sited json fit True (operation.lists sessions) store⟩ := by
  have bodies : Triple answers (Sited json fit True sessions) (operation.body json parse now)
    (siteEnds json fit True answers sessions (operation.lists sessions)) := body_sited operation fits
  rw [IndexOperation.perform_eq]
  apply Triple.bind fun _ => Readable json fit (operation.lists sessions)
  · apply (bodies.and (body_legible unfailing operation)).mono
    · exact fun _ _ => id
    · intro _ store holds
      rcases holds.1 with sited | ⟨failing, -⟩
      · exact ⟨sited, holds.2⟩
      · exact absurd failing unfailing
    · exact fun _ => And.left
  · intro due
    apply triple_ite
    · intro _
      have compacts : Triple answers (Readable json fit (operation.lists sessions))
          (maybeCompact json now)
          (sureEnds answers fun _ => Readable json fit (operation.lists sessions)) :=
        maybeCompact_sure unfailing besideIndex_sited
      have beside : Triple answers (Sited json fit True (operation.lists sessions))
          (maybeCompact json now) (.always (Sited json fit True (operation.lists sessions))) :=
        Sited.beside leaves_maybeCompact
      apply ((compacts.and beside).strengthen _).mono
      · exact fun _ _ => And.left
      · exact fun _ _ holds => holds.1.elim
      · exact fun _ holds => .inr holds.2
      · exact fun _ readable => ⟨readable, readable.1⟩
    · exact fun _ => triple_pure fun _ => id

end Operations

end OpenJax.Transcript
