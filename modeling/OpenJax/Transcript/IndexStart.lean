import OpenJax.Transcript.IndexOperations

set_option autoImplicit false

namespace OpenJax.Transcript

open Shared FaultProgram SessionIndexStore

section

variable {json : IndexJson} {parse : String → Option UtcTime} {fit : String → Prop} {intact : Prop}

/-- The metadata of the directory can be read and are of its session; where the manifests are
intact, its manifest can be read too. -/
structure WholeDirectory (json : IndexJson) (fit : String → Prop) (intact : Prop) (name : String)
    (directory : SessionDirectory) : Prop where
  metadata : ∀ raw, directory.metadata = some raw → ∃ metadata,
    raw = json.metadata.toVec metadata ∧ metadata.sessionId = name ∧ fit metadata.updatedAt
  manifest : intact → ∀ raw, directory.manifest = some raw →
    ∃ manifest, raw = json.manifest.toVec manifest

def WholeSessions (json : IndexJson) (fit : String → Prop) (intact : Prop)
    (sessions : Table String SessionDirectory) : Prop :=
  ∀ name directory, sessions.lookup name = some directory →
    WholeDirectory json fit intact name directory

def listed (sessions : Table String SessionDirectory) (sessionId : String) : Bool :=
  ((sessions.lookup sessionId).bind SessionDirectory.metadata).isSome

theorem readLastEventSeq_whole {manifest : Option Bytes}
    (whole : ∀ raw, manifest = some raw → ∃ written, raw = json.manifest.toVec written) :
    ∃ lastEventSeq, readLastEventSeq json manifest = .ok lastEventSeq := by
  cases manifest with
  | none => exact ⟨0, rfl⟩
  | some raw =>
    obtain ⟨written, rfl⟩ := whole raw rfl
    refine ⟨written.lastEventSeq, ?_⟩
    simp [readLastEventSeq, json.manifest.utf8, json.lastEventSeq_toVec]

def Stems (parse : String → Option UtcTime) (fit : String → Prop) (entry : IndexSessionEntry) :
    Prop :=
  ∃ stamp, fit stamp ∧ normalizeRfc3339UtcMillis parse stamp = some entry.updatedAt

variable {directory : SessionDirectory}

theorem scanDirectory_some {name : String} {metadata : SessionMetadata}
    {found : Option IndexSessionEntry}
    (there : directory.metadata = some (json.metadata.toVec metadata))
    (own : metadata.sessionId = name)
    (scanned : scanDirectory json parse name directory = .ok found) :
    ∃ lastEventSeq normal, normalizeRfc3339UtcMillis parse metadata.updatedAt = some normal ∧
      found = some ⟨metadata.sessionId, metadata.title, metadata.createdAt, normal, lastEventSeq,
        ""⟩ := by
  simp only [scanDirectory, there, json.metadata.utf8, json.metadata.roundTrip, Bool.not_true,
    Bool.false_eq_true, if_false, own, ne_eq, not_true_eq_false] at scanned
  cases last : readLastEventSeq json directory.manifest with
  | error refused => simp [last, bind, Except.bind] at scanned
  | ok lastEventSeq =>
    cases normalized : normalizeRfc3339UtcMillis parse metadata.updatedAt with
    | none => simp [last, normalizeEntry, normalized, bind, Except.bind] at scanned
    | some normal =>
      simp only [last, normalizeEntry, normalized, bind, Except.bind, pure, Except.pure,
        Except.ok.injEq] at scanned
      exact ⟨lastEventSeq, normal, rfl, own ▸ scanned.symm⟩

theorem scanDirectory_found {name : String} (whole : WholeDirectory json fit intact name directory)
    {found : Option IndexSessionEntry}
    (scanned : scanDirectory json parse name directory = .ok found) :
    found.map IndexSessionEntry.sessionId =
        (if directory.metadata.isSome then some name else none) ∧
      ∀ entry, found = some entry → Stems parse fit entry := by
  cases there : directory.metadata with
  | none =>
    simp only [scanDirectory, there, Except.ok.injEq] at scanned
    exact scanned ▸ ⟨rfl, nofun⟩
  | some raw =>
    obtain ⟨metadata, rfl, own, fits⟩ := whole.metadata raw there
    obtain ⟨lastEventSeq, normal, normalized, rfl⟩ := scanDirectory_some there own scanned
    refine ⟨by simp [own], ?_⟩
    intro entry same
    exact ⟨metadata.updatedAt, fits, normalized.trans (congrArg _ (Option.some.inj same ▸ rfl))⟩

theorem scanDirectory_reads (parses : ∀ stamp, fit stamp →
      (normalizeRfc3339UtcMillis parse stamp).isSome) (manifests : intact) {name : String}
    (whole : WholeDirectory json fit intact name directory) :
    ∃ found, scanDirectory json parse name directory = .ok found := by
  unfold scanDirectory
  cases there : directory.metadata with
  | none => exact ⟨none, rfl⟩
  | some raw =>
    obtain ⟨metadata, rfl, own, fits⟩ := whole.metadata raw there
    obtain ⟨lastEventSeq, last⟩ := readLastEventSeq_whole (whole.manifest manifests)
    obtain ⟨normal, normalized⟩ := Option.isSome_iff_exists.mp (parses _ fits)
    refine ⟨some ⟨metadata.sessionId, metadata.title, metadata.createdAt, normal, lastEventSeq, ""⟩,
      ?_⟩
    simp [json.metadata.utf8, json.metadata.roundTrip, own, last, normalizeEntry, normalized,
      bind, Except.bind, pure, Except.pure]

variable {found : List IndexSessionEntry}

theorem scanDirectories_cons {listed : Sigma fun _ : String => SessionDirectory}
    {rest : List (Sigma fun _ : String => SessionDirectory)}
    (scanned : scanDirectories json parse (listed :: rest) = .ok found) :
    ∃ first others, scanDirectory json parse listed.1 listed.2 = .ok first ∧
      scanDirectories json parse rest = .ok others ∧ found = first.toList ++ others := by
  cases first : scanDirectory json parse listed.1 listed.2 with
  | error refused => simp [scanDirectories, first, bind, Except.bind] at scanned
  | ok one =>
    cases later : scanDirectories json parse rest with
    | error refused => simp [scanDirectories, first, later, bind, Except.bind] at scanned
    | ok others =>
      simp only [scanDirectories, first, later, bind, Except.bind, pure, Except.pure,
        Except.ok.injEq] at scanned
      exact ⟨one, others, rfl, rfl, scanned.symm⟩

variable {entries : List (Sigma fun _ : String => SessionDirectory)}

theorem scanDirectories_found
    (whole : ∀ entry ∈ entries, WholeDirectory json fit intact entry.1 entry.2)
    (scanned : scanDirectories json parse entries = .ok found) :
    found.map IndexSessionEntry.sessionId =
        (entries.filter fun entry => entry.2.metadata.isSome).map Sigma.fst ∧
      ∀ entry ∈ found, Stems parse fit entry := by
  induction entries generalizing found with
  | nil =>
    cases scanned
    exact ⟨rfl, nofun⟩
  | cons entry rest ih =>
    obtain ⟨first, others, one, later, rfl⟩ := scanDirectories_cons scanned
    obtain ⟨id, stems⟩ := scanDirectory_found (whole entry List.mem_cons_self) one
    obtain ⟨ids, otherStems⟩ := ih (fun other among => whole other (List.mem_cons_of_mem _ among))
      later
    constructor
    · rw [List.map_append, ids, List.filter_cons]
      cases first with
      | none =>
        have absent : entry.2.metadata.isSome = false := by
          by_contra there
          simp [there] at id
        simp [absent]
      | some one =>
        have there : entry.2.metadata.isSome = true := by
          by_contra absent
          simp [absent] at id
        simpa [there] using id
    · intro one among
      rcases List.mem_append.mp among with own | other
      · exact stems one (Option.mem_toList.mp own)
      · exact otherStems one other

theorem scanDirectories_reads (parses : ∀ stamp, fit stamp →
      (normalizeRfc3339UtcMillis parse stamp).isSome) (manifests : intact)
    (whole : ∀ entry ∈ entries, WholeDirectory json fit intact entry.1 entry.2) :
    ∃ found, scanDirectories json parse entries = .ok found := by
  induction entries with
  | nil => exact ⟨[], rfl⟩
  | cons entry rest ih =>
    obtain ⟨first, one⟩ := scanDirectory_reads parses manifests (whole entry List.mem_cons_self)
    obtain ⟨others, later⟩ := ih fun other among => whole other (List.mem_cons_of_mem _ among)
    exact ⟨first.toList ++ others, by
      simp [scanDirectories, one, later, bind, Except.bind, pure, Except.pure]⟩

theorem findEntry_isSome {sessionId : String} {entries : List IndexSessionEntry} :
    (findEntry sessionId entries).isSome ↔
      sessionId ∈ entries.map IndexSessionEntry.sessionId := by
  simp [findEntry, List.find?_isSome, List.mem_map]

variable {sessions : Table String SessionDirectory}

theorem listed_iff {sessionId : String} :
    listed sessions sessionId ↔
      sessionId ∈ (sessions.entries.filter fun entry => entry.2.metadata.isSome).map Sigma.fst := by
  constructor
  · intro there
    cases found : sessions.lookup sessionId with
    | none => simp [listed, found] at there
    | some directory =>
      have among := (Table.entry_iff sessions sessionId directory).mpr found
      apply List.mem_map.mpr
      exact ⟨_, List.mem_filter.mpr ⟨among, by simpa [listed, found] using there⟩, rfl⟩
  · intro among
    obtain ⟨entry, kept, rfl⟩ := List.mem_map.mp among
    obtain ⟨among, some⟩ := List.mem_filter.mp kept
    have found := (Table.entry_iff sessions entry.1 entry.2).mp among
    simpa [listed, found] using some

theorem wholeDirectory_of_entry (whole : WholeSessions json fit intact sessions) :
    ∀ entry ∈ sessions.entries, WholeDirectory json fit intact entry.1 entry.2 :=
  fun entry among => whole entry.1 entry.2 ((Table.entry_iff _ _ _).mp among)

theorem scan_found {disk : IndexDisk} (whole : WholeSessions json fit intact disk.sessions)
    (scanned : scanSessionsMetadata json parse disk = .ok found) :
    UniqueIds found ∧ (∀ entry ∈ found, Stems parse fit entry) ∧
      ∀ sessionId, (findEntry sessionId found).isSome = listed disk.sessions sessionId := by
  obtain ⟨ids, stems⟩ := scanDirectories_found (wholeDirectory_of_entry whole) scanned
  refine ⟨?_, stems, fun sessionId => ?_⟩
  · rw [UniqueIds, ids]
    exact List.Nodup.sublist (List.filter_sublist.map Sigma.fst) disk.sessions.nodupKeys
  · rw [Bool.eq_iff_iff, findEntry_isSome, listed_iff, ids]

theorem scan_reads (parses : ∀ stamp, fit stamp →
      (normalizeRfc3339UtcMillis parse stamp).isSome) (manifests : intact)
    {disk : IndexDisk} (whole : WholeSessions json fit intact disk.sessions) :
    ∃ found, scanSessionsMetadata json parse disk = .ok found :=
  scanDirectories_reads parses manifests (wholeDirectory_of_entry whole)

theorem Stems.renormalizes {entry : IndexSessionEntry}
    (stems : Stems parse (Renormalizes parse) entry) : Renormalizes parse entry.updatedAt := by
  obtain ⟨stamp, renormalizes, normalized⟩ := stems
  have same : stamp = entry.updatedAt := Option.some.inj (renormalizes.symm.trans normalized)
  exact same ▸ renormalizes

theorem renormalizes_parses {stamp : String} (renormalizes : Renormalizes parse stamp) :
    (normalizeRfc3339UtcMillis parse stamp).isSome :=
  Option.isSome_of_eq_some renormalizes

end

section

variable {json : IndexJson} {parse : String → Option UtcTime} {answers : CallSite → CallAnswer}
  {now : UtcTime}

structure Startable (json : IndexJson) (parse : String → Option UtcTime)
    (store : SessionIndexStore) : Prop where
  restartable : Restartable json parse store.disk
  sessions : WholeSessions json (Renormalizes parse) False store.disk.sessions
  entries : store.entries = []
  health : store.health = .healthy

structure Starting (json : IndexJson) (parse : String → Option UtcTime)
    (found : List IndexSessionEntry) (store : SessionIndexStore) : Prop where
  midway : Midway json parse [] found store
  unique : UniqueIds found
  sessions : WholeSessions json (Renormalizes parse) False store.disk.sessions

def startEnds {α : Type} (json : IndexJson) (parse : String → Option UtcTime)
    (answers : CallSite → CallAnswer) (value : α → SessionIndexStore → Prop) :
    Ends SessionIndexStore IndexError α :=
  ⟨value, fun _ store => Untorn answers → Restartable json parse store.disk,
    fun store => Untorn answers → Restartable json parse store.disk⟩

def startView (store : SessionIndexStore) :
    Option Bytes × Option Bytes × Option Bytes × Table String SessionDirectory ×
      List IndexSessionEntry × IndexHealth :=
  (store.disk.snapshot, store.disk.log, store.disk.logBak, store.disk.sessions, store.entries,
    store.health)

theorem Startable.of_view {store next : SessionIndexStore}
    (same : startView next = startView store) (startable : Startable json parse store) :
    Startable json parse next := by
  simp only [startView, Prod.mk.injEq] at same
  obtain ⟨snapshot, log, bak, sessions, entries, health⟩ := same
  exact ⟨startable.restartable.of_files snapshot log bak, sessions ▸ startable.sessions,
    entries.trans startable.entries, health.trans startable.health⟩

theorem beside_start {α : Type} {program : IndexProgram α} (leaves : Leaves startView program) :
    Triple answers (Startable json parse) program
      (startEnds json parse answers fun _ => Startable json parse) := by
  apply (leaves.triple (fun _ _ => Startable.of_view) answers).mono
  · exact fun _ _ => id
  · exact fun _ _ startable _ => startable.restartable
  · exact fun _ startable _ => startable.restartable

theorem scan_triple (audit : Bool) {pre : SessionIndexStore → Prop}
    (restartable : ∀ store, pre store → Restartable json parse store.disk)
    (sessions : ∀ store, pre store →
      WholeSessions json (Renormalizes parse) False store.disk.sessions) :
    Triple answers pre (scan json parse audit)
      (startEnds json parse answers fun found store =>
        (UniqueIds found ∧ ∀ entry ∈ found, Renormalizes parse entry.updatedAt) ∧ pre store) := by
  apply triple_quietCall
  · intro store value holds scanned
    obtain ⟨unique, stems, -⟩ := scan_found (sessions store holds) scanned
    exact ⟨⟨unique, fun entry among => (stems entry among).renormalizes⟩, holds⟩
  · exact fun store _ holds _ => restartable store holds
  · exact fun store holds _ => restartable store holds

theorem rotate_rebuilt {found : List IndexSessionEntry} (unique : UniqueIds found)
    (settled : ∀ entry ∈ found, Renormalizes parse entry.updatedAt) :
    Triple answers
      (fun store => Startable json parse store ∧
        store.disk.snapshot = some (json.snapshot.toVec (snapshotOf now found))) rotateLogTmpBak
      (startEnds json parse answers fun _ => Starting json parse found) := by
  let beside (store : SessionIndexStore) := (store.disk.snapshot, store.disk.sessions,
    store.entries, store.health)
  have apart : Leaves beside rotateLogTmpBak := leaves_rotateLogTmpBak fun _ _ _ _ => rfl
  have rotates : Triple answers (Rotatable (Logging json parse)) rotateLogTmpBak _ :=
    rotateLogTmpBak_triple (logging_none json parse) (logging_empty json parse)
  intro store holds
  obtain ⟨startable, taken⟩ := holds
  have both := rotates.framed apart (fun seen => seen = beside store) store
    ⟨⟨startable.restartable.log, startable.restartable.bak⟩, rfl⟩
  have replaced {next : SessionIndexStore} (rotatable : Rotatable (Logging json parse) next)
      (same : beside next = beside store) : Startable json parse next := by
    simp only [beside, Prod.mk.injEq] at same
    obtain ⟨snapshot, sessions, entries, health⟩ := same
    exact ⟨⟨⟨found, .inr ⟨formatUtcMillis now, snapshot.trans taken⟩, unique, settled⟩,
      rotatable.1, rotatable.2⟩, sessions ▸ startable.sessions, entries.trans startable.entries,
      health.trans startable.health⟩
  generalize rotateLogTmpBak.run answers store = outcome at both ⊢
  match outcome, both with
  | (.value _, next), both =>
    obtain ⟨⟨rotatable, emptied⟩, same⟩ := both
    have startable := replaced rotatable same
    simp only [beside, Prod.mk.injEq] at same
    have indexed : Indexed json parse next.disk found := by
      apply indexed_snapshot unique settled (same.1.trans taken)
      rw [emptied, Option.getD_some]
    exact ⟨⟨⟨indexed, rotatable.2⟩, startable.entries, startable.health⟩, unique,
      startable.sessions⟩
  | (.failed _, next), both => exact fun _ => (replaced both.1 both.2).restartable
  | (.stopped, next), both => exact fun _ => (replaced both.1 both.2).restartable

theorem rebuildFromSessionsDir_triple :
    Triple answers (Startable json parse) (rebuildFromSessionsDir json parse now)
      (startEnds json parse answers (Starting json parse)) := by
  apply Triple.bind _ (scan_triple false (fun _ => Startable.restartable)
    fun _ => Startable.sessions)
  intro found
  apply Triple.given
  intro entriesFound
  obtain ⟨unique, settled⟩ := entriesFound
  let encoded := json.snapshot.toVec (snapshotOf now found)
  let replaced (store : SessionIndexStore) : Prop :=
    Startable json parse store ∧ store.disk.snapshot = some encoded
  apply Triple.bind fun _ => replaced
  · have wrote : Triple answers (Startable json parse) (writeJsonAtomic .snapshot encoded)
        ⟨fun _ => replaced, fun _ store => Startable json parse store ∨ replaced store,
          fun store => Startable json parse store ∨ replaced store⟩ := by
      apply writeJsonAtomic_triple
      · exact fun bytes store => Startable.of_view rfl
      · intro store startable
        obtain ⟨-, logging, backup⟩ := startable.restartable
        exact ⟨⟨⟨⟨found, .inr ⟨formatUtcMillis now, rfl⟩, unique, settled⟩, logging, backup⟩,
          startable.sessions, startable.entries, startable.health⟩, rfl⟩
    have restartable {store : SessionIndexStore}
        (either : Startable json parse store ∨ replaced store) :
        Restartable json parse store.disk := by
      rcases either with startable | done
      · exact startable.restartable
      · exact done.1.restartable
    apply wrote.mono
    · exact fun _ _ => id
    · exact fun _ _ either _ => restartable either
    · exact fun _ either _ => restartable either
  · intro _
    apply Triple.bind fun _ store => Starting json parse found store
    · exact (rotate_rebuilt unique settled).strengthen fun _ => id
    · exact fun _ => triple_pure fun _ => id

theorem append_starting (purpose : LogPurpose) {record : SessionIndexLogRecord}
    (settled : SettledRecord parse record) (kept : List IndexSessionEntry) :
    Triple answers (Starting json parse kept) (appendLogRecordToPath json purpose record)
      (startEnds json parse answers fun _ => Starting json parse (effect record kept)) := by
  have appends : Triple answers (Midway json parse [] kept) _ _ := append_triple purpose settled
  have apart : Leaves (fun store => store.disk.sessions)
      (appendLogRecordToPath json purpose record) := leaves_append fun _ _ => rfl
  intro store starting
  have both := appends.framed apart (WholeSessions json (Renormalizes parse) False) store
    ⟨starting.midway, starting.sessions⟩
  generalize (appendLogRecordToPath json purpose record).run answers store = outcome at both ⊢
  match outcome, both with
  | (.value _, next), both => exact ⟨both.1, starting.unique.effect record, both.2⟩
  | (.failed _, next), both => exact fun untorn => (both.1 untorn).recorded.restartable
  | (.stopped, next), both => exact fun untorn => both.1 untorn

theorem auditIndexed_triple (onDisk rest kept : List IndexSessionEntry) :
    Triple answers (Starting json parse kept) (auditIndexed json now onDisk rest kept)
      (startEnds json parse answers (Starting json parse)) := by
  induction rest generalizing kept with
  | nil => exact triple_pure fun _ => id
  | cons entry rest ih =>
    apply triple_ite
    · exact fun _ => ih kept
    · intro _
      apply Triple.bind _ (append_starting (.audit entry.sessionId)
        (settled_deleteRecord entry.sessionId) kept)
      exact fun _ => ih _

theorem auditOnDisk_triple {rest : List IndexSessionEntry}
    (settled : ∀ entry ∈ rest, Renormalizes parse entry.updatedAt)
    (kept : List IndexSessionEntry) :
    Triple answers (Starting json parse kept) (auditOnDisk json now rest kept)
      (startEnds json parse answers (Starting json parse)) := by
  induction rest generalizing kept with
  | nil => exact triple_pure fun _ => id
  | cons entry rest ih =>
    have later := ih fun other among => settled other (List.mem_cons_of_mem _ among)
    apply triple_ite
    · exact fun _ => later kept
    · intro _
      apply Triple.bind _ (append_starting (.audit entry.sessionId)
        (settled_upsertRecord (settled entry List.mem_cons_self)) kept)
      exact fun _ => later _

theorem startupAudit_triple (entries : List IndexSessionEntry) :
    Triple answers (Starting json parse entries) (startupAudit json parse now entries)
      (startEnds json parse answers (Starting json parse)) := by
  apply Triple.bind _ (scan_triple true (fun _ starting => starting.midway.recorded.restartable)
    fun _ => Starting.sessions)
  intro onDisk
  apply Triple.given
  intro found
  apply Triple.bind _ (auditIndexed_triple onDisk entries entries)
  exact fun kept => auditOnDisk_triple found.2 kept

theorem loadOrRebuild_triple :
    Triple answers (Startable json parse) (loadOrRebuild json parse now)
      (startEnds json parse answers (Starting json parse)) := by
  apply Triple.tried (Starting json parse) fun _ => Startable json parse
  · apply triple_quietCall
    · intro store entries startable loaded
      obtain ⟨unique, indexed⟩ := startable.restartable.load loaded
      exact ⟨⟨⟨indexed, startable.restartable.bak⟩, startable.entries, startable.health⟩, unique,
        startable.sessions⟩
    · exact fun _ _ => id
    · exact fun _ startable _ => startable.restartable
  · exact fun _ => triple_pure fun _ => id
  · exact fun _ => rebuildFromSessionsDir_triple

theorem cleanupStagingDirs_triple (stale : List String) :
    Triple answers (Startable json parse) (cleanupStagingDirs stale)
      (startEnds json parse answers fun _ => Startable json parse) := by
  induction stale with
  | nil => exact triple_pure fun _ => id
  | cons sessionId rest ih =>
    apply Triple.bind fun _ => Startable json parse
    · exact beside_start (leaves_removeStaged (fun _ _ => rfl) _ _)
    · exact fun _ => ih

theorem removeMarker_triple (found : List IndexSessionEntry) :
    Triple answers (Starting json parse found) removeMarker
      (startEnds json parse answers fun _ => Starting json parse found) := by
  have restartable {store : SessionIndexStore} (starting : Starting json parse found store) :
      Untorn answers → Restartable json parse store.disk :=
    fun _ => starting.midway.recorded.restartable
  apply Triple.bind fun _ => Starting json parse found
  · apply triple_diskCall
    · intro store starting
      obtain ⟨recorded, entries, health⟩ := starting.midway
      exact ⟨⟨recorded.of_files rfl rfl rfl, entries, health⟩, starting.unique, starting.sessions⟩
    · exact fun _ _ => restartable
    · exact fun _ => restartable
  · exact fun _ => triple_syncCall (fun _ => id) (fun _ _ => restartable) fun _ => restartable

theorem new_triple (stale : List String) :
    Triple answers (Startable json parse) (new json parse now stale)
      (startEnds json parse answers fun _ => Held json parse) := by
  apply Triple.bind fun entries store =>
    ∃ found, entries = sortEntriesDesc found ∧ Starting json parse found store
  · apply Triple.bind _ (beside_start (leaves_syncCall _))
    intro _
    apply Triple.bind _ (beside_start (leaves_syncCall _))
    intro _
    apply Triple.bind _ (cleanupStagingDirs_triple stale)
    intro _
    apply Triple.look
    intro hasRepairMarker
    have sorted (found : List IndexSessionEntry) : Triple answers (Starting json parse found)
        (pure (sortEntriesDesc found)) (startEnds json parse answers fun entries store =>
          ∃ found, entries = sortEntriesDesc found ∧ Starting json parse found store) :=
      triple_pure fun _ starting => ⟨found, rfl, starting⟩
    cases hasRepairMarker with
    | true =>
      apply Triple.bind _ (rebuildFromSessionsDir_triple.strengthen fun _ => And.left)
      intro loaded
      apply Triple.bind _ (startupAudit_triple loaded)
      intro audited
      exact (removeMarker_triple audited).bind _ fun _ => sorted audited
    | false =>
      apply Triple.bind _ (loadOrRebuild_triple.strengthen fun _ => And.left)
      intro loaded
      exact (startupAudit_triple loaded).bind _ sorted
  · intro entries
    apply triple_modify
    intro store holds
    obtain ⟨found, rfl, starting⟩ := holds
    have remembered := starting.midway.remembered starting.unique
    have held := remembered.held starting.unique.sorted (descending_sortEntriesDesc starting.unique)
    have health := starting.midway.health
    rwa [← health]

end

end OpenJax.Transcript
