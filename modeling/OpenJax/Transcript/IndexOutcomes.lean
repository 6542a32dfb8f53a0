import OpenJax.Transcript.IndexProcess

set_option autoImplicit false

namespace OpenJax.Transcript

open Shared FaultProgram SessionIndexStore

variable {json : IndexJson} {parse : String → Option UtcTime} {answers : CallSite → CallAnswer}
  {now : UtcTime} {origin : SessionIndexStore} {sessionId : String}

def offIndex (store : SessionIndexStore) :
    Table String SessionDirectory × Table String SessionDirectory × List IndexSessionEntry ×
      IndexHealth :=
  (store.disk.sessions, store.disk.staging, store.entries, store.health)

def Logs (answers : CallSite → CallAnswer) (purpose : LogPurpose) : Prop :=
  answers (.record purpose) = .proceeds ∧ answers (.newline purpose) = .proceeds

theorem triple_willingCall {site : CallSite} {error : IndexError}
    {change : SessionIndexStore → SessionIndexStore} {partly : Nat → SessionIndexStore →
      SessionIndexStore} {pre : SessionIndexStore → Prop} {ends : Ends SessionIndexStore IndexError Unit}
    (performs : answers site = .proceeds → ∀ store, pre store → ends.value () (change store))
    (fails : answers site ≠ .proceeds → ∀ store done, pre store →
      ends.failed error (partly done store))
    (stops : ∀ store, ends.stopped store) :
    Triple answers pre (.call site error (fun store => .ok ((), change store)) partly) ends := by
  apply triple_call
  · intro store value next proceeds holds done
    cases Except.ok.inj done
    exact performs proceeds store holds
  · intro store refused _ done
    cases done
  · intro store done failed holds
    refine fails ?_ store done holds
    rw [failed]
    nofun
  · exact fun store done _ _ => stops _

theorem append_outcome {purpose : LogPurpose} {record : SessionIndexLogRecord}
    {pre : SessionIndexStore → Prop}
    (extended : ∀ bytes store, pre store → pre (store.onDisk (·.extendLog bytes))) :
    Triple answers pre (appendLogRecordToPath json purpose record)
      ⟨fun _ store => Logs answers purpose ∧ pre store,
        fun _ store => ¬ Logs answers purpose ∧ pre store, fun _ => True⟩ := by
  apply Triple.bind fun _ store => answers (.record purpose) = .proceeds ∧ pre store
  · apply triple_willingCall
    · exact fun proceeds store holds => ⟨proceeds, extended _ store holds⟩
    · exact fun cut store done holds => ⟨fun logs => cut logs.1, extended _ store holds⟩
    · exact fun _ => trivial
  · intro _
    apply triple_willingCall
    · exact fun proceeds store holds => ⟨⟨holds.1, proceeds⟩, extended _ store holds.2⟩
    · exact fun cut store done holds => ⟨fun logs => cut logs.2, extended _ store holds.2⟩
    · exact fun _ => trivial

def DeletionBegun (answers : CallSite → CallAnswer) (origin : SessionIndexStore) : Prop :=
  origin.health = .healthy ∧ Logs answers .operation

def Removes (answers : CallSite → CallAnswer) (origin : SessionIndexStore) (sessionId : String) :
    Prop :=
  answers .removeSession = .proceeds ∧ (origin.disk.sessions.lookup sessionId).isSome

def removalLeaves (answers : CallSite → CallAnswer) (directory : Option SessionDirectory) :
    Option SessionDirectory :=
  match answers .removeSession with
  | .fails done => directory.map (·.partlyRemoved done)
  | _ => directory

structure Deleted (answers : CallSite → CallAnswer) (origin : SessionIndexStore)
    (sessionId : String) (store : SessionIndexStore) : Prop where
  begun : DeletionBegun answers origin
  removes : Removes answers origin sessionId
  directory : store.disk.sessions.lookup sessionId = none
  staging : store.disk.staging = origin.disk.staging
  entry : findEntry sessionId store.entries = none
  unique : UniqueIds store.entries
  health : store.health = .healthy

inductive NotDeleted (answers : CallSite → CallAnswer) (origin : SessionIndexStore)
    (sessionId : String) (store : SessionIndexStore) : Prop where
  | unlogged (cut : ¬ DeletionBegun answers origin)
      (directory : store.disk.sessions.lookup sessionId = origin.disk.sessions.lookup sessionId)
      (entry : findEntry sessionId store.entries = findEntry sessionId origin.entries)
  | compensated (begun : DeletionBegun answers origin) (cut : ¬ Removes answers origin sessionId)
      (directory : store.disk.sessions.lookup sessionId =
        removalLeaves answers (origin.disk.sessions.lookup sessionId))
      (restores : findEntry sessionId origin.entries = none ∨ Logs answers .compensation)
      (entry : findEntry sessionId store.entries = findEntry sessionId origin.entries)
  | lost (begun : DeletionBegun answers origin) (cut : ¬ Removes answers origin sessionId)
      (directory : store.disk.sessions.lookup sessionId =
        removalLeaves answers (origin.disk.sessions.lookup sessionId))
      (listed : (findEntry sessionId origin.entries).isSome) (fails : ¬ Logs answers .compensation)
      (entry : findEntry sessionId store.entries = none)

structure HalfDeleted (answers : CallSite → CallAnswer) (origin : SessionIndexStore)
    (sessionId : String) (store : SessionIndexStore) : Prop where
  directory : store.disk.sessions.lookup sessionId =
    removalLeaves answers (origin.disk.sessions.lookup sessionId)
  entry : findEntry sessionId store.entries = none
  unique : UniqueIds store.entries

theorem compensateDelete_outcome (removeErr : IndexError) (begun : DeletionBegun answers origin)
    (cut : ¬ Removes answers origin sessionId) :
    Triple answers (HalfDeleted answers origin sessionId)
      (compensateDelete json now (findEntry sessionId origin.entries) removeErr)
      ⟨fun _ _ => False, fun _ => NotDeleted answers origin sessionId, fun _ => True⟩ := by
  cases known : findEntry sessionId origin.entries with
  | none =>
    apply triple_fail
    intro store half
    exact .compensated begun cut half.directory (.inl known) (half.entry.trans known.symm)
  | some entry =>
    have own := findEntry_id known
    apply Triple.tried _ _ (append_outcome fun _ _ half => ⟨half.directory, half.entry, half.unique⟩)
    · intro _
      apply Triple.given
      intro logs
      apply Triple.bind fun _ => NotDeleted answers origin sessionId
      · apply triple_modify
        intro store half
        refine .compensated begun cut half.directory (.inr logs) ?_
        rw [upsertMemoryEntry, findEntry_perm (half.unique.upsert entry).sorted
          (sortEntriesDesc_perm _), findEntry_upsertEntry, own, if_pos rfl, known]
      · exact fun _ => triple_fail fun _ => id
    · intro _
      apply Triple.given
      intro fails
      have marks : Triple answers (HalfDeleted answers origin sessionId) markRepairRequired _ :=
        markRepairRequired_triple (fun _ half => ⟨half.directory, half.entry, half.unique⟩)
          fun _ half => ⟨half.directory, half.entry, half.unique⟩
      have lost (store : SessionIndexStore) (half : HalfDeleted answers origin sessionId store) :
          NotDeleted answers origin sessionId store :=
        .lost begun cut half.directory (known ▸ rfl) fails half.entry
      apply Triple.bind fun _ => HalfDeleted answers origin sessionId
      · apply marks.mono
        · exact fun _ _ => And.left
        · exact fun _ store marked => lost store marked.1
        · exact fun _ _ => trivial
      · exact fun _ => triple_fail lost

theorem removeSession_outcome (begun : DeletionBegun answers origin) :
    Triple answers (fun store => offIndex store = offIndex { origin with
        entries := sortEntriesDesc (removeEntry sessionId origin.entries) } ∧
          UniqueIds origin.entries) (removeSession sessionId)
      ⟨fun _ => Deleted answers origin sessionId,
        fun _ store => ¬ Removes answers origin sessionId ∧
          HalfDeleted answers origin sessionId store, fun _ => True⟩ := by
  have removed (unique : UniqueIds origin.entries) :
      findEntry sessionId (sortEntriesDesc (removeEntry sessionId origin.entries)) = none := by
    rw [findEntry_perm (unique.remove sessionId).sorted (sortEntriesDesc_perm _),
      findEntry_removeEntry, if_pos rfl]
  apply triple_call
  · intro store value next proceeds holds done
    obtain ⟨same, unique⟩ := holds
    simp only [offIndex, Prod.mk.injEq] at same
    obtain ⟨sessions, staging, entries, health⟩ := same
    split_ifs at done with there
    cases Except.ok.inj done
    refine ⟨begun, ⟨proceeds, sessions ▸ there⟩, AList.lookup_erase _ _, staging, ?_, ?_,
      health.trans begun.1⟩
    · exact (congrArg (findEntry sessionId) entries).trans (removed unique)
    · exact entries ▸ (unique.remove sessionId).sorted
  · intro store refused holds done
    obtain ⟨same, unique⟩ := holds
    simp only [offIndex, Prod.mk.injEq] at same
    obtain ⟨sessions, staging, entries, health⟩ := same
    split_ifs at done with there
    rw [sessions] at there
    have missing := Option.not_isSome_iff_eq_none.mp there
    refine ⟨fun removes => there removes.2, ?_, ?_, ?_⟩
    · rw [sessions, missing, removalLeaves]
      split <;> rfl
    · exact (congrArg (findEntry sessionId) entries).trans (removed unique)
    · exact entries ▸ (unique.remove sessionId).sorted
  · intro store done failed holds
    obtain ⟨same, unique⟩ := holds
    simp only [offIndex, Prod.mk.injEq] at same
    obtain ⟨sessions, staging, entries, health⟩ := same
    refine ⟨?_, ?_, ?_, ?_⟩
    · intro removes
      cases failed.symm.trans removes.1
    · rw [onDisk_disk, lookup_updateSession, if_pos rfl, sessions, removalLeaves, failed]
    · exact (congrArg (findEntry sessionId) entries).trans (removed unique)
    · exact entries ▸ (unique.remove sessionId).sorted
  · exact fun _ _ _ _ => trivial

theorem deleteEntry_outcome (unique : UniqueIds origin.entries) :
    Triple answers (fun store => store = origin) (deleteEntry json now sessionId)
      ⟨fun _ => Deleted answers origin sessionId, fun _ => NotDeleted answers origin sessionId,
        fun _ => True⟩ := by
  intro store same
  obtain rfl := same
  cases health : store.health with
  | repairRequired =>
    have refused : (deleteEntry json now sessionId).run answers store =
        (.failed .indexRepairRequired, store) := by
      simp [deleteEntry, ensureWritable, bind, FaultProgram.inspect, health, FaultProgram.fail]
    rw [refused]
    refine NotDeleted.unlogged ?_ rfl rfl
    intro begun
    cases health.symm.trans begun.1
  | healthy =>
    have opened : (deleteEntry json now sessionId).run answers store =
        (deleteKnown json now sessionId (findEntry sessionId store.entries)).run answers store := by
      simp [deleteEntry, ensureWritable, bind, pure, FaultProgram.inspect, health]
    rw [opened]
    have deletes : Triple answers (fun next => offIndex next = offIndex store)
        (deleteKnown json now sessionId (findEntry sessionId store.entries))
        ⟨fun _ => Deleted answers store sessionId, fun _ => NotDeleted answers store sessionId,
          fun _ => True⟩ := by
      apply Triple.bind fun _ next => Logs answers .operation ∧ offIndex next = offIndex store
      · apply (append_outcome fun _ _ => id).mono
        · exact fun _ _ => id
        · intro _ next cut
          obtain ⟨unlogged, same⟩ := cut
          simp only [offIndex, Prod.mk.injEq] at same
          refine .unlogged (fun begun => unlogged begun.2) ?_ ?_
          · rw [same.1]
          · rw [same.2.2.1]
        · exact fun _ => id
      intro _
      apply Triple.given
      intro logs
      have begun : DeletionBegun answers store := ⟨health, logs⟩
      apply Triple.bind fun _ next => offIndex next = offIndex { store with
        entries := sortEntriesDesc (removeEntry sessionId store.entries) } ∧
          UniqueIds store.entries
      · apply triple_modify
        intro next same
        simp only [offIndex, Prod.mk.injEq] at same
        obtain ⟨sessions, staging, entries, healths⟩ := same
        simp only [offIndex, removeMemoryEntry, sessions, staging, entries, healths]
        exact ⟨trivial, unique⟩
      intro _
      apply Triple.tried _ _ (removeSession_outcome begun)
      · exact fun _ => triple_pure fun _ => id
      · intro removeErr
        apply Triple.given
        intro cut
        apply (compensateDelete_outcome removeErr begun cut).mono_value
        exact fun _ _ => False.elim
    exact deletes store rfl

def WritesStaged (answers : CallSite → CallAnswer) : Prop :=
  answers (.writeTmp .staged) = .proceeds ∧ answers (.renameTmp .staged) = .proceeds ∧
    answers (.syncParent .staged) = .proceeds

def Stages (answers : CallSite → CallAnswer) (left : Option SessionDirectory) : Prop :=
  (left.isSome → answers .clearStaging = .proceeds) ∧ answers .createStaging = .proceeds ∧
    WritesStaged answers

def freshDirectory (json : IndexJson) (entry : IndexSessionEntry) : SessionDirectory :=
  { metadata := some (json.metadata.toVec (.fromIndexEntry entry))
    metadataTmp := none
    manifest := none
    segments := false }

def offStaging (store : SessionIndexStore) :
    Table String SessionDirectory × List IndexSessionEntry × IndexHealth :=
  (store.disk.sessions, store.entries, store.health)

theorem stagingApart_offStaging : StagingApart offStaging := fun _ _ => rfl

theorem writeStaged_outcome (entry : IndexSessionEntry) :
    Triple answers (fun store => offStaging store = offStaging origin ∧
        store.disk.staging.lookup entry.sessionId = some .empty)
      (writeJsonAtomic (.staged entry.sessionId) (json.metadata.toVec (.fromIndexEntry entry)))
      ⟨fun _ store => WritesStaged answers ∧ offStaging store = offStaging origin ∧
          store.disk.staging.lookup entry.sessionId = some (freshDirectory json entry),
        fun _ store => ¬ WritesStaged answers ∧ offStaging store = offStaging origin,
        fun _ => True⟩ := by
  have beside (change : SessionDirectory → SessionDirectory) (store : SessionIndexStore)
      (same : offStaging store = offStaging origin) :
      offStaging (store.onDisk (·.updateStaging entry.sessionId change)) = offStaging origin :=
    (updateStaging_apart stagingApart_offStaging entry.sessionId change store).trans same
  apply Triple.bind fun _ store => answers (.writeTmp .staged) = .proceeds ∧
    offStaging store = offStaging origin ∧
      store.disk.staging.lookup entry.sessionId = some { SessionDirectory.empty with
        metadataTmp := some (json.metadata.toVec (.fromIndexEntry entry)) }
  · apply triple_willingCall
    · intro proceeds store holds
      refine ⟨proceeds, beside _ store holds.1, ?_⟩
      rw [onDisk_disk, JsonTarget.staged, lookup_updateStaging, if_pos rfl, holds.2]
      rfl
    · exact fun cut store done holds => ⟨fun writes => cut writes.1, beside _ store holds.1⟩
    · exact fun _ => trivial
  intro _
  apply Triple.given
  intro begun
  apply Triple.bind fun _ store => answers (.renameTmp .staged) = .proceeds ∧
    offStaging store = offStaging origin ∧
      store.disk.staging.lookup entry.sessionId = some (freshDirectory json entry)
  · apply triple_willingCall
    · intro proceeds store holds
      refine ⟨proceeds, beside _ store holds.1, ?_⟩
      rw [onDisk_disk, JsonTarget.staged, lookup_updateStaging, if_pos rfl, holds.2]
      rfl
    · exact fun cut store done holds => ⟨fun writes => cut writes.2.1, holds.1⟩
    · exact fun _ => trivial
  intro _
  apply Triple.given
  intro renamed
  apply @triple_willingCall answers (.syncParent .staged) _ id fun _ => id
  · exact fun proceeds store holds => ⟨⟨begun, renamed, proceeds⟩, holds⟩
  · exact fun cut store done holds => ⟨fun writes => cut writes.2.2, holds.1⟩
  · exact fun _ => trivial

theorem stage_outcome (entry : IndexSessionEntry) :
    Triple answers (fun store => offIndex store = offIndex origin) (stage json entry)
      ⟨fun _ store => Stages answers (origin.disk.staging.lookup entry.sessionId) ∧
          offStaging store = offStaging origin ∧
            store.disk.staging.lookup entry.sessionId = some (freshDirectory json entry),
        fun _ store => ¬ Stages answers (origin.disk.staging.lookup entry.sessionId) ∧
          offStaging store = offStaging origin,
        fun _ => True⟩ := by
  let left := origin.disk.staging.lookup entry.sessionId
  have creates : Triple answers (fun store => (left.isSome → answers .clearStaging = .proceeds) ∧
      offStaging store = offStaging origin)
      (do
        diskCall .createStaging fun disk =>
          { disk with staging := disk.staging.insert entry.sessionId .empty }
        writeJsonAtomic (.staged entry.sessionId) (json.metadata.toVec (.fromIndexEntry entry)))
      ⟨fun _ store => Stages answers left ∧ offStaging store = offStaging origin ∧
          store.disk.staging.lookup entry.sessionId = some (freshDirectory json entry),
        fun _ store => ¬ Stages answers left ∧ offStaging store = offStaging origin,
        fun _ => True⟩ := by
    apply Triple.given
    intro clears
    apply Triple.bind fun _ store => answers .createStaging = .proceeds ∧
      offStaging store = offStaging origin ∧
        store.disk.staging.lookup entry.sessionId = some .empty
    · apply triple_willingCall
      · exact fun proceeds store holds => ⟨proceeds, holds, AList.lookup_insert _⟩
      · exact fun cut store done holds => ⟨fun stages => cut stages.2.1, holds⟩
      · exact fun _ => trivial
    intro _
    apply Triple.given
    intro created
    apply (writeStaged_outcome entry).mono
    · exact fun _ _ ended => ⟨⟨clears, created, ended.1⟩, ended.2⟩
    · exact fun _ _ ended => ⟨fun stages => ended.1 stages.2.2, ended.2⟩
    · exact fun _ => id
  have beside {store : SessionIndexStore} (same : offIndex store = offIndex origin) :
      offStaging store = offStaging origin := by
    simp only [offIndex, Prod.mk.injEq] at same
    simp only [offStaging, same.1, same.2.2.1, same.2.2.2]
  apply Triple.look
  intro found
  apply triple_ite
  · intro staged
    apply Triple.bind fun _ store => (left.isSome → answers .clearStaging = .proceeds) ∧
      offStaging store = offStaging origin
    · apply triple_willingCall
      · intro proceeds store holds
        have same := beside holds.1
        exact ⟨fun _ => proceeds, same⟩
      · intro cut store done holds
        obtain ⟨same, seen⟩ := holds
        refine ⟨?_, ?_⟩
        · intro stages
          simp only [offIndex, Prod.mk.injEq] at same
          rw [same.2.1, staged] at seen
          exact cut (stages.1 seen)
        · exact (updateStaging_apart stagingApart_offStaging entry.sessionId _ store).trans
            (beside same)
      · exact fun _ => trivial
    · exact fun _ => creates
  · intro clear
    apply creates.strengthen
    intro store holds
    obtain ⟨same, seen⟩ := holds
    refine ⟨?_, beside same⟩
    intro there
    simp only [offIndex, Prod.mk.injEq] at same
    rw [same.2.1] at seen
    exact absurd (seen.symm.trans there) clear

def CreationBegun (answers : CallSite → CallAnswer) (origin : SessionIndexStore)
    (sessionId : String) : Prop :=
  Stages answers (origin.disk.staging.lookup sessionId) ∧ Logs answers .operation

structure Published (json : IndexJson) (answers : CallSite → CallAnswer)
    (origin : SessionIndexStore) (entry : IndexSessionEntry) (store : SessionIndexStore) : Prop where
  begun : CreationBegun answers origin entry.sessionId
  publishes : answers .publish = .proceeds
  directory : store.disk.sessions.lookup entry.sessionId = some (freshDirectory json entry)
  entry : findEntry entry.sessionId store.entries = some entry

inductive NotPublished (answers : CallSite → CallAnswer) (origin : SessionIndexStore)
    (sessionId : String) (store : SessionIndexStore) : Prop where
  | nothing (cut : CreationBegun answers origin sessionId →
        answers .publish ≠ .proceeds ∧ Logs answers .compensation)
      (directory : store.disk.sessions.lookup sessionId = none)
      (entry : findEntry sessionId store.entries = none)
  | listed (begun : CreationBegun answers origin sessionId) (cut : answers .publish ≠ .proceeds)
      (fails : ¬ Logs answers .compensation)
      (directory : store.disk.sessions.lookup sessionId = none)
      (entry : (findEntry sessionId store.entries).isSome)

variable {entry : IndexSessionEntry}

theorem compensateCreate_outcome (publishErr : IndexError)
    (begun : CreationBegun answers origin entry.sessionId) (cut : answers .publish ≠ .proceeds)
    (unique : UniqueIds origin.entries) :
    Triple answers (fun store => store.disk.sessions.lookup entry.sessionId = none ∧
        store.entries = sortEntriesDesc (upsertEntry entry origin.entries))
      (compensateCreate json now entry.sessionId publishErr)
      ⟨fun _ _ => False, fun _ => NotPublished answers origin entry.sessionId, fun _ => True⟩ := by
  have added := (unique.upsert entry).sorted
  apply Triple.tried _ _ (append_outcome fun _ _ => id)
  · intro _
    apply Triple.given
    intro logs
    have nothing (store : SessionIndexStore)
        (left : store.disk.sessions.lookup entry.sessionId = none ∧
          findEntry entry.sessionId store.entries = none) :
        NotPublished answers origin entry.sessionId store :=
      .nothing (fun _ => ⟨cut, logs⟩) left.1 left.2
    apply Triple.bind fun _ store => store.disk.sessions.lookup entry.sessionId = none ∧
      findEntry entry.sessionId store.entries = none
    · apply triple_modify
      intro store left
      refine ⟨left.1, ?_⟩
      rw [removeMemoryEntry, left.2, findEntry_perm (added.remove _).sorted
        (sortEntriesDesc_perm _), findEntry_removeEntry, if_pos rfl]
    intro _
    apply Triple.tried (fun _ store => store.disk.sessions.lookup entry.sessionId = none ∧
      findEntry entry.sessionId store.entries = none) fun _ store =>
        store.disk.sessions.lookup entry.sessionId = none ∧
          findEntry entry.sessionId store.entries = none
    · have leaves : Leaves offStaging (removeStaged .discardStaging entry.sessionId) :=
        leaves_removeStaged stagingApart_offStaging _ _
      apply (leaves.triple _ answers).mono
      · exact fun _ _ => id
      · exact fun _ _ => id
      · exact fun _ _ => trivial
      · intro store next same left
        simp only [offStaging, Prod.mk.injEq] at same
        rwa [same.1, same.2.1]
    · exact fun _ => triple_fail nothing
    · exact fun _ => triple_fail nothing
  · intro _
    apply Triple.given
    intro fails
    let left (store : SessionIndexStore) : Prop :=
      store.disk.sessions.lookup entry.sessionId = none ∧
        store.entries = sortEntriesDesc (upsertEntry entry origin.entries)
    have marks : Triple answers left markRepairRequired _ :=
      markRepairRequired_triple (fun _ => id) fun _ => id
    have listed (store : SessionIndexStore) (holds : left store) :
        NotPublished answers origin entry.sessionId store := by
      refine .listed begun cut fails holds.1 ?_
      rw [holds.2, findEntry_perm added (sortEntriesDesc_perm _), findEntry_upsertEntry, if_pos rfl]
      rfl
    apply Triple.bind fun _ => left
    · apply marks.mono
      · exact fun _ _ => And.left
      · exact fun _ store marked => listed store marked.1
      · exact fun _ _ => trivial
    · exact fun _ => triple_fail listed

def Sound (store : SessionIndexStore) : Prop :=
  UniqueIds store.entries ∧ store.health = .healthy

theorem publish_outcome (begun : CreationBegun answers origin entry.sessionId)
    (unique : UniqueIds origin.entries)
    (vacant : origin.disk.sessions.lookup entry.sessionId = none) :
    Triple answers (fun store => store.disk.sessions = origin.disk.sessions ∧
        store.entries = sortEntriesDesc (upsertEntry entry origin.entries) ∧
          store.health = .healthy ∧
            store.disk.staging.lookup entry.sessionId = some (freshDirectory json entry))
      (publish entry.sessionId)
      ⟨fun _ store => Published json answers origin entry store ∧ Sound store,
        fun _ store => answers .publish ≠ .proceeds ∧
          store.disk.sessions.lookup entry.sessionId = none ∧
            store.entries = sortEntriesDesc (upsertEntry entry origin.entries), fun _ => True⟩ := by
  have staged {store : SessionIndexStore}
      (sessions : store.disk.sessions = origin.disk.sessions)
      (there : store.disk.staging.lookup entry.sessionId = some (freshDirectory json entry)) :
      publishStaged entry.sessionId store.disk = .ok { store.disk with
        sessions := store.disk.sessions.insert entry.sessionId (freshDirectory json entry)
        staging := store.disk.staging.erase entry.sessionId } := by
    simp [publishStaged, there, sessions, vacant]
  apply triple_call
  · intro store value next proceeds holds done
    obtain ⟨sessions, entries, health, there⟩ := holds
    rw [staged sessions there] at done
    cases Except.ok.inj done
    have added := (unique.upsert entry).sorted
    refine ⟨⟨begun, proceeds, AList.lookup_insert _, ?_⟩, entries ▸ added, health⟩
    rw [entries, findEntry_perm added (sortEntriesDesc_perm _), findEntry_upsertEntry, if_pos rfl]
  · intro store refused holds done
    rw [staged holds.1 holds.2.2.2] at done
    cases done
  · intro store done failed holds
    refine ⟨?_, ?_, holds.2.1⟩
    · rw [failed]
      intro proceeds
      cases proceeds
    · rw [holds.1, vacant]
  · exact fun _ _ _ _ => trivial

theorem createNormalized_outcome (health : origin.health = .healthy)
    (unique : UniqueIds origin.entries) (absent : findEntry entry.sessionId origin.entries = none)
    (vacant : origin.disk.sessions.lookup entry.sessionId = none) :
    Triple answers (fun store => offIndex store = offIndex origin)
      (createNormalized json now entry)
      ⟨fun _ store => Published json answers origin entry store ∧ Sound store,
        fun _ => NotPublished answers origin entry.sessionId, fun _ => True⟩ := by
  have untouched {store : SessionIndexStore} (cut : ¬ CreationBegun answers origin entry.sessionId)
      (same : offStaging store = offStaging origin) :
      NotPublished answers origin entry.sessionId store := by
    simp only [offStaging, Prod.mk.injEq] at same
    refine .nothing (fun begun => absurd begun cut) ?_ ?_
    · rw [same.1, vacant]
    · rw [same.2.1, absent]
  apply Triple.bind _ ((stage_outcome entry).mono (fun _ _ => id) _ fun _ => id)
  · intro _
    apply Triple.given
    intro stages
    apply Triple.bind _ ((append_outcome fun _ _ => id).mono (fun _ _ => id) _ fun _ => id)
    · intro _
      apply Triple.given
      intro logs
      have begun : CreationBegun answers origin entry.sessionId := ⟨stages, logs⟩
      apply Triple.bind fun _ store => store.disk.sessions = origin.disk.sessions ∧
        store.entries = sortEntriesDesc (upsertEntry entry origin.entries) ∧
          store.health = .healthy ∧
            store.disk.staging.lookup entry.sessionId = some (freshDirectory json entry)
      · apply triple_modify
        intro store holds
        obtain ⟨same, there⟩ := holds
        simp only [offStaging, Prod.mk.injEq] at same
        exact ⟨same.1, by rw [upsertMemoryEntry, same.2.1], same.2.2.trans health, there⟩
      intro _
      apply Triple.tried _ _ (publish_outcome begun unique vacant)
      · exact fun _ => triple_pure fun _ => id
      · intro publishErr
        apply Triple.given
        intro cut
        apply (compensateCreate_outcome publishErr begun cut unique).mono_value
        exact fun _ _ => False.elim
    · exact fun _ store ended => untouched (fun begun => ended.1 begun.2) ended.2.1
  · exact fun _ store ended => untouched (fun begun => ended.1 begun.1) ended.2

variable {parse : String → Option UtcTime}

theorem createEntry_outcome (health : origin.health = .healthy) (unique : UniqueIds origin.entries)
    (absent : findEntry entry.sessionId origin.entries = none)
    (vacant : origin.disk.sessions.lookup entry.sessionId = none) {normal : String}
    (normalized : normalizeRfc3339UtcMillis parse entry.updatedAt = some normal) :
    Triple answers (fun store => store = origin) (createEntry json parse now entry)
      ⟨fun _ store => Published json answers origin { entry with updatedAt := normal } store ∧
          Sound store,
        fun _ => NotPublished answers origin entry.sessionId, fun _ => True⟩ := by
  intro store same
  obtain rfl := same
  have opened : (createEntry json parse now entry).run answers store =
      (createNormalized json now { entry with updatedAt := normal }).run answers store := by
    simp [createEntry, ensureWritable, bind, pure, FaultProgram.inspect, health, normalizedTime,
      normalized, FaultProgram.ofExcept]
  rw [opened]
  have creates : Triple answers (fun next => offIndex next = offIndex store)
      (createNormalized json now { entry with updatedAt := normal }) _ :=
    createNormalized_outcome health unique absent vacant
  exact creates store rfl

def offLog (store : SessionIndexStore) :
    Table String SessionDirectory × Table String SessionDirectory × List IndexSessionEntry :=
  (store.disk.sessions, store.disk.staging, store.entries)

theorem maybeCompact_outcome :
    Triple answers (fun store => offIndex store = offIndex origin) (maybeCompact json now)
      ⟨fun _ store => offIndex store = offIndex origin, fun _ store => offLog store = offLog origin,
        fun _ => True⟩ := by
  have weaker {store : SessionIndexStore} (same : offIndex store = offIndex origin) :
      offLog store = offLog origin := by
    simp only [offIndex, Prod.mk.injEq] at same
    simp only [offLog, same.1, same.2.1, same.2.2.1]
  have quiet {α : Type} {program : IndexProgram α} (leaves : Leaves offIndex program) :
      Triple answers (fun store => offIndex store = offIndex origin) program
        ⟨fun _ store => offIndex store = offIndex origin,
          fun _ store => offLog store = offLog origin, fun _ => True⟩ := by
    have kept : Triple answers (fun store => offIndex store = offIndex origin) program
        (.always fun store => offIndex store = offIndex origin) :=
      leaves.triple (fun _ _ same holds => same.trans holds) answers
    exact kept.mono (fun _ _ => id) (fun _ _ => weaker) fun _ _ => trivial
  apply Triple.bind _ (quiet leaves_compactionDue)
  intro due
  apply triple_ite
  · intro _
    apply Triple.bind _ (quiet (leaves_inspect _))
    intro entries
    apply Triple.bind _ (quiet (leaves_writeJsonAtomic _ (fun _ _ => rfl) fun _ => rfl))
    intro _
    apply Triple.bind _ (quiet (leaves_rotateLogTmpBak fun _ _ _ _ => rfl).attempt)
    intro rotated
    cases rotated with
    | ok _ => exact triple_pure fun _ => id
    | error err =>
      apply triple_ite
      · intro _
        have marks : Triple answers (fun store => offLog store = offLog origin) markRepairRequired
          _ := markRepairRequired_triple (fun _ => id) fun _ => id
        apply Triple.bind fun _ store => offLog store = offLog origin
        · apply (marks.strengthen fun _ => weaker).mono
          · exact fun _ _ => And.left
          · exact fun _ _ => And.left
          · exact fun _ _ => trivial
        · exact fun _ => triple_fail fun _ => id
      · exact fun _ => triple_fail fun _ => weaker
  · exact fun _ => triple_pure fun _ => id

theorem deleteSessionIndexEntry_outcome (unique : UniqueIds origin.entries) :
    Triple answers (fun store => store = origin) (deleteSessionIndexEntry json now sessionId)
      ⟨fun _ => Deleted answers origin sessionId,
        fun _ store => NotDeleted answers origin sessionId store ∨
          (DeletionBegun answers origin ∧ Removes answers origin sessionId ∧
            store.disk.sessions.lookup sessionId = none ∧
              findEntry sessionId store.entries = none),
        fun _ => True⟩ := by
  apply Triple.bind fun _ => Deleted answers origin sessionId
  · exact (deleteEntry_outcome unique).mono (fun _ _ => id) (fun _ _ => .inl) fun _ => id
  intro _ store deleted
  have compacts := @maybeCompact_outcome json answers now store store rfl
  generalize (maybeCompact json now).run answers store = outcome at compacts ⊢
  match outcome, compacts with
  | (.value _, next), same =>
    simp only [Ends.of, offIndex, Prod.mk.injEq] at same
    obtain ⟨sessions, staging, entries, health⟩ := same
    exact ⟨deleted.begun, deleted.removes, by rw [sessions, deleted.directory],
      staging.trans deleted.staging, by rw [entries, deleted.entry], entries ▸ deleted.unique,
      health.trans deleted.health⟩
  | (.failed _, next), same =>
    simp only [Ends.of, offLog, Prod.mk.injEq] at same
    obtain ⟨sessions, staging, entries⟩ := same
    exact .inr ⟨deleted.begun, deleted.removes, by rw [sessions, deleted.directory],
      by rw [entries, deleted.entry]⟩
  | (.stopped, _), _ => trivial

theorem createSessionIndexEntry_refused (unbegun : origin.health = .healthy →
      normalizeRfc3339UtcMillis parse entry.updatedAt = none) :
    ∃ error, (createSessionIndexEntry json parse now entry).run answers origin =
      (.failed error, origin) := by
  cases health : origin.health with
  | repairRequired =>
    simp [createSessionIndexEntry, createEntry, ensureWritable, bind, FaultProgram.inspect, health,
      FaultProgram.fail]
  | healthy =>
    simp [createSessionIndexEntry, createEntry, ensureWritable, bind, pure, FaultProgram.inspect,
      health, normalizedTime, unbegun health, FaultProgram.ofExcept, FaultProgram.fail]

theorem createSessionIndexEntry_outcome {normal : String} (health : origin.health = .healthy)
    (unique : UniqueIds origin.entries) (absent : findEntry entry.sessionId origin.entries = none)
    (vacant : origin.disk.sessions.lookup entry.sessionId = none)
    (normalized : normalizeRfc3339UtcMillis parse entry.updatedAt = some normal) :
    Triple answers (fun store => store = origin) (createSessionIndexEntry json parse now entry)
      ⟨fun _ store => Published json answers origin { entry with updatedAt := normal } store ∧
          Sound store,
        fun _ store => NotPublished answers origin entry.sessionId store ∨
          Published json answers origin { entry with updatedAt := normal } store,
        fun _ => True⟩ := by
  apply Triple.bind fun _ store => Published json answers origin
    { entry with updatedAt := normal } store ∧ Sound store
  · apply (createEntry_outcome health unique absent vacant normalized).mono
    · exact fun _ _ => id
    · exact fun _ _ => .inl
    · exact fun _ => id
  intro _ store holds
  obtain ⟨published, sound⟩ := holds
  have compacts := @maybeCompact_outcome json answers now store store rfl
  have kept {next : SessionIndexStore} (same : offLog next = offLog store) :
      Published json answers origin { entry with updatedAt := normal } next := by
    simp only [offLog, Prod.mk.injEq] at same
    exact ⟨published.begun, published.publishes, by rw [same.1, published.directory],
      by rw [same.2.2, published.entry]⟩
  generalize (maybeCompact json now).run answers store = outcome at compacts ⊢
  match outcome, compacts with
  | (.value _, next), same =>
    simp only [Ends.of, offIndex, Prod.mk.injEq] at same
    obtain ⟨sessions, staging, entries, healths⟩ := same
    refine ⟨kept ?_, entries ▸ sound.1, healths.trans sound.2⟩
    simp only [offLog, sessions, staging, entries]
  | (.failed _, next), same => exact .inr (kept same)
  | (.stopped, _), _ => trivial

end OpenJax.Transcript
