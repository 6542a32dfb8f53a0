import OpenJax.Transcript.IndexCompaction
import OpenJax.Transcript.IndexModel

set_option autoImplicit false

namespace OpenJax.Transcript

open Shared FaultProgram SessionIndexStore

variable {json : IndexJson} {parse : String → Option UtcTime} {answers : CallSite → CallAnswer}
  {now : UtcTime}

def indexView (store : SessionIndexStore) :
    Option Bytes × Option Bytes × Option Bytes × List IndexSessionEntry × IndexHealth :=
  (store.disk.snapshot, store.disk.log, store.disk.logBak, store.entries, store.health)

def SessionsApart {γ : Type} (view : SessionIndexStore → γ) : Prop :=
  ∀ sessions staging store,
    view (store.onDisk fun disk => { disk with sessions := sessions, staging := staging }) =
      view store

def StagingApart {γ : Type} (view : SessionIndexStore → γ) : Prop :=
  ∀ (staging : IndexDisk → Table String SessionDirectory) store,
    view (store.onDisk fun disk => { disk with staging := staging disk }) = view store

theorem SessionsApart.staging {γ : Type} {view : SessionIndexStore → γ}
    (apart : SessionsApart view) : StagingApart view :=
  fun staging store => apart store.disk.sessions (staging store.disk) store

theorem sessionsApart_indexView : SessionsApart indexView := fun _ _ _ => rfl

section Directories

variable {γ : Type} {view : SessionIndexStore → γ}

theorem updateSession_apart (apart : SessionsApart view) (sessionId : String)
    (change : SessionDirectory → SessionDirectory) (store : SessionIndexStore) :
    view (store.onDisk (·.updateSession sessionId change)) = view store := by
  cases there : store.disk.sessions.lookup sessionId with
  | none => simp only [SessionIndexStore.onDisk, IndexDisk.updateSession, there]
  | some directory =>
    have same := apart (store.disk.sessions.insert sessionId (change directory))
      store.disk.staging store
    simpa only [SessionIndexStore.onDisk, IndexDisk.updateSession, there] using same

theorem updateStaging_apart (apart : StagingApart view) (sessionId : String)
    (change : SessionDirectory → SessionDirectory) (store : SessionIndexStore) :
    view (store.onDisk (·.updateStaging sessionId change)) = view store := by
  cases there : store.disk.staging.lookup sessionId with
  | none => simp only [SessionIndexStore.onDisk, IndexDisk.updateStaging, there]
  | some directory =>
    have same := apart (fun disk => disk.staging.insert sessionId (change directory)) store
    simpa only [SessionIndexStore.onDisk, IndexDisk.updateStaging, there] using same

theorem leaves_writeSessionMetadata (apart : SessionsApart view) (sessionId : String)
    (mutate : SessionMetadata → SessionMetadata) :
    Leaves view (writeSessionMetadata json sessionId mutate) := by
  apply Leaves.bind leaves_quietCall
  intro metadata
  apply leaves_writeJsonAtomic
  · exact fun bytes => updateSession_apart apart sessionId _
  · exact updateSession_apart apart sessionId _

theorem leaves_append {purpose : LogPurpose} {record : SessionIndexLogRecord}
    (extended : ∀ bytes store, view (store.onDisk (·.extendLog bytes)) = view store) :
    Leaves view (appendLogRecordToPath json purpose record) := by
  apply Leaves.bind
  all_goals try intro _
  all_goals
    apply leaves_call
    · intro store value next done
      simp only [Except.ok.injEq, Prod.mk.injEq] at done
      exact done.2 ▸ extended _ store
    · exact fun done => extended _

theorem leaves_removeStaged (apart : StagingApart view) (site : CallSite) (sessionId : String) :
    Leaves view (removeStaged site sessionId) := by
  apply leaves_call
  · intro store value next done
    simp only [Except.ok.injEq, Prod.mk.injEq] at done
    exact done.2 ▸ apart _ store
  · exact fun done => updateStaging_apart apart sessionId _

theorem leaves_stage (apart : StagingApart view) (entry : IndexSessionEntry) :
    Leaves view (stage json entry) := by
  have staged : Leaves view (diskCall .createStaging fun disk =>
      { disk with staging := disk.staging.insert entry.sessionId .empty }) :=
    leaves_diskCall (apart _)
  have wrote : Leaves view (writeJsonAtomic (.staged entry.sessionId)
      (json.metadata.toVec (.fromIndexEntry entry))) :=
    leaves_writeJsonAtomic _ (fun bytes => updateStaging_apart apart entry.sessionId _)
      (updateStaging_apart apart entry.sessionId _)
  apply (leaves_inspect _).bind
  intro found
  apply leaves_ite
  · exact (leaves_removeStaged apart _ _).bind fun _ => staged.bind fun _ => wrote
  · exact staged.bind fun _ => wrote

theorem leaves_publish (apart : SessionsApart view) (sessionId : String) :
    Leaves view (publish sessionId) := by
  apply leaves_atomicCall
  intro store value next done
  unfold publishStaged at done
  split at done
  · simp [Except.map] at done
  · split_ifs at done
    · simp only [Except.map, Except.ok.injEq, Prod.mk.injEq] at done
      exact done.2 ▸ apart _ _ store
    · simp [Except.map] at done

theorem leaves_removeSession (apart : SessionsApart view) (sessionId : String) :
    Leaves view (removeSession sessionId) := by
  apply leaves_call
  · intro store value next done
    split_ifs at done
    · simp only [Except.ok.injEq, Prod.mk.injEq] at done
      exact done.2 ▸ apart (store.disk.sessions.erase sessionId) store.disk.staging store
  · exact fun done => updateSession_apart apart sessionId _

end Directories

structure Held (json : IndexJson) (parse : String → Option UtcTime) (store : SessionIndexStore) :
    Prop where
  unique : UniqueIds store.entries
  descending : Descending store.entries
  recorded : Recorded json parse store.entries store.disk
  health : store.health = .healthy

structure Halted (json : IndexJson) (parse : String → Option UtcTime) (store : SessionIndexStore) :
    Prop where
  restartable : Restartable json parse store.disk
  health : store.health = .repairRequired

def operationEnds {α : Type} (json : IndexJson) (parse : String → Option UtcTime)
    (answers : CallSite → CallAnswer) (value : α → SessionIndexStore → Prop) :
    Ends SessionIndexStore IndexError α :=
  ⟨value, fun _ store => Untorn answers → Held json parse store ∨ Halted json parse store,
    fun store => Untorn answers → Restartable json parse store.disk⟩

section Entries

variable {entries : List IndexSessionEntry} {store : SessionIndexStore}

theorem Midway.held (midway : Midway json parse entries entries store) (unique : UniqueIds entries)
    (descending : Descending entries) : Held json parse store := by
  obtain ⟨recorded, rfl, health⟩ := midway
  exact ⟨unique, descending, recorded, health⟩

theorem Held.midway (held : Held json parse store) :
    Midway json parse store.entries store.entries store :=
  ⟨held.recorded, rfl, held.health⟩

theorem Recorded.congr {others : List IndexSessionEntry} {disk : IndexDisk}
    (recorded : Recorded json parse entries disk) (unique : UniqueIds others)
    (order : others.Perm entries) : Recorded json parse others disk :=
  ⟨recorded.indexed.congr (findEntry_perm unique order), recorded.bak⟩

theorem Agreeing.settles (agrees : Agreeing json parse entries store) (unique : UniqueIds entries)
    (descending : Descending entries) : Held json parse store ∨ Halted json parse store := by
  cases health : store.health with
  | healthy => exact .inl (Midway.held ⟨agrees.recorded, agrees.entries, health⟩ unique descending)
  | repairRequired => exact .inr ⟨agrees.recorded.restartable, health⟩

variable {memory logged : List IndexSessionEntry}

theorem Midway.remembered (midway : Midway json parse memory logged store)
    (unique : UniqueIds logged) :
    Midway json parse (sortEntriesDesc logged) (sortEntriesDesc logged)
      { store with entries := sortEntriesDesc logged } := by
  have order := sortEntriesDesc_perm logged
  exact ⟨midway.recorded.congr (unique.perm order.symm) order, rfl, midway.health⟩

theorem settled_upsertRecord {entry : IndexSessionEntry}
    (settled : Renormalizes parse entry.updatedAt) :
    SettledRecord parse (upsertRecord now entry) :=
  fun _ => ⟨entry, rfl, settled⟩

variable (sessionId : String)

theorem settled_deleteRecord : SettledRecord parse (deleteRecord now sessionId) :=
  nofun

theorem Midway.of_view {store next : SessionIndexStore} (same : indexView next = indexView store)
    (midway : Midway json parse memory logged store) : Midway json parse memory logged next := by
  simp only [indexView, Prod.mk.injEq] at same
  obtain ⟨snapshot, log, bak, kept, health⟩ := same
  exact ⟨midway.recorded.of_files snapshot log bak, kept.trans midway.entries,
    health.trans midway.health⟩

theorem Midway.beside {α : Type} {program : IndexProgram α} (leaves : Leaves indexView program)
    (memory logged : List IndexSessionEntry) :
    Triple answers (Midway json parse memory logged) program
      (.always (Midway json parse memory logged)) :=
  leaves.triple (fun _ _ => Midway.of_view) answers

theorem halt_triple {logged : List IndexSessionEntry} {error : IndexError} {α : Type}
    {value : α → SessionIndexStore → Prop} {pre : SessionIndexStore → Prop}
    (recorded : ∀ store, pre store → Untorn answers → Recorded json parse logged store.disk) :
    Triple answers pre (do markRepairRequired; FaultProgram.fail error)
      (operationEnds json parse answers value) := by
  have marks : Triple answers
      (fun store => Untorn answers → Recorded json parse logged store.disk) markRepairRequired _ :=
    markRepairRequired_triple (fun _ => id)
      fun _ holds untorn => (holds untorn).of_files rfl rfl rfl
  apply Triple.bind fun _ store => Untorn answers → Halted json parse store
  · apply (marks.strengthen recorded).mono
    · exact fun _ _ holds untorn => ⟨(holds.1 untorn).restartable, holds.2⟩
    · exact fun _ _ holds untorn => .inr ⟨(holds.1 untorn).restartable, holds.2⟩
    · exact fun _ holds untorn => (holds.1 untorn).restartable
  · exact fun _ => triple_fail fun _ halted untorn => .inr (halted untorn)

theorem append_operation (purpose : LogPurpose) {record : SessionIndexLogRecord}
    (settled : SettledRecord parse record) (unique : UniqueIds entries)
    (descending : Descending entries) :
    Triple answers (Midway json parse entries entries) (appendLogRecordToPath json purpose record)
      (operationEnds json parse answers fun _ =>
        Midway json parse entries (effect record entries)) := by
  apply (append_triple purpose settled).mono
  · exact fun _ _ => id
  · exact fun _ _ same untorn => .inl ((same untorn).held unique descending)
  · exact fun _ => id

variable {ends : Ends SessionIndexStore IndexError Unit}

theorem upsertMemoryEntry_triple {entry : IndexSessionEntry} (unique : UniqueIds entries)
    (ended : ∀ store, Midway json parse (sortEntriesDesc (upsertEntry entry entries))
      (sortEntriesDesc (upsertEntry entry entries)) store → ends.value () store) :
    Triple answers (Midway json parse entries (upsertEntry entry entries))
      (FaultProgram.modify (upsertMemoryEntry entry)) ends := by
  apply triple_modify
  intro store midway
  have remembered := midway.remembered (unique.upsert entry)
  apply ended
  rwa [← midway.entries] at remembered ⊢

theorem removeMemoryEntry_triple {sessionId : String} (unique : UniqueIds entries)
    (ended : ∀ store, Midway json parse (sortEntriesDesc (removeEntry sessionId entries))
      (sortEntriesDesc (removeEntry sessionId entries)) store → ends.value () store) :
    Triple answers (Midway json parse entries (removeEntry sessionId entries))
      (FaultProgram.modify (removeMemoryEntry sessionId)) ends := by
  apply triple_modify
  intro store midway
  have remembered := midway.remembered (unique.remove sessionId)
  apply ended
  rwa [← midway.entries] at remembered ⊢

theorem UniqueIds.sorted (unique : UniqueIds entries) : UniqueIds (sortEntriesDesc entries) :=
  unique.perm (sortEntriesDesc_perm entries).symm

theorem beside_operation {α : Type} {program : IndexProgram α}
    (leaves : Leaves indexView program) (unique : UniqueIds entries)
    (descending : Descending entries) :
    Triple answers (Midway json parse entries entries) program
      (operationEnds json parse answers fun _ => Midway json parse entries entries) := by
  apply (Midway.beside leaves entries entries).mono
  · exact fun _ _ => id
  · exact fun _ _ midway _ => .inl (midway.held unique descending)
  · exact fun _ midway _ => midway.recorded.restartable

theorem Midway.tries {α β : Type} {program : IndexProgram β}
    {rest : Except IndexError β → IndexProgram α} {value : α → SessionIndexStore → Prop}
    (leaves : Leaves indexView program)
    (continued : ∀ outcome, Triple answers (Midway json parse memory logged) (rest outcome)
      (operationEnds json parse answers value)) :
    Triple answers (Midway json parse memory logged) (program.attempt >>= rest)
      (operationEnds json parse answers value) := by
  apply Triple.tried (fun _ => Midway json parse memory logged)
    fun _ => Midway json parse memory logged
  · apply (Midway.beside leaves memory logged).mono
    · exact fun _ _ => id
    · exact fun _ _ => id
    · exact fun _ midway _ => midway.recorded.restartable
  · exact fun found => continued (.ok found)
  · exact fun error => continued (.error error)

theorem storeEntry_triple (context : String) {next : IndexSessionEntry}
    (mutate : SessionMetadata → SessionMetadata) (unique : UniqueIds entries)
    (descending : Descending entries) (settled : Renormalizes parse next.updatedAt) :
    Triple answers (Midway json parse entries entries) (storeEntry json now context next mutate)
      (operationEnds json parse answers fun _ =>
        Midway json parse (sortEntriesDesc (upsertEntry next entries))
          (sortEntriesDesc (upsertEntry next entries))) := by
  apply Triple.bind _ (append_operation .operation (settled_upsertRecord settled) unique descending)
  intro _
  apply Midway.tries (leaves_writeSessionMetadata sessionsApart_indexView next.sessionId mutate)
  intro outcome
  cases outcome with
  | ok _ => exact upsertMemoryEntry_triple unique fun _ => id
  | error _ => exact halt_triple fun _ midway _ => midway.recorded

variable {value : Unit → SessionIndexStore → Prop}

theorem compensateCreate_triple (publishErr : IndexError) (unique : UniqueIds entries) :
    Triple answers (Midway json parse entries entries)
      (compensateCreate json now sessionId publishErr) (operationEnds json parse answers value) := by
  apply Triple.tried (fun _ => Midway json parse entries (removeEntry sessionId entries))
    fun _ store => Untorn answers → Midway json parse entries entries store
  · exact append_triple .compensation (settled_deleteRecord sessionId)
  · intro _
    have removed := unique.remove sessionId
    apply Triple.bind fun _ => Midway json parse (sortEntriesDesc (removeEntry sessionId entries))
      (sortEntriesDesc (removeEntry sessionId entries))
    · exact removeMemoryEntry_triple unique fun _ => id
    · intro _
      apply Midway.tries (leaves_removeStaged sessionsApart_indexView.staging _ _)
      exact fun _ => triple_fail fun _ midway _ =>
        .inl (midway.held removed.sorted (descending_sortEntriesDesc removed))
  · exact fun _ => halt_triple fun _ same untorn => (same untorn).recorded

theorem createNormalized_triple {next : IndexSessionEntry} (unique : UniqueIds entries)
    (descending : Descending entries) (settled : Renormalizes parse next.updatedAt) :
    Triple answers (Midway json parse entries entries) (createNormalized json now next)
      (operationEnds json parse answers fun _ =>
        Midway json parse (sortEntriesDesc (upsertEntry next entries))
          (sortEntriesDesc (upsertEntry next entries))) := by
  have added := unique.upsert next
  apply Triple.bind _ (beside_operation (leaves_stage sessionsApart_indexView.staging next) unique
    descending)
  intro _
  apply Triple.bind _ (append_operation .operation (settled_upsertRecord settled) unique descending)
  intro _
  apply Triple.bind fun _ => Midway json parse (sortEntriesDesc (upsertEntry next entries))
    (sortEntriesDesc (upsertEntry next entries))
  · exact upsertMemoryEntry_triple unique fun _ => id
  · intro _
    apply Midway.tries (leaves_publish sessionsApart_indexView next.sessionId)
    intro outcome
    cases outcome with
    | ok _ => exact triple_pure fun _ => id
    | error publishErr => exact compensateCreate_triple next.sessionId publishErr added.sorted

theorem compensateDelete_triple {original : Option IndexSessionEntry} (removeErr : IndexError)
    (unique : UniqueIds entries) (descending : Descending entries)
    (settled : ∀ entry, original = some entry → Renormalizes parse entry.updatedAt) :
    Triple answers (Midway json parse entries entries)
      (compensateDelete json now original removeErr) (operationEnds json parse answers value) := by
  cases original with
  | none => exact triple_fail fun _ midway _ => .inl (midway.held unique descending)
  | some entry =>
    have restored := unique.upsert entry
    apply Triple.tried (fun _ => Midway json parse entries (upsertEntry entry entries))
      fun _ store => Untorn answers → Midway json parse entries entries store
    · exact append_triple .compensation (settled_upsertRecord (settled entry rfl))
    · intro _
      apply Triple.bind fun _ => Midway json parse (sortEntriesDesc (upsertEntry entry entries))
        (sortEntriesDesc (upsertEntry entry entries))
      · exact upsertMemoryEntry_triple unique fun _ => id
      · exact fun _ => triple_fail fun _ midway _ =>
          .inl (midway.held restored.sorted (descending_sortEntriesDesc restored))
    · exact fun _ => halt_triple fun _ same untorn => (same untorn).recorded

theorem deleteKnown_triple (unique : UniqueIds entries) (descending : Descending entries) :
    Triple answers (Midway json parse entries entries)
      (deleteKnown json now sessionId (findEntry sessionId entries))
      (operationEnds json parse answers fun _ =>
        Midway json parse (sortEntriesDesc (removeEntry sessionId entries))
          (sortEntriesDesc (removeEntry sessionId entries))) := by
  have removed := unique.remove sessionId
  intro start midway
  have settled : ∀ entry, findEntry sessionId entries = some entry →
      Renormalizes parse entry.updatedAt := by
    intro entry there
    exact midway.recorded.indexed.settled unique entry (List.mem_of_find?_eq_some there)
  have deletes : Triple answers (Midway json parse entries entries)
      (deleteKnown json now sessionId (findEntry sessionId entries))
      (operationEnds json parse answers fun _ =>
        Midway json parse (sortEntriesDesc (removeEntry sessionId entries))
          (sortEntriesDesc (removeEntry sessionId entries))) := by
    apply Triple.bind _ (append_operation .operation (settled_deleteRecord sessionId) unique
      descending)
    intro _
    apply Triple.bind fun _ => Midway json parse (sortEntriesDesc (removeEntry sessionId entries))
      (sortEntriesDesc (removeEntry sessionId entries))
    · exact removeMemoryEntry_triple unique fun _ => id
    · intro _
      apply Midway.tries (leaves_removeSession sessionsApart_indexView sessionId)
      intro outcome
      cases outcome with
      | ok _ => exact triple_pure fun _ => id
      | error removeErr =>
        exact compensateDelete_triple removeErr removed.sorted
          (descending_sortEntriesDesc removed) settled
  exact deletes start midway

theorem body_triple (operation : IndexOperation) (unique : UniqueIds entries)
    (descending : Descending entries)
    (settled : ∀ stamp, operation.stamp parse now = some stamp → Renormalizes parse stamp) :
    Triple answers (Midway json parse entries entries) (operation.body json parse now)
      (operationEnds json parse answers fun _ =>
        Midway json parse (operation.applied parse now entries)
          (operation.applied parse now entries)) := by
  apply IndexOperation.body_course
  · exact fun _ => Midway.entries
  · exact fun _ _ midway _ => .inl (midway.held unique descending)
  · intro nothing updating store midway
    rwa [IndexOperation.applied_of_none nothing updating]
  · intro entry normal same normalized
    subst same
    have chosen : (IndexOperation.create entry).next parse now
        (fun sessionId => findEntry sessionId entries) =
          some { entry with updatedAt := normal } := by
      simp [IndexOperation.next, normalized]
    rw [IndexOperation.applied_of_next chosen]
    exact createNormalized_triple unique descending (settled normal normalized)
  · intro context next mutate _ _ chosen stamped
    rw [IndexOperation.applied_of_next chosen]
    exact storeEntry_triple context mutate unique descending (settled _ stamped)
  · intro sessionId same
    subst same
    exact deleteKnown_triple sessionId unique descending

theorem perform_triple (operation : IndexOperation) (unique : UniqueIds entries)
    (descending : Descending entries)
    (settled : ∀ stamp, operation.stamp parse now = some stamp → Renormalizes parse stamp) :
    Triple answers (Midway json parse entries entries) (operation.perform json parse now)
      (operationEnds json parse answers fun _ =>
        Midway json parse (operation.applied parse now entries)
          (operation.applied parse now entries)) := by
  have applied : UniqueIds (operation.applied parse now entries) :=
    IndexOperation.unique_applied unique operation
  have ordered : Descending (operation.applied parse now entries) :=
    IndexOperation.descending_applied unique descending operation
  rw [IndexOperation.perform_eq]
  apply Triple.bind _ (body_triple operation unique descending settled)
  intro due
  apply triple_ite
  · intro _
    apply (maybeCompact_triple applied).mono
    · exact fun _ _ => id
    · exact fun _ _ agrees _ => agrees.settles applied ordered
    · exact fun _ agrees _ => agrees.recorded.restartable
  · exact fun _ => triple_pure fun _ => id

end Entries

end OpenJax.Transcript
