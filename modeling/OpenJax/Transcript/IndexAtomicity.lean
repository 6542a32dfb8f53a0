import OpenJax.Transcript.IndexHistory

set_option autoImplicit false

namespace OpenJax.Transcript

open Shared FaultProgram SessionIndexStore

variable {json : IndexJson} {parse : String → Option UtcTime} {answers : CallSite → CallAnswer}
  {now : UtcTime} {entries : List IndexSessionEntry}

def SameSessions (origin store : SessionIndexStore) : Prop :=
  ∀ sessionId, store.disk.sessions.lookup sessionId = origin.disk.sessions.lookup sessionId

def TakenBack (json : IndexJson) (parse : String → Option UtcTime)
    (entries : List IndexSessionEntry) (store : SessionIndexStore) : Prop :=
  Midway json parse entries entries store ∨ store.health = .repairRequired

def takenBackEnds {α : Type} (json : IndexJson) (parse : String → Option UtcTime)
    (answers : CallSite → CallAnswer) (entries : List IndexSessionEntry) :
    Ends SessionIndexStore IndexError α :=
  ⟨fun _ _ => True, fun _ store => Untorn answers → TakenBack json parse entries store,
    fun _ => True⟩

theorem taken_of_halt {pre : SessionIndexStore → Prop} {error : IndexError} {α : Type} :
    Triple answers pre (do markRepairRequired; (FaultProgram.fail error : IndexProgram α))
      (takenBackEnds json parse answers entries) := by
  have marks : Triple answers (fun _ => True) markRepairRequired _ :=
    markRepairRequired_triple (fun _ => id) fun _ => id
  apply Triple.bind fun _ store => store.health = .repairRequired
  · apply (marks.strengthen fun _ _ => trivial).mono
    · exact fun _ _ => And.right
    · exact fun _ _ holds _ => .inr holds.2
    · exact fun _ _ => trivial
  · exact fun _ => triple_fail fun _ halted _ => .inr halted

variable {entry : IndexSessionEntry}

theorem remove_upserted (unique : UniqueIds entries) (descending : Descending entries)
    (absent : findEntry entry.sessionId entries = none) :
    sortEntriesDesc (removeEntry entry.sessionId (sortEntriesDesc (upsertEntry entry entries))) =
      entries := by
  have added := unique.upsert entry
  apply sortEntriesDesc_eq _ descending unique
  apply perm_of_findEntry (added.sorted.remove _) unique
  intro sessionId
  rw [findEntry_removeEntry, findEntry_perm added.sorted (sortEntriesDesc_perm _),
    findEntry_upsertEntry]
  split
  · rename_i same
    rw [same, absent]
  · rfl

theorem upsert_removed {sessionId : String} (unique : UniqueIds entries)
    (descending : Descending entries) (there : findEntry sessionId entries = some entry) :
    sortEntriesDesc (upsertEntry entry (sortEntriesDesc (removeEntry sessionId entries))) =
      entries := by
  have removed := unique.remove sessionId
  have own := findEntry_id there
  apply sortEntriesDesc_eq _ descending unique
  apply perm_of_findEntry (removed.sorted.upsert _) unique
  intro other
  rw [findEntry_upsertEntry, findEntry_perm removed.sorted (sortEntriesDesc_perm _),
    findEntry_removeEntry, own]
  split
  · rename_i same
    rw [same, there]
  · rfl

theorem compensateCreate_taken (publishErr : IndexError) (unique : UniqueIds entries)
    (descending : Descending entries) (absent : findEntry entry.sessionId entries = none) :
    Triple answers (Midway json parse (sortEntriesDesc (upsertEntry entry entries))
        (sortEntriesDesc (upsertEntry entry entries)))
      (compensateCreate json now entry.sessionId publishErr)
      (takenBackEnds json parse answers entries) := by
  have added := (unique.upsert entry).sorted
  have back := remove_upserted unique descending absent
  apply Triple.tried (fun _ => Midway json parse (sortEntriesDesc (upsertEntry entry entries))
    (removeEntry entry.sessionId (sortEntriesDesc (upsertEntry entry entries)))) fun _ _ => True
  · apply (append_triple .compensation (settled_deleteRecord entry.sessionId)).mono
    · exact fun _ _ => id
    · exact fun _ _ _ => trivial
    · exact fun _ _ => trivial
  · intro _
    apply Triple.bind fun _ => Midway json parse entries entries
    · exact removeMemoryEntry_triple added fun _ midway => back ▸ midway
    · intro _
      apply Triple.tried (fun _ => Midway json parse entries entries)
        fun _ => Midway json parse entries entries
      · apply (Midway.beside (leaves_removeStaged sessionsApart_indexView.staging _ _) entries
          entries).mono
        · exact fun _ _ => id
        · exact fun _ _ => id
        · exact fun _ _ => trivial
      · exact fun _ => triple_fail fun _ midway _ => .inl midway
      · exact fun _ => triple_fail fun _ midway _ => .inl midway
  · exact fun _ => taken_of_halt

theorem createNormalized_taken (unique : UniqueIds entries) (descending : Descending entries)
    (absent : findEntry entry.sessionId entries = none)
    (settled : Renormalizes parse entry.updatedAt) :
    Triple answers (Midway json parse entries entries) (createNormalized json now entry)
      (takenBackEnds json parse answers entries) := by
  apply Triple.bind fun _ => Midway json parse entries entries
  · apply (Midway.beside (leaves_stage sessionsApart_indexView.staging entry) entries entries).mono
    · exact fun _ _ => id
    · exact fun _ _ midway _ => .inl midway
    · exact fun _ _ => trivial
  intro _
  apply Triple.bind fun _ => Midway json parse entries (upsertEntry entry entries)
  · apply (append_triple .operation (settled_upsertRecord settled)).mono
    · exact fun _ _ => id
    · exact fun _ _ same untorn => .inl (same untorn)
    · exact fun _ _ => trivial
  intro _
  apply Triple.bind fun _ => Midway json parse (sortEntriesDesc (upsertEntry entry entries))
    (sortEntriesDesc (upsertEntry entry entries))
  · exact upsertMemoryEntry_triple unique fun _ => id
  intro _
  apply Triple.tried (fun _ _ => True) fun _ => Midway json parse
    (sortEntriesDesc (upsertEntry entry entries)) (sortEntriesDesc (upsertEntry entry entries))
  · apply (Midway.beside (leaves_publish sessionsApart_indexView entry.sessionId) _ _).mono
    · exact fun _ _ _ => trivial
    · exact fun _ _ => id
    · exact fun _ _ => trivial
  · exact fun _ => triple_pure fun _ => id
  · exact fun publishErr => compensateCreate_taken publishErr unique descending absent

theorem compensateDelete_taken {sessionId : String} {original : Option IndexSessionEntry}
    (removeErr : IndexError) (unique : UniqueIds entries) (descending : Descending entries)
    (there : findEntry sessionId entries = original)
    (settled : ∀ entry, original = some entry → Renormalizes parse entry.updatedAt) :
    Triple answers (Midway json parse (sortEntriesDesc (removeEntry sessionId entries))
        (sortEntriesDesc (removeEntry sessionId entries)))
      (compensateDelete json now original removeErr) (takenBackEnds json parse answers entries) := by
  cases original with
  | none =>
    have same : sortEntriesDesc (removeEntry sessionId entries) = entries := by
      apply sortEntriesDesc_eq _ descending unique
      apply perm_of_findEntry (unique.remove sessionId) unique
      intro other
      rw [findEntry_removeEntry]
      split
      · rename_i own
        rw [own, there]
      · rfl
    exact triple_fail fun _ midway _ => .inl (same ▸ midway)
  | some entry =>
    have removed := (unique.remove sessionId).sorted
    have back := upsert_removed unique descending there
    apply Triple.tried (fun _ => Midway json parse
      (sortEntriesDesc (removeEntry sessionId entries))
      (upsertEntry entry (sortEntriesDesc (removeEntry sessionId entries)))) fun _ _ => True
    · apply (append_triple .compensation (settled_upsertRecord (settled entry rfl))).mono
      · exact fun _ _ => id
      · exact fun _ _ _ => trivial
      · exact fun _ _ => trivial
    · intro _
      apply Triple.bind fun _ => Midway json parse entries entries
      · exact upsertMemoryEntry_triple removed fun _ midway => back ▸ midway
      · exact fun _ => triple_fail fun _ midway _ => .inl midway
    · exact fun _ => taken_of_halt

theorem deleteKnown_taken (sessionId : String) (unique : UniqueIds entries)
    (descending : Descending entries) :
    Triple answers (Midway json parse entries entries)
      (deleteKnown json now sessionId (findEntry sessionId entries))
      (takenBackEnds json parse answers entries) := by
  intro start midway
  have settled : ∀ entry, findEntry sessionId entries = some entry →
      Renormalizes parse entry.updatedAt := by
    intro entry there
    exact midway.recorded.indexed.settled unique entry (List.mem_of_find?_eq_some there)
  have deletes : Triple answers (Midway json parse entries entries)
      (deleteKnown json now sessionId (findEntry sessionId entries))
      (takenBackEnds json parse answers entries) := by
    apply Triple.bind fun _ => Midway json parse entries (removeEntry sessionId entries)
    · apply (append_triple .operation (settled_deleteRecord sessionId)).mono
      · exact fun _ _ => id
      · exact fun _ _ same untorn => .inl (same untorn)
      · exact fun _ _ => trivial
    intro _
    apply Triple.bind fun _ => Midway json parse (sortEntriesDesc (removeEntry sessionId entries))
      (sortEntriesDesc (removeEntry sessionId entries))
    · exact removeMemoryEntry_triple unique fun _ => id
    intro _
    apply Triple.tried (fun _ _ => True) fun _ => Midway json parse
      (sortEntriesDesc (removeEntry sessionId entries))
      (sortEntriesDesc (removeEntry sessionId entries))
    · apply (Midway.beside (leaves_removeSession sessionsApart_indexView sessionId) _ _).mono
      · exact fun _ _ _ => trivial
      · exact fun _ _ => id
      · exact fun _ _ => trivial
    · exact fun _ => triple_pure fun _ => id
    · exact fun removeErr => compensateDelete_taken removeErr unique descending rfl settled
  exact deletes start midway

section Directories

variable {origin : SessionIndexStore}

theorem sessions_beside {α : Type} {program : IndexProgram α}
    (leaves : Leaves (fun store => store.disk.sessions) program) :
    Triple answers (SameSessions origin) program
      ⟨fun _ => SameSessions origin, fun _ => SameSessions origin, fun _ => True⟩ := by
  have kept : Triple answers (SameSessions origin) program (.always (SameSessions origin)) := by
    apply leaves.triple
    intro store next same holds sessionId
    rw [← holds sessionId]
    exact congrArg (AList.lookup sessionId) same
  exact kept.mono (fun _ _ => id) (fun _ _ => id) fun _ _ => trivial

theorem sessions_steady :
    Steady json answers (SameSessions origin) fun _ => True where
  append _ _ := sessions_beside (leaves_append fun _ _ => rfl)
  memory _ _ := id
  health _ := id
  marked _ := id
  staging _ _ := id
  stops _ _ := trivial

theorem createNormalized_sessions (entry : IndexSessionEntry) :
    Triple answers (SameSessions origin) (createNormalized json now entry)
      ⟨fun _ _ => True, fun _ => SameSessions origin, fun _ => True⟩ := by
  apply Triple.bind fun _ => SameSessions origin
  · exact sessions_beside (leaves_stage (fun _ _ => rfl) entry)
  intro _
  apply Triple.bind fun _ => SameSessions origin
  · exact sessions_steady.append _ _
  intro _
  apply Triple.bind fun _ => SameSessions origin
  · exact triple_modify fun _ => id
  intro _
  apply Triple.tried (fun _ _ => True) fun _ => SameSessions origin
  · -- The directory is put in its place as a whole.
    exact triple_atomicCall (fun _ _ _ _ _ => trivial) (fun _ _ => id) fun _ _ => trivial
  · exact fun _ => triple_pure fun _ => id
  · exact fun publishErr => sessions_steady.compensateCreate entry.sessionId publishErr

theorem deleteKnown_sessions (sessionId : String) (original : Option IndexSessionEntry)
    (whole : ∀ done, answers .removeSession = .fails done → done = 0) :
    Triple answers (SameSessions origin) (deleteKnown json now sessionId original)
      ⟨fun _ _ => True, fun _ => SameSessions origin, fun _ => True⟩ := by
  apply Triple.bind fun _ => SameSessions origin
  · exact sessions_steady.append _ _
  intro _
  apply Triple.bind fun _ => SameSessions origin
  · exact triple_modify fun _ => id
  intro _
  apply Triple.tried (fun _ _ => True) fun _ => SameSessions origin
  · apply triple_call
    · exact fun _ _ _ _ _ _ => trivial
    · exact fun _ _ holds _ => holds
    · intro store done failed holds other
      rw [whole done failed, SessionIndexStore.onDisk, lookup_updateSession]
      split
      · rename_i own
        rw [← own, ← holds other]
        cases store.disk.sessions.lookup other with
        | none => rfl
        | some directory => simp [SessionDirectory.partlyRemoved]
      · exact holds other
    · exact fun _ _ _ _ => trivial
  · exact fun _ => triple_pure fun _ => id
  · exact fun removeErr => sessions_steady.compensateDelete original removeErr

end Directories

/-- A creation of a session that is not there, or a deletion whose removal takes all or nothing. -/
def IndexOperation.Reversible (answers : CallSite → CallAnswer) (entries : List IndexSessionEntry) :
    IndexOperation → Prop
  | .create entry => findEntry entry.sessionId entries = none
  | .delete _ => ∀ done, answers .removeSession = .fails done → done = 0
  | _ => False

theorem body_taken {operation : IndexOperation} (unique : UniqueIds entries)
    (descending : Descending entries) (reversible : operation.Reversible answers entries)
    (settled : ∀ stamp, operation.stamp parse now = some stamp → Renormalizes parse stamp)
    (origin : SessionIndexStore) :
    Triple answers (fun store => Midway json parse entries entries store ∧
        SameSessions origin store) (operation.body json parse now)
      ⟨fun _ _ => True, fun _ store => (Untorn answers → TakenBack json parse entries store) ∧
        SameSessions origin store, fun _ => True⟩ := by
  apply IndexOperation.body_course
  · exact fun _ holds => holds.1.entries
  · exact fun _ _ holds => ⟨fun _ => .inl holds.1, holds.2⟩
  · exact fun _ _ _ _ => trivial
  · intro entry normal same normalized
    subst same
    have absent : findEntry { entry with updatedAt := normal }.sessionId entries = none := reversible
    have index : Triple answers (Midway json parse entries entries) (createNormalized json now _) _ :=
      createNormalized_taken unique descending absent (settled normal normalized)
    exact (index.and (createNormalized_sessions _)).mono (fun _ _ _ => trivial) (fun _ _ => id)
      fun _ _ => trivial
  · intro context next mutate _ updates _ _
    cases operation with
    | create entry => cases updates
    | delete sessionId => cases updates
    | _ => exact reversible.elim
  · intro sessionId same
    subst same
    have index : Triple answers (Midway json parse entries entries) (deleteKnown json now _ _) _ :=
      deleteKnown_taken sessionId unique descending
    exact (index.and (deleteKnown_sessions sessionId _ reversible)).mono (fun _ _ _ => trivial)
      (fun _ _ => id) fun _ _ => trivial

/-- The states of an index that is open: the files give the entries, or repair is asked for. -/
def Open (json : IndexJson) (parse : String → Option UtcTime) (store : SessionIndexStore) : Prop :=
  Held json parse store ∨ store.health = .repairRequired

theorem open_of_run {steps : List IndexStep} {store : SessionIndexStore}
    (clean : ∀ step ∈ steps, step.Clean parse)
    (ran : run (IndexProcess.step json parse) (.down .empty) steps = some (.up store)) :
    Open json parse store :=
  (run_invariant step_kept (kept_empty json parse) (Meets.of_inputs clean) ran).up store rfl

section Failing

variable {store : SessionIndexStore} {entry : IndexSessionEntry} {normal : String}
  (health : store.health = .healthy)
  (normalized : normalizeRfc3339UtcMillis parse entry.updatedAt = some normal)

include health normalized

attribute [local simp] IndexOperation.perform createSessionIndexEntry createEntry bind pure ensureWritable
  FaultProgram.inspect normalizedTime FaultProgram.ofExcept createNormalized stage diskCall
  FaultProgram.call FaultProgram.atomicCall Except.map writeJsonAtomic syncCall quietCall
  appendLogRecordToPath FaultProgram.modify publish FaultProgram.attempt cutAt JsonTarget.staged
  upsertMemoryEntry

theorem create_unpublished :
    ∃ error next, ((IndexOperation.create entry).perform json parse now).run
        (cutAt .publish (.fails 0)) store = (.failed error, next) ∧
      next.entries = sortEntriesDesc (removeEntry entry.sessionId
        (sortEntriesDesc (upsertEntry { entry with updatedAt := normal } store.entries))) := by
  cases staged : store.disk.staging.lookup entry.sessionId <;>
    simp [normalized, compensateCreate, removeStaged, FaultProgram.fail, removeMemoryEntry, health,
      staged]

theorem create_uncompensated
    (fails : ∀ site, answers site =
      if site = .publish ∨ site = .record .compensation then .fails 0 else .proceeds) :
    ∃ error next, ((IndexOperation.create entry).perform json parse now).run answers store =
        (.failed error, next) ∧
      next.entries = sortEntriesDesc (upsertEntry { entry with updatedAt := normal }
        store.entries) ∧ next.health = .repairRequired := by
  cases staged : store.disk.staging.lookup entry.sessionId <;>
    simp [normalized, fails, compensateCreate, removeStaged, FaultProgram.fail, markRepairRequired,
      health, staged]

theorem create_unmeasured (clear : store.disk.staging.lookup entry.sessionId = none)
    (absent : store.disk.sessions.lookup entry.sessionId = none) :
    ∃ error next, ((IndexOperation.create entry).perform json parse now).run
        (cutAt .measureLog (.fails 0)) store = (.failed error, next) ∧
      next.entries = sortEntriesDesc (upsertEntry { entry with updatedAt := normal }
        store.entries) := by
  simp [normalized, health, clear, publishStaged, IndexDisk.updateStaging, IndexDisk.extendLog,
    AList.lookup_insert, absent, maybeCompact, compactionDue]

end Failing

def uncompensated (called : CallSite) : CallAnswer :=
  if called = .publish ∨ called = .record .compensation then .fails 0 else .proceeds

end OpenJax.Transcript
