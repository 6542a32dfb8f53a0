import OpenJax.Transcript.IndexStart

set_option autoImplicit false

namespace OpenJax.Transcript

open Shared FaultProgram SessionIndexStore

variable {json : IndexJson} {parse : String → Option UtcTime} {answers : CallSite → CallAnswer}
  {now : UtcTime} {fit : String → Prop} {intact : Prop}

theorem lookup_updateSession (disk : IndexDisk) (sessionId other : String)
    (change : SessionDirectory → SessionDirectory) :
    (disk.updateSession sessionId change).sessions.lookup other =
      if other = sessionId then (disk.sessions.lookup sessionId).map change
      else disk.sessions.lookup other := by
  unfold IndexDisk.updateSession
  cases there : disk.sessions.lookup sessionId with
  | none =>
    by_cases own : other = sessionId
    · subst own
      simp [there]
    · simp [own]
  | some directory => simp [Table.lookup_insert_eq]

theorem lookup_updateStaging (disk : IndexDisk) (sessionId other : String)
    (change : SessionDirectory → SessionDirectory) :
    (disk.updateStaging sessionId change).staging.lookup other =
      if other = sessionId then (disk.staging.lookup sessionId).map change
      else disk.staging.lookup other := by
  unfold IndexDisk.updateStaging
  cases there : disk.staging.lookup sessionId with
  | none =>
    by_cases own : other = sessionId
    · subst own
      simp [there]
    · simp [own]
  | some directory => simp [Table.lookup_insert_eq]

structure Sited (json : IndexJson) (fit : String → Prop) (intact : Prop) (sessions : String → Bool)
    (store : SessionIndexStore) : Prop where
  whole : WholeSessions json fit intact store.disk.sessions
  known : listed store.disk.sessions = sessions

section Sited

variable {sessions : String → Bool}

theorem Sited.of_view {store next : SessionIndexStore}
    (same : next.disk.sessions = store.disk.sessions) (sited : Sited json fit intact sessions store) :
    Sited json fit intact sessions next := by
  obtain ⟨whole, known⟩ := sited
  exact ⟨same ▸ whole, same ▸ known⟩

theorem Sited.beside {α : Type} {program : IndexProgram α}
    (leaves : Leaves (fun store => store.disk.sessions) program) :
    Triple answers (Sited json fit intact sessions) program (.always (Sited json fit intact sessions)) :=
  leaves.triple (fun _ _ => Sited.of_view) answers

theorem Sited.update {store : SessionIndexStore} (sited : Sited json fit intact sessions store)
    (sessionId : String) {change : SessionDirectory → SessionDirectory} (after : Bool)
    (whole : ∀ directory, store.disk.sessions.lookup sessionId = some directory →
      WholeDirectory json fit intact sessionId (change directory))
    (known : ((store.disk.sessions.lookup sessionId).bind fun directory =>
      (change directory).metadata).isSome = after) :
    Sited json fit intact (Function.update sessions sessionId after)
      (store.onDisk (·.updateSession sessionId change)) := by
  constructor
  · intro name directory found
    rw [onDisk_disk, lookup_updateSession] at found
    split_ifs at found with own
    · obtain ⟨earlier, there, rfl⟩ := Option.map_eq_some_iff.mp found
      exact own ▸ whole earlier there
    · exact sited.whole name directory found
  · funext name
    rw [listed, onDisk_disk, lookup_updateSession, Function.update_apply]
    split_ifs with own
    · rw [Option.bind_map]
      exact known
    · rw [← sited.known]
      rfl

theorem Sited.update_beside {store : SessionIndexStore}
    (sited : Sited json fit intact sessions store) {sessionId : String} {change : SessionDirectory → SessionDirectory}
    (metadata : ∀ directory, (change directory).metadata = directory.metadata)
    (manifest : ∀ directory, (change directory).manifest = directory.manifest) :
    Sited json fit intact sessions (store.onDisk (·.updateSession sessionId change)) := by
  have known : ((store.disk.sessions.lookup sessionId).bind fun directory =>
      (change directory).metadata).isSome = sessions sessionId := by
    rw [← sited.known]
    simp only [metadata]
    rfl
  have updated := sited.update sessionId _ (fun directory there => ?_) known
  · rwa [Function.update_eq_self] at updated
  · have earlier := sited.whole sessionId directory there
    exact ⟨metadata directory ▸ earlier.metadata, manifest directory ▸ earlier.manifest⟩

theorem partlyRemoved_whole {name : String} {directory : SessionDirectory}
    (whole : WholeDirectory json fit intact name directory) (done : Nat) :
    WholeDirectory json fit intact name (directory.partlyRemoved done) := by
  constructor
  · intro raw there
    unfold SessionDirectory.partlyRemoved at there
    dsimp only at there
    split_ifs at there
    exact whole.metadata raw there
  · intro manifests raw there
    unfold SessionDirectory.partlyRemoved at there
    dsimp only at there
    split_ifs at there
    exact whole.manifest manifests raw there

variable (sessionId : String)

theorem readMetadata_sited :
    Triple answers (Sited json fit intact sessions) (readMetadata json sessionId)
      ⟨fun metadata store => (metadata.sessionId = sessionId ∧ sessions sessionId = true) ∧
          Sited json fit intact sessions store,
        fun _ => Sited json fit intact sessions, Sited json fit intact sessions⟩ := by
  apply triple_quietCall
  · intro store metadata sited read
    cases there : (store.disk.sessions.lookup sessionId).bind SessionDirectory.metadata with
    | none => simp [there] at read
    | some raw =>
      obtain ⟨directory, found, written⟩ := Option.bind_eq_some_iff.mp there
      obtain ⟨earlier, rfl, own, -⟩ := (sited.whole sessionId directory found).metadata raw written
      simp only [there, json.metadata.utf8, json.metadata.roundTrip] at read
      have same : earlier = metadata := by simpa using read
      refine ⟨⟨same ▸ own, ?_⟩, sited⟩
      rw [← sited.known, listed, there]
      rfl
  · exact fun _ _ => id
  · exact fun _ => id

theorem writeSessionMetadata_sited {mutate : SessionMetadata → SessionMetadata}
    (redates : IndexOperation.Redates fit mutate) :
    Triple answers (Sited json fit intact sessions) (writeSessionMetadata json sessionId mutate)
      (.always (Sited json fit intact sessions)) := by
  apply Triple.bind _ (readMetadata_sited sessionId)
  intro metadata
  apply Triple.given
  intro read
  have wrote : Triple answers (Sited json fit intact sessions) (writeJsonAtomic (.metadata sessionId)
        (json.metadata.toVec (mutate metadata)))
      ⟨fun _ => Sited json fit intact sessions,
        fun _ store => Sited json fit intact sessions store ∨ Sited json fit intact sessions store,
        fun store => Sited json fit intact sessions store ∨ Sited json fit intact sessions store⟩ := by
    apply writeJsonAtomic_triple
    · intro bytes store sited
      exact sited.update_beside (fun _ => rfl) fun _ => rfl
    · intro store sited
      have begun : Sited json fit intact sessions (store.onDisk ((JsonTarget.metadata sessionId).writeTmp
          (json.metadata.toVec (mutate metadata)))) :=
        sited.update_beside (fun _ => rfl) fun _ => rfl
      -- The session has a directory, and in it the temporary file.
      have there : ∃ directory, store.disk.sessions.lookup sessionId = some directory := by
        have known := read.2
        rw [← sited.known, listed] at known
        obtain ⟨_, found⟩ := Option.isSome_iff_exists.mp known
        obtain ⟨directory, looked, -⟩ := Option.bind_eq_some_iff.mp found
        exact ⟨directory, looked⟩
      obtain ⟨directory, looked⟩ := there
      have tmp : (store.onDisk ((JsonTarget.metadata sessionId).writeTmp
          (json.metadata.toVec (mutate metadata)))).disk.sessions.lookup sessionId =
          some { directory with metadataTmp := some (json.metadata.toVec (mutate metadata)) } := by
        rw [onDisk_disk, JsonTarget.metadata, lookup_updateSession, if_pos rfl, looked]
        rfl
      have renamed :=
        @Sited.update json fit intact sessions _ begun sessionId SessionDirectory.renameTmp true ?_ ?_
      · rwa [← read.2, Function.update_eq_self] at renamed
      · intro earlier found
        cases tmp.symm.trans found
        constructor
        · intro raw same
          cases same
          exact ⟨mutate metadata, rfl, (redates.sessionId metadata).trans read.1,
            redates.updatedAt metadata⟩
        · exact (sited.whole sessionId directory looked).manifest
      · rw [tmp]
        rfl
  exact wrote.mono (fun _ _ => id) (fun _ _ either => either.elim id id)
    fun _ either => either.elim id id

theorem removeSession_sited :
    Triple answers (Sited json fit intact sessions) (removeSession sessionId)
      ⟨fun _ => Sited json fit intact (Function.update sessions sessionId false),
        fun _ store => Sited json fit intact sessions store ∨
          (∃ done, answers .removeSession = .fails done) ∧
            Sited json fit intact (Function.update sessions sessionId false) store,
        fun store => Sited json fit intact sessions store ∨
          Sited json fit intact (Function.update sessions sessionId false) store⟩ := by
  have cut {store : SessionIndexStore} (sited : Sited json fit intact sessions store) (done : Nat) :
      Sited json fit intact sessions (store.onDisk (·.updateSession sessionId (·.partlyRemoved done))) ∨
        Sited json fit intact (Function.update sessions sessionId false)
          (store.onDisk (·.updateSession sessionId (·.partlyRemoved done))) := by
    have whole : ∀ directory, store.disk.sessions.lookup sessionId = some directory →
        WholeDirectory json fit intact sessionId (directory.partlyRemoved done) :=
      fun directory found => partlyRemoved_whole (sited.whole sessionId directory found) done
    cases gone : done.testBit 0 with
    | true =>
      right
      apply sited.update sessionId false whole
      simp [SessionDirectory.partlyRemoved, gone]
    | false =>
      left
      have updated := sited.update sessionId (sessions sessionId) whole ?_
      · rwa [Function.update_eq_self] at updated
      · rw [← sited.known, listed]
        simp only [SessionDirectory.partlyRemoved, gone, Bool.false_eq_true, if_false]
  apply triple_call
  · intro store value next _ sited done
    split_ifs at done
    simp only [Except.ok.injEq, Prod.mk.injEq] at done
    obtain ⟨-, rfl⟩ := done
    constructor
    · intro name directory found
      rw [onDisk_disk, Table.lookup_erase_eq] at found
      split_ifs at found
      exact sited.whole name directory found
    · funext name
      rw [listed, onDisk_disk, Table.lookup_erase_eq, Function.update_apply]
      split_ifs
      · rfl
      · rw [← sited.known]
        rfl
  · exact fun _ _ sited _ => .inl sited
  · intro store done failed sited
    exact (cut sited done).imp_right fun gone => ⟨⟨done, failed⟩, gone⟩
  · exact fun _ done _ sited => cut sited done

structure Staged (json : IndexJson) (fit : String → Prop) (intact : Prop) (sessionId : String)
    (store : SessionIndexStore) : Prop where
  directory : ∃ directory, store.disk.staging.lookup sessionId = some directory ∧
    WholeDirectory json fit intact sessionId directory ∧ directory.metadata.isSome

theorem stage_sited {entry : IndexSessionEntry} (fits : fit entry.updatedAt) :
    Triple answers (Sited json fit intact sessions) (stage json entry)
      ⟨fun _ store => Staged json fit intact entry.sessionId store ∧
          Sited json fit intact sessions store,
        fun _ => Sited json fit intact sessions, Sited json fit intact sessions⟩ := by
  let encoded := json.metadata.toVec (.fromIndexEntry entry)
  -- The directory is there, and its manifest is not.
  let created (store : SessionIndexStore) : Prop := ∃ directory,
    store.disk.staging.lookup entry.sessionId = some directory ∧ directory.manifest = none
  have wrote : Triple answers (fun store => created store ∧ Sited json fit intact sessions store)
      (writeJsonAtomic (.staged entry.sessionId) encoded)
      ⟨fun _ store => Staged json fit intact entry.sessionId store ∧
          Sited json fit intact sessions store,
        fun _ => Sited json fit intact sessions, Sited json fit intact sessions⟩ := by
    have beside (change : SessionDirectory → SessionDirectory) {store : SessionIndexStore}
        (sited : Sited json fit intact sessions store) :
        Sited json fit intact sessions (store.onDisk (·.updateStaging entry.sessionId change)) := by
      apply sited.of_view
      unfold SessionIndexStore.onDisk IndexDisk.updateStaging
      dsimp only
      split <;> rfl
    let staged (store : SessionIndexStore) : Prop :=
      Staged json fit intact entry.sessionId store ∧ Sited json fit intact sessions store
    have written : Triple answers (fun store => created store ∧ Sited json fit intact sessions store)
        (writeJsonAtomic (.staged entry.sessionId) encoded)
        ⟨fun _ => staged,
          fun _ store => (created store ∧ Sited json fit intact sessions store) ∨ staged store,
          fun store => (created store ∧ Sited json fit intact sessions store) ∨ staged store⟩ :=
      writeJsonAtomic_triple ?_ ?_
    · exact written.mono (fun _ _ => id) (fun _ _ either => either.elim And.right And.right)
        fun _ either => either.elim And.right And.right
    · intro bytes store holds
      obtain ⟨⟨directory, there, bare⟩, sited⟩ := holds
      refine ⟨⟨{ directory with metadataTmp := some bytes }, ?_, bare⟩, beside _ sited⟩
      rw [onDisk_disk, JsonTarget.staged, lookup_updateStaging, if_pos rfl, there]
      rfl
    · intro store holds
      obtain ⟨⟨directory, there, bare⟩, sited⟩ := holds
      refine ⟨⟨{ directory with metadata := some encoded, metadataTmp := none }, ?_, ⟨?_, ?_⟩, rfl⟩,
        beside _ (beside _ sited)⟩
      · rw [onDisk_disk, JsonTarget.staged, lookup_updateStaging, if_pos rfl, onDisk_disk,
          lookup_updateStaging, if_pos rfl, there]
        rfl
      · intro raw same
        cases same
        exact ⟨_, rfl, rfl, fits⟩
      · intro _ raw same
        simp [bare] at same
  have creates : Triple answers (Sited json fit intact sessions) (diskCall .createStaging fun disk =>
        { disk with staging := disk.staging.insert entry.sessionId .empty })
      ⟨fun _ store => created store ∧ Sited json fit intact sessions store,
        fun _ => Sited json fit intact sessions, Sited json fit intact sessions⟩ := by
    apply triple_diskCall
    · intro store sited
      exact ⟨⟨.empty, AList.lookup_insert _, rfl⟩, sited.whole, sited.known⟩
    · exact fun _ _ => id
    · exact fun _ => id
  have clears : Triple answers (Sited json fit intact sessions)
      (removeStaged .clearStaging entry.sessionId) (.always (Sited json fit intact sessions)) :=
    Sited.beside (leaves_removeStaged (fun _ _ => rfl) _ _)
  apply Triple.look
  intro found
  apply triple_ite
  · intro _
    apply (clears.strengthen fun _ => And.left).bind
    exact fun _ => creates.bind _ fun _ => wrote
  · exact fun _ => (creates.strengthen fun _ => And.left).bind _ fun _ => wrote

theorem publish_sited :
    Triple answers
      (fun store => Staged json fit intact sessionId store ∧ Sited json fit intact sessions store)
      (publish sessionId)
      ⟨fun _ => Sited json fit intact (Function.update sessions sessionId true),
        fun _ => Sited json fit intact sessions, Sited json fit intact sessions⟩ := by
  apply triple_atomicCall
  · intro store value next holds done
    obtain ⟨⟨staged, there, whole, some⟩, sited⟩ := holds
    unfold publishStaged at done
    rw [there] at done
    dsimp only at done
    split_ifs at done
    · simp only [Except.map, Except.ok.injEq, Prod.mk.injEq] at done
      obtain ⟨-, rfl⟩ := done
      constructor
      · intro name directory found
        rw [Table.lookup_insert_eq] at found
        split_ifs at found with own
        · exact own ▸ Option.some.inj found ▸ whole
        · exact sited.whole name directory found
      · funext name
        rw [listed, Table.lookup_insert_eq, Function.update_apply]
        split_ifs
        · exact some
        · rw [← sited.known]
          rfl
    · simp [Except.map] at done
  · exact fun _ _ => And.right
  · exact fun _ => And.right

def Failing (answers : CallSite → CallAnswer) : Prop := ∃ site done, answers site = .fails done

def siteEnds {α : Type} (json : IndexJson) (fit : String → Prop) (intact : Prop) (answers : CallSite → CallAnswer)
    (before after : String → Bool) : Ends SessionIndexStore IndexError α :=
  ⟨fun _ => Sited json fit intact after,
    fun _ store => Sited json fit intact before store ∨ Failing answers ∧ Sited json fit intact after store,
    fun store => Sited json fit intact before store ∨ Sited json fit intact after store⟩

structure Steady (json : IndexJson) (answers : CallSite → CallAnswer)
    (kept stopped : SessionIndexStore → Prop) : Prop where
  append : ∀ purpose record, Triple answers kept (appendLogRecordToPath json purpose record)
    ⟨fun _ => kept, fun _ => kept, stopped⟩
  memory : ∀ entries store, kept store → kept { store with entries := entries }
  health : ∀ store, kept store → kept { store with health := .repairRequired }
  marked : ∀ store, kept store → kept (store.onDisk setMarker)
  staging : ∀ (staging : IndexDisk → Table String SessionDirectory) store, kept store →
    kept (store.onDisk fun disk => { disk with staging := staging disk })
  stops : ∀ store, kept store → stopped store

section Steady

variable {kept stopped : SessionIndexStore → Prop}

theorem Steady.halt {α : Type} (steady : Steady json answers kept stopped) (error : IndexError)
    {value : α → SessionIndexStore → Prop} :
    Triple answers kept (do markRepairRequired; FaultProgram.fail error)
      ⟨value, fun _ => kept, stopped⟩ := by
  apply Triple.bind fun _ => kept
  · apply (markRepairRequired_triple steady.health steady.marked).mono
    · exact fun _ _ => And.left
    · exact fun _ _ => And.left
    · exact fun store holds => steady.stops store holds.1
  · exact fun _ => triple_fail fun _ => id

theorem Steady.updateStaging (steady : Steady json answers kept stopped) (sessionId : String)
    (change : SessionDirectory → SessionDirectory) {store : SessionIndexStore}
    (holds : kept store) : kept (store.onDisk (·.updateStaging sessionId change)) := by
  cases there : store.disk.staging.lookup sessionId with
  | none => simpa only [SessionIndexStore.onDisk, IndexDisk.updateStaging, there] using holds
  | some directory =>
    have changed := steady.staging
      (fun disk => disk.staging.insert sessionId (change directory)) store holds
    simpa only [SessionIndexStore.onDisk, IndexDisk.updateStaging, there] using changed

theorem Steady.removeStaged (steady : Steady json answers kept stopped) (site : CallSite)
    (sessionId : String) :
    Triple answers kept (removeStaged site sessionId) ⟨fun _ => kept, fun _ => kept, stopped⟩ := by
  apply triple_call
  · intro store value next _ holds done
    simp only [Except.ok.injEq, Prod.mk.injEq] at done
    exact done.2 ▸ steady.staging _ store holds
  · exact fun store refused holds _ => holds
  · exact fun store done _ holds => steady.updateStaging sessionId _ holds
  · exact fun store done _ holds => steady.stops _ (steady.updateStaging sessionId _ holds)

variable {value : Unit → SessionIndexStore → Prop}

theorem Steady.compensateCreate (steady : Steady json answers kept stopped) (sessionId : String)
    (publishErr : IndexError) :
    Triple answers kept (compensateCreate json now sessionId publishErr)
      ⟨value, fun _ => kept, stopped⟩ := by
  apply Triple.tried (fun _ => kept) fun _ => kept
  · exact steady.append _ _
  · intro _
    apply Triple.bind fun _ => kept
    · exact triple_modify fun store => steady.memory _ store
    · intro _
      apply Triple.tried (fun _ => kept) fun _ => kept
      · exact steady.removeStaged _ _
      · exact fun _ => triple_fail fun _ => id
      · exact fun _ => triple_fail fun _ => id
  · exact fun _ => steady.halt _

theorem Steady.compensateDelete (steady : Steady json answers kept stopped)
    (original : Option IndexSessionEntry) (removeErr : IndexError) :
    Triple answers kept (compensateDelete json now original removeErr)
      ⟨value, fun _ => kept, stopped⟩ := by
  cases original with
  | none => exact triple_fail fun _ => id
  | some entry =>
    apply Triple.tried (fun _ => kept) fun _ => kept
    · exact steady.append _ _
    · intro _
      apply Triple.bind fun _ => kept
      · exact triple_modify fun store => steady.memory _ store
      · exact fun _ => triple_fail fun _ => id
    · exact fun _ => steady.halt _

theorem Steady.storeEntry (steady : Steady json answers kept stopped) (context : String)
    (next : IndexSessionEntry) {mutate : SessionMetadata → SessionMetadata}
    (wrote : Triple answers kept (writeSessionMetadata json next.sessionId mutate)
      ⟨fun _ => kept, fun _ => kept, stopped⟩) :
    Triple answers kept (storeEntry json now context next mutate)
      ⟨fun _ => kept, fun _ => kept, stopped⟩ := by
  apply Triple.bind _ (steady.append _ _)
  intro _
  apply Triple.tried (fun _ => kept) fun _ => kept
  · exact wrote
  · exact fun _ => triple_modify fun store => steady.memory _ store
  · exact fun _ => steady.halt _

end Steady

theorem sited_steady : Steady json answers (Sited json fit intact sessions) (Sited json fit intact sessions) where
  append _ _ := Sited.beside (leaves_append fun _ _ => rfl)
  memory _ _ := Sited.of_view rfl
  health _ := Sited.of_view rfl
  marked _ := Sited.of_view rfl
  staging _ _ := Sited.of_view rfl
  stops _ := id

theorem createNormalized_sited {entry : IndexSessionEntry} (fits : fit entry.updatedAt) :
    Triple answers (Sited json fit intact sessions) (createNormalized json now entry)
      (siteEnds json fit intact answers sessions (Function.update sessions entry.sessionId true)) := by
  let staged (store : SessionIndexStore) : Prop :=
    Staged json fit intact entry.sessionId store ∧ Sited json fit intact sessions store
  have logged : Triple answers staged (appendLogRecordToPath json .operation
      (upsertRecord now entry)) (.always staged) := by
    have leaves : Leaves (fun store => (store.disk.sessions, store.disk.staging))
        (appendLogRecordToPath json .operation (upsertRecord now entry)) :=
      leaves_append fun _ _ => rfl
    apply leaves.triple
    intro store next same holds
    simp only [Prod.mk.injEq] at same
    exact ⟨⟨same.2 ▸ holds.1.directory⟩, holds.2.of_view same.1⟩
  apply Triple.bind fun _ => staged
  · apply (stage_sited fits).mono
    · exact fun _ _ => id
    · exact fun _ _ => .inl
    · exact fun _ => .inl
  · intro _
    apply Triple.bind fun _ => staged
    · apply logged.mono
      · exact fun _ _ => id
      · exact fun _ _ holds => .inl holds.2
      · exact fun _ holds => .inl holds.2
    · intro _
      apply Triple.bind fun _ => staged
      · exact triple_modify fun _ holds => ⟨⟨holds.1.directory⟩, holds.2.whole, holds.2.known⟩
      · intro _
        apply Triple.tried
          (fun _ => Sited json fit intact (Function.update sessions entry.sessionId true))
          fun _ => Sited json fit intact sessions
        · apply (publish_sited entry.sessionId).mono
          · exact fun _ _ => id
          · exact fun _ _ => id
          · exact fun _ => .inl
        · exact fun _ => triple_pure fun _ => id
        · intro publishErr
          apply (sited_steady.compensateCreate entry.sessionId publishErr).mono
          · exact fun _ _ => id
          · exact fun _ _ => .inl
          · exact fun _ => .inl

theorem deleteKnown_sited (original : Option IndexSessionEntry) :
    Triple answers (Sited json fit intact sessions) (deleteKnown json now sessionId original)
      (siteEnds json fit intact answers sessions (Function.update sessions sessionId false)) := by
  apply Triple.bind fun _ => Sited json fit intact sessions
  · apply (sited_steady.append _ _).mono
    · exact fun _ _ => id
    · exact fun _ _ => .inl
    · exact fun _ => .inl
  · intro _
    apply Triple.bind fun _ => Sited json fit intact sessions
    · exact triple_modify fun _ => Sited.of_view rfl
    · intro _
      apply Triple.tried (fun _ => Sited json fit intact (Function.update sessions sessionId false))
        fun _ store => Sited json fit intact sessions store ∨
          Failing answers ∧ Sited json fit intact (Function.update sessions sessionId false) store
      · apply (removeSession_sited sessionId).mono
        · exact fun _ _ => id
        · intro _ store either
          exact either.imp_right fun holds => ⟨holds.1.elim fun done failed => ⟨_, done, failed⟩, holds.2⟩
        · exact fun _ => id
      · exact fun _ => triple_pure fun _ => id
      · intro removeErr
        apply Triple.either
        · apply (sited_steady.compensateDelete original removeErr).mono
          · exact fun _ _ => id
          · exact fun _ _ => .inl
          · exact fun _ => .inl
        · apply Triple.given
          intro failing
          apply (sited_steady.compensateDelete original removeErr).mono
          · exact fun _ _ => id
          · exact fun _ _ holds => .inr ⟨failing, holds⟩
          · exact fun _ => .inr

def IndexOperation.lists (sessions : String → Bool) : IndexOperation → String → Bool
  | .create entry => Function.update sessions entry.sessionId true
  | .delete sessionId => Function.update sessions sessionId false
  | _ => sessions

theorem IndexOperation.lists_of_updates {operation : IndexOperation} (updating : operation.updates)
    (sessions : String → Bool) : operation.lists sessions = sessions := by
  cases operation with
  | create entry => cases updating
  | delete sessionId => cases updating
  | _ => rfl

theorem body_sited (operation : IndexOperation)
    (fits : ∀ stamp, operation.stamp parse now = some stamp → fit stamp) :
    Triple answers (Sited json fit intact sessions) (operation.body json parse now)
      (siteEnds json fit intact answers sessions (operation.lists sessions)) := by
  intro start sited
  let before (store : SessionIndexStore) : Prop :=
    Sited json fit intact sessions store ∧ store.entries = start.entries
  have course : Triple answers before (operation.body json parse now)
      (siteEnds json fit intact answers sessions (operation.lists sessions)) := by
    apply IndexOperation.body_course
    · exact fun _ => And.right
    · exact fun _ _ holds => .inl holds.1
    · intro _ updating store holds
      rw [operation.lists_of_updates updating]
      exact holds.1
    · intro entry normal same normalized
      subst same
      exact (createNormalized_sited (fits normal normalized)).strengthen fun _ => And.left
    · intro context next mutate redates updating _ stamped
      have fitting : IndexOperation.Redates fit mutate :=
        ⟨redates.sessionId, fun metadata => redates.updatedAt metadata ▸ fits _ stamped⟩
      rw [operation.lists_of_updates updating]
      apply ((sited_steady.storeEntry context next
        (writeSessionMetadata_sited next.sessionId fitting)).strengthen fun _ => And.left).mono
      · exact fun _ _ => id
      · exact fun _ _ => .inl
      · exact fun _ => .inl
    · intro sessionId same
      subst same
      exact (deleteKnown_sited sessionId _).strengthen fun _ => And.left
  exact course start ⟨sited, rfl⟩

end Sited

end OpenJax.Transcript
