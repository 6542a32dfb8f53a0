import OpenJax.Gateway.Overlays
import OpenJax.Transcript.IndexHistory
import OpenJax.Transcript.IndexOutcomes

set_option autoImplicit false

namespace OpenJax.Gateway

open Shared FaultProgram Policy Transcript SessionIndexStore

/-- The calls of one request: those of its own index operation, those of the one that takes it
back, and those on the database. -/
inductive SessionCall where
  | index (site : CallSite)
  | rollback (site : CallSite)
  | createRow
  | deleteRow
  -- Reading the active provider and the transcript.
  | buildRuntime
  deriving DecidableEq

inductive SessionFailure where
  | index (error : IndexError)
  | store (call : SessionCall)

/-- The texts of the errors: the outermost context, and the whole chain. -/
structure FailureTexts where
  short : SessionFailure → String
  chain : SessionFailure → String

structure SessionManager where
  index : SessionIndexStore
  policy : PolicyRuntime
  sessions : Table String SessionRuntime
  -- The ids in the table of the sessions.
  rows : Finset String

abbrev SessionProgram (α : Type) := FaultProgram SessionCall SessionManager ApiError α

def mapSessionIndexError (texts : FailureTexts) (error : IndexError) : ApiError :=
  if error.mentionsRepair then
    { status := 503
      code := "INDEX_REPAIR_REQUIRED"
      message := "session index requires repair"
      retryable := false
      details := .empty }
  else .internal (texts.short (.index error))

def mapStoreError (texts : FailureTexts) (call : SessionCall) : ApiError :=
  let text := texts.short (.store call)
  if containsText text "UNIQUE constraint failed" then
    .conflict "duplicate resource" (.obj [("reason", .str text)])
  else .internal text

namespace SessionManager

def onIndex (site : CallSite → SessionCall) (wrap : IndexError → ApiError)
    (program : IndexProgram Unit) : SessionProgram Unit :=
  program.within SessionManager.index (fun index manager => { manager with index := index }) site
    wrap

variable (texts : FailureTexts)

def createRow (sessionId : String) : SessionProgram Unit :=
  .call .createRow (mapStoreError texts .createRow)
    (fun manager =>
      if sessionId ∈ manager.rows then .error (mapStoreError texts .createRow)
      else .ok ((), { manager with rows := insert sessionId manager.rows }))
    -- The row is read again after it is there.
    fun done manager =>
      if done = 0 then manager else { manager with rows := insert sessionId manager.rows }

def deleteRow (sessionId : String) : SessionProgram Unit :=
  .atomicCall .deleteRow (mapStoreError texts .deleteRow) fun manager =>
    .ok ((), { manager with rows := manager.rows.erase sessionId })

def rollbackFailed (operation : String) (call : SessionCall) (rollbackErr : IndexError) : ApiError :=
  .internal s!"{operation} store failure rollback failed: store={texts.chain (.store call)}; rollback={texts.chain (.index rollbackErr)}"

variable (json : IndexJson) (parse : String → Option UtcTime)

def newEntry (sessionId created : String) : IndexSessionEntry :=
  { sessionId := sessionId
    title := none
    createdAt := created
    updatedAt := created
    lastEventSeq := 0
    lastPreview := "" }

def rollBackCreation (later : UtcTime) (sessionId : String) (storeErr : ApiError) :
    SessionProgram String := do
  onIndex .rollback (rollbackFailed texts "create_session" .createRow)
    (deleteSessionIndexEntry json later sessionId)
  .fail storeErr

/-- `stored` is what the runtime of the new session is built from. The operation that takes back
comes at a later time. -/
def createSession (now later : UtcTime) (stored : StoredSession) (sessionId created : String) :
    SessionProgram String := do
  onIndex .index (mapSessionIndexError texts)
    (createSessionIndexEntry json parse now (newEntry sessionId created))
  match ← (createRow texts sessionId).attempt with
  | .error storeErr => rollBackCreation texts json later sessionId storeErr
  | .ok () => do
      let runtime ← .quietCall .buildRuntime (mapStoreError texts .buildRuntime) fun _ =>
        .ok (buildSessionRuntime stored.agent stored.replayCapacity stored.events)
      .modify fun manager =>
        { manager with sessions := manager.sessions.insert sessionId runtime }
      pure sessionId

def deleteSession (now later : UtcTime) (sessionId : String) : SessionProgram Unit := do
  .modify fun manager => { manager with sessions := manager.sessions.erase sessionId }
  .modify fun manager => { manager with policy := manager.policy.clearSessionOverlay sessionId }
  let indexEntrySnapshot ← .inspect fun manager => findEntry sessionId manager.index.entries
  onIndex .index (mapSessionIndexError texts) (deleteSessionIndexEntry json now sessionId)
  match ← (deleteRow texts sessionId).attempt with
  | .ok () => pure ()
  | .error storeErr =>
      match indexEntrySnapshot with
      | none => .fail storeErr
      | some snapshot => do
          onIndex .rollback (rollbackFailed texts "delete_session" .deleteRow)
            (createSessionIndexEntry json parse later snapshot)
          .fail storeErr

end SessionManager

section Deletion

variable {texts : FailureTexts} {json : IndexJson} {parse : String → Option UtcTime}
  {answers : SessionCall → CallAnswer} {now later : UtcTime} {sessionId : String}
  {before after : SessionManager} {error : ApiError}

structure SessionKept (sessionId : String) (before after : SessionManager) : Prop where
  entry : findEntry sessionId after.index.entries = findEntry sessionId before.index.entries
  directory : after.index.disk.sessions.lookup sessionId =
    before.index.disk.sessions.lookup sessionId
  overlay : after.policy.overlays.lookup sessionId = before.policy.overlays.lookup sessionId

/-- The removal of the directory fails and has taken nothing, and the index takes it back. -/
def RemovalTakenBack (answers : CallSite → CallAnswer) (index : SessionIndexStore)
    (sessionId : String) : Prop :=
  ¬ Removes answers index sessionId ∧
    removalLeaves answers (index.disk.sessions.lookup sessionId) =
      index.disk.sessions.lookup sessionId ∧
    (findEntry sessionId index.entries = none ∨ Logs answers .compensation)

/-- The session has no more than its creation gives it, so that to create it again restores it. -/
def Recreated (json : IndexJson) (parse : String → Option UtcTime)
    (answers : CallSite → CallAnswer) (index : SessionIndexStore) (sessionId : String) : Prop :=
  ∃ entry, findEntry sessionId index.entries = some entry ∧ Renormalizes parse entry.updatedAt ∧
    index.disk.sessions.lookup sessionId = some (freshDirectory json entry) ∧
    CreationBegun answers index sessionId ∧ answers .publish = .proceeds

/-- The session has no overlay to lose, and the deletion fails before it has taken anything or can
give back what it has taken. -/
def DeletionRestores (json : IndexJson) (parse : String → Option UtcTime)
    (answers : SessionCall → CallAnswer) (now : UtcTime) (sessionId : String)
    (before : SessionManager) : Prop :=
  before.policy.overlays.lookup sessionId = none ∧
    (¬ DeletionBegun (answers ∘ .index) before.index ∨
      RemovalTakenBack (answers ∘ .index) before.index sessionId ∨
      ((∃ index, (deleteSessionIndexEntry json now sessionId).run (answers ∘ .index) before.index =
          (.value (), index)) ∧
        Recreated json parse (answers ∘ .rollback) before.index sessionId))

variable {index : SessionIndexStore}

theorem refused_deletion_restores {wrapped : IndexError} (unique : UniqueIds before.index.entries)
    (deleted : (deleteSessionIndexEntry json now sessionId).run (answers ∘ .index) before.index =
      (.failed wrapped, index)) (left : after.index = index)
    (cleared : after.policy.overlays.lookup sessionId = none) :
    SessionKept sessionId before after ↔
      DeletionRestores json parse answers now sessionId before := by
  have ended := @deleteSessionIndexEntry_outcome json (answers ∘ .index) now before.index sessionId
    unique before.index rfl
  rw [deleted] at ended
  have unfinished : ¬ ∃ index, (deleteSessionIndexEntry json now sessionId).run (answers ∘ .index)
      before.index = (.value (), index) := by
    rintro ⟨other, ran⟩
    cases deleted.symm.trans ran
  subst left
  constructor
  · intro kept
    refine ⟨kept.overlay.symm.trans cleared, ?_⟩
    rcases ended with (⟨cut, -, -⟩ | ⟨-, cut, directory, restores, -⟩ | ⟨-, -, -, listed, -, entry⟩) |
      ⟨-, removes, directory, -⟩
    · exact .inl cut
    · exact .inr (.inl ⟨cut, directory.symm.trans kept.directory, restores⟩)
    · rw [← kept.entry, entry] at listed
      cases listed
    · have there := removes.2
      rw [← kept.directory, directory] at there
      cases there
  · intro restores
    obtain ⟨bare, unlogged | takenBack | finished⟩ := restores
    · rcases ended with (⟨-, directory, entry⟩ | ⟨begun, -, -, -, -⟩ | ⟨begun, -, -, -, -, -⟩) |
        ⟨begun, -, -, -⟩
      · exact ⟨entry, directory, cleared.trans bare.symm⟩
      all_goals exact absurd begun unlogged
    · obtain ⟨whole, untouched, logs⟩ := takenBack
      rcases ended with (⟨-, directory, entry⟩ | ⟨-, -, directory, -, entry⟩ |
        ⟨-, -, -, listed, fails, -⟩) | ⟨-, removes, -, -⟩
      · exact ⟨entry, directory, cleared.trans bare.symm⟩
      · exact ⟨entry, directory.trans untouched, cleared.trans bare.symm⟩
      · rcases logs with absent | logs
        · rw [absent] at listed
          cases listed
        · exact absurd logs fails
      · exact absurd removes whole
    · exact absurd finished.1 unfinished

theorem restores_iff_recreated
    (deleted : (deleteSessionIndexEntry json now sessionId).run (answers ∘ .index) before.index =
      (.value (), index)) (gone : Deleted (answers ∘ .index) before.index sessionId index) :
    DeletionRestores json parse answers now sessionId before ↔
      before.policy.overlays.lookup sessionId = none ∧
        Recreated json parse (answers ∘ .rollback) before.index sessionId := by
  constructor
  · intro restores
    obtain ⟨bare, unlogged | takenBack | finished⟩ := restores
    · exact absurd gone.begun unlogged
    · exact absurd gone.removes takenBack.1
    · exact ⟨bare, finished.2⟩
  · exact fun holds => ⟨holds.1, .inr (.inr ⟨⟨index, deleted⟩, holds.2⟩)⟩

theorem not_kept_of_missing (there : (before.index.disk.sessions.lookup sessionId).isSome)
    (missing : after.index.disk.sessions.lookup sessionId = none) :
    ¬ SessionKept sessionId before after := by
  intro kept
  rw [← kept.directory, missing] at there
  cases there

theorem recreated_deletion_restores {entry : IndexSessionEntry} {ending : Ending IndexError Unit}
    (gone : Deleted (answers ∘ .index) before.index sessionId index)
    (listed : findEntry sessionId before.index.entries = some entry)
    (created : (createSessionIndexEntry json parse later entry).run (answers ∘ .rollback) index =
      (ending, after.index)) (going : ending ≠ .stopped)
    (cleared : after.policy.overlays.lookup sessionId = none) :
    SessionKept sessionId before after ↔
      before.policy.overlays.lookup sessionId = none ∧
        Recreated json parse (answers ∘ .rollback) before.index sessionId := by
  obtain rfl := findEntry_id listed
  have there := gone.removes.2
  cases normalized : normalizeRfc3339UtcMillis parse entry.updatedAt with
  | none =>
    have refused := @createSessionIndexEntry_refused json (answers ∘ .rollback) later index entry
      parse fun _ => normalized
    obtain ⟨_, ran⟩ := refused
    obtain ⟨-, same⟩ := Prod.mk.inj (ran.symm.trans created)
    constructor
    · intro kept
      exact absurd kept (not_kept_of_missing there (same ▸ gone.directory))
    · intro holds
      obtain ⟨-, other, found, settled, -⟩ := holds
      cases listed.symm.trans found
      cases normalized.symm.trans settled
  | some normal =>
    have ended := @createSessionIndexEntry_outcome json (answers ∘ .rollback) later index entry
      parse normal gone.health gone.unique gone.entry gone.directory normalized index rfl
    rw [created] at ended
    have outcome : NotPublished (answers ∘ .rollback) index entry.sessionId after.index ∨
        Published json (answers ∘ .rollback) index { entry with updatedAt := normal }
          after.index := by
      match ending, ended with
      | .value _, ended => exact .inr ended.1
      | .failed _, ended => exact ended
      | .stopped, _ => exact absurd rfl going
    have begins : CreationBegun (answers ∘ .rollback) index entry.sessionId ↔
        CreationBegun (answers ∘ .rollback) before.index entry.sessionId := by
      rw [CreationBegun, CreationBegun, gone.staging]
    rcases outcome with (⟨cut, directory, -⟩ | ⟨-, cut, -, directory, -⟩) | published
    · constructor
      · exact fun kept => absurd kept (not_kept_of_missing there directory)
      · intro holds
        obtain ⟨-, other, -, -, -, begun, publishes⟩ := holds
        exact absurd publishes (cut (begins.mpr begun)).1
    · constructor
      · exact fun kept => absurd kept (not_kept_of_missing there directory)
      · intro holds
        obtain ⟨-, other, -, -, -, -, publishes⟩ := holds
        exact absurd publishes cut
    · have directory : after.index.disk.sessions.lookup entry.sessionId = _ := published.directory
      have again : findEntry entry.sessionId after.index.entries = _ := published.entry
      constructor
      · intro kept
        have same : { entry with updatedAt := normal } = entry :=
          Option.some.inj (again.symm.trans (kept.entry.trans listed))
        have settled : normal = entry.updatedAt := congrArg IndexSessionEntry.updatedAt same
        refine ⟨kept.overlay.symm.trans cleared, entry, listed, ?_, ?_, begins.mp published.begun,
          published.publishes⟩
        · rw [Renormalizes, normalized, settled]
        · rw [← kept.directory, directory, same]
      · intro holds
        obtain ⟨bare, other, found, settled, fresh, -⟩ := holds
        cases listed.symm.trans found
        cases normalized.symm.trans settled
        exact ⟨again.trans listed.symm, directory.trans fresh.symm, cleared.trans bare.symm⟩

theorem failed_deletion_restores (unique : UniqueIds before.index.entries)
    (failed : (SessionManager.deleteSession texts json parse now later sessionId).run answers
      before = (.failed error, after)) :
    SessionKept sessionId before after ↔
      DeletionRestores json parse answers now sessionId before := by
  have ended := @deleteSessionIndexEntry_outcome json (answers ∘ .index) now before.index sessionId
    unique before.index rfl
  have cleared : (before.policy.clearSessionOverlay sessionId).overlays.lookup sessionId = none :=
    AList.lookup_erase _ _
  simp only [SessionManager.deleteSession, bind, FaultProgram.modify, FaultProgram.inspect,
    SessionManager.onIndex, within] at failed
  generalize deleted : (deleteSessionIndexEntry json now sessionId).run (answers ∘ .index)
    before.index = outcome at ended failed
  obtain ⟨ending, index⟩ := outcome
  cases ending with
  | failed =>
    cases failed
    exact refused_deletion_restores unique deleted rfl cleared
  | value =>
    rw [restores_iff_recreated deleted ended]
    simp only [SessionManager.deleteRow, FaultProgram.attempt, atomicCall, call] at failed
    cases refused : answers .deleteRow with
    | proceeds => simp [refused, pure] at failed
    | stops done => simp [refused] at failed
    | fails done =>
      simp only [refused] at failed
      cases listed : findEntry sessionId before.index.entries with
      | none =>
        simp only [listed, FaultProgram.fail] at failed
        cases failed
        constructor
        · exact fun kept => absurd kept (not_kept_of_missing ended.removes.2 ended.directory)
        · intro holds
          obtain ⟨-, entry, found, -⟩ := holds
          cases listed.symm.trans found
      | some entry =>
        simp only [listed, FaultProgram.fail] at failed
        generalize created : (createSessionIndexEntry json parse later entry).run
          (answers ∘ .rollback) index = outcome at failed
        obtain ⟨ending, again⟩ := outcome
        cases ending with
        | stopped => cases failed
        | _ =>
          cases failed
          exact recreated_deletion_restores ended listed created (by rintro ⟨⟩) cleared
  | stopped => cases failed

end Deletion

section Creation

variable {texts : FailureTexts} {json : IndexJson} {parse : String → Option UtcTime}
  {answers : SessionCall → CallAnswer} {now later : UtcTime} {sessionId created : String}
  {stored : StoredSession} {before after : SessionManager} {error : ApiError}

structure SessionAbsent (sessionId : String) (manager : SessionManager) : Prop where
  entry : findEntry sessionId manager.index.entries = none
  directory : manager.index.disk.sessions.lookup sessionId = none
  runtime : manager.sessions.lookup sessionId = none

def CreationReached (parse : String → Option UtcTime) (answers : CallSite → CallAnswer)
    (index : SessionIndexStore) (sessionId created : String) : Prop :=
  index.health = .healthy ∧ (parse created).isSome ∧ CreationBegun answers index sessionId

/-- The creation fails in the index, which takes it back, or in the database, and then the
deletion that takes it back goes well. -/
def CreationTakenBack (json : IndexJson) (parse : String → Option UtcTime)
    (answers : SessionCall → CallAnswer) (now : UtcTime) (sessionId created : String)
    (before : SessionManager) : Prop :=
  (CreationReached parse (answers ∘ .index) before.index sessionId created →
    answers (.index .publish) ≠ .proceeds ∧ Logs (answers ∘ .index) .compensation) ∨
    ((∃ index, (createSessionIndexEntry json parse now (SessionManager.newEntry sessionId created)).run
        (answers ∘ .index) before.index = (.value (), index)) ∧
      (answers .createRow ≠ .proceeds ∨ sessionId ∈ before.rows) ∧
      Logs (answers ∘ .rollback) .operation ∧ answers (.rollback .removeSession) = .proceeds)

theorem created_normalizes (read : (parse created).isSome) :
    ∃ normal, normalizeRfc3339UtcMillis parse created = some normal := by
  obtain ⟨time, parsed⟩ := Option.isSome_iff_exists.mp read
  rw [normalizeRfc3339UtcMillis, parsed]
  exact ⟨_, rfl⟩

theorem unbegun_creation {outcome : Ending IndexError Unit × SessionIndexStore}
    (unbegun : ¬(before.index.health = .healthy ∧ (parse created).isSome))
    (ran : (createSessionIndexEntry json parse now (SessionManager.newEntry sessionId created)).run
      (answers ∘ .index) before.index = outcome) :
    ∃ wrapped, outcome = (.failed wrapped, before.index) := by
  subst ran
  apply createSessionIndexEntry_refused
  intro health
  rw [normalizeRfc3339UtcMillis, Option.map_eq_none_iff]
  exact Option.not_isSome_iff_eq_none.mp fun read => unbegun ⟨health, read⟩

variable {index : SessionIndexStore}

theorem refused_creation_taken_back {wrapped : IndexError} (unique : UniqueIds before.index.entries)
    (fresh : SessionAbsent sessionId before)
    (ran : (createSessionIndexEntry json parse now (SessionManager.newEntry sessionId created)).run
      (answers ∘ .index) before.index = (.failed wrapped, index)) (left : after.index = index)
    (same : after.sessions = before.sessions) :
    SessionAbsent sessionId after ↔
      CreationTakenBack json parse answers now sessionId created before := by
  have unfinished : ¬ ∃ index, (createSessionIndexEntry json parse now
      (SessionManager.newEntry sessionId created)).run (answers ∘ .index) before.index =
        (.value (), index) := by
    rintro ⟨other, finished⟩
    cases ran.symm.trans finished
  have absent : after.sessions.lookup sessionId = none := same ▸ fresh.runtime
  by_cases begins : before.index.health = .healthy ∧ (parse created).isSome
  · obtain ⟨health, read⟩ := begins
    obtain ⟨_, normalized⟩ := created_normalizes read
    have ended := @createSessionIndexEntry_outcome json (answers ∘ .index) now before.index
      (SessionManager.newEntry sessionId created) parse _ health unique fresh.entry fresh.directory
      normalized before.index rfl
    rw [ran] at ended
    subst left
    constructor
    · intro nothing
      rcases ended with (⟨cut, -, -⟩ | ⟨-, -, -, -, entry⟩) | published
      · exact .inl fun reached => cut reached.2.2
      · have listed : (findEntry sessionId after.index.entries).isSome := entry
        rw [nothing.entry] at listed
        cases listed
      · have listed : findEntry sessionId after.index.entries = _ := published.entry
        cases nothing.entry.symm.trans listed
    · intro takenBack
      rcases takenBack with takenBack | ⟨finished, -⟩
      · rcases ended with (⟨-, directory, entry⟩ | ⟨begun, -, fails, -, -⟩) | published
        · exact ⟨entry, directory, absent⟩
        · exact absurd (takenBack ⟨health, read, begun⟩).2 fails
        · exact absurd published.publishes (takenBack ⟨health, read, published.begun⟩).1
      · exact absurd finished unfinished
  · obtain ⟨_, again⟩ := unbegun_creation begins ran
    have unchanged : after.index = before.index := left.trans (Prod.mk.inj again).2
    constructor
    · exact fun _ => .inl fun reached => absurd ⟨reached.1, reached.2.1⟩ begins
    · exact fun _ => ⟨unchanged ▸ fresh.entry, unchanged ▸ fresh.directory, absent⟩

structure Indexed (index : SessionIndexStore) (sessionId : String) : Prop where
  entry : (findEntry sessionId index.entries).isSome
  directory : (index.disk.sessions.lookup sessionId).isSome
  sound : Sound index

theorem not_absent_of_indexed (indexed : Indexed index sessionId) (left : after.index = index) :
    ¬ SessionAbsent sessionId after := by
  intro nothing
  have there := indexed.entry
  rw [← left, nothing.entry] at there
  cases there

theorem taken_back_iff {ending : Ending IndexError Unit}
    (indexed : Indexed before.index sessionId)
    (ran : (deleteSessionIndexEntry json later sessionId).run (answers ∘ .rollback) before.index =
      (ending, after.index)) (going : ending ≠ .stopped)
    (absent : after.sessions.lookup sessionId = none) :
    SessionAbsent sessionId after ↔
      Logs (answers ∘ .rollback) .operation ∧ answers (.rollback .removeSession) = .proceeds := by
  have ended := @deleteSessionIndexEntry_outcome json (answers ∘ .rollback) later before.index sessionId
    indexed.sound.1 before.index rfl
  rw [ran] at ended
  have there : (removalLeaves (answers ∘ .rollback)
      (before.index.disk.sessions.lookup sessionId)).isSome := by
    unfold removalLeaves
    split
    · rw [Option.isSome_map]
      exact indexed.directory
    · exact indexed.directory
  have removed : (NotDeleted (answers ∘ .rollback) before.index sessionId after.index ∨
      (DeletionBegun (answers ∘ .rollback) before.index ∧
        Removes (answers ∘ .rollback) before.index sessionId ∧
          after.index.disk.sessions.lookup sessionId = none ∧
            findEntry sessionId after.index.entries = none)) := by
    match ending, ended with
    | .value _, gone => exact .inr ⟨gone.begun, gone.removes, gone.directory, gone.entry⟩
    | .failed _, ended => exact ended
    | .stopped, _ => exact absurd rfl going
  constructor
  · intro nothing
    rcases removed with (⟨-, -, entry⟩ | ⟨-, -, directory, -, -⟩ | ⟨-, -, directory, -, -, -⟩) |
      ⟨begun, removes, -, -⟩
    · have listed := indexed.entry
      rw [← entry, nothing.entry] at listed
      cases listed
    · rw [← directory, nothing.directory] at there
      cases there
    · rw [← directory, nothing.directory] at there
      cases there
    · exact ⟨begun.2, removes.1⟩
  · intro goes
    rcases removed with (⟨cut, -, -⟩ | ⟨-, cut, -, -, -⟩ | ⟨-, cut, -, -, -, -⟩) |
      ⟨-, -, directory, entry⟩
    · exact absurd ⟨indexed.sound.2, goes.1⟩ cut
    · exact absurd ⟨goes.2, indexed.directory⟩ cut
    · exact absurd ⟨goes.2, indexed.directory⟩ cut
    · exact ⟨entry, directory, absent⟩

theorem rollBackCreation_absent {storeErr : ApiError} (indexed : Indexed before.index sessionId)
    (absent : before.sessions.lookup sessionId = none)
    (failed : (SessionManager.rollBackCreation texts json later sessionId storeErr).run answers
      before = (.failed error, after)) :
    SessionAbsent sessionId after ↔
      Logs (answers ∘ .rollback) .operation ∧ answers (.rollback .removeSession) = .proceeds := by
  simp only [SessionManager.rollBackCreation, bind, SessionManager.onIndex, within,
    FaultProgram.fail] at failed
  generalize ran : (deleteSessionIndexEntry json later sessionId).run (answers ∘ .rollback)
    before.index = outcome at failed
  obtain ⟨ending, index⟩ := outcome
  cases ending with
  | stopped => cases failed
  | _ =>
    cases failed
    exact taken_back_iff indexed ran (by rintro ⟨⟩) absent

theorem indexed_creation (unique : UniqueIds before.index.entries)
    (fresh : SessionAbsent sessionId before)
    (ran : (createSessionIndexEntry json parse now (SessionManager.newEntry sessionId created)).run
      (answers ∘ .index) before.index = (.value (), index)) :
    Indexed index sessionId ∧
      (CreationTakenBack json parse answers now sessionId created before ↔
        (answers .createRow ≠ .proceeds ∨ sessionId ∈ before.rows) ∧
          Logs (answers ∘ .rollback) .operation ∧
            answers (.rollback .removeSession) = .proceeds) := by
  by_cases begins : before.index.health = .healthy ∧ (parse created).isSome
  · obtain ⟨health, read⟩ := begins
    obtain ⟨_, normalized⟩ := created_normalizes read
    have ended := @createSessionIndexEntry_outcome json (answers ∘ .index) now before.index
      (SessionManager.newEntry sessionId created) parse _ health unique fresh.entry fresh.directory
      normalized before.index rfl
    rw [ran] at ended
    obtain ⟨published, sound⟩ := ended
    have directory : index.disk.sessions.lookup sessionId = _ := published.directory
    have entry : findEntry sessionId index.entries = _ := published.entry
    refine ⟨⟨entry ▸ rfl, directory ▸ rfl, sound⟩, ?_⟩
    constructor
    · intro takenBack
      rcases takenBack with takenBack | ⟨-, rest⟩
      · exact absurd published.publishes (takenBack ⟨health, read, published.begun⟩).1
      · exact rest
    · exact fun rest => .inr ⟨⟨index, ran⟩, rest⟩
  · obtain ⟨_, again⟩ := unbegun_creation begins ran
    cases again

theorem failed_creation_taken_back (unique : UniqueIds before.index.entries)
    (fresh : SessionAbsent sessionId before)
    (failed : (SessionManager.createSession texts json parse now later stored sessionId
      created).run answers before = (.failed error, after)) :
    SessionAbsent sessionId after ↔
      CreationTakenBack json parse answers now sessionId created before := by
  simp only [SessionManager.createSession, bind, SessionManager.onIndex, within] at failed
  generalize ran : (createSessionIndexEntry json parse now
    (SessionManager.newEntry sessionId created)).run (answers ∘ .index) before.index = outcome
      at failed
  match outcome with
  | (.failed _, index) =>
    cases failed
    exact refused_creation_taken_back unique fresh ran rfl rfl
  | (.stopped, index) => cases failed
  | (.value _, index) =>
    obtain ⟨indexed, iff⟩ := indexed_creation unique fresh ran
    rw [iff]
    simp only [SessionManager.createRow, FaultProgram.attempt, call] at failed
    cases refused : answers .createRow with
    | proceeds =>
      by_cases there : sessionId ∈ before.rows
      · simp only [refused, there, if_true] at failed
        rw [rollBackCreation_absent _ _ failed]
        · simp [there]
        · exact indexed
        · exact fresh.runtime
      · simp only [refused, there, if_false, quietCall, atomicCall, call] at failed
        cases built : answers .buildRuntime with
        | proceeds => simp [built, Except.map, pure, FaultProgram.modify] at failed
        | stops done => simp [built] at failed
        | fails done =>
          simp only [built] at failed
          cases failed
          constructor
          · exact fun nothing => absurd nothing (not_absent_of_indexed indexed rfl)
          · intro holds
            rcases holds.1 with cut | row
            · exact absurd rfl cut
            · exact absurd row there
    | stops done => simp [refused] at failed
    | fails done =>
      simp only [refused] at failed
      rw [rollBackCreation_absent _ _ failed]
      · simp
      · split
        · exact indexed
        · exact indexed
      · split
        · exact fresh.runtime
        · exact fresh.runtime

theorem unbuilt_creation {done : Nat}
    (ran : (createSessionIndexEntry json parse now (SessionManager.newEntry sessionId created)).run
      (answers ∘ .index) before.index = (.value (), index)) (row : answers .createRow = .proceeds)
    (free : sessionId ∉ before.rows) (built : answers .buildRuntime = .fails done) :
    (SessionManager.createSession texts json parse now later stored sessionId created).run answers
        before =
      (.failed (mapStoreError texts .buildRuntime),
        { before with index := index, rows := insert sessionId before.rows }) := by
  simp only [SessionManager.createSession, bind, SessionManager.onIndex, within, ran,
    SessionManager.createRow, FaultProgram.attempt, call, row, free, if_false, quietCall,
    atomicCall, built]

end Creation

theorem session_errors {before : SessionManager} (unique : UniqueIds before.index.entries)
    (texts : FailureTexts) (json : IndexJson) (parse : String → Option UtcTime)
    (answers : SessionCall → CallAnswer) (now later : UtcTime) (sessionId : String) :
    (∀ error after,
      (SessionManager.deleteSession texts json parse now later sessionId).run answers before =
        (.failed error, after) →
      (SessionKept sessionId before after ↔
        DeletionRestores json parse answers now sessionId before)) ∧
    ∀ stored created error after, SessionAbsent sessionId before →
      (SessionManager.createSession texts json parse now later stored sessionId created).run
        answers before = (.failed error, after) →
      (SessionAbsent sessionId after ↔
        CreationTakenBack json parse answers now sessionId created before) :=
  ⟨fun _ _ => failed_deletion_restores unique,
    fun _ _ _ _ => failed_creation_taken_back unique⟩

def cutSessionCall (call : SessionCall) (called : SessionCall) : CallAnswer :=
  if called = call then .fails 0 else .proceeds

def noTexts : FailureTexts := ⟨fun _ => "", fun _ => ""⟩

def emptyManager : SessionManager :=
  { index := closedStore .empty
    policy := .new (.new .ask [])
    sessions := ∅
    rows := ∅ }

def heldManager : SessionManager :=
  { index := { closedStore { IndexDisk.empty with
        sessions := AList.singleton "sess_1" ⟨some [], none, some [], true⟩ } with
      entries := [firstEntry] }
    policy := (PolicyRuntime.new (.new .ask [])).setSessionOverlay "sess_1" ⟨[]⟩
    sessions := ∅
    rows := {"sess_1"} }

theorem deletion_unlogged : ∃ error after,
    (SessionManager.deleteSession noTexts indexTexts readTimes springTime springTime "sess_1").run
        (cutSessionCall (.index (.record .operation))) heldManager = (.failed error, after) ∧
      after.policy.overlays.lookup "sess_1" = none := by
  simp [SessionManager.deleteSession, bind, FaultProgram.modify, FaultProgram.inspect,
    SessionManager.onIndex, within, deleteSessionIndexEntry, deleteEntry, ensureWritable,
    heldManager, closedStore, pure, deleteKnown, appendLogRecordToPath, call, cutSessionCall,
    PolicyRuntime.clearSessionOverlay]

theorem deletion_unmeasured : ∃ error after,
    (SessionManager.deleteSession noTexts indexTexts readTimes springTime springTime "sess_1").run
        (cutSessionCall (.index .measureLog)) heldManager = (.failed error, after) ∧
      after.index.disk.sessions.lookup "sess_1" = none ∧ after.index.entries = [] := by
  have removed : removeEntry "sess_1" [firstEntry] = [] := by decide
  have sorted : sortEntriesDesc [] = [] := List.mergeSort_nil
  have there : ((AList.singleton "sess_1" ⟨some [], none, some [], true⟩ :
      Table String SessionDirectory).lookup "sess_1").isSome = true := by decide
  simp [SessionManager.deleteSession, bind, FaultProgram.modify, FaultProgram.inspect,
    SessionManager.onIndex, within, deleteSessionIndexEntry, deleteEntry, ensureWritable,
    heldManager, closedStore, pure, deleteKnown, appendLogRecordToPath, call, cutSessionCall,
    PolicyRuntime.clearSessionOverlay, removeSession, FaultProgram.attempt, maybeCompact,
    compactionDue, IndexDisk.extendLog, syncCall, quietCall, atomicCall, removeMemoryEntry,
    removed, sorted, there]

theorem creation_indexes : ∃ index,
    (createSessionIndexEntry indexTexts readTimes springTime
        (SessionManager.newEntry "sess_1" springText)).run
      (cutSessionCall .buildRuntime ∘ .index) emptyManager.index = (.value (), index) ∧
      index.entries = [SessionManager.newEntry "sess_1" springText] := by
  have nothing : (closedStore .empty).disk.log.getD [] = written indexTexts [] := rfl
  have small : (SessionManager.newEntry "sess_1" springText).size ≤ 1000 := by decide +kernel
  have calls : cutSessionCall .buildRuntime ∘ .index = proceeding := rfl
  have opened : emptyManager.index = closedStore .empty := rfl
  rw [calls, opened]
  obtain ⟨index, ran, made⟩ := @create_performs indexTexts readTimes springTime
    (closedStore .empty) [] (SessionManager.newEntry "sess_1" springText) _ rfl
    renormalizes_spring rfl nothing (short_line small) (by decide)
  exact ⟨index, ran, made.entries.trans (sortEntriesDesc_singleton _)⟩

theorem creation_unbuilt : ∃ error after,
    (SessionManager.createSession noTexts indexTexts readTimes springTime springTime ⟨0, 0, []⟩
        "sess_1" springText).run (cutSessionCall .buildRuntime) emptyManager =
          (.failed error, after) ∧
      after.index.entries = [SessionManager.newEntry "sess_1" springText] := by
  obtain ⟨index, created, entries⟩ := creation_indexes
  have failed := @unbuilt_creation noTexts indexTexts readTimes (cutSessionCall .buildRuntime)
    springTime springTime "sess_1" springText ⟨0, 0, []⟩ emptyManager index 0 created rfl
    (Finset.notMem_empty _) rfl
  exact ⟨_, _, failed, entries⟩

theorem failed_requests_lose :
    (∃ error after,
      (SessionManager.deleteSession noTexts indexTexts readTimes springTime springTime
          "sess_1").run (cutSessionCall (.index (.record .operation))) heldManager =
            (.failed error, after) ∧ ¬ SessionKept "sess_1" heldManager after) ∧
      (∃ error after,
        (SessionManager.deleteSession noTexts indexTexts readTimes springTime springTime
            "sess_1").run (cutSessionCall (.index .measureLog)) heldManager =
              (.failed error, after) ∧
          (heldManager.index.disk.sessions.lookup "sess_1").isSome ∧
          after.index.disk.sessions.lookup "sess_1" = none) ∧
      SessionAbsent "sess_1" emptyManager ∧
      ∃ error after,
        (SessionManager.createSession noTexts indexTexts readTimes springTime springTime ⟨0, 0, []⟩
            "sess_1" springText).run (cutSessionCall .buildRuntime) emptyManager =
              (.failed error, after) ∧ ¬ SessionAbsent "sess_1" after := by
  refine ⟨?_, ?_, ⟨rfl, rfl, rfl⟩, ?_⟩
  · obtain ⟨error, after, ran, cleared⟩ := deletion_unlogged
    refine ⟨error, after, ran, ?_⟩
    intro kept
    have held : (heldManager.policy.overlays.lookup "sess_1").isSome = true := by decide
    rw [← kept.overlay, cleared] at held
    cases held
  · obtain ⟨error, after, ran, gone, -⟩ := deletion_unmeasured
    exact ⟨error, after, ran, by decide, gone⟩
  · obtain ⟨error, after, ran, entries⟩ := creation_unbuilt
    refine ⟨error, after, ran, ?_⟩
    intro nothing
    have listed := nothing.entry
    rw [entries] at listed
    cases listed

theorem held_deletion_restores : ∃ error after,
    (SessionManager.deleteSession noTexts indexTexts readTimes springTime springTime "sess_1").run
        (cutSessionCall (.index (.record .operation))) heldManager = (.failed error, after) ∧
      (SessionKept "sess_1" heldManager after ↔ DeletionRestores indexTexts readTimes
        (cutSessionCall (.index (.record .operation))) springTime "sess_1" heldManager) := by
  obtain ⟨error, after, ran, -⟩ := deletion_unlogged
  have unique : UniqueIds heldManager.index.entries := by
    rw [UniqueIds]
    decide
  have errors := session_errors unique noTexts indexTexts readTimes
    (cutSessionCall (.index (.record .operation))) springTime springTime "sess_1"
  exact ⟨error, after, ran, errors.1 error after ran⟩

end OpenJax.Gateway
