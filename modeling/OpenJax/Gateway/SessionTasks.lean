import OpenJax.Gateway.SessionManagement

set_option autoImplicit false

namespace OpenJax.Gateway

open Shared FaultProgram Transcript SessionIndexStore

structure IndexRefresh where
  -- None where the event gives no title, or gave it a moment ago.
  title : Option String
  updatedAt : String
  lastEventSeq : Nat
  lastPreview : Option String

inductive EventAppend where
  -- The directory could not be made.
  | refused
  | torn (segments : Bool) (rewrite : Option ManifestRewrite)
  | persisted (rewrite : ManifestRewrite) (refresh : IndexRefresh)

structure EntrySnapshot (sessionId : String) where
  entry : IndexSessionEntry
  own : entry.sessionId = sessionId

def takeSnapshot (sessionId : String) (entries : List IndexSessionEntry) :
    Option (EntrySnapshot sessionId) :=
  match found : findEntry sessionId entries with
  | some entry => some ⟨entry, findEntry_id found⟩
  | none => none

inductive SessionTask where
  -- A lookup of a session.
  | lookUp (sessionId : String)
  | checkIndex (sessionId : String)
  | build (sessionId : String)
  | insert (sessionId : String) (runtime : SessionRuntime)
  -- A request that has the runtime, or the task of a turn.
  | hold (sessionId : String)
  | readPreview (sessionId : String) (refresh : IndexRefresh)
  | refreshTitle (sessionId : String) (refresh : IndexRefresh)
  | touch (sessionId : String) (refresh : IndexRefresh)
  -- The creation of a session.
  | createEntry (sessionId created : String)
  | createRow (sessionId : String)
  | takeBack (sessionId : String) (storeErr : ApiError)
  | buildNew (sessionId : String)
  | insertNew (sessionId : String) (runtime : SessionRuntime)
  -- The deletion of a session.
  | remove (sessionId : String)
  | clearOverlay (sessionId : String)
  | findSnapshot (sessionId : String)
  | deleteEntry (sessionId : String) (snapshot : Option (EntrySnapshot sessionId))
  | deleteRow (sessionId : String) (snapshot : Option (EntrySnapshot sessionId))
  | restoreEntry (sessionId : String) (snapshot : EntrySnapshot sessionId) (storeErr : ApiError)
  -- A request that has returned an error.
  | failed (sessionId : String) (error : ApiError)

structure Moment where
  answers : SessionCall → CallAnswer
  now : UtcTime
  stored : StoredSession

inductive TaskInput where
  | go (moment : Moment)
  | publish (append : EventAppend)
  -- A request hands the runtime on to the task of a turn.
  | spawn

inductive SessionRequest where
  | get (sessionId : String)
  | create (sessionId created : String)
  | delete (sessionId : String)

structure SessionServer where
  manager : SessionManager
  -- The sessions whose deletion has returned success.
  deleted : List String

namespace SessionManager

def insertRuntime (sessionId : String) (runtime : SessionRuntime) (manager : SessionManager) :
    SessionManager :=
  { manager with sessions := manager.sessions.insert sessionId runtime }

def buildRuntime (texts : FailureTexts) (stored : StoredSession) : SessionProgram SessionRuntime :=
  .quietCall .buildRuntime (mapStoreError texts .buildRuntime) fun _ =>
    .ok (buildSessionRuntime stored.agent stored.replayCapacity stored.events)

def transcribe (json : IndexJson) (sessionId : String) (segments : Bool)
    (rewrite : Option ManifestRewrite) (manager : SessionManager) : SessionManager :=
  { manager with index := manager.index.onDisk (·.transcribe json sessionId segments rewrite) }

def performOnIndex (texts : FailureTexts) (json : IndexJson) (parse : String → Option UtcTime)
    (now : UtcTime) (operation : IndexOperation) : SessionProgram Unit :=
  onIndex .index (mapSessionIndexError texts) (operation.perform json parse now)

end SessionManager

def sessionNotFound (sessionId : String) : ApiError :=
  .notFound "session not found" (.obj [("session_id", .str sessionId)])

namespace SessionServer

def moveOn (server : SessionServer) (change : SessionManager → SessionManager)
    (rest : List SessionTask) : Option (SessionServer × List SessionTask) :=
  some ({ server with manager := change server.manager }, rest)

def proceed {α : Type} (server : SessionServer) (outcome : Ending ApiError α × SessionManager)
    (value : α → List SessionTask) (failed : ApiError → List SessionTask) :
    Option (SessionServer × List SessionTask) :=
  match outcome with
  | (.value found, manager) => some ({ server with manager := manager }, value found)
  | (.failed error, manager) => some ({ server with manager := manager }, failed error)
  | (.stopped, _) => none

def launch (server : SessionServer) : SessionRequest → SessionServer × SessionTask
  | .get sessionId => (server, .lookUp sessionId)
  | .create sessionId created => (server, .createEntry sessionId created)
  | .delete sessionId => (server, .remove sessionId)

variable (texts : FailureTexts) (json : IndexJson) (parse : String → Option UtcTime)

open SessionManager

def advanceLookup (server : SessionServer) (moment : Moment) :
    SessionTask → Option (SessionServer × List SessionTask)
  | .lookUp sessionId =>
      if (server.manager.sessions.lookup sessionId).isSome then server.moveOn id [.hold sessionId]
      else server.moveOn id [.checkIndex sessionId]
  | .checkIndex sessionId =>
      if (findEntry sessionId server.manager.index.entries).isSome then
        server.moveOn id [.build sessionId]
      else server.moveOn id [.failed sessionId (sessionNotFound sessionId)]
  | .build sessionId =>
      server.proceed ((buildRuntime texts moment.stored).run moment.answers server.manager)
        (fun runtime => [.insert sessionId runtime]) fun error => [.failed sessionId error]
  | .insert sessionId runtime =>
      -- Another request may have built the runtime meanwhile.
      if (server.manager.sessions.lookup sessionId).isSome then server.moveOn id [.hold sessionId]
      else server.moveOn (insertRuntime sessionId runtime) [.hold sessionId]
  | _ => none

def advanceRefresh (server : SessionServer) (moment : Moment) :
    SessionTask → Option (SessionServer × List SessionTask)
  | .readPreview sessionId refresh =>
      let current := findEntry sessionId server.manager.index.entries
      let preview := refresh.lastPreview.getD (current.elim "" IndexSessionEntry.lastPreview)
      server.moveOn id [.refreshTitle sessionId { refresh with lastPreview := some preview }]
  | .refreshTitle sessionId refresh =>
      match refresh.title with
      | none => server.moveOn id [.touch sessionId refresh]
      | some title =>
          server.proceed ((performOnIndex texts json parse moment.now
              (.setTitleIfEmpty sessionId title)).run moment.answers server.manager)
            (fun _ => [.touch sessionId refresh]) fun _ => [.hold sessionId]
  | .touch sessionId refresh =>
      server.proceed ((performOnIndex texts json parse moment.now
          (.touch sessionId refresh.updatedAt refresh.lastEventSeq
            (refresh.lastPreview.getD ""))).run moment.answers server.manager)
        (fun _ => [.hold sessionId]) fun _ => [.hold sessionId]
  | _ => none

def advanceCreation (server : SessionServer) (moment : Moment) :
    SessionTask → Option (SessionServer × List SessionTask)
  | .createEntry sessionId created =>
      server.proceed ((performOnIndex texts json parse moment.now
          (.create (newEntry sessionId created))).run moment.answers server.manager)
        (fun _ => [.createRow sessionId]) fun error => [.failed sessionId error]
  | .createRow sessionId =>
      server.proceed ((SessionManager.createRow texts sessionId).run moment.answers server.manager)
        (fun _ => [.buildNew sessionId]) fun storeErr => [.takeBack sessionId storeErr]
  | .takeBack sessionId storeErr =>
      server.proceed ((rollBackCreation texts json moment.now sessionId storeErr).run moment.answers
          server.manager)
        (fun _ => []) fun error => [.failed sessionId error]
  | .buildNew sessionId =>
      server.proceed ((buildRuntime texts moment.stored).run moment.answers server.manager)
        (fun runtime => [.insertNew sessionId runtime]) fun error => [.failed sessionId error]
  | .insertNew sessionId runtime => server.moveOn (insertRuntime sessionId runtime) []
  | _ => none

def advanceDeletion (server : SessionServer) (moment : Moment) :
    SessionTask → Option (SessionServer × List SessionTask)
  | .remove sessionId =>
      server.moveOn (fun manager => { manager with sessions := manager.sessions.erase sessionId })
        [.clearOverlay sessionId]
  | .clearOverlay sessionId =>
      server.moveOn
        (fun manager => { manager with policy := manager.policy.clearSessionOverlay sessionId })
        [.findSnapshot sessionId]
  | .findSnapshot sessionId =>
      server.moveOn id
        [.deleteEntry sessionId (takeSnapshot sessionId server.manager.index.entries)]
  | .deleteEntry sessionId snapshot =>
      server.proceed ((performOnIndex texts json parse moment.now (.delete sessionId)).run
          moment.answers server.manager)
        (fun _ => [.deleteRow sessionId snapshot]) fun error => [.failed sessionId error]
  | .deleteRow sessionId snapshot =>
      match (SessionManager.deleteRow texts sessionId).run moment.answers server.manager with
      | (.value (), manager) => some (⟨manager, sessionId :: server.deleted⟩, [])
      | (.failed storeErr, manager) =>
          some (⟨manager, server.deleted⟩, [snapshot.elim (.failed sessionId storeErr) fun snapshot =>
            .restoreEntry sessionId snapshot storeErr])
      | (.stopped, _) => none
  | .restoreEntry sessionId snapshot storeErr =>
      server.proceed ((onIndex .rollback (rollbackFailed texts "delete_session" .deleteRow)
          (createSessionIndexEntry json parse moment.now snapshot.entry)).run moment.answers
            server.manager)
        (fun _ => [.failed sessionId storeErr]) fun error => [.failed sessionId error]
  | _ => none

/-- An event is appended under the lock of the runtime, of which nothing else here takes notice. -/
def publish (server : SessionServer) (sessionId : String) :
    EventAppend → Option (SessionServer × List SessionTask)
  | .refused => server.moveOn id [.hold sessionId]
  | .torn segments rewrite =>
      server.moveOn (SessionManager.transcribe json sessionId segments rewrite) [.hold sessionId]
  | .persisted rewrite refresh =>
      server.moveOn (SessionManager.transcribe json sessionId true (some rewrite))
        [.readPreview sessionId refresh]

def advance (server : SessionServer) (task : SessionTask) :
    TaskInput → Option (SessionServer × List SessionTask)
  | .go moment =>
      match task with
      | .lookUp .. | .checkIndex .. | .build .. | .insert .. =>
          server.advanceLookup texts moment task
      | .hold _ => server.moveOn id []
      | .readPreview .. | .refreshTitle .. | .touch .. =>
          server.advanceRefresh texts json parse moment task
      | .createEntry .. | .createRow .. | .takeBack .. | .buildNew .. | .insertNew .. =>
          server.advanceCreation texts json parse moment task
      | .remove .. | .clearOverlay .. | .findSnapshot .. | .deleteEntry .. | .deleteRow ..
      | .restoreEntry .. =>
          server.advanceDeletion texts json parse moment task
      | .failed .. => none
  | .publish append =>
      match task with
      | .hold sessionId => server.publish json sessionId append
      | _ => none
  | .spawn =>
      match task with
      | .hold sessionId => server.moveOn id [.hold sessionId, .hold sessionId]
      | _ => none

end SessionServer

def sessionSystem (texts : FailureTexts) (json : IndexJson) (parse : String → Option UtcTime) :
    TaskSystem SessionServer SessionTask SessionRequest TaskInput :=
  ⟨SessionServer.launch, SessionServer.advance texts json parse⟩

theorem takeSnapshot_entry (sessionId : String) (entries : List IndexSessionEntry) :
    (takeSnapshot sessionId entries).map EntrySnapshot.entry = findEntry sessionId entries := by
  unfold takeSnapshot
  split
  next entry found => exact found.symm
  next missing => exact missing.symm

section Alone

variable {texts : FailureTexts} {json : IndexJson} {parse : String → Option UtcTime}

def goOn (moments : List Moment) : List (PoolInput SessionRequest TaskInput) :=
  moments.map fun moment => .advance 0 (.go moment)

theorem run_go {server next : SessionServer} {task : SessionTask} {rest : List SessionTask}
    {final : Pool SessionServer SessionTask} {moment : Moment} {moments : List Moment}
    (stepped : server.advance texts json parse task (.go moment) = some (next, rest))
    (ran : run (sessionSystem texts json parse).step ⟨next, rest⟩ (goOn moments) = some final) :
    run (sessionSystem texts json parse).step ⟨server, [task]⟩ (goOn (moment :: moments)) =
      some final := by
  have first : (sessionSystem texts json parse).step ⟨server, [task]⟩ (.advance 0 (.go moment)) =
      some ⟨next, rest⟩ := by
    simp [TaskSystem.step, sessionSystem, stepped]
  rw [goOn, List.map_cons, run_cons first]
  exact ran

def SessionServer.deletionEnd (server : SessionServer) (sessionId : String)
    (manager : SessionManager) : Ending ApiError Unit → Pool SessionServer SessionTask
  | .value () => ⟨⟨manager, sessionId :: server.deleted⟩, []⟩
  | .failed error => ⟨⟨manager, server.deleted⟩, [.failed sessionId error]⟩
  | .stopped => ⟨⟨manager, server.deleted⟩, []⟩

/-- Run alone, the task of a deletion does what the request does in one piece. -/
theorem deletion_alone {answers : SessionCall → CallAnswer} {now later : UtcTime}
    {sessionId : String} {server : SessionServer} {ending : Ending ApiError Unit}
    {after : SessionManager} (stored : StoredSession)
    (ran : (SessionManager.deleteSession texts json parse now later sessionId).run answers
      server.manager = (ending, after)) (going : ending ≠ .stopped) :
    ∃ moments, run (sessionSystem texts json parse).step ⟨server, [.remove sessionId]⟩
      (goOn moments) = some (server.deletionEnd sessionId after ending) := by
  let early : Moment := ⟨answers, now, stored⟩
  have begun (moments : List Moment) {final : Pool SessionServer SessionTask}
      (deletes : ∀ manager snapshot,
        manager = { server.manager with
          sessions := server.manager.sessions.erase sessionId
          policy := server.manager.policy.clearSessionOverlay sessionId } →
        snapshot = takeSnapshot sessionId server.manager.index.entries →
        run (sessionSystem texts json parse).step ⟨⟨manager, server.deleted⟩,
          [.deleteEntry sessionId snapshot]⟩ (goOn moments) = some final) :
      run (sessionSystem texts json parse).step ⟨server, [.remove sessionId]⟩
        (goOn (early :: early :: early :: moments)) = some final :=
    run_go rfl (run_go rfl (run_go rfl (deletes _ _ rfl rfl)))
  have known := takeSnapshot_entry sessionId server.manager.index.entries
  simp only [SessionManager.deleteSession, bind, FaultProgram.modify, FaultProgram.inspect] at ran
  generalize { server.manager with
    sessions := server.manager.sessions.erase sessionId
    policy := server.manager.policy.clearSessionOverlay sessionId } = cleared at ran begun
  rw [← known] at ran
  generalize takeSnapshot sessionId server.manager.index.entries = snapshot at ran begun
  generalize deletes : (SessionManager.onIndex .index (mapSessionIndexError texts)
    (deleteSessionIndexEntry json now sessionId)).run answers cleared = outcome at ran
  -- The entry is deleted in the first step of the rest, then the row.
  have entryGone {next : SessionServer} {rest : List SessionTask}
      (proceeds : (⟨cleared, server.deleted⟩ : SessionServer).proceed outcome
        (fun _ => [.deleteRow sessionId snapshot]) (fun error => [.failed sessionId error]) =
          some (next, rest)) :
      (⟨cleared, server.deleted⟩ : SessionServer).advance texts json parse
        (.deleteEntry sessionId snapshot) (.go early) = some (next, rest) := by
    rw [← proceeds, ← deletes]
    rfl
  obtain ⟨ending, manager⟩ := outcome
  cases ending with
  | stopped =>
    cases ran
    exact absurd rfl going
  | failed error =>
    cases ran
    refine ⟨_, begun [early] ?_⟩
    rintro _ _ rfl rfl
    exact run_go (entryGone rfl) rfl
  | value =>
    generalize removes : (SessionManager.deleteRow texts sessionId).run answers manager = removed
    simp only [attempt, removes] at ran
    obtain ⟨ending, last⟩ := removed
    cases ending with
    | stopped =>
      cases ran
      exact absurd rfl going
    | value =>
      cases ran
      refine ⟨_, begun [early, early] ?_⟩
      rintro _ _ rfl rfl
      apply run_go (entryGone rfl)
      apply run_go _ rfl
      simp only [SessionServer.advance, SessionServer.advanceDeletion, early, removes]
    | failed storeErr =>
      have rowStays : (⟨manager, server.deleted⟩ : SessionServer).advance texts json parse
          (.deleteRow sessionId snapshot) (.go early) = some (⟨last, server.deleted⟩,
            [snapshot.elim (.failed sessionId storeErr) fun snapshot =>
              .restoreEntry sessionId snapshot storeErr]) := by
        simp only [SessionServer.advance, SessionServer.advanceDeletion, early, removes]
      cases snapshot with
      | none =>
        cases ran
        refine ⟨_, begun [early, early] ?_⟩
        rintro _ _ rfl rfl
        exact run_go (entryGone rfl) (run_go rowStays rfl)
      | some snapshot =>
        let late : Moment := ⟨answers, later, stored⟩
        generalize restores : (SessionManager.onIndex .rollback
          (SessionManager.rollbackFailed texts "delete_session" .deleteRow)
          (createSessionIndexEntry json parse later snapshot.entry)).run answers last = restored
        simp only [Option.map_some, restores] at ran
        have entryBack {next : SessionServer} {rest : List SessionTask}
            (proceeds : (⟨last, server.deleted⟩ : SessionServer).proceed restored
              (fun _ => [.failed sessionId storeErr]) (fun error => [.failed sessionId error]) =
                some (next, rest)) :
            (⟨last, server.deleted⟩ : SessionServer).advance texts json parse
              (.restoreEntry sessionId snapshot storeErr) (.go late) = some (next, rest) := by
          rw [← proceeds, ← restores]
          rfl
        obtain ⟨ending, kept⟩ := restored
        cases ending with
        | stopped =>
          cases ran
          exact absurd rfl going
        | _ =>
          cases ran
          refine ⟨_, begun [early, early, late] ?_⟩
          rintro _ _ rfl rfl
          exact run_go (entryGone rfl) (run_go rowStays (run_go (entryBack rfl) rfl))

end Alone

theorem unknown_deletion_alone :
    ∃ moments ending after, run (sessionSystem noTexts indexTexts readTimes).step
      ⟨⟨emptyManager, []⟩, [.remove "sess_1"]⟩ (goOn moments) =
        some (SessionServer.deletionEnd ⟨emptyManager, []⟩ "sess_1" after ending) := by
  have ⟨moments, ran⟩ := @deletion_alone noTexts indexTexts readTimes (fun _ => .proceeds)
    springTime springTime "sess_1" ⟨emptyManager, []⟩ _ _ ⟨0, 1, []⟩ rfl (by simp)
  exact ⟨moments, _, _, ran⟩

end OpenJax.Gateway
