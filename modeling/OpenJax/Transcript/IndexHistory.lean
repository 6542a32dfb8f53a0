import OpenJax.Transcript.IndexProcess
import OpenJax.Transcript.IndexText

set_option autoImplicit false

namespace OpenJax.Transcript

open Shared FaultProgram SessionIndexStore

def IndexStep.Settles (parse : String → Option UtcTime) : IndexStep → Prop
  | .operation requested now _ =>
      ∀ stamp, requested.stamp parse now = some stamp → Renormalizes parse stamp
  | .transcript .. | .restart .. => True

def IndexStep.answers : IndexStep → CallSite → CallAnswer
  | .operation _ _ answers => answers
  | .restart _ _ answers => answers
  | .transcript .. => fun _ => .proceeds

def succeed (json : IndexJson) (parse : String → Option UtcTime) (store : SessionIndexStore) :
    IndexStep → Option SessionIndexStore
  | .operation operation now answers =>
      match (operation.perform json parse now).run answers store with
      | (.value (), next) => some next
      | _ => none
  | .transcript sessionId segments rewrite =>
      some (store.onDisk (·.transcribe json sessionId segments rewrite))
  | .restart stale now answers =>
      match (new json parse now stale).run answers (closedStore store.disk) with
      | (.value (), next) => some next
      | _ => none

variable {json : IndexJson} {parse : String → Option UtcTime} {answers : CallSite → CallAnswer}
  {now : UtcTime}

def Dated (json : IndexJson) (parse : String → Option UtcTime) (disk : IndexDisk) : Prop :=
  WholeSessions json (Renormalizes parse) False disk.sessions

theorem Dated.of_sessions {disk other : IndexDisk} (same : other.sessions = disk.sessions)
    (dated : Dated json parse disk) : Dated json parse other := by
  rwa [Dated, same]

theorem Dated.transcribe {disk : IndexDisk} (dated : Dated json parse disk)
    (sessionId : String) (segments : Bool) (rewrite : Option ManifestRewrite) :
    Dated json parse (disk.transcribe json sessionId segments rewrite) := by
  intro name directory there
  simp only [IndexDisk.transcribe, Table.lookup_insert_eq] at there
  split_ifs at there with own
  · cases there
    refine ⟨?_, False.elim⟩
    cases found : disk.sessions.lookup sessionId with
    | none => exact nofun
    | some directory => exact own ▸ (dated sessionId directory found).metadata
  · exact dated name directory there

variable (operation : IndexOperation)

theorem perform_dated
    (settles : ∀ stamp, operation.stamp parse now = some stamp → Renormalizes parse stamp) :
    Triple answers (fun store => Dated json parse store.disk) (operation.perform json parse now)
      (.always fun store => Dated json parse store.disk) := by
  intro start dated
  let sited := Sited json (Renormalizes parse) False (listed start.disk.sessions)
  have bodies : Triple answers sited (operation.body json parse now) _ :=
    body_sited operation settles
  have performs : Triple answers sited (operation.perform json parse now)
      (.always fun store => Dated json parse store.disk) := by
    rw [IndexOperation.perform_eq]
    apply Triple.bind fun _ store => Dated json parse store.disk
    · apply bodies.mono
      · exact fun _ _ => Sited.whole
      · exact fun _ _ ended => ended.elim Sited.whole fun failed => failed.2.whole
      · exact fun _ ended => ended.elim Sited.whole Sited.whole
    · intro due
      apply triple_ite
      · exact fun _ => leaves_maybeCompact.triple (fun _ _ => Dated.of_sessions) answers
      · exact fun _ => triple_pure fun _ => id
  exact performs start ⟨dated, rfl⟩

structure Running (json : IndexJson) (parse : String → Option UtcTime)
    (store : SessionIndexStore) : Prop where
  held : Held json parse store
  dated : Dated json parse store.disk

theorem perform_running
    (settles : ∀ stamp, operation.stamp parse now = some stamp → Renormalizes parse stamp) :
    Triple answers (Running json parse) (operation.perform json parse now)
      ⟨fun _ => Running json parse,
        fun _ store => (Untorn answers → Held json parse store ∨ Halted json parse store) ∧
          Dated json parse store.disk,
        fun store => (Untorn answers → Restartable json parse store.disk) ∧
          Dated json parse store.disk⟩ := by
  intro store running
  have unique := running.held.unique
  have descending := running.held.descending
  have performs : Triple answers (Midway json parse store.entries store.entries)
    (operation.perform json parse now) _ := perform_triple operation unique descending settles
  apply ((performs.and (perform_dated operation settles)).mono _ _ _) store
    ⟨running.held.midway, running.dated⟩
  · intro _ next ended
    exact ⟨ended.1.held (IndexOperation.unique_applied unique operation)
      (IndexOperation.descending_applied unique descending operation), ended.2⟩
  · exact fun _ _ => id
  · exact fun _ => id

theorem new_running (stale : List String) {disk : IndexDisk}
    (restartable : Restartable json parse disk) (dated : Dated json parse disk) :
    (⟨fun _ => Running json parse,
      fun _ store => (Untorn answers → Restartable json parse store.disk) ∧
        Dated json parse store.disk,
      fun store => (Untorn answers → Restartable json parse store.disk) ∧
        Dated json parse store.disk⟩ : Ends SessionIndexStore IndexError Unit).of
      ((new json parse now stale).run answers (closedStore disk)) := by
  have keeps : Triple answers (fun store => Dated json parse store.disk)
      (new json parse now stale) (.always fun store => Dated json parse store.disk) :=
    (leaves_new stale).triple (fun _ _ => Dated.of_sessions) answers
  have starts : Triple answers (Startable json parse) (new json parse now stale) _ :=
    new_triple stale
  apply ((starts.and keeps).mono _ _ _) (closedStore disk) ⟨⟨restartable, dated, rfl, rfl⟩, dated⟩
  · exact fun _ _ ended => ⟨ended.1, ended.2⟩
  · exact fun _ _ => id
  · exact fun _ => id

variable {store : SessionIndexStore}

theorem Held.transcribe (held : Held json parse store) (sessionId : String) (segments : Bool)
    (rewrite : Option ManifestRewrite) :
    Held json parse (store.onDisk (·.transcribe json sessionId segments rewrite)) :=
  ⟨held.unique, held.descending, held.recorded.of_files rfl rfl rfl, held.health⟩

theorem indexed_empty (json : IndexJson) (parse : String → Option UtcTime) :
    Indexed json parse .empty [] := by
  refine ⟨[], [], .inl ⟨rfl, rfl⟩, .inl ⟨rfl, rfl⟩, List.nodup_nil, ?_, ?_, fun _ => rfl⟩
  · simp
  · simp

theorem dated_empty (json : IndexJson) (parse : String → Option UtcTime) :
    Dated json parse .empty := by
  intro name directory there
  cases there

theorem running_empty (json : IndexJson) (parse : String → Option UtcTime) :
    Running json parse (closedStore .empty) :=
  ⟨⟨List.nodup_nil, .nil, ⟨indexed_empty json parse, fun _ => logging_none json parse⟩, rfl⟩,
    dated_empty json parse⟩

theorem succeed_running : Preserves (succeed json parse) (fun _ step => step.Settles parse)
    (Running json parse) := by
  intro store step next running settles stepped
  cases step with
  | operation operation now answers =>
    have ended := @perform_running json parse answers now operation settles store running
    simp only [succeed] at stepped
    split at stepped
    · next ran =>
      rw [ran] at ended
      exact Option.some.inj stepped ▸ ended
    · cases stepped
  | transcript sessionId segments rewrite =>
    cases stepped
    exact ⟨running.held.transcribe sessionId segments rewrite,
      running.dated.transcribe sessionId segments rewrite⟩
  | restart stale now answers =>
    have ended := @new_running json parse answers now stale store.disk
      running.held.recorded.restartable running.dated
    simp only [succeed] at stepped
    split at stepped
    · next ran =>
      rw [ran] at ended
      exact Option.some.inj stepped ▸ ended
    · cases stepped

/-- After any successful operations the files give the entries in memory, which are unique and in
order. -/
theorem reload_after_successes {steps : List IndexStep} {store : SessionIndexStore}
    (settles : ∀ step ∈ steps, step.Settles parse)
    (ran : run (succeed json parse) (closedStore .empty) steps = some store) :
    reload json parse store.disk = .ok store.entries ∧ UniqueIds store.entries ∧
      Descending store.entries := by
  have held := (run_invariant succeed_running (running_empty json parse)
    (Meets.of_inputs settles) ran).held
  exact ⟨held.recorded.indexed.reload held.unique held.descending, held.unique, held.descending⟩

variable {store next : SessionIndexStore}

theorem succeed_operation {operation : IndexOperation}
    (ran : (operation.perform json parse now).run answers store = (.value (), next)) :
    Shared.run (succeed json parse) store [.operation operation now answers] = some next := by
  simp only [Shared.run, succeed, ran, Option.bind_some]

def firstEntry : IndexSessionEntry := ⟨"sess_1", none, springText, springText, 0, "hello"⟩

theorem short_line {entry : IndexSessionEntry} (small : entry.size ≤ 1000) :
    (written indexTexts [upsertRecord springTime entry]).length < compactMaxBytes := by
  have line := upsertRecord_length_le springTime entry
  have stamp : springText.length = 24 := by decide +kernel
  rw [formatUtcMillis_spring, stamp] at line
  simp only [written, List.flatMap_cons, List.flatMap_nil, List.append_nil, List.length_append,
    List.length_singleton, compactMaxBytes]
  omega

theorem small_first : firstEntry.size ≤ 1000 := by decide +kernel

theorem create_first (health : store.health = .healthy)
    (absent : store.disk.sessions.lookup firstEntry.sessionId = none)
    (log : store.disk.log.getD [] = written indexTexts []) :
    ∃ next, ((IndexOperation.create firstEntry).perform indexTexts readTimes springTime).run
        proceeding store = (.value (), next) ∧
      Created indexTexts springTime firstEntry store next := by
  have normal : normalizeRfc3339UtcMillis readTimes firstEntry.updatedAt = some springText :=
    renormalizes_spring
  apply create_performs health normal absent log
  · exact short_line small_first
  · decide

theorem settles_first (answers : CallSite → CallAnswer) :
    (IndexStep.operation (.create firstEntry) springTime answers).Settles readTimes := by
  intro stamp normalized
  cases renormalizes_spring.symm.trans normalized
  exact renormalizes_spring

theorem reload_after_creation : ∃ store,
    Shared.run (succeed indexTexts readTimes) (closedStore .empty)
        [.operation (.create firstEntry) springTime proceeding] = some store ∧
      reload indexTexts readTimes store.disk = .ok store.entries ∧ UniqueIds store.entries ∧
        Descending store.entries := by
  have created := @create_first (closedStore .empty) rfl rfl rfl
  obtain ⟨store, ran, -⟩ := created
  have reached := succeed_operation ran
  refine ⟨store, reached, reload_after_successes ?_ reached⟩
  simpa using settles_first proceeding

theorem reload_unread {disk : IndexDisk} {entry : IndexSessionEntry}
    (snapshot : disk.snapshot = none)
    (log : disk.log = some (written json [upsertRecord now entry]))
    (unread : normalizeRfc3339UtcMillis parse entry.updatedAt = none)
    (entries : List IndexSessionEntry) : reload json parse disk ≠ .ok entries := by
  simp [reload, loadEntriesSnapshotAndLog, loadSnapshot, snapshot, replayLog, log,
    splitLines_written, replayLogLines, json.record.utf8, isBlank_toVec, json.record.roundTrip,
    applyLogRecord, upsertRecord, normalizeEntry, unread, bind, Except.bind, Except.map]

def oldestEntry : IndexSessionEntry := ⟨"sess_1", none, springText, oldestText, 0, ""⟩

def storedEntry : IndexSessionEntry := { oldestEntry with updatedAt := "-001-12-31T23:00:00.000Z" }

theorem small_stored : storedEntry.size ≤ 1000 := by decide +kernel

theorem unread_stored : normalizeRfc3339UtcMillis readTimes storedEntry.updatedAt = none :=
  congrArg (Option.map formatUtcMillis) readTimes_oldest

theorem reload_refuses_creation : ∃ store,
    Shared.run (succeed indexTexts readTimes) (closedStore .empty)
        [.operation (.create oldestEntry) springTime proceeding] = some store ∧
      ∀ entries, reload indexTexts readTimes store.disk ≠ .ok entries := by
  have nothing : (closedStore .empty).disk.log.getD [] = written indexTexts [] := rfl
  have performs : ∃ store, ((IndexOperation.create oldestEntry).perform indexTexts readTimes
      springTime).run proceeding (closedStore .empty) = (.value (), store) ∧
        Created indexTexts springTime storedEntry (closedStore .empty) store := by
    have normal : normalizeRfc3339UtcMillis readTimes oldestEntry.updatedAt =
      some storedEntry.updatedAt := normalize_oldest
    apply create_performs rfl normal rfl nothing
    · exact short_line small_stored
    · decide
  obtain ⟨store, ran, created⟩ := performs
  have log := created.written nothing
  rw [List.nil_append] at log
  have snapshot : store.disk.snapshot = none := created.snapshot
  exact ⟨store, succeed_operation ran, reload_unread snapshot log unread_stored⟩

theorem body_refused (health : store.health = .repairRequired) :
    (operation.body json parse now).run answers store = (.failed .indexRepairRequired, store) := by
  have refused : ensureWritable.run answers store = (.failed .indexRepairRequired, store) := by
    simp [ensureWritable, bind, FaultProgram.inspect, health, FaultProgram.fail]
  cases operation with
  | _ =>
    simp only [IndexOperation.body, createEntry, upsertSessionEntry, touchEntry,
      SessionIndexStore.setTitle, SessionIndexStore.setTitleIfEmpty, SessionIndexStore.setTags,
      deleteEntry, bind, refused]

theorem perform_refused (health : store.health = .repairRequired) :
    (operation.perform json parse now).run answers store =
      (.failed .indexRepairRequired, store) := by
  rw [IndexOperation.perform_eq]
  simp only [bind, body_refused operation health]

/-- What the process keeps as long as no failing append leaves bytes in the log. -/
structure IndexProcess.Kept (json : IndexJson) (parse : String → Option UtcTime)
    (process : IndexProcess) : Prop where
  restartable : Restartable json parse process.disk
  dated : Dated json parse process.disk
  up : ∀ store, process = .up store → Held json parse store ∨ store.health = .repairRequired

theorem IndexProcess.Kept.down {disk : IndexDisk} (restartable : Restartable json parse disk)
    (dated : Dated json parse disk) : IndexProcess.Kept json parse (.down disk) :=
  ⟨restartable, dated, nofun⟩

theorem Running.kept (running : Running json parse store) :
    IndexProcess.Kept json parse (.up store) := by
  refine ⟨running.held.recorded.restartable, running.dated, ?_⟩
  intro other same
  cases same
  exact .inl running.held

theorem Halted.kept (halted : Halted json parse store) (dated : Dated json parse store.disk) :
    IndexProcess.Kept json parse (.up store) := by
  refine ⟨halted.restartable, dated, ?_⟩
  intro other same
  cases same
  exact .inr halted.health

def IndexStep.Clean (parse : String → Option UtcTime) (step : IndexStep) : Prop :=
  step.Settles parse ∧ Untorn step.answers

theorem step_kept : Preserves (IndexProcess.step json parse) (fun _ step => step.Clean parse)
    (IndexProcess.Kept json parse) := by
  intro process step next kept clean stepped
  obtain ⟨settles, untorn⟩ := clean
  cases step with
  | restart stale now answers =>
    have ended := @new_running json parse answers now stale process.disk kept.restartable kept.dated
    rcases restart_ends ended stepped with
      ⟨after, running, rfl⟩ | ⟨_, after, left, rfl⟩ | ⟨after, left, rfl⟩
    · exact running.kept
    · exact .down (left.1 untorn) left.2
    · exact .down (left.1 untorn) left.2
  | operation operation now answers =>
    cases process with
    | down disk => cases stepped
    | up store =>
      rcases kept.up store rfl with held | halted
      · have ended := @perform_running json parse answers now operation settles store
          ⟨held, kept.dated⟩
        rcases operation_ends ended stepped with
          ⟨after, running, rfl⟩ | ⟨_, after, left, rfl⟩ | ⟨after, left, rfl⟩
        · exact running.kept
        · rcases left.1 untorn with held | halted
          · exact (Running.mk held left.2).kept
          · exact halted.kept left.2
        · exact .down (left.1 untorn) left.2
      · simp only [IndexProcess.step, perform_refused operation halted] at stepped
        exact Option.some.inj stepped ▸ kept
  | transcript sessionId segments rewrite =>
    cases process with
    | down disk => cases stepped
    | up store =>
      cases stepped
      refine ⟨kept.restartable.of_files rfl rfl rfl,
        kept.dated.transcribe sessionId segments rewrite, ?_⟩
      intro other same
      cases same
      exact (kept.up store rfl).imp (fun held => held.transcribe sessionId segments rewrite) id

theorem kept_empty (json : IndexJson) (parse : String → Option UtcTime) :
    IndexProcess.Kept json parse (.down .empty) :=
  .down (running_empty json parse).held.recorded.restartable (dated_empty json parse)

/-- However a compaction goes that an operation comes to, the files give the same index as before
it. -/
theorem compaction_reloads {steps : List IndexStep} {store mid : SessionIndexStore}
    {operation : IndexOperation} {due : Bool} (clean : ∀ step ∈ steps, step.Clean parse)
    (ran : run (IndexProcess.step json parse) (.down .empty) steps = some (.up store))
    (settles : ∀ stamp, operation.stamp parse now = some stamp → Renormalizes parse stamp)
    (begun : (operation.body json parse now).run answers store = (.value due, mid))
    (later : UtcTime) (cuts : CallSite → CallAnswer) :
    reload json parse ((maybeCompact json later).run cuts mid).2.disk =
      reload json parse mid.disk := by
  have kept := run_invariant step_kept (kept_empty json parse) (Meets.of_inputs clean) ran
  rcases kept.up store rfl with held | halted
  · let entries := operation.applied parse now store.entries
    have unique : UniqueIds entries := IndexOperation.unique_applied held.unique operation
    have descending : Descending entries :=
      IndexOperation.descending_applied held.unique held.descending operation
    have bodies : Triple answers (Midway json parse store.entries store.entries)
      (operation.body json parse now) _ := body_triple operation held.unique held.descending settles
    have midway := bodies store held.midway
    rw [begun] at midway
    have compacts : Triple cuts (Midway json parse entries entries) (maybeCompact json later)
        (.always (Agreeing json parse entries)) :=
      (maybeCompact_triple unique).mono (fun _ _ => Midway.agreeing) (fun _ _ => id) fun _ => id
    have after := (compacts.always_run midway).recorded.indexed.reload unique descending
    exact after.trans (midway.recorded.indexed.reload unique descending).symm
  · rw [body_refused operation halted] at begun
    cases begun

theorem step_value {operation : IndexOperation}
    (ran : (operation.perform json parse now).run answers store = (.value (), next)) :
    IndexProcess.step json parse (.up store) (.operation operation now answers) =
      some (.up next) := by
  simp only [IndexProcess.step, ran]

theorem step_failed {operation : IndexOperation} {error : IndexError}
    (ran : (operation.perform json parse now).run answers store = (.failed error, next)) :
    IndexProcess.step json parse (.up store) (.operation operation now answers) =
      some (.up next) := by
  simp only [IndexProcess.step, ran]

theorem step_first_start : IndexProcess.step json parse (.down .empty)
    (.restart [] now proceeding) = some (.up (closedStore .empty)) := by
  simp only [IndexProcess.step, IndexProcess.disk, new_empty]

theorem untorn_proceeding : Untorn proceeding := ⟨nofun, nofun, nofun⟩

theorem compaction_reloads_first : ∃ store mid,
    Shared.run (IndexProcess.step indexTexts readTimes) (.down .empty)
        [.restart [] springTime proceeding] = some (.up store) ∧
      ((IndexOperation.create firstEntry).body indexTexts readTimes springTime).run proceeding
        store = (.value true, mid) ∧
      reload indexTexts readTimes
          ((maybeCompact indexTexts springTime).run (cutAt .removeBak (.stops 0)) mid).2.disk =
        reload indexTexts readTimes mid.disk := by
  have opened : Shared.run (IndexProcess.step indexTexts readTimes) (.down .empty)
      [.restart [] springTime proceeding] = some (.up (closedStore .empty)) :=
    run_cons step_first_start []
  obtain ⟨mid, begun, -⟩ := @create_runs indexTexts readTimes springTime (closedStore .empty)
    firstEntry _ rfl renormalizes_spring rfl
  refine ⟨closedStore .empty, mid, opened, begun, ?_⟩
  apply compaction_reloads _ opened (settles_first proceeding) begun
  intro step listed
  obtain rfl := List.mem_singleton.mp listed
  exact ⟨trivial, untorn_proceeding⟩

def secondEntry : IndexSessionEntry := { firstEntry with sessionId := "sess_2" }

def longTitle : String := String.ofList (List.replicate compactMaxBytes 'a')

def retitledEntry : IndexSessionEntry :=
  { firstEntry with title := some longTitle, updatedAt := formatUtcMillis springTime }

def unsyncedRecords : List SessionIndexLogRecord :=
  [upsertRecord springTime firstEntry, upsertRecord springTime retitledEntry,
    upsertRecord springTime secondEntry]

theorem settled_unsynced : ∀ record ∈ unsyncedRecords, SettledRecord readTimes record := by
  have settled (entry : IndexSessionEntry) (spring : entry.updatedAt = springText) :
      SettledRecord readTimes (upsertRecord springTime entry) :=
    settled_upsertRecord (spring ▸ renormalizes_spring)
  simp only [unsyncedRecords, List.mem_cons, List.not_mem_nil, or_false, forall_eq_or_imp,
    forall_eq]
  exact ⟨settled _ rfl, settled _ formatUtcMillis_spring, settled _ rfl⟩

theorem long_unsynced : compactMaxBytes ≤ (written indexTexts unsyncedRecords).length := by
  have title : longTitle.length = compactMaxBytes := by
    rw [longTitle, String.length_ofList, List.length_replicate]
  have line := @title_le_line (upsertRecord springTime retitledEntry) retitledEntry longTitle rfl rfl
  simp only [written, unsyncedRecords, List.flatMap_cons, List.length_append]
  omega

theorem unique_both : UniqueIds [secondEntry, firstEntry] := by
  rw [UniqueIds]
  decide

theorem descending_both : Descending [secondEntry, firstEntry] := by
  rw [Descending]
  decide

theorem compaction_forgets {mid : SessionIndexStore} (snapshot : mid.disk.snapshot = none)
    (log : mid.disk.log = some (written json unsyncedRecords))
    (long : compactMaxBytes ≤ (written json unsyncedRecords).length)
    (entries : mid.entries = [secondEntry, firstEntry]) :
    reload json readTimes
        ((maybeCompact json now).run (cutAt .removeBak (.stops 0)) mid).2.disk ≠
      reload json readTimes mid.disk := by
  have unique : UniqueIds mid.entries := entries ▸ unique_both
  have descending : Descending mid.entries := entries ▸ descending_both
  have settled : ∀ entry ∈ mid.entries, Renormalizes readTimes entry.updatedAt := by
    rw [entries]
    simp only [List.mem_cons, List.not_mem_nil, or_false, forall_eq_or_imp, forall_eq]
    exact ⟨renormalizes_spring, renormalizes_spring⟩
  have due : compactionDue.run (cutAt .removeBak (.stops 0)) mid = (.value true, mid) := by
    rw [compactionDue_runs rfl rfl log (countLogLines_written _)]
    simp [Nat.not_lt.mpr long]
  have there : mid.disk.log.isSome := by rw [log]; rfl
  obtain ⟨next, stopped, compacted, emptied⟩ := @compact_stopped json now mid there
  have ran : ((maybeCompact json now).run (cutAt .removeBak (.stops 0)) mid).2 = next := by
    simp only [maybeCompact, bind, due, if_true, stopped]
  have after : reload json readTimes next.disk = .ok mid.entries := by
    have indexed : Indexed json readTimes next.disk mid.entries := by
      apply indexed_snapshot unique settled compacted
      rw [emptied, Option.getD_some]
    exact indexed.reload unique descending
  have before : reload json readTimes mid.disk =
      .ok (sortEntriesDesc (replay unsyncedRecords [])) := by
    have indexing : Indexing json readTimes mid.disk (replay unsyncedRecords []) []
        unsyncedRecords :=
      ⟨.inl ⟨snapshot, rfl⟩, .inr log, List.nodup_nil, by simp, settled_unsynced, fun _ => rfl⟩
    rw [reload, indexing.load]
    rfl
  rw [ran, after, before]
  intro same
  have listed : firstEntry ∈ replay unsyncedRecords [] := by
    apply (sortEntriesDesc_perm _).subset
    rw [← Except.ok.inj same, entries]
    simp
  simp [unsyncedRecords, effect, upsertRecord, upsertEntry, firstEntry, retitledEntry, secondEntry]
    at listed

theorem sortEntriesDesc_singleton (entry : IndexSessionEntry) : sortEntriesDesc [entry] = [entry] :=
  List.mergeSort_singleton entry

theorem compaction_forgets_record : ∃ store mid,
    Shared.run (IndexProcess.step indexTexts readTimes) (.down .empty)
        [.restart [] springTime proceeding,
          .operation (.create firstEntry) springTime proceeding,
          .operation (.setTitle "sess_1" (some longTitle)) springTime
            (cutAt (.newline .operation) (.fails 1))] = some (.up store) ∧
      ((IndexOperation.create secondEntry).body indexTexts readTimes springTime).run proceeding
        store = (.value true, mid) ∧
      reload indexTexts readTimes
          ((maybeCompact indexTexts springTime).run (cutAt .removeBak (.stops 0)) mid).2.disk ≠
        reload indexTexts readTimes mid.disk := by
  have opened := @create_first (closedStore .empty) rfl rfl rfl
  obtain ⟨one, ranOne, created⟩ := opened
  have remembered : one.entries = [firstEntry] :=
    created.entries.trans (sortEntriesDesc_singleton firstEntry)
  have known : findEntry "sess_1" one.entries = some firstEntry := by
    rw [remembered]
    rfl
  have titled : ((IndexOperation.setTitle "sess_1" (some longTitle)).perform indexTexts readTimes
      springTime).run (cutAt (.newline .operation) (.fails 1)) one = _ :=
    setTitle_fails created.health known (append_unsynced one (upsertRecord springTime retitledEntry))
  let two := one.onDisk (·.extendLog
    (indexTexts.record.toVec (upsertRecord springTime retitledEntry) ++ [lineFeed]))
  have absent : two.disk.sessions.lookup secondEntry.sessionId = none :=
    created.others "sess_2" (by decide)
  have begins := @create_runs indexTexts readTimes springTime two secondEntry _
    created.health renormalizes_spring absent
  obtain ⟨mid, begun, last⟩ := begins
  refine ⟨two, mid, ?_, begun, ?_⟩
  · exact (run_cons step_first_start _).trans
      ((run_cons (step_value ranOne) _).trans (run_cons (step_failed titled) []))
  · have nothing : (closedStore .empty).disk.log.getD [] = written indexTexts [] := rfl
    have earlier := created.written nothing
    rw [List.nil_append] at earlier
    have log := last.written (written_extend earlier (upsertRecord springTime retitledEntry))
    have all : ([upsertRecord springTime firstEntry] ++ [upsertRecord springTime retitledEntry]) ++
        [upsertRecord springTime { secondEntry with updatedAt := springText }] =
      unsyncedRecords := rfl
    rw [all] at log
    have entries : mid.entries = [secondEntry, firstEntry] := by
      have added : upsertEntry secondEntry one.entries = [firstEntry, secondEntry] := by
        rw [remembered]
        rfl
      have all : mid.entries = sortEntriesDesc (upsertEntry secondEntry one.entries) := last.entries
      rw [all, added]
      exact sortEntriesDesc_eq (.swap secondEntry firstEntry []) descending_both unique_both
    exact compaction_forgets (last.snapshot.trans created.snapshot) log long_unsynced entries

end OpenJax.Transcript
