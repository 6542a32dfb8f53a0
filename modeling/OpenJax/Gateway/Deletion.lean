import OpenJax.Gateway.SessionTasks
import OpenJax.Transcript.IndexAbsence

set_option autoImplicit false

namespace OpenJax.Gateway

open Shared FaultProgram Transcript SessionIndexStore SessionManager SessionServer TaskSystem

variable {texts : FailureTexts} {json : IndexJson} {parse : String → Option UtcTime}

structure Vacant (sessionId : String) (manager : SessionManager) : Prop where
  runtime : manager.sessions.lookup sessionId = none
  lacks : Lacks sessionId manager.index

def Listed (sessionId : String) (manager : SessionManager) : Prop :=
  (findEntry sessionId manager.index.entries).isSome

instance (sessionId : String) (manager : SessionManager) : Decidable (Listed sessionId manager) := by
  unfold Listed
  infer_instance

variable {manager : SessionManager}

theorem Vacant.apart {sessionId other : String} (vacant : Vacant sessionId manager)
    (there : Listed other manager) : sessionId ≠ other := by
  intro same
  rw [Listed, ← same, vacant.lacks.entry] at there
  cases there

/-- The session that the task has found nothing of: it is about to be created, or it is gone from
the index in its deletion. -/
def SessionTask.vacates : SessionTask → Option String
  | .createEntry sessionId _ => some sessionId
  | .deleteRow sessionId _ => some sessionId
  | .restoreEntry sessionId .. => some sessionId
  | _ => none

/-- A task that has looked the session up before it writes for it finds it in the index still, and
the entry of a session goes when its runtime is away. -/
def SessionTask.Careful (manager : SessionManager) : SessionTask → TaskInput → Prop
  | .insert sessionId _, .go _ => manager.sessions.lookup sessionId = none → Listed sessionId manager
  | .insertNew sessionId _, .go _ => Listed sessionId manager
  | .deleteEntry sessionId _, .go _ => manager.sessions.lookup sessionId = none
  | .hold _, .publish .refused => True
  | .hold sessionId, .publish _ => Listed sessionId manager
  | _, _ => True

def vacated (pool : Pool SessionServer SessionTask) : List String :=
  pool.tasks.filterMap SessionTask.vacates ++ pool.shared.deleted

def CarefulStep (pool : Pool SessionServer SessionTask) :
    PoolInput SessionRequest TaskInput → Prop
  | .start (.create sessionId _) =>
      Vacant sessionId pool.shared.manager ∧ sessionId ∉ vacated pool
  | .start _ => True
  | .advance index input =>
      ∀ task ∈ pool.tasks[index]?, task.Careful pool.shared.manager input

/-- The session of the task stays away if it is among those gained, and so do all others. -/
structure MovesAway (before after : SessionManager) (held : Option String) (gained : List String) :
    Prop where
  kept : ∀ sessionId, Vacant sessionId before → (held = some sessionId → sessionId ∈ gained) →
    Vacant sessionId after
  gained : gained = [] ∨ ∃ sessionId, gained = [sessionId] ∧ (held = some sessionId ∨
    ¬ Vacant sessionId before ∧ Vacant sessionId after)

variable {held : Option String}

theorem moves_quiet {before after : SessionManager}
    (kept : ∀ sessionId, Vacant sessionId before → Vacant sessionId after) :
    MovesAway before after held [] :=
  ⟨fun sessionId vacant _ => kept sessionId vacant, .inl rfl⟩

theorem moves_on {before after : SessionManager} (sessionId : String) (own : held = some sessionId)
    (kept : ∀ sessionId, Vacant sessionId before → Vacant sessionId after) :
    MovesAway before after held [sessionId] :=
  ⟨fun other vacant _ => kept other vacant, .inr ⟨sessionId, rfl, .inl own⟩⟩

/-- A step of the task: the tasks that it goes on as, and the sessions that it has deleted. -/
def KeepsAway (server : SessionServer) (held : Option String) (next : SessionServer)
    (rest : List SessionTask) : Prop :=
  ∃ ended, next.deleted = ended ++ server.deleted ∧
    MovesAway server.manager next.manager held (rest.filterMap SessionTask.vacates ++ ended)

variable {server next : SessionServer}

theorem step_over {change : SessionManager → SessionManager} {rest continued : List SessionTask}
    (stepped : server.moveOn change continued = some (next, rest))
    (free : continued.filterMap SessionTask.vacates = [])
    (kept : ∀ sessionId, Vacant sessionId server.manager →
      Vacant sessionId (change server.manager)) :
    KeepsAway server held next rest := by
  cases stepped
  refine ⟨[], rfl, ?_⟩
  rw [free]
  exact moves_quiet kept

variable {failed : ApiError → List SessionTask}

theorem proceed_cases {α : Type} {outcome : Ending ApiError α × SessionManager}
    {value : α → List SessionTask} {rest : List SessionTask}
    (stepped : server.proceed outcome value failed = some (next, rest)) :
    (∃ found, outcome = (.value found, next.manager) ∧ rest = value found) ∧
        next.deleted = server.deleted ∨
      (∃ error, outcome = (.failed error, next.manager) ∧ rest = failed error) ∧
        next.deleted = server.deleted := by
  match outcome with
  | (.value found, manager) =>
    cases stepped
    exact .inl ⟨⟨found, rfl, rfl⟩, rfl⟩
  | (.failed error, manager) =>
    cases stepped
    exact .inr ⟨⟨error, rfl, rfl⟩, rfl⟩
  | (.stopped, manager) => cases stepped

theorem step_proceed {α : Type} {program : SessionProgram α} {answers : SessionCall → CallAnswer}
    {value : α → List SessionTask} {rest : List SessionTask}
    (stepped : server.proceed (program.run answers server.manager) value failed =
      some (next, rest)) (free : ∀ found, (value found).filterMap SessionTask.vacates = [])
    (fails : ∀ error, (failed error).filterMap SessionTask.vacates = [])
    (kept : ∀ sessionId, held ≠ some sessionId → Triple answers (Vacant sessionId) program
      ⟨fun _ => Vacant sessionId, fun _ => Vacant sessionId, fun _ => True⟩) :
    KeepsAway server held next rest := by
  refine ⟨[], ?_, ?_⟩
  · rcases proceed_cases stepped with ⟨-, same⟩ | ⟨-, same⟩
    · exact same
    · exact same
  have none : rest.filterMap SessionTask.vacates = [] := by
    rcases proceed_cases stepped with ⟨⟨found, -, rfl⟩, -⟩ | ⟨⟨error, -, rfl⟩, -⟩
    · exact free found
    · exact fails error
  rw [none]
  refine ⟨?_, .inl rfl⟩
  intro sessionId vacant apart
  have ended := kept sessionId (fun own => List.not_mem_nil (apart own)) server.manager vacant
  rcases proceed_cases stepped with ⟨⟨found, ran, -⟩, -⟩ | ⟨⟨error, ran, -⟩, -⟩
  · rw [ran] at ended
    exact ended
  · rw [ran] at ended
    exact ended

section Programs

variable {answers : SessionCall → CallAnswer} {sessionId : String}

def vacantEnds (α : Type) (sessionId : String) : Ends SessionManager ApiError α :=
  ⟨fun _ => Vacant sessionId, fun _ => Vacant sessionId, fun _ => True⟩

theorem onIndex_vacant {site : CallSite → SessionCall} {wrap : IndexError → ApiError}
    {program : IndexProgram Unit}
    (keeps : Triple (answers ∘ site) (Lacks sessionId) program (lackEnds Unit sessionId)) :
    Triple answers (Vacant sessionId) (onIndex site wrap program) (vacantEnds Unit sessionId) := by
  intro manager vacant
  have ended := keeps manager.index vacant.lacks
  simp only [onIndex, within]
  generalize program.run (answers ∘ site) manager.index = outcome at ended ⊢
  obtain ⟨ending, index⟩ := outcome
  cases ending with
  | value => exact ⟨vacant.runtime, ended⟩
  | failed => exact ⟨vacant.runtime, ended⟩
  | stopped => trivial

theorem performOnIndex_vacant {now : UtcTime} (operation : IndexOperation)
    (other : ∀ entry, operation = .create entry → entry.sessionId ≠ sessionId) :
    Triple answers (Vacant sessionId) (performOnIndex texts json parse now operation)
      (vacantEnds Unit sessionId) :=
  onIndex_vacant (perform_lacks operation other)

theorem deleteEntry_vacant {site : CallSite → SessionCall} {wrap : IndexError → ApiError}
    {now : UtcTime} (deleted : String) :
    Triple answers (Vacant sessionId) (onIndex site wrap (deleteSessionIndexEntry json now deleted))
      (vacantEnds Unit sessionId) := by
  have performs : Triple (answers ∘ site) (Lacks sessionId)
      ((IndexOperation.delete deleted).perform json (fun _ => none) now) (lackEnds Unit sessionId) :=
    perform_lacks _ nofun
  exact onIndex_vacant performs

theorem createRow_vacant (created : String) :
    Triple answers (Vacant sessionId) (SessionManager.createRow texts created)
      (vacantEnds Unit sessionId) := by
  apply triple_call
  · intro manager value next _ vacant done
    split_ifs at done
    cases Except.ok.inj done
    exact ⟨vacant.runtime, vacant.lacks⟩
  · exact fun _ _ vacant _ => vacant
  · intro manager done _ vacant
    show Vacant sessionId (if done = 0 then manager else _)
    split_ifs
    · exact vacant
    · exact ⟨vacant.runtime, vacant.lacks⟩
  · exact fun _ _ _ _ => trivial

theorem deleteRow_vacant (deleted : String) :
    Triple answers (Vacant sessionId) (SessionManager.deleteRow texts deleted)
      (vacantEnds Unit sessionId) := by
  apply triple_atomicCall
  · intro manager value next vacant done
    cases Except.ok.inj done
    exact ⟨vacant.runtime, vacant.lacks⟩
  · exact fun _ _ => id
  · exact fun _ _ => trivial

theorem buildRuntime_vacant (stored : StoredSession) :
    Triple answers (Vacant sessionId) (buildRuntime texts stored)
      (vacantEnds SessionRuntime sessionId) :=
  triple_quietCall (fun _ _ vacant _ => vacant) (fun _ _ => id) fun _ _ => trivial

end Programs

section Steps

variable {server next : SessionServer} {rest : List SessionTask} {moment : Moment}

theorem Vacant.insert {sessionId other : String} {manager : SessionManager}
    (vacant : Vacant sessionId manager) (there : Listed other manager)
    (runtime : SessionRuntime) : Vacant sessionId (insertRuntime other runtime manager) := by
  refine ⟨?_, vacant.lacks⟩
  rw [insertRuntime, Table.lookup_insert_eq, if_neg (vacant.apart there)]
  exact vacant.runtime

theorem Vacant.transcribe {sessionId other : String} {manager : SessionManager}
    (vacant : Vacant sessionId manager) (there : Listed other manager) (segments : Bool)
    (rewrite : Option ManifestRewrite) :
    Vacant sessionId (manager.transcribe json other segments rewrite) := by
  refine ⟨vacant.runtime, vacant.lacks.entry, ?_⟩
  simp only [SessionManager.transcribe, SessionIndexStore.onDisk, IndexDisk.transcribe,
    Table.lookup_insert_eq, if_neg (vacant.apart there)]
  exact vacant.lacks.directory

variable {task : SessionTask}

theorem advanceLookup_step (careful : task.Careful server.manager (.go moment))
    (stepped : server.advanceLookup texts moment task = some (next, rest)) :
    KeepsAway server task.vacates next rest := by
  cases task with
  | lookUp sessionId =>
    simp only [advanceLookup] at stepped
    split at stepped
    · exact step_over stepped rfl fun _ => id
    · exact step_over stepped rfl fun _ => id
  | checkIndex sessionId =>
    simp only [advanceLookup] at stepped
    split at stepped
    · exact step_over stepped rfl fun _ => id
    · exact step_over stepped rfl fun _ => id
  | build sessionId =>
    exact step_proceed stepped (fun _ => rfl) (fun _ => rfl) fun _ _ => buildRuntime_vacant _
  | insert sessionId runtime =>
    simp only [advanceLookup] at stepped
    split at stepped
    · exact step_over stepped rfl fun _ => id
    next missing =>
      have there := careful (Option.not_isSome_iff_eq_none.mp missing)
      exact step_over stepped rfl fun _ vacant => vacant.insert there runtime
  | _ => cases stepped

theorem advanceRefresh_step
    (stepped : server.advanceRefresh texts json parse moment task = some (next, rest)) :
    KeepsAway server task.vacates next rest := by
  cases task with
  | readPreview sessionId refresh => exact step_over stepped rfl fun _ => id
  | refreshTitle sessionId refresh =>
    simp only [advanceRefresh] at stepped
    split at stepped
    · exact step_over stepped rfl fun _ => id
    next title _ =>
      exact step_proceed stepped (fun _ => rfl) (fun _ => rfl) fun _ _ =>
        performOnIndex_vacant _ nofun
  | touch sessionId refresh =>
    exact step_proceed stepped (fun _ => rfl) (fun _ => rfl) fun _ _ =>
      performOnIndex_vacant _ nofun
  | _ => cases stepped

theorem advanceCreation_step (careful : task.Careful server.manager (.go moment))
    (stepped : server.advanceCreation texts json parse moment task = some (next, rest)) :
    KeepsAway server task.vacates next rest := by
  cases task with
  | createEntry sessionId created =>
    apply step_proceed stepped (fun _ => rfl) (fun _ => rfl)
    intro other apart
    apply performOnIndex_vacant
    rintro entry ⟨⟩
    exact fun own => apart (congrArg some own)
  | createRow sessionId =>
    exact step_proceed stepped (fun _ => rfl) (fun _ => rfl) fun _ _ => createRow_vacant _
  | takeBack sessionId storeErr =>
    apply step_proceed stepped (fun _ => rfl) (fun _ => rfl)
    intro other _
    exact Triple.bind (fun _ => Vacant other) (deleteEntry_vacant sessionId) fun _ =>
      triple_fail fun _ => id
  | buildNew sessionId =>
    exact step_proceed stepped (fun _ => rfl) (fun _ => rfl) fun _ _ => buildRuntime_vacant _
  | insertNew sessionId runtime =>
    exact step_over stepped rfl fun _ vacant => vacant.insert careful runtime
  | _ => cases stepped

theorem deleteEntry_step {sessionId : String} {snapshot : Option (EntrySnapshot sessionId)}
    (careful : server.manager.sessions.lookup sessionId = none)
    (stepped : server.advanceDeletion texts json parse moment (.deleteEntry sessionId snapshot) =
      some (next, rest)) : KeepsAway server none next rest := by
  simp only [advanceDeletion] at stepped
  have others (other : String) (vacant : Vacant other server.manager) :=
    @performOnIndex_vacant texts json parse moment.answers other moment.now (.delete sessionId)
      (by rintro _ ⟨⟩) server.manager vacant
  have deletes := @deleteSessionIndexEntry_lacks json (moment.answers ∘ .index) moment.now sessionId
    server.manager.index server.manager.index rfl
  rcases proceed_cases stepped with ⟨⟨_, ran, rfl⟩, same⟩ | ⟨⟨_, ran, rfl⟩, same⟩
  · refine ⟨[], same, ?_⟩
    simp only [ran] at others
    refine ⟨fun other vacant _ => others other vacant, .inr ⟨sessionId, rfl, .inr ?_⟩⟩
    simp only [performOnIndex, onIndex, within, IndexOperation.perform] at ran
    generalize (deleteSessionIndexEntry json moment.now sessionId).run (moment.answers ∘ .index)
      server.manager.index = outcome at ran deletes
    obtain ⟨ending, index⟩ := outcome
    cases ending with
    | value =>
      obtain ⟨there, lacks⟩ := deletes
      obtain ⟨-, changed⟩ := Prod.mk.inj ran
      constructor
      · intro vacant
        rw [vacant.lacks.directory] at there
        cases there
      · rw [← changed]
        exact ⟨careful, lacks⟩
    | failed => cases ran
    | stopped => cases ran
  · refine ⟨[], same, ?_⟩
    simp only [ran] at others
    exact moves_quiet others

theorem advanceDeletion_step (careful : task.Careful server.manager (.go moment))
    (stepped : server.advanceDeletion texts json parse moment task = some (next, rest)) :
    KeepsAway server task.vacates next rest := by
  cases task with
  | remove sessionId =>
    simp only [advanceDeletion] at stepped
    apply step_over stepped rfl
    intro other vacant
    refine ⟨?_, vacant.lacks⟩
    rw [Table.lookup_erase_eq, vacant.runtime, ite_self]
  | clearOverlay sessionId =>
    simp only [advanceDeletion] at stepped
    exact step_over stepped rfl fun _ vacant => ⟨vacant.runtime, vacant.lacks⟩
  | findSnapshot sessionId => exact step_over stepped rfl fun _ => id
  | deleteEntry sessionId snapshot => exact deleteEntry_step careful stepped
  | deleteRow sessionId snapshot =>
    have others (other : String) (vacant : Vacant other server.manager) :=
      @deleteRow_vacant texts moment.answers other sessionId server.manager vacant
    simp only [advanceDeletion] at stepped
    split at stepped
    next manager ran =>
      cases stepped
      simp only [ran] at others
      exact ⟨[sessionId], rfl, moves_on sessionId rfl others⟩
    next storeErr manager ran =>
      cases stepped
      simp only [ran] at others
      refine ⟨[], rfl, ?_⟩
      cases snapshot with
      | none => exact moves_quiet others
      | some snapshot => exact moves_on sessionId rfl others
    · cases stepped
  | restoreEntry sessionId snapshot storeErr =>
    apply step_proceed stepped (fun _ => rfl) (fun _ => rfl)
    intro other apart
    have creates : Triple (moment.answers ∘ .rollback) (Lacks other)
        ((IndexOperation.create snapshot.entry).perform json parse moment.now)
        (lackEnds Unit other) := by
      apply perform_lacks
      rintro entry ⟨⟩ own
      exact apart (congrArg some (snapshot.own.symm.trans own))
    exact onIndex_vacant creates
  | _ => cases stepped

theorem advance_step {input : TaskInput} (careful : task.Careful server.manager input)
    (stepped : server.advance texts json parse task input = some (next, rest)) :
    KeepsAway server task.vacates next rest := by
  cases input with
  | go moment =>
    cases task with
    | lookUp | checkIndex | build | insert =>
      exact @advanceLookup_step texts server next rest moment _ careful stepped
    | hold => exact step_over stepped rfl fun _ => id
    | readPreview | refreshTitle | touch =>
      exact @advanceRefresh_step texts json parse server next rest moment _ stepped
    | createEntry | createRow | takeBack | buildNew | insertNew =>
      exact @advanceCreation_step texts json parse server next rest moment _ careful stepped
    | remove | clearOverlay | findSnapshot | deleteEntry | deleteRow | restoreEntry =>
      exact @advanceDeletion_step texts json parse server next rest moment _ careful stepped
    | failed => cases stepped
  | publish append =>
    cases task with
    | hold sessionId =>
      cases append with
      | refused => exact step_over stepped rfl fun _ => id
      | torn segments rewrite =>
        exact step_over stepped rfl fun _ vacant => vacant.transcribe careful segments rewrite
      | persisted rewrite refresh =>
        exact step_over stepped rfl fun _ vacant => vacant.transcribe careful true _
    | _ => cases stepped
  | spawn =>
    cases task with
    | hold sessionId => exact step_over stepped rfl fun _ => id
    | _ => cases stepped

end Steps

/-- No two tasks or deletions are of one session that is away, and nothing is there of it. -/
structure Away (pool : Pool SessionServer SessionTask) : Prop where
  alone : (vacated pool).Nodup
  vacant : ∀ sessionId ∈ vacated pool, Vacant sessionId pool.shared.manager

variable {pool next : Pool SessionServer SessionTask}

theorem away_start {request : SessionRequest} (away : Away pool)
    (careful : CarefulStep pool (.start request))
    (stepped : (sessionSystem texts json parse).step pool (.start request) = some next) :
    Away next := by
  cases stepped
  have free (task : SessionTask) (none : task.vacates = none) :
      Away ⟨pool.shared, pool.tasks ++ [task]⟩ := by
    have same : vacated ⟨pool.shared, pool.tasks ++ [task]⟩ = vacated pool := by
      simp [vacated, none]
    exact ⟨same ▸ away.alone, same ▸ away.vacant⟩
  cases request with
  | get sessionId => exact free (.lookUp sessionId) rfl
  | delete sessionId => exact free (.remove sessionId) rfl
  | create sessionId created =>
    have order : (pool.tasks.filterMap SessionTask.vacates ++ [sessionId] ++
        pool.shared.deleted).Perm (sessionId :: vacated pool) := by
      rw [vacated, List.append_assoc]
      exact List.perm_middle
    have moved : (vacated ⟨pool.shared, pool.tasks ++ [.createEntry sessionId created]⟩).Perm
        (sessionId :: vacated pool) := by
      simp only [vacated, List.filterMap_append]
      exact order
    constructor
    · exact moved.nodup_iff.mpr (List.nodup_cons.mpr ⟨careful.2, away.alone⟩)
    · intro other among
      rcases List.mem_cons.mp (moved.mem_iff.mp among) with rfl | before
      · exact careful.1
      · exact away.vacant other before

theorem away_advance {index : Nat} {input : TaskInput} (away : Away pool)
    (careful : CarefulStep pool (.advance index input))
    (stepped : (sessionSystem texts json parse).step pool (.advance index input) = some next) :
    Away next := by
  obtain ⟨task, shared, rest, chosen, advanced, rfl⟩ := step_advance stepped
  obtain ⟨ended, deleted, moves⟩ := advance_step (careful task chosen) advanced
  let others := (pool.tasks.eraseIdx index).filterMap SessionTask.vacates ++ pool.shared.deleted
  let gained := rest.filterMap SessionTask.vacates ++ ended
  have before : (task.vacates.toList ++ others).Perm (vacated pool) := by
    have tasks := (perm_eraseIdx chosen).filterMap SessionTask.vacates
    cases held : task.vacates with
    | none =>
      rw [List.filterMap_cons_none held] at tasks
      exact tasks.append_right _
    | some sessionId =>
      rw [List.filterMap_cons_some held] at tasks
      exact tasks.append_right _
  have after : (vacated ⟨shared, pool.tasks.eraseIdx index ++ rest⟩).Perm (gained ++ others) := by
    simp only [vacated, deleted, List.filterMap_append, others, gained]
    rw [List.perm_iff_count]
    intro sessionId
    simp only [List.count_append]
    omega
  have alone := before.nodup_iff.mpr away.alone
  have vacant : ∀ sessionId ∈ others, Vacant sessionId pool.shared.manager := fun sessionId among =>
    away.vacant sessionId (before.mem_iff.mp (List.mem_append_right _ among))
  have notHeld : ∀ sessionId ∈ others, task.vacates ≠ some sessionId := by
    intro sessionId among held
    rw [held] at alone
    exact (List.nodup_cons.mp alone).1 among
  have kept : ∀ sessionId ∈ others, Vacant sessionId shared.manager := fun sessionId among =>
    moves.kept sessionId (vacant sessionId among) fun held => absurd held (notHeld sessionId among)
  have rested : others.Nodup := (List.nodup_append.mp alone).2.1
  rcases moves.gained with none | ⟨sessionId, one, taken⟩
  · have same : gained ++ others = others := by
      rw [show gained = [] from none, List.nil_append]
    rw [same] at after
    exact ⟨after.nodup_iff.mpr rested, fun other among => kept other (after.mem_iff.mp among)⟩
  · have same : gained ++ others = sessionId :: others := by
      rw [show gained = [sessionId] from one, List.singleton_append]
    rw [same] at after
    have fresh : sessionId ∉ others ∧ Vacant sessionId shared.manager := by
      rcases taken with held | ⟨there, gone⟩
      · have own : sessionId ∈ vacated pool := by
          rw [← before.mem_iff, held]
          exact List.mem_cons_self
        refine ⟨fun among => notHeld sessionId among held, ?_⟩
        exact moves.kept sessionId (away.vacant sessionId own) fun _ => one ▸ List.mem_cons_self
      · exact ⟨fun among => there (vacant sessionId among), gone⟩
    constructor
    · exact after.nodup_iff.mpr (List.nodup_cons.mpr ⟨fresh.1, rested⟩)
    · intro other among
      rcases List.mem_cons.mp (after.mem_iff.mp among) with rfl | later
      · exact fresh.2
      · exact kept other later

theorem away_preserved : Preserves (sessionSystem texts json parse).step CarefulStep Away := by
  intro pool input next away careful stepped
  cases input with
  | start request => exact away_start away careful stepped
  | advance index input => exact away_advance away careful stepped

def openServer (manager : SessionManager) : Pool SessionServer SessionTask := ⟨⟨manager, []⟩, []⟩

theorem away_open (manager : SessionManager) : Away (openServer manager) :=
  ⟨List.nodup_nil, nofun⟩

/-- Nothing has recreated the session, and a lookup of it answers that it is not found. -/
structure Gone (texts : FailureTexts) (json : IndexJson) (parse : String → Option UtcTime)
    (sessionId : String) (server : SessionServer) : Prop where
  runtime : server.manager.sessions.lookup sessionId = none
  directory : server.manager.index.disk.sessions.lookup sessionId = none
  lookedUp : ∀ moment, server.advance texts json parse (.lookUp sessionId) (.go moment) =
    some (server, [.checkIndex sessionId])
  notFound : ∀ moment, server.advance texts json parse (.checkIndex sessionId) (.go moment) =
    some (server, [.failed sessionId (sessionNotFound sessionId)])

theorem Vacant.gone {sessionId : String} {server : SessionServer}
    (vacant : Vacant sessionId server.manager) : Gone texts json parse sessionId server := by
  refine ⟨vacant.runtime, vacant.lacks.directory, ?_, ?_⟩
  all_goals intro moment
  · simp only [SessionServer.advance, advanceLookup, vacant.runtime, Option.isSome_none]
    rfl
  · simp only [SessionServer.advance, advanceLookup, vacant.lacks.entry, Option.isSome_none]
    rfl

/-- As long as the tasks are careful, a deletion that has returned success is final. -/
theorem deletion_final {manager : SessionManager}
    {inputs : List (PoolInput SessionRequest TaskInput)} {final : Pool SessionServer SessionTask}
    (careful : Meets (sessionSystem texts json parse).step CarefulStep (openServer manager) inputs)
    (ran : run (sessionSystem texts json parse).step (openServer manager) inputs = some final) :
    ∀ sessionId ∈ final.shared.deleted, Gone texts json parse sessionId final.shared := by
  intro sessionId deleted
  have away := run_invariant away_preserved (away_open manager) careful ran
  exact (away.vacant sessionId (List.mem_append_right _ deleted)).gone

theorem short_deletion :
    (written indexTexts [deleteRecord springTime "sess_1"]).length < compactMaxBytes := by
  have bytes := logRecordText.toVec_length_le (deleteRecord springTime "sess_1")
  have body : (logRecordText.body (deleteRecord springTime "sess_1")).length ≤ 1000 := by
    decide +kernel
  simp only [written, List.flatMap_cons, List.flatMap_nil, List.append_nil, List.length_append,
    List.length_singleton, compactMaxBytes, toVec_record]
  omega

theorem held_index_deletes : ∃ index, ((IndexOperation.delete "sess_1").perform indexTexts readTimes
    springTime).run proceeding heldManager.index = (.value (), index) := by
  have there : ((AList.singleton "sess_1" ⟨some [], none, some [], true⟩ :
      Table String SessionDirectory).lookup "sess_1").isSome = true := by decide
  have counted := @countLogLines_written indexTexts [deleteRecord springTime "sess_1"]
  have short := short_deletion
  have nothing : IndexDisk.empty.log.getD [] = [] := rfl
  simp only [written, List.flatMap_cons, List.flatMap_nil, List.append_nil] at counted short
  rw [List.length_append, List.length_singleton] at short
  simp [IndexOperation.perform, bind, FaultProgram.modify, FaultProgram.inspect,
    deleteSessionIndexEntry, deleteEntry, ensureWritable, heldManager, closedStore, pure,
    deleteKnown, appendLogRecordToPath, call, proceeding, removeSession, FaultProgram.attempt,
    maybeCompact, compactionDue, IndexDisk.extendLog, syncCall, quietCall, atomicCall, Except.map,
    removeMemoryEntry, there, nothing, counted, short, compactMaxLines, SessionIndexStore.onDisk]

def calmMoment : Moment := ⟨fun _ => .proceeds, springTime, ⟨0, 0, []⟩⟩

def heldDeletion : List (PoolInput SessionRequest TaskInput) :=
  .start (.delete "sess_1") :: List.replicate 5 (.advance 1 (.go calmMoment))

theorem held_deletion_returns (held : manager.index = heldManager.index) :
    ∃ index, run (sessionSystem noTexts indexTexts readTimes).step
        ⟨⟨manager, []⟩, [.hold "sess_1"]⟩ heldDeletion =
      some ⟨⟨{ index := index
               policy := manager.policy.clearSessionOverlay "sess_1"
               sessions := manager.sessions.erase "sess_1"
               rows := manager.rows.erase "sess_1" }, ["sess_1"]⟩, [.hold "sess_1"]⟩ := by
  obtain ⟨index, ran⟩ := held_index_deletes
  have calls : calmMoment.answers ∘ SessionCall.index = proceeding := rfl
  have now : calmMoment.now = springTime := rfl
  have row : calmMoment.answers .deleteRow = .proceeds := rfl
  refine ⟨index, ?_⟩
  simp [heldDeletion, List.replicate, Shared.run, TaskSystem.step, sessionSystem, SessionServer.launch,
    SessionServer.advance, advanceDeletion, moveOn, proceed, performOnIndex, onIndex, within, calls,
    now, held, ran, SessionManager.deleteRow, atomicCall, call, row]

def heldLookup : List (PoolInput SessionRequest TaskInput) :=
  .start (.get "sess_1") :: List.replicate 4 (.advance 0 (.go calmMoment))

theorem lookup_holds : ∃ runtime,
    run (sessionSystem noTexts indexTexts readTimes).step (openServer heldManager) heldLookup =
      some ⟨⟨insertRuntime "sess_1" runtime heldManager, []⟩, [.hold "sess_1"]⟩ := by
  have missing : heldManager.sessions.lookup "sess_1" = none := rfl
  have there : (findEntry "sess_1" heldManager.index.entries).isSome = true := by decide
  have built : calmMoment.answers .buildRuntime = .proceeds := rfl
  simp [heldLookup, List.replicate, Shared.run, TaskSystem.step, sessionSystem, SessionServer.launch,
    openServer, SessionServer.advance, advanceLookup, moveOn, proceed, buildRuntime, quietCall,
    atomicCall, call, Except.map, missing, there, built]
  exact ⟨_, rfl⟩

def lateEvent : PoolInput SessionRequest TaskInput :=
  .advance 0 (.publish (.persisted ⟨.newEmpty "sess_1" springText, 0⟩ ⟨none, springText, 1, none⟩))

theorem deleted_session_returns : ∃ final,
    run (sessionSystem noTexts indexTexts readTimes).step (openServer heldManager)
        (heldLookup ++ heldDeletion ++ [lateEvent]) = some final ∧
      "sess_1" ∈ final.shared.deleted ∧
      (final.shared.manager.index.disk.sessions.lookup "sess_1").isSome := by
  obtain ⟨runtime, looked⟩ := lookup_holds
  obtain ⟨index, deleted⟩ := @held_deletion_returns (insertRuntime "sess_1" runtime heldManager) rfl
  have before := (run_append looked heldDeletion).trans deleted
  refine ⟨_, (run_append before [lateEvent]).trans rfl, List.mem_singleton_self _, ?_⟩
  simp [SessionManager.transcribe, SessionIndexStore.onDisk, IndexDisk.transcribe]

theorem held_deletion_careful (held : manager.index = heldManager.index) :
    Meets (sessionSystem noTexts indexTexts readTimes).step CarefulStep
      ⟨⟨manager, []⟩, [.hold "sess_1"]⟩ heldDeletion := by
  obtain ⟨index, ran⟩ := held_index_deletes
  have calls : calmMoment.answers ∘ SessionCall.index = proceeding := rfl
  have now : calmMoment.now = springTime := rfl
  have row : calmMoment.answers .deleteRow = .proceeds := rfl
  simp [heldDeletion, List.replicate, Meets, CarefulStep, SessionTask.Careful, TaskSystem.step,
    sessionSystem, SessionServer.launch, SessionServer.advance, advanceDeletion, moveOn, proceed,
    performOnIndex, onIndex, within, calls, now, held, ran, SessionManager.deleteRow, atomicCall,
    call, row]

theorem lookup_careful : Meets (sessionSystem noTexts indexTexts readTimes).step CarefulStep
    (openServer heldManager) heldLookup := by
  have missing : heldManager.sessions.lookup "sess_1" = none := rfl
  have there : (findEntry "sess_1" heldManager.index.entries).isSome = true := by decide
  have built : calmMoment.answers .buildRuntime = .proceeds := rfl
  simp [heldLookup, List.replicate, Meets, CarefulStep, SessionTask.Careful, Listed, TaskSystem.step,
    sessionSystem, SessionServer.launch, openServer, SessionServer.advance, advanceLookup, moveOn,
    proceed, buildRuntime, quietCall, atomicCall, call, Except.map, missing, there, built]

theorem calm_deletion_final : ∃ final,
    run (sessionSystem noTexts indexTexts readTimes).step (openServer heldManager)
        (heldLookup ++ heldDeletion) = some final ∧
      "sess_1" ∈ final.shared.deleted ∧
      Gone noTexts indexTexts readTimes "sess_1" final.shared := by
  obtain ⟨runtime, looked⟩ := lookup_holds
  obtain ⟨index, deleted⟩ := @held_deletion_returns (insertRuntime "sess_1" runtime heldManager) rfl
  have ran := (run_append looked heldDeletion).trans deleted
  have careful := Meets.append lookup_careful looked (held_deletion_careful rfl)
  refine ⟨_, ran, List.mem_singleton_self _, ?_⟩
  exact deletion_final careful ran "sess_1" (List.mem_singleton_self _)

end OpenJax.Gateway
