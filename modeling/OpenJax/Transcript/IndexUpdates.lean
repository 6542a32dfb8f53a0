import OpenJax.Transcript.IndexHistory

set_option autoImplicit false

namespace OpenJax.Transcript

open Shared FaultProgram SessionIndexStore

def appendFails (answers : CallSite → CallAnswer) : Bool :=
  match answers (.record .operation), answers (.newline .operation) with
  | .fails _, _ | _, .fails _ => true
  | _, _ => false

inductive Attempt where
  | operation (operation : IndexOperation) (now : UtcTime) (answers : CallSite → CallAnswer)
  | restart (stale : List String) (now : UtcTime)

structure Tracked where
  store : SessionIndexStore
  known : String → Option IndexSessionEntry

def Tracked.step (json : IndexJson) (parse : String → Option UtcTime) (tracked : Tracked) :
    Attempt → Option Tracked
  | .operation operation now answers =>
      match (operation.perform json parse now).run answers tracked.store with
      | (.value (), next) => some ⟨next, operation.stores parse now tracked.known⟩
      | (.failed _, next) => if appendFails answers then some ⟨next, tracked.known⟩ else none
      | (.stopped, _) => none
  | .restart stale now =>
      match (new json parse now stale).run proceeding (closedStore tracked.store.disk) with
      | (.value (), next) => some ⟨next, tracked.known⟩
      | _ => none

def Tracked.empty : Tracked := ⟨closedStore .empty, fun _ => none⟩

def Attempt.Clean (parse : String → Option UtcTime) : Attempt → Prop
  | .operation requested now answers =>
      (∀ stamp, requested.stamp parse now = some stamp → Renormalizes parse stamp) ∧
        (∀ done, answers (.record .operation) = .fails done → done = 0) ∧
          ∀ done, answers (.newline .operation) ≠ .fails done
  | .restart .. => True

variable {json : IndexJson} {parse : String → Option UtcTime} {answers : CallSite → CallAnswer}
  {now : UtcTime}

section Unlogged

variable {origin : SessionIndexStore}

def Unchanged (json : IndexJson) (parse : String → Option UtcTime)
    (origin store : SessionIndexStore) : Prop :=
  Midway json parse origin.entries origin.entries store ∧
    store.disk.sessions = origin.disk.sessions ∧
      store.disk.repairMarker = origin.disk.repairMarker

def unloggedEnds {α : Type} (json : IndexJson) (parse : String → Option UtcTime)
    (origin : SessionIndexStore) (value : α → Prop) : Ends SessionIndexStore IndexError α :=
  ⟨fun found _ => value found, fun _ => Unchanged json parse origin, fun _ => True⟩

theorem append_unlogged (fails : appendFails answers)
    (whole : ∀ done, answers (.record .operation) = .fails done → done = 0)
    (synced : ∀ done, answers (.newline .operation) ≠ .fails done)
    (record : SessionIndexLogRecord) :
    Triple answers (Unchanged json parse origin) (appendLogRecordToPath json .operation record)
      (unloggedEnds json parse origin fun _ => False) := by
  have failed : answers (.record .operation) = .fails 0 := by
    cases first : answers (.record .operation) with
    | fails done => rw [whole done first]
    | _ =>
      cases second : answers (.newline .operation) with
      | fails done => exact absurd second (synced done)
      | _ => simp [appendFails, first, second] at fails
  apply Triple.bind fun _ _ => False
  · apply triple_call
    · intro store value next proceeds
      rw [failed] at proceeds
      cases proceeds
    · intro store refused _ done
      cases done
    · intro store done same unchanged
      rw [failed] at same
      cases same
      obtain ⟨midway, beside⟩ := unchanged
      rw [List.take_zero]
      exact ⟨⟨⟨midway.recorded.indexed.extend_nil, nofun⟩, midway.entries, midway.health⟩, beside⟩
    · exact fun _ _ _ _ => trivial
  · exact fun _ _ => False.elim

theorem stage_unlogged (entry : IndexSessionEntry) :
    Triple answers (Unchanged json parse origin) (stage json entry)
      (.always (Unchanged json parse origin)) := by
  let view (store : SessionIndexStore) :=
    (indexView store, store.disk.sessions, store.disk.repairMarker)
  have leaves : Leaves view (stage json entry) := leaves_stage (fun _ _ => rfl) entry
  apply leaves.triple
  intro store next same unchanged
  simp only [view, Prod.mk.injEq] at same
  obtain ⟨index, sessions, marker⟩ := same
  exact ⟨unchanged.1.of_view index, sessions.trans unchanged.2.1, marker.trans unchanged.2.2⟩

theorem perform_unlogged (fails : appendFails answers)
    (whole : ∀ done, answers (.record .operation) = .fails done → done = 0)
    (synced : ∀ done, answers (.newline .operation) ≠ .fails done) (operation : IndexOperation) :
    Triple answers (Unchanged json parse origin) (operation.perform json parse now)
      (unloggedEnds json parse origin fun _ => True) := by
  have appends (record : SessionIndexLogRecord) : Triple answers (Unchanged json parse origin)
      (appendLogRecordToPath json .operation record) _ :=
    append_unlogged fails whole synced record
  have bodies : Triple answers (Unchanged json parse origin) (operation.body json parse now)
      (unloggedEnds json parse origin fun due => due = false) := by
    apply IndexOperation.body_course
    · exact fun _ unchanged => unchanged.1.entries
    · exact fun _ _ => id
    · exact fun _ _ _ _ => rfl
    · intro entry normal _ _
      apply Triple.bind fun _ => Unchanged json parse origin
      · exact (stage_unlogged _).mono (fun _ _ => id) (fun _ _ => id) fun _ _ => trivial
      · intro _
        exact (appends _).bind _ fun _ _ => False.elim
    · intro context next mutate _ _ _ _
      exact (appends _).bind _ fun _ _ => False.elim
    · intro sessionId _
      exact (appends _).bind _ fun _ _ => False.elim
  rw [IndexOperation.perform_eq]
  apply Triple.bind _ bodies
  intro due
  apply triple_ite
  · intro isDue store notDue
    exact absurd (isDue.symm.trans notDue) (by decide)
  · exact fun _ => triple_pure fun _ _ => trivial

end Unlogged

section Succeeding

variable {fit : String → Prop} {sessions : String → Bool}

def valueEnds {α : Type} (value : α → SessionIndexStore → Prop) :
    Ends SessionIndexStore IndexError α :=
  ⟨value, fun _ _ => True, fun _ => True⟩

variable {α : Type}

theorem valued {pre : SessionIndexStore → Prop} {program : IndexProgram α}
    {ends : Ends SessionIndexStore IndexError α} (triple : Triple answers pre program ends) :
    Triple answers pre program (valueEnds ends.value) :=
  triple.mono (fun _ _ => id) (fun _ _ _ => trivial) fun _ _ => trivial

theorem anything (program : IndexProgram α) :
    Triple answers (fun _ => True) program (valueEnds fun _ _ => True) := by
  have known : Leaves (fun _ => ()) program := fun _ _ => rfl
  exact valued (known.triple (fun _ _ _ => id) answers)

def Valueless {α : Type} (answers : CallSite → CallAnswer) (program : IndexProgram α) : Prop :=
  Triple answers (fun _ => True) program (valueEnds fun _ _ => False)

theorem valueless_fail (error : IndexError) :
    Valueless answers (FaultProgram.fail error : IndexProgram α) :=
  triple_fail fun _ _ => trivial

theorem valueless_after {α β : Type} {first : IndexProgram β} {rest : β → IndexProgram α}
    (later : ∀ value, Valueless answers (rest value)) : Valueless answers (first >>= rest) :=
  Triple.bind (fun _ _ => True) (anything first) later

theorem Valueless.triple {program : IndexProgram α} (valueless : Valueless answers program)
    {pre : SessionIndexStore → Prop} {value : α → SessionIndexStore → Prop} :
    Triple answers pre program (valueEnds value) := by
  apply (valueless.strengthen fun _ _ => trivial).mono_value
  exact fun _ _ => False.elim

variable (sessionId : String)

theorem valueless_compensateCreate (publishErr : IndexError) :
    Valueless answers (compensateCreate json now sessionId publishErr) := by
  apply valueless_after
  intro outcome
  cases outcome with
  | error _ => exact valueless_after fun _ => valueless_fail _
  | ok _ => exact valueless_after fun _ => valueless_after fun _ => valueless_fail _

theorem valueless_compensateDelete (original : Option IndexSessionEntry) (removeErr : IndexError) :
    Valueless answers (compensateDelete json now original removeErr) := by
  cases original with
  | none => exact valueless_fail _
  | some entry =>
    apply valueless_after
    intro outcome
    cases outcome with
    | error _ => exact valueless_after fun _ => valueless_fail _
    | ok _ => exact valueless_after fun _ => valueless_fail _

def Unmarked (store : SessionIndexStore) : Prop := store.disk.repairMarker = false

theorem beside_unmarked {program : IndexProgram α}
    (leaves : Leaves (fun store => store.disk.repairMarker) program) :
    Triple answers Unmarked program (valueEnds fun _ => Unmarked) :=
  valued (leaves.triple (fun _ _ same unmarked => same.trans unmarked) answers)

theorem markerApart : SessionsApart fun store => store.disk.repairMarker := fun _ _ _ => rfl

theorem append_unmarked (purpose : LogPurpose) (record : SessionIndexLogRecord) :
    Triple answers Unmarked (appendLogRecordToPath json purpose record)
      (valueEnds fun _ => Unmarked) :=
  beside_unmarked (leaves_append fun _ _ => rfl)

theorem createNormalized_unmarked (entry : IndexSessionEntry) :
    Triple answers Unmarked (createNormalized json now entry)
      (valueEnds fun _ => Unmarked) := by
  apply Triple.bind _ (beside_unmarked (leaves_stage markerApart.staging entry))
  intro _
  apply Triple.bind _ (append_unmarked _ _)
  intro _
  apply Triple.bind fun _ => Unmarked
  · exact triple_modify fun _ => id
  · intro _
    apply Triple.tried (fun _ => Unmarked) fun _ _ => True
    · exact beside_unmarked (leaves_publish markerApart _)
    · exact fun _ => triple_pure fun _ => id
    · exact fun _ => (valueless_compensateCreate _ _).triple

theorem deleteKnown_unmarked (original : Option IndexSessionEntry) :
    Triple answers Unmarked (deleteKnown json now sessionId original)
      (valueEnds fun _ => Unmarked) := by
  apply Triple.bind _ (append_unmarked _ _)
  intro _
  apply Triple.bind fun _ => Unmarked
  · exact triple_modify fun _ => id
  · intro _
    apply Triple.tried (fun _ => Unmarked) fun _ _ => True
    · exact beside_unmarked (leaves_removeSession markerApart _)
    · exact fun _ => triple_pure fun _ => id
    · exact fun _ => (valueless_compensateDelete _ _).triple

theorem writeSessionMetadata_listed (mutate : SessionMetadata → SessionMetadata) :
    Triple answers (Sited json fit True sessions) (writeSessionMetadata json sessionId mutate)
      (valueEnds fun _ _ => sessions sessionId = true) := by
  apply Triple.bind _ (valued (readMetadata_sited sessionId))
  intro metadata
  apply Triple.given
  intro read
  apply ((anything _).strengthen fun _ _ => trivial).mono_value
  exact fun _ _ _ => read.2

theorem storeEntry_listed (context : String) (next : IndexSessionEntry)
    (mutate : SessionMetadata → SessionMetadata) :
    Triple answers (fun store => Sited json fit True sessions store ∧ Unmarked store)
      (storeEntry json now context next mutate)
      (valueEnds fun _ store => sessions next.sessionId = true ∧ Unmarked store) := by
  have appends : Triple answers (Sited json fit True sessions)
      (appendLogRecordToPath json .operation (upsertRecord now next))
      (valueEnds fun _ => Sited json fit True sessions) :=
    valued (Sited.beside (leaves_append fun _ _ => rfl))
  apply Triple.bind fun _ store => Sited json fit True sessions store ∧ Unmarked store
  · exact (appends.and (append_unmarked _ _)).mono (fun _ _ => id) (fun _ _ _ => trivial)
      fun _ _ => trivial
  · intro _
    have reads : Triple answers (Sited json fit True sessions)
        (writeSessionMetadata json next.sessionId mutate)
        (valueEnds fun _ _ => sessions next.sessionId = true) :=
      writeSessionMetadata_listed next.sessionId mutate
    have beside : Triple answers Unmarked (writeSessionMetadata json next.sessionId mutate)
        (valueEnds fun _ => Unmarked) :=
      beside_unmarked (leaves_writeSessionMetadata markerApart next.sessionId mutate)
    apply Triple.tried (fun _ store => sessions next.sessionId = true ∧ Unmarked store)
      fun _ _ => True
    · exact (reads.and beside).mono (fun _ _ => id) (fun _ _ _ => trivial) fun _ _ => trivial
    · exact fun _ => triple_modify fun _ => id
    · exact fun _ => (valueless_after fun _ => valueless_fail _).triple

theorem maybeCompact_unmarked :
    Triple answers Unmarked (maybeCompact json now) (valueEnds fun _ => Unmarked) := by
  apply Triple.bind _ (beside_unmarked leaves_compactionDue)
  intro due
  apply triple_ite
  · intro _
    apply Triple.bind _ (beside_unmarked (leaves_inspect _))
    intro entries
    apply Triple.bind _ (beside_unmarked (leaves_writeJsonAtomic _ (fun _ _ => rfl) fun _ => rfl))
    intro _
    apply Triple.tried (fun _ => Unmarked) fun _ _ => True
    · exact beside_unmarked (leaves_rotateLogTmpBak fun _ _ _ _ => rfl)
    · exact fun _ => triple_pure fun _ => id
    · intro err
      apply triple_ite
      · exact fun _ => (valueless_after fun _ => valueless_fail _).triple
      · exact fun _ => (valueless_fail _).triple
  · exact fun _ => triple_pure fun _ => id

variable {known : String → Option IndexSessionEntry}

theorem IndexOperation.stores_of_next {operation : IndexOperation} {entry : IndexSessionEntry}
    (chosen : operation.next parse now known = some entry) :
    operation.stores parse now known = Function.update known entry.sessionId (some entry) := by
  cases operation with
  | delete sessionId => cases chosen
  | _ => simp only [IndexOperation.stores, chosen]

theorem IndexOperation.stores_of_none {operation : IndexOperation}
    (nothing : operation.next parse now known = none) (updating : operation.updates) :
    operation.stores parse now known = known := by
  cases operation with
  | delete sessionId => cases updating
  | _ => simp only [IndexOperation.stores, nothing]

def Alike (sessions : String → Bool) (known : String → Option IndexSessionEntry) : Prop :=
  ∀ sessionId, sessions sessionId = (known sessionId).isSome

theorem Alike.update (alike : Alike sessions known) (sessionId : String)
    (entry : Option IndexSessionEntry) :
    Alike (Function.update sessions sessionId entry.isSome)
      (Function.update known sessionId entry) := by
  intro other
  by_cases same : other = sessionId
  · simp [same]
  · simp [same, alike other]

theorem perform_alike {entries : List IndexSessionEntry} (operation : IndexOperation)
    (alike : Alike sessions fun sessionId => findEntry sessionId entries) :
    Triple answers
      (fun store => (Sited json fit True sessions store ∧ Unmarked store) ∧
        store.entries = entries) (operation.perform json parse now)
      (valueEnds fun _ store => Unmarked store ∧ Alike (operation.lists sessions)
        (operation.stores parse now fun sessionId => findEntry sessionId entries)) := by
  let listing (store : SessionIndexStore) : Prop := Unmarked store ∧
    Alike (operation.lists sessions)
      (operation.stores parse now fun sessionId => findEntry sessionId entries)
  have bodies : Triple answers
      (fun store => (Sited json fit True sessions store ∧ Unmarked store) ∧
        store.entries = entries) (operation.body json parse now) (valueEnds fun _ => listing) := by
    apply IndexOperation.body_course
    · exact fun _ => And.right
    · exact fun _ _ _ => trivial
    · intro nothing updating store holds
      refine ⟨holds.1.2, ?_⟩
      rw [IndexOperation.stores_of_none nothing updating, operation.lists_of_updates updating]
      exact alike
    · intro entry normal same normalized
      subst same
      have chosen : (IndexOperation.create entry).next parse now
          (fun sessionId => findEntry sessionId entries) =
            some { entry with updatedAt := normal } := by
        simp [IndexOperation.next, normalized]
      apply ((createNormalized_unmarked _).strengthen fun _ holds => holds.1.2).mono_value
      intro _ store unmarked
      refine ⟨unmarked, ?_⟩
      rw [IndexOperation.stores_of_next chosen]
      exact alike.update entry.sessionId (some _)
    · intro context next mutate _ updating chosen _
      apply ((storeEntry_listed context next mutate).strengthen fun _ => And.left).mono_value
      intro _ store holds
      refine ⟨holds.2, ?_⟩
      have updated := alike.update next.sessionId (some next)
      rw [Option.isSome_some, ← holds.1, Function.update_eq_self] at updated
      rwa [IndexOperation.stores_of_next chosen, operation.lists_of_updates updating]
    · intro sessionId same
      subst same
      apply ((deleteKnown_unmarked _ _).strengthen fun _ holds => holds.1.2).mono_value
      exact fun _ store unmarked => ⟨unmarked, alike.update sessionId none⟩
  rw [IndexOperation.perform_eq]
  apply Triple.bind _ bodies
  intro due
  apply triple_ite
  · intro _ store holds
    have compacts : Triple answers Unmarked (maybeCompact json now) (valueEnds fun _ => Unmarked) :=
      maybeCompact_unmarked
    apply (compacts.mono _ _ _) store holds.1
    · exact fun _ next unmarked => ⟨unmarked, holds.2⟩
    · exact fun _ _ => id
    · exact fun _ => id
  · exact fun _ => triple_pure fun _ => id

theorem perform_sited (operation : IndexOperation)
    (fits : ∀ stamp, operation.stamp parse now = some stamp → fit stamp) :
    Triple answers (Sited json fit True sessions) (operation.perform json parse now)
      (valueEnds fun _ => Sited json fit True (operation.lists sessions)) := by
  have bodies : Triple answers (Sited json fit True sessions) (operation.body json parse now) _ :=
    body_sited operation fits
  rw [IndexOperation.perform_eq]
  apply Triple.bind _ (valued bodies)
  intro due
  apply triple_ite
  · exact fun _ => valued (Sited.beside leaves_maybeCompact)
  · exact fun _ => triple_pure fun _ => id

end Succeeding

structure Tracking (json : IndexJson) (parse : String → Option UtcTime) (tracked : Tracked) :
    Prop where
  held : Held json parse tracked.store
  unmarked : Unmarked tracked.store
  sited : Sited json (Renormalizes parse) True (fun sessionId => (tracked.known sessionId).isSome)
    tracked.store
  known : ∀ sessionId, findEntry sessionId tracked.store.entries = tracked.known sessionId

theorem tracking_empty (json : IndexJson) (parse : String → Option UtcTime) :
    Tracking json parse .empty := by
  refine ⟨(running_empty json parse).held, rfl, ⟨?_, rfl⟩, fun _ => rfl⟩
  intro name directory there
  cases there

variable {tracked : Tracked}

theorem Tracking.alike (tracking : Tracking json parse tracked) :
    Alike (fun sessionId => (tracked.known sessionId).isSome)
      fun sessionId => findEntry sessionId tracked.store.entries :=
  fun sessionId => congrArg Option.isSome (tracking.known sessionId).symm

variable {operation : IndexOperation} {next : SessionIndexStore}

theorem Tracking.succeeded (tracking : Tracking json parse tracked)
    (settles : ∀ stamp, operation.stamp parse now = some stamp → Renormalizes parse stamp)
    (ran : (operation.perform json parse now).run answers tracked.store = (.value (), next)) :
    Tracking json parse ⟨next, operation.stores parse now tracked.known⟩ := by
  have unique := tracking.held.unique
  have descending := tracking.held.descending
  have performs : Triple answers (Midway json parse tracked.store.entries tracked.store.entries)
    (operation.perform json parse now) _ := perform_triple operation unique descending settles
  have midway := performs tracked.store tracking.held.midway
  have alikes := @perform_alike json parse answers now _ _ _ operation tracking.alike
    tracked.store ⟨⟨tracking.sited, tracking.unmarked⟩, rfl⟩
  have sited := @perform_sited json parse answers now _ _ operation settles tracked.store
    tracking.sited
  rw [ran] at midway alikes sited
  have same : (fun sessionId => findEntry sessionId tracked.store.entries) = tracked.known :=
    funext tracking.known
  obtain ⟨unmarked, alike⟩ := alikes
  rw [same] at alike
  refine ⟨?_, unmarked, ?_, ?_⟩
  · exact midway.held (IndexOperation.unique_applied unique operation)
      (IndexOperation.descending_applied unique descending operation)
  · exact ⟨sited.whole, sited.known.trans (funext alike)⟩
  · intro sessionId
    have entries := midway.entries
    rw [entries, IndexOperation.findEntry_applied unique, same]

theorem Tracking.failed (tracking : Tracking json parse tracked) {error : IndexError}
    (clean : (Attempt.operation operation now answers).Clean parse) (fails : appendFails answers)
    (ran : (operation.perform json parse now).run answers tracked.store = (.failed error, next)) :
    Tracking json parse ⟨next, tracked.known⟩ := by
  obtain ⟨settles, whole, synced⟩ := clean
  have unlogged := @perform_unlogged json parse answers now tracked.store fails whole synced
    operation tracked.store ⟨tracking.held.midway, rfl, rfl⟩
  rw [ran] at unlogged
  obtain ⟨midway, sessions, marker⟩ := unlogged
  refine ⟨midway.held tracking.held.unique tracking.held.descending,
    marker.trans tracking.unmarked, tracking.sited.of_view sessions, ?_⟩
  intro sessionId
  have entries := midway.entries
  rw [entries, tracking.known]

theorem Tracking.dated (tracking : Tracking json parse tracked) :
    Dated json parse tracked.store.disk :=
  fun name directory there => ⟨(tracking.sited.whole name directory there).metadata, False.elim⟩

theorem Tracking.starts (tracking : Tracking json parse tracked) (stale : List String)
    (now : UtcTime) :
    ∃ next, (new json parse now stale).run proceeding (closedStore tracked.store.disk) =
      (.value (), next) ∧ Tracking json parse ⟨next, tracked.known⟩ := by
  have dated := tracking.dated
  obtain ⟨held, unmarked, sited, known⟩ := tracking
  have starts : Triple proceeding (Opening json (Renormalizes parse)
      (fun sessionId => (tracked.known sessionId).isSome) tracked.store.disk)
      (new json parse now stale) _ :=
    new_sure (fun _ => renormalizes_parses) unfailing_proceeding stale
  have opening : Opening json (Renormalizes parse)
      (fun sessionId => (tracked.known sessionId).isSome) tracked.store.disk
      (closedStore tracked.store.disk) := ⟨⟨sited.whole, sited.known⟩, rfl, rfl, rfl⟩
  obtain ⟨_, next, ran, readable, audited, entries, opened⟩ := sure_runs starts opening
  have running := @new_running json parse proceeding now stale tracked.store.disk
    held.recorded.restartable dated
  have stays := @new_unmarked json parse proceeding now stale (closedStore tracked.store.disk)
    unmarked
  rw [ran] at running stays
  refine ⟨next, ran, running.held, stays, readable.1, fun sessionId => ?_⟩
  have unique : UniqueIds audited := by
    have sorted := running.held.unique
    rw [entries] at sorted
    exact sorted.perm (sortEntriesDesc_perm audited)
  have found : findEntry sessionId next.entries = findEntry sessionId audited := by
    rw [entries]
    exact findEntry_perm unique.sorted (sortEntriesDesc_perm audited) sessionId
  obtain ⟨base, records, indexing⟩ := held.recorded.indexed
  have loaded : findEntry sessionId (replay records base) = tracked.known sessionId :=
    (indexing.led sessionId).symm.trans (known sessionId)
  rw [found]
  cases there : tracked.known sessionId with
  | none =>
    have absent := opened.listing sessionId
    simpa [there] using absent
  | some entry =>
    exact opened.known unmarked _ indexing.load sessionId entry (by simp [there])
      (loaded.trans there)

theorem step_tracking : Preserves (Tracked.step json parse)
    (fun _ attempt => attempt.Clean parse) (Tracking json parse) := by
  intro tracked attempt next tracking clean stepped
  cases attempt with
  | operation operation now answers =>
    cases ran : (operation.perform json parse now).run answers tracked.store with
    | mk ending after =>
      simp only [Tracked.step, ran] at stepped
      cases ending with
      | value _ =>
        cases stepped
        exact tracking.succeeded clean.1 ran
      | failed error =>
        by_cases fails : appendFails answers
        · simp only [fails, if_true] at stepped
          exact Option.some.inj stepped ▸ tracking.failed clean fails ran
        · simp only [fails] at stepped
          cases stepped
      | stopped => cases stepped
  | restart stale now =>
    obtain ⟨after, ran, tracks⟩ := tracking.starts stale now
    simp only [Tracked.step, ran] at stepped
    exact Option.some.inj stepped ▸ tracks

/-- After appends that failed without leaving a byte, a later start finds every entry as the last
successful operation on it has left it. -/
theorem start_finds_successes {attempts : List Attempt} {tracked : Tracked}
    (clean : ∀ attempt ∈ attempts, attempt.Clean parse)
    (ran : Shared.run (Tracked.step json parse) .empty attempts = some tracked)
    (stale : List String) (now : UtcTime) :
    ∃ next, (new json parse now stale).run proceeding (closedStore tracked.store.disk) =
      (.value (), next) ∧
      ∀ sessionId, findEntry sessionId next.entries = tracked.known sessionId := by
  have tracking := run_invariant step_tracking (tracking_empty json parse) (Meets.of_inputs clean)
    ran
  obtain ⟨next, started, tracks⟩ := tracking.starts stale now
  exact ⟨next, started, tracks.known⟩

theorem tracked_value
    (ran : (operation.perform json parse now).run answers tracked.store = (.value (), next)) :
    tracked.step json parse (.operation operation now answers) =
      some ⟨next, operation.stores parse now tracked.known⟩ := by
  simp only [Tracked.step, ran]

theorem tracked_failed {error : IndexError} (fails : appendFails answers)
    (ran : (operation.perform json parse now).run answers tracked.store = (.failed error, next)) :
    tracked.step json parse (.operation operation now answers) = some ⟨next, tracked.known⟩ := by
  simp only [Tracked.step, ran, fails, if_true]

theorem found_after_creation : ∃ tracked,
    Shared.run (Tracked.step indexTexts readTimes) .empty
        [.operation (.create firstEntry) springTime proceeding] = some tracked ∧
      ∃ next, (new indexTexts readTimes springTime []).run proceeding
          (closedStore tracked.store.disk) = (.value (), next) ∧
        ∀ sessionId, findEntry sessionId next.entries = tracked.known sessionId := by
  have created := @create_first Tracked.empty.store rfl rfl rfl
  obtain ⟨store, ran, -⟩ := created
  have reached := run_cons (tracked_value ran) []
  refine ⟨_, reached, start_finds_successes ?_ reached [] springTime⟩
  intro attempt listed
  obtain rfl := List.mem_singleton.mp listed
  exact ⟨settles_first proceeding, nofun, nofun⟩

def Blank (entries : List IndexSessionEntry) : Prop := ∀ entry ∈ entries, entry.lastPreview = ""

theorem normalizeEntry_preview {entry normal : IndexSessionEntry}
    (normalized : normalizeEntry parse entry = .ok normal) :
    normal.lastPreview = entry.lastPreview := by
  unfold normalizeEntry at normalized
  split at normalized
  · exact Except.ok.inj normalized ▸ rfl
  · cases normalized

variable {entry : IndexSessionEntry}

theorem scanDirectory_blank {name : String} {directory : SessionDirectory}
    (scanned : scanDirectory json parse name directory = .ok (some entry)) :
    entry.lastPreview = "" := by
  unfold scanDirectory at scanned
  split at scanned
  · cases scanned
  · split_ifs at scanned
    split at scanned
    · cases scanned
    · split_ifs at scanned
      · cases scanned
      · cases last : readLastEventSeq json directory.manifest with
        | error refused => simp [last, bind, Except.bind] at scanned
        | ok lastEventSeq =>
          simp only [last, bind, Except.bind, pure, Except.pure] at scanned
          split at scanned
          · cases scanned
          · next normal normalized =>
            simp only [Except.ok.injEq, Option.some.injEq] at scanned
            exact scanned ▸ normalizeEntry_preview normalized

theorem scanDirectories_blank {entries : List (Sigma fun _ : String => SessionDirectory)}
    {found : List IndexSessionEntry}
    (scanned : scanDirectories json parse entries = .ok found) : Blank found := by
  induction entries generalizing found with
  | nil =>
    cases scanned
    exact nofun
  | cons listed rest ih =>
    obtain ⟨first, others, one, later, rfl⟩ := scanDirectories_cons scanned
    intro entry among
    rcases List.mem_append.mp among with own | other
    · exact scanDirectory_blank (one.trans (congrArg _ (Option.mem_toList.mp own)))
    · exact ih later entry other

theorem scan_blank {pre : SessionIndexStore → Prop} (audit : Bool) :
    Triple answers pre (scan json parse audit)
      (valueEnds fun found store => Blank found ∧ pre store) := by
  apply triple_quietCall
  · exact fun store found holds scanned => ⟨scanDirectories_blank scanned, holds⟩
  · exact fun _ _ _ => trivial
  · exact fun _ _ => trivial

variable {entries : List IndexSessionEntry}

theorem Blank.upsert (blank : Blank entries) (own : entry.lastPreview = "") :
    Blank (upsertEntry entry entries) := by
  intro other among
  rcases mem_upsertEntry among with rfl | before
  · exact own
  · exact blank other before

theorem Blank.remove (blank : Blank entries) (sessionId : String) :
    Blank (removeEntry sessionId entries) :=
  fun entry among => blank entry (List.mem_of_mem_filter among)

theorem startupAudit_blank (blank : Blank entries) :
    Triple answers (fun _ => True) (startupAudit json parse now entries)
      (valueEnds fun audited _ => Blank audited) := by
  have indexed (onDisk rest kept : List IndexSessionEntry) (own : Blank kept) :
      Triple answers (fun _ => True) (auditIndexed json now onDisk rest kept)
        (valueEnds fun audited _ => Blank audited) := by
    induction rest generalizing kept with
    | nil => exact triple_pure fun _ _ => own
    | cons entry rest ih =>
      apply triple_ite
      · exact fun _ => ih kept own
      · intro _
        apply Triple.bind _ (anything _)
        exact fun _ => ih _ (own.remove entry.sessionId)
  have listed (rest kept : List IndexSessionEntry) (scanned : Blank rest) (own : Blank kept) :
      Triple answers (fun _ => True) (auditOnDisk json now rest kept)
        (valueEnds fun audited _ => Blank audited) := by
    induction rest generalizing kept with
    | nil => exact triple_pure fun _ _ => own
    | cons entry rest ih =>
      have later : Blank rest := fun other among => scanned other (List.mem_cons_of_mem _ among)
      apply triple_ite
      · exact fun _ => ih kept later own
      · intro _
        apply Triple.bind _ (anything _)
        exact fun _ => ih _ later (own.upsert (scanned entry List.mem_cons_self))
  apply Triple.bind _ (scan_blank true)
  intro onDisk
  apply Triple.given
  intro scanned
  apply Triple.bind _ (indexed onDisk entries entries blank)
  intro kept store holds
  exact listed onDisk kept scanned holds store trivial

theorem new_blank (stale : List String) {disk : IndexDisk}
    (unread : ∀ found, loadEntriesSnapshotAndLog json parse disk ≠ .ok found) :
    Triple answers (fun store => store.disk.snapshot = disk.snapshot ∧ store.disk.log = disk.log)
      (new json parse now stale) (valueEnds fun _ store => Blank store.entries) := by
  let unchanged (store : SessionIndexStore) : Prop :=
    store.disk.snapshot = disk.snapshot ∧ store.disk.log = disk.log
  have beside {α : Type} {program : IndexProgram α}
      (leaves : Leaves (fun store => (store.disk.snapshot, store.disk.log)) program) :
      Triple answers unchanged program (valueEnds fun _ => unchanged) := by
    apply valued (leaves.triple _ answers)
    intro store next same holds
    simp only [Prod.mk.injEq] at same
    exact ⟨same.1.trans holds.1, same.2.trans holds.2⟩
  have cleans : Leaves (fun store => (store.disk.snapshot, store.disk.log))
      (cleanupStagingDirs stale) := by
    induction stale with
    | nil => exact leaves_pure _
    | cons sessionId rest ih =>
      exact (leaves_removeStaged (fun _ _ => rfl) _ _).bind fun _ => ih
  have rebuilds : Triple answers unchanged (rebuildFromSessionsDir json parse now)
      (valueEnds fun found _ => Blank found) := by
    apply Triple.bind _ (scan_blank false)
    intro found
    apply Triple.given
    intro blank
    apply Triple.bind fun _ _ => True
    · exact (anything _).strengthen fun _ _ => trivial
    · intro _
      apply Triple.bind fun _ _ => True
      · exact anything _
      · exact fun _ => triple_pure fun _ _ => blank
  have audits (loaded : List IndexSessionEntry) : Triple answers (fun _ => Blank loaded)
      (startupAudit json parse now loaded) (valueEnds fun audited _ => Blank audited) :=
    fun store blank => startupAudit_blank blank store trivial
  have sorted (audited : List IndexSessionEntry) : Triple answers (fun _ => Blank audited)
      (pure (sortEntriesDesc audited)) (valueEnds fun entries _ => Blank entries) :=
    triple_pure fun _ blank entry among =>
      blank entry ((sortEntriesDesc_perm audited).subset among)
  apply Triple.bind fun entries _ => Blank entries
  · apply Triple.bind _ (beside (leaves_syncCall _))
    intro _
    apply Triple.bind _ (beside (leaves_syncCall _))
    intro _
    apply Triple.bind _ (beside cleans)
    intro _
    apply Triple.look
    intro hasRepairMarker
    apply Triple.strengthen _ fun _ => And.left
    cases hasRepairMarker with
    | true =>
      apply Triple.bind _ rebuilds
      intro loaded
      apply Triple.bind _ (audits loaded)
      intro audited
      apply Triple.bind fun _ _ => Blank audited
      · have known : Leaves (fun _ => ()) removeMarker := fun _ _ => rfl
        exact valued (known.triple (fun _ _ _ => id) answers)
      · exact fun _ => sorted audited
    | false =>
      apply Triple.bind fun loaded _ => Blank loaded
      · apply Triple.tried (fun _ _ => False) fun _ => unchanged
        · apply triple_quietCall
          · intro store found holds loaded
            have same : loadEntriesSnapshotAndLog json parse store.disk =
                loadEntriesSnapshotAndLog json parse disk := by
              unfold loadEntriesSnapshotAndLog loadSnapshot replayLog
              rw [holds.1, holds.2]
            exact unread found (same.symm.trans loaded)
          · exact fun _ _ => id
          · exact fun _ _ => trivial
        · exact fun _ _ => False.elim
        · exact fun _ => rebuilds
      · intro loaded
        exact (audits loaded).bind _ sorted
  · intro entries
    exact triple_modify fun _ blank => blank

def tornLog (json : IndexJson) (first torn last : SessionIndexLogRecord) : Bytes :=
  (written json [first] ++ (json.record.toVec torn).dropLast.take 1) ++
    (json.record.toVec last ++ [lineFeed])

theorem splitLines_torn (first : SessionIndexLogRecord) {torn : SessionIndexLogRecord}
    (last : SessionIndexLogRecord) (long : 1 < (json.record.toVec torn).length) :
    splitLines (tornLog json first torn last) =
      [first].map json.record.toVec ++
        [(json.record.toVec torn).take 1 ++ json.record.toVec last] := by
  have cut : (json.record.toVec torn).dropLast.take 1 = (json.record.toVec torn).take 1 := by
    rw [List.dropLast_eq_take, List.take_take]
    congr 1
    omega
  have plain : ∀ line ∈ [json.record.toVec first,
      (json.record.toVec torn).take 1 ++ json.record.toVec last],
      lineFeed ∉ line ∧ carriageReturn ∉ line := by
    have begun := take_toVec_plain json torn 1
    have whole := json.record.oneLine last
    simp only [List.mem_cons, List.not_mem_nil, or_false, forall_eq_or_imp, forall_eq,
      List.mem_append, not_or]
    exact ⟨json.record.oneLine first, ⟨begun.1, whole.1⟩, begun.2, whole.2⟩
  have nothing : lineFeed ∉ ([] : Bytes) ∧ carriageReturn ∉ ([] : Bytes) :=
    ⟨List.not_mem_nil, List.not_mem_nil⟩
  have split := splitLines_lines plain nothing
  rw [tornLog, cut]
  simpa [written] using split

theorem torn_unread {first torn last : SessionIndexLogRecord}
    (settled : SettledRecord parse first) (long : 1 < (json.record.toVec torn).length)
    {disk : IndexDisk} (snapshot : disk.snapshot = none)
    (log : disk.log = some (tornLog json first torn last)) (found : List IndexSessionEntry) :
    loadEntriesSnapshotAndLog json parse disk ≠ .ok found := by
  let glued := (json.record.toVec torn).take 1 ++ json.record.toVec last
  have unread : json.record.fromSlice glued = none := by
    rw [Option.eq_none_iff_forall_ne_some]
    intro value read
    have begun : ∀ piece ∈ [(⟨torn, 1⟩ : Piece SessionIndexLogRecord),
        json.record.complete last], json.record.Begun piece := by
      simp only [List.mem_cons, List.not_mem_nil, or_false, forall_eq_or_imp, forall_eq]
      exact ⟨⟨Nat.one_pos, Nat.le_of_lt long⟩, json.record.begun_complete last⟩
    have joined : json.record.joined [⟨torn, 1⟩, json.record.complete last] = glued := by
      simp [ObjectCodec.joined, ObjectCodec.pieceBytes, ObjectCodec.complete, glued]
    have single := (json.record.fromSlice_joined begun value).mp (joined ▸ read)
    simp at single
  have inked : isBlank glued = false := by
    obtain ⟨rest, opened⟩ := json.record.toVec_eq_cons torn
    simp only [glued, opened, List.take_succ_cons, List.cons_append]
    exact isBlank_brace _
  have only : ∀ record ∈ [first], SettledRecord parse record := by simpa using settled
  have refused := replayLogLines_cut only unread inked [] found
  intro loaded
  have base : loadSnapshot json parse disk = .ok [] := by
    rw [loadSnapshot, snapshot]
  rw [loadEntriesSnapshotAndLog, base] at loaded
  change replayLog json parse disk [] = .ok found at loaded
  simp only [replayLog, log, splitLines_torn first last long] at loaded
  exact refused loaded

theorem countLogLines_torn (first : SessionIndexLogRecord) {torn : SessionIndexLogRecord}
    (last : SessionIndexLogRecord) (long : 1 < (json.record.toVec torn).length) :
    countLogLines (tornLog json first torn last) = .ok 2 := by
  obtain ⟨rest, opened⟩ := json.record.toVec_eq_cons torn
  have begun : (json.record.toVec torn).take 1 = [openingBrace] := by
    rw [opened, List.take_succ_cons, List.take_zero]
  have text : isUtf8 ([openingBrace] ++ json.record.toVec last) :=
    isUtf8_append (by decide) (json.record.utf8 last)
  have inked : isBlank ([openingBrace] ++ json.record.toVec last) = false := isBlank_brace _
  have whole := json.record.utf8 first
  rw [countLogLines, splitLines_torn first last long, begun]
  simp only [List.map_cons, List.map_nil, List.cons_append, List.nil_append, List.all_cons,
    List.all_nil, Bool.and_true] at text inked ⊢
  rw [if_pos (by rw [whole, text]; rfl)]
  simp [isBlank_toVec, inked]

def titledEntry : IndexSessionEntry :=
  { firstEntry with title := some "title", updatedAt := formatUtcMillis springTime }

theorem tornLog_length_le (first torn last : SessionIndexLogRecord) :
    (tornLog json first torn last).length ≤
      (json.record.toVec first).length + (json.record.toVec last).length + 3 := by
  simp only [tornLog, written, List.flatMap_cons, List.flatMap_nil, List.append_nil,
    List.length_append, List.length_singleton, List.length_take]
  omega

theorem small_second : secondEntry.size ≤ 1000 := by decide +kernel

theorem line_length_le (small : entry.size ≤ 1000) :
    (indexTexts.record.toVec (upsertRecord springTime entry)).length ≤ 50000 := by
  have line := upsertRecord_length_le springTime entry
  have stamp : springText.length = 24 := by decide +kernel
  rw [formatUtcMillis_spring, stamp] at line
  exact line.trans (by omega)

theorem short_torn : (tornLog indexTexts (upsertRecord springTime firstEntry)
    (upsertRecord springTime titledEntry) (upsertRecord springTime secondEntry)).length <
      compactMaxBytes := by
  have lines := Nat.add_le_add (line_length_le small_first) (line_length_le small_second)
  exact ((tornLog_length_le _ _ _).trans (Nat.add_le_add_right lines 3)).trans_lt (by decide)

theorem create_second {store : SessionIndexStore} (health : store.health = .healthy)
    (absent : store.disk.sessions.lookup secondEntry.sessionId = none)
    (torn : store.disk.log.getD [] = written indexTexts [upsertRecord springTime firstEntry] ++
      (indexTexts.record.toVec (upsertRecord springTime titledEntry)).dropLast.take 1) :
    ∃ last, ((IndexOperation.create secondEntry).perform indexTexts readTimes springTime).run
        proceeding store = (.value (), last) ∧
      Created indexTexts springTime secondEntry store last := by
  have normal : normalizeRfc3339UtcMillis readTimes secondEntry.updatedAt = some springText :=
    renormalizes_spring
  have long := logRecordText.one_lt_length (upsertRecord springTime titledEntry)
  rw [← toVec_record] at long
  apply create_performs_short health normal absent
  · rw [torn]
    exact short_torn
  · rw [torn]
    exact countLogLines_torn _ _ long
  · decide

theorem known_first : (IndexOperation.create secondEntry).stores readTimes springTime
    ((IndexOperation.create firstEntry).stores readTimes springTime fun _ => none) "sess_1" =
      some firstEntry := by
  have next (entry : IndexSessionEntry) (known : String → Option IndexSessionEntry)
      (spring : entry.updatedAt = springText) :
      (IndexOperation.create entry).next readTimes springTime known = some entry := by
    have normal : normalizeRfc3339UtcMillis readTimes entry.updatedAt = some entry.updatedAt :=
      spring ▸ renormalizes_spring
    simp [IndexOperation.next, normal]
  rw [IndexOperation.stores_of_next (next secondEntry _ rfl),
    IndexOperation.stores_of_next (next firstEntry _ rfl)]
  rfl

theorem extended_log {store : SessionIndexStore} {log : Bytes} (bytes : Bytes)
    (logged : store.disk.log = some log) :
    (store.onDisk (·.extendLog bytes)).disk.log.getD [] = log ++ bytes := by
  simp only [onDisk_disk, IndexDisk.extendLog, logged, Option.getD_some]

theorem torn_append_loses_preview : ∃ tracked,
    Shared.run (Tracked.step indexTexts readTimes) .empty
        [.operation (.create firstEntry) springTime proceeding,
          .operation (.setTitle "sess_1" (some "title")) springTime
            (cutAt (.record .operation) (.fails 1)),
          .operation (.create secondEntry) springTime proceeding] = some tracked ∧
      ¬ ∃ next, (new indexTexts readTimes springTime []).run proceeding
          (closedStore tracked.store.disk) = (.value (), next) ∧
        ∀ sessionId, findEntry sessionId next.entries = tracked.known sessionId := by
  have begins := @create_first Tracked.empty.store rfl rfl rfl
  obtain ⟨one, ranOne, created⟩ := begins
  have remembered : one.entries = [firstEntry] :=
    created.entries.trans (sortEntriesDesc_singleton firstEntry)
  have known : findEntry "sess_1" one.entries = some firstEntry := by
    rw [remembered]
    rfl
  have titled : ((IndexOperation.setTitle "sess_1" (some "title")).perform indexTexts readTimes
      springTime).run (cutAt (.record .operation) (.fails 1)) one = _ :=
    setTitle_fails created.health known (append_torn one (upsertRecord springTime titledEntry))
  let two := one.onDisk (·.extendLog
    ((indexTexts.record.toVec (upsertRecord springTime titledEntry)).dropLast.take 1))
  have absent : two.disk.sessions.lookup secondEntry.sessionId = none :=
    created.others "sess_2" (by decide)
  have nothing : Tracked.empty.store.disk.log.getD [] = written indexTexts [] := rfl
  have earlier := created.written nothing
  rw [List.nil_append] at earlier
  have torn : two.disk.log.getD [] = written indexTexts [upsertRecord springTime firstEntry] ++
      (indexTexts.record.toVec (upsertRecord springTime titledEntry)).dropLast.take 1 :=
    extended_log _ earlier
  have performs := @create_second two created.health absent torn
  obtain ⟨last, ranLast, createdLast⟩ := performs
  refine ⟨_, (run_cons (tracked_value ranOne) _).trans ((run_cons (tracked_failed rfl titled) _).trans
    (run_cons (tracked_value ranLast) [])), ?_⟩
  intro started
  obtain ⟨next, ran, found⟩ := started
  have long := logRecordText.one_lt_length (upsertRecord springTime titledEntry)
  rw [← toVec_record] at long
  have log : last.disk.log = some (tornLog indexTexts (upsertRecord springTime firstEntry)
      (upsertRecord springTime titledEntry) (upsertRecord springTime secondEntry)) := by
    rw [createdLast.log, torn, tornLog]
  have unread := @torn_unread indexTexts readTimes _ _ _
    (settled_unsynced _ List.mem_cons_self) long last.disk
    (createdLast.snapshot.trans created.snapshot) log
  have blank := @new_blank indexTexts readTimes proceeding springTime [] last.disk unread
    (closedStore last.disk) ⟨rfl, rfl⟩
  rw [ran] at blank
  have there := (found "sess_1").trans known_first
  have preview := blank firstEntry (List.mem_of_find?_eq_some there)
  exact absurd preview (by decide)

end OpenJax.Transcript
