import OpenJax.Transcript.IndexUpdates

set_option autoImplicit false

namespace OpenJax.Transcript

open Shared FaultProgram SessionIndexStore

/-- The process, and for each session the last creation or deletion that was acknowledged, unless a
later one is in doubt. -/
structure IndexWorld where
  process : IndexProcess
  acknowledged : String → Option Bool

def IndexOperation.listing : IndexOperation → Option (String × Bool)
  | .create entry => some (entry.sessionId, true)
  | .delete sessionId => some (sessionId, false)
  | _ => none

def IndexOperation.succeeded (operation : IndexOperation) (acknowledged : String → Option Bool) :
    String → Option Bool :=
  match operation.listing with
  | none => acknowledged
  | some (sessionId, listed) => Function.update acknowledged sessionId (some listed)

/-- The stopped operation leaves its session in doubt, unless it was to be as it is known to be. -/
def IndexOperation.interrupted (operation : IndexOperation)
    (acknowledged : String → Option Bool) : String → Option Bool :=
  match operation.listing with
  | none => acknowledged
  | some (sessionId, listed) =>
      if acknowledged sessionId = some listed then acknowledged
      else Function.update acknowledged sessionId none

def IndexWorld.step (json : IndexJson) (parse : String → Option UtcTime) (world : IndexWorld)
    (step : IndexStep) : Option IndexWorld :=
  match world.process, step with
  | .up store, .operation operation now answers =>
      match (operation.perform json parse now).run answers store with
      | (.value (), next) => some ⟨.up next, operation.succeeded world.acknowledged⟩
      | (.failed _, next) => some ⟨.up next, world.acknowledged⟩
      | (.stopped, next) => some ⟨.down next.disk, operation.interrupted world.acknowledged⟩
  | _, _ =>
      (world.process.step json parse step).map fun process => { world with process := process }

def IndexWorld.empty : IndexWorld := ⟨.down .empty, fun _ => none⟩

/-- Calls are stopped but do not fail, the stored times are taken for times again, and manifests are
written whole. -/
def IndexStep.Sound (json : IndexJson) (parse : String → Option UtcTime) : IndexStep → Prop
  | .operation requested now answers =>
      ¬ Failing answers ∧ ∀ stamp, requested.stamp parse now = some stamp →
        (normalizeRfc3339UtcMillis parse stamp).isSome
  | .transcript _ _ rewrite =>
      ∀ written ∈ rewrite, (json.manifest.toVec written.manifest).length ≤ written.size
  | .restart _ _ answers => ¬ Failing answers

variable {json : IndexJson} {parse : String → Option UtcTime} {answers : CallSite → CallAnswer}
  {now : UtcTime}

def Parses (parse : String → Option UtcTime) (stamp : String) : Prop :=
  (normalizeRfc3339UtcMillis parse stamp).isSome

def IndexProcess.Listing (json : IndexJson) (parse : String → Option UtcTime)
    (sessions : String → Bool) : IndexProcess → Prop
  | .up store => Readable json (Parses parse) sessions store
  | .down disk => Sited json (Parses parse) True sessions (closedStore disk)

structure IndexWorld.Kept (json : IndexJson) (parse : String → Option UtcTime)
    (world : IndexWorld) : Prop where
  listing : ∃ sessions, world.process.Listing json parse sessions ∧
    ∀ sessionId listed, world.acknowledged sessionId = some listed → sessions sessionId = listed

variable {sessions : String → Bool}

theorem IndexProcess.Listing.sited {process : IndexProcess}
    (listing : process.Listing json parse sessions) :
    Sited json (Parses parse) True sessions (closedStore process.disk) := by
  cases process with
  | up store => exact ⟨listing.1.whole, listing.1.known⟩
  | down disk => exact listing

variable {store : SessionIndexStore}

theorem transcribe_sited {fit : String → Prop} (sited : Sited json fit True sessions store)
    (sessionId : String) (segments : Bool) (rewrite : Option ManifestRewrite)
    (whole : ∀ written ∈ rewrite, (json.manifest.toVec written.manifest).length ≤ written.size) :
    Sited json fit True sessions
      (store.onDisk (·.transcribe json sessionId segments rewrite)) := by
  have before : WholeDirectory json fit True sessionId
      ((store.disk.sessions.lookup sessionId).getD .empty) := by
    cases found : store.disk.sessions.lookup sessionId with
    | none => exact ⟨nofun, fun _ => nofun⟩
    | some directory => exact sited.whole sessionId directory found
  constructor
  · intro name directory there
    simp only [onDisk_disk, IndexDisk.transcribe, Table.lookup_insert_eq] at there
    split_ifs at there with own
    · cases there
      subst own
      refine ⟨before.metadata, fun intact raw written => ?_⟩
      cases rewrite with
      | none => exact before.manifest intact raw written
      | some rewrite =>
        cases written
        exact ⟨rewrite.manifest, List.take_of_length_le (whole rewrite rfl)⟩
    · exact sited.whole name directory there
  · rw [← sited.known]
    funext name
    simp only [listed, onDisk_disk, IndexDisk.transcribe, Table.lookup_insert_eq]
    split_ifs with own
    · subst own
      cases store.disk.sessions.lookup name <;> rfl
    · rfl

variable {acknowledged : String → Option Bool} {operation : IndexOperation}

theorem lists_succeeded
    (known : ∀ sessionId listed, acknowledged sessionId = some listed → sessions sessionId = listed)
    (sessionId : String) (listed : Bool)
    (now : operation.succeeded acknowledged sessionId = some listed) :
    operation.lists sessions sessionId = listed := by
  have updated (own : String) (after : Bool)
      (now : Function.update acknowledged own (some after) sessionId = some listed) :
      Function.update sessions own after sessionId = listed := by
    by_cases same : sessionId = own
    · subst same
      simpa using now
    · simp only [Function.update_of_ne same] at now ⊢
      exact known sessionId listed now
  cases operation with
  | create entry => exact updated entry.sessionId true now
  | delete removed => exact updated removed false now
  | _ => exact known sessionId listed now

theorem lists_interrupted
    (known : ∀ sessionId listed, acknowledged sessionId = some listed → sessions sessionId = listed)
    (sessionId : String) (listed : Bool)
    (now : operation.interrupted acknowledged sessionId = some listed) :
    sessions sessionId = listed ∧ operation.lists sessions sessionId = listed := by
  have updated (own : String) (after : Bool)
      (now : (if acknowledged own = some after then acknowledged
        else Function.update acknowledged own none) sessionId = some listed) :
      sessions sessionId = listed ∧ Function.update sessions own after sessionId = listed := by
    by_cases same : sessionId = own
    · subst same
      split_ifs at now with already
      · have same : after = listed := Option.some.inj (already.symm.trans now)
        subst same
        exact ⟨known sessionId after now, Function.update_self sessionId after sessions⟩
      · simp at now
    · have before : acknowledged sessionId = some listed := by
        split_ifs at now
        · exact now
        · rwa [Function.update_of_ne same] at now
      rw [Function.update_of_ne same]
      exact ⟨known sessionId listed before, known sessionId listed before⟩
  cases operation with
  | create entry => exact updated entry.sessionId true now
  | delete removed => exact updated removed false now
  | _ => exact ⟨known sessionId listed now, known sessionId listed now⟩

theorem operation_kept {next : IndexWorld}
    (sound : (IndexStep.operation operation now answers).Sound json parse)
    (kept : IndexWorld.Kept json parse ⟨.up store, acknowledged⟩)
    (stepped : IndexWorld.step json parse ⟨.up store, acknowledged⟩
      (.operation operation now answers) = some next) :
    next.Kept json parse := by
  obtain ⟨unfailing, parses⟩ := sound
  obtain ⟨sessions, readable, known⟩ := kept.listing
  have ended := @perform_readable json parse answers now (Parses parse) sessions unfailing operation
    parses store readable
  simp only [IndexWorld.step] at stepped
  generalize (operation.perform json parse now).run answers store = outcome at ended stepped
  match outcome, ended, stepped with
  | (.value _, after), ended, stepped =>
    cases stepped
    exact ⟨operation.lists sessions, ended, lists_succeeded known⟩
  | (.failed _, after), ended, stepped =>
    cases stepped
    exact ⟨sessions, ended, known⟩
  | (.stopped, after), ended, stepped =>
    cases stepped
    rcases ended with before | done
    · exact ⟨sessions, ⟨before.whole, before.known⟩,
        fun sessionId listed now => (lists_interrupted known sessionId listed now).1⟩
    · exact ⟨operation.lists sessions, ⟨done.whole, done.known⟩,
        fun sessionId listed now => (lists_interrupted known sessionId listed now).2⟩

theorem new_listing {disk : IndexDisk} (unfailing : ¬ Failing answers)
    (sited : Sited json (Parses parse) True sessions (closedStore disk)) (stale : List String) :
    Triple answers (fun store => store = closedStore disk) (new json parse now stale)
      ⟨fun _ store => Readable json (Parses parse) sessions store ∧
          ∃ audited, store.entries = sortEntriesDesc audited ∧
            Opened json parse sessions disk audited,
        fun _ _ => False,
        fun store => Stopping answers ∧ Sited json (Parses parse) True sessions store⟩ := by
  have starts : Triple answers (Opening json (Parses parse) sessions disk)
      (new json parse now stale) _ := new_sure (fun _ => id) unfailing stale
  have beside : Triple answers (Sited json (Parses parse) True sessions)
      (new json parse now stale) _ := Sited.beside (leaves_new stale)
  apply ((starts.and beside).strengthen _).mono
  · exact fun _ _ => And.left
  · exact fun _ _ holds => holds.1.elim
  · exact fun _ => id
  · intro store same
    subst same
    exact ⟨⟨sited, rfl, rfl, rfl⟩, sited⟩

theorem step_world_kept : Preserves (IndexWorld.step json parse)
    (fun _ step => step.Sound json parse) (IndexWorld.Kept json parse) := by
  intro world step next kept sound stepped
  obtain ⟨process, acknowledged⟩ := world
  obtain ⟨sessions, listing, known⟩ := kept.listing
  cases step with
  | operation operation now answers =>
    cases process with
    | up store => exact operation_kept sound kept stepped
    | down disk => cases stepped
  | transcript sessionId segments rewrite =>
    cases process with
    | up store =>
      cases stepped
      exact ⟨sessions, ⟨transcribe_sited listing.1 sessionId segments rewrite sound, listing.2⟩,
        known⟩
    | down disk => cases stepped
  | restart stale now answers =>
    have ended := @new_listing json parse answers now sessions process.disk sound listing.sited stale
      (closedStore process.disk) rfl
    have stepped : (process.step json parse (.restart stale now answers)).map
        (fun process => IndexWorld.mk process acknowledged) = some next := by
      cases process <;> exact stepped
    obtain ⟨_, moved, rfl⟩ := Option.map_eq_some_iff.mp stepped
    rcases restart_ends ended moved with
      ⟨after, started, rfl⟩ | ⟨_, _, impossible, -⟩ | ⟨after, left, rfl⟩
    · exact ⟨sessions, started.1, known⟩
    · exact impossible.elim
    · exact ⟨sessions, ⟨left.2.whole, left.2.known⟩, known⟩

theorem world_kept_empty (json : IndexJson) (parse : String → Option UtcTime) :
    IndexWorld.Kept json parse .empty := by
  refine ⟨fun _ => false, ⟨?_, rfl⟩, nofun⟩
  intro name directory there
  cases there

/-- However the process was stopped, the store starts, and lists the sessions whose creation was
acknowledged and none whose deletion was. -/
theorem start_lists_acknowledged {steps : List IndexStep} {world : IndexWorld}
    (sound : ∀ step ∈ steps, step.Sound json parse)
    (ran : Shared.run (IndexWorld.step json parse) .empty steps = some world)
    (stale : List String) (now : UtcTime) :
    ∃ next, (new json parse now stale).run proceeding (closedStore world.process.disk) =
      (.value (), next) ∧
      ∀ sessionId listed, world.acknowledged sessionId = some listed →
        (findEntry sessionId next.entries).isSome = listed := by
  have kept := run_invariant step_world_kept (world_kept_empty json parse) (Meets.of_inputs sound)
    ran
  obtain ⟨sessions, listing, known⟩ := kept.listing
  have ended := @new_listing json parse proceeding now sessions world.process.disk
    unfailing_proceeding listing.sited stale (closedStore world.process.disk) rfl
  generalize (new json parse now stale).run proceeding (closedStore world.process.disk) = outcome
    at ended
  match outcome, ended with
  | (.value (), next), ended =>
    obtain ⟨-, audited, entries, opened⟩ := ended
    refine ⟨next, rfl, fun sessionId listed acknowledged => ?_⟩
    have same : (findEntry sessionId next.entries).isSome =
        (findEntry sessionId audited).isSome := by
      rw [Bool.eq_iff_iff, findEntry_isSome, findEntry_isSome, entries]
      exact ((sortEntriesDesc_perm audited).map _).mem_iff
    rw [same, opened.listing sessionId]
    exact known sessionId listed acknowledged
  | (.failed _, next), ended => exact ended.elim
  | (.stopped, next), ended =>
    obtain ⟨site, done, stopped⟩ := ended.1
    cases stopped

theorem world_value {store next : SessionIndexStore}
    (ran : (operation.perform json parse now).run answers store = (.value (), next)) :
    IndexWorld.step json parse ⟨.up store, acknowledged⟩ (.operation operation now answers) =
      some ⟨.up next, operation.succeeded acknowledged⟩ := by
  simp only [IndexWorld.step, ran]

theorem world_first_start : IndexWorld.step json parse .empty (.restart [] now proceeding) =
    some ⟨.up (closedStore .empty), fun _ => none⟩ := by
  have started : IndexProcess.step json parse (.down .empty) (.restart [] now proceeding) = _ :=
    step_first_start
  simp only [IndexWorld.step, IndexWorld.empty, started, Option.map_some]

def firstSteps : List IndexStep :=
  [.restart [] springTime proceeding, .operation (.create firstEntry) springTime proceeding]

theorem sound_first : ∀ step ∈ firstSteps, step.Sound indexTexts readTimes := by
  have settles := settles_first proceeding
  simp only [firstSteps, List.mem_cons, List.not_mem_nil, or_false, forall_eq_or_imp, forall_eq]
  refine ⟨unfailing_proceeding, unfailing_proceeding, fun stamp stamped => ?_⟩
  exact renormalizes_parses (settles stamp stamped)

theorem first_created : ∃ store,
    Shared.run (IndexWorld.step indexTexts readTimes) .empty firstSteps =
      some ⟨.up store, (IndexOperation.create firstEntry).succeeded fun _ => none⟩ := by
  have created := @create_first (closedStore .empty) rfl rfl rfl
  obtain ⟨store, ran, -⟩ := created
  exact ⟨store, (run_cons world_first_start _).trans (run_cons (world_value ran) [])⟩

theorem first_listed : ∃ world,
    Shared.run (IndexWorld.step indexTexts readTimes) .empty firstSteps = some world ∧
      ∃ next, (new indexTexts readTimes springTime []).run proceeding
          (closedStore world.process.disk) = (.value (), next) ∧
        ∀ sessionId listed, world.acknowledged sessionId = some listed →
          (findEntry sessionId next.entries).isSome = listed := by
  obtain ⟨store, ran⟩ := first_created
  exact ⟨_, ran, start_lists_acknowledged sound_first ran [] springTime⟩

theorem scanDirectory_of_scan {disk : IndexDisk} {found : List IndexSessionEntry}
    (scanned : scanSessionsMetadata json parse disk = .ok found) {name : String}
    {directory : SessionDirectory} (there : disk.sessions.lookup name = some directory) :
    ∃ one, scanDirectory json parse name directory = .ok one := by
  have among := (Table.entry_iff disk.sessions name directory).mpr there
  rw [scanSessionsMetadata] at scanned
  generalize disk.sessions.entries = entries at scanned among
  induction entries generalizing found with
  | nil => cases among
  | cons entry rest ih =>
    obtain ⟨first, others, one, later, -⟩ := scanDirectories_cons scanned
    rcases List.mem_cons.mp among with rfl | after
    · exact ⟨first, one⟩
    · exact ih later after

theorem scan_refuses {disk : IndexDisk} {name : String} {directory : SessionDirectory}
    {metadata : SessionMetadata} (there : disk.sessions.lookup name = some directory)
    (whole : directory.metadata = some (json.metadata.toVec metadata))
    (own : metadata.sessionId = name) (emptied : directory.manifest = some [])
    (unread : json.lastEventSeq [] = none) (found : List IndexSessionEntry) :
    scanSessionsMetadata json parse disk ≠ .ok found := by
  intro scanned
  obtain ⟨one, read⟩ := scanDirectory_of_scan scanned there
  have text : isUtf8 [] = true := by decide
  simp [scanDirectory, whole, json.metadata.utf8, json.metadata.roundTrip, own, emptied,
    readLastEventSeq, text, unread, bind, Except.bind] at read

theorem new_needs_scan (stale : List String) {sessions : Table String SessionDirectory}
    (refused : ∀ disk : IndexDisk, disk.sessions = sessions →
      ∀ found, scanSessionsMetadata json parse disk ≠ .ok found) :
    Triple answers (fun store => store.disk.sessions = sessions) (new json parse now stale)
      (valueEnds fun _ _ => False) := by
  have apart := filesApart_sessions
  have beside {α : Type} {program : IndexProgram α}
      (leaves : Leaves (fun store => store.disk.sessions) program) :
      Triple answers (fun store => store.disk.sessions = sessions) program
        (valueEnds fun _ store => store.disk.sessions = sessions) :=
    valued (leaves.triple (fun _ _ same holds => same.trans holds) answers)
  have audits (loaded : List IndexSessionEntry) :
      Triple answers (fun store => store.disk.sessions = sessions)
        (startupAudit json parse now loaded) (valueEnds fun _ _ => False) := by
    apply Triple.bind fun _ _ => False
    · apply triple_quietCall
      · exact fun store found same scanned => refused store.disk same found scanned
      · exact fun _ _ _ => trivial
      · exact fun _ _ => trivial
    · exact fun _ _ => False.elim
  apply Triple.bind fun _ _ => False
  · apply Triple.bind _ (beside (leaves_syncCall _))
    intro _
    apply Triple.bind _ (beside (leaves_syncCall _))
    intro _
    apply Triple.bind _ (beside (leaves_cleanupStagingDirs apart stale))
    intro _
    apply Triple.look
    intro hasRepairMarker
    apply Triple.strengthen _ fun _ => And.left
    cases hasRepairMarker with
    | true =>
      apply Triple.bind _ (beside (leaves_rebuildFromSessionsDir apart))
      intro loaded
      exact (audits loaded).bind _ fun _ _ => False.elim
    | false =>
      apply Triple.bind _ (beside (leaves_loadOrRebuild apart))
      intro loaded
      exact (audits loaded).bind _ fun _ _ => False.elim
  · exact fun _ _ => False.elim

def firstManifest : TranscriptManifest := .newEmpty "sess_1" springText

theorem lastEventSeq_empty : indexTexts.lastEventSeq [] = none := by
  have short : 0 < (manifestText.codec.toVec firstManifest).length :=
    manifestText.codec.length_pos firstManifest
  have unread := manifestText.codec.fromSlice_take short
  rw [List.take_zero] at unread
  exact congrArg (Option.map TranscriptManifest.lastEventSeq) unread

theorem world_transcribed (sessionId : String) (segments : Bool)
    (rewrite : Option ManifestRewrite) :
    IndexWorld.step json parse ⟨.up store, acknowledged⟩
        (.transcript sessionId segments rewrite) =
      some ⟨.up (store.onDisk (·.transcribe json sessionId segments rewrite)), acknowledged⟩ := rfl

theorem scan_refuses_truncated {sessionId : String}
    (sited : Sited json (Parses parse) True sessions store) (listed : sessions sessionId = true)
    (manifest : TranscriptManifest) (unread : json.lastEventSeq [] = none) (disk : IndexDisk)
    (same : disk.sessions =
      (store.onDisk (·.transcribe json sessionId true (some ⟨manifest, 0⟩))).disk.sessions)
    (found : List IndexSessionEntry) : scanSessionsMetadata json parse disk ≠ .ok found := by
  rw [← sited.known, Transcript.listed, Option.isSome_iff_exists] at listed
  obtain ⟨raw, written⟩ := listed
  obtain ⟨directory, there, written⟩ := Option.bind_eq_some_iff.mp written
  obtain ⟨metadata, rfl, own, -⟩ := (sited.whole sessionId directory there).metadata raw written
  have truncated : disk.sessions.lookup sessionId =
      some { directory with segments := directory.segments || true, manifest := some [] } := by
    rw [same]
    simp only [onDisk_disk, IndexDisk.transcribe, Table.lookup_insert_eq, there, Option.getD_some,
      Option.elim_some, List.take_zero, if_true]
  exact scan_refuses truncated written own rfl unread found

/-- The manifest is truncated before it is written; stopped in between, the store cannot start. -/
theorem start_refuses_cut_manifest : ∃ world,
    Shared.run (IndexWorld.step indexTexts readTimes) .empty
        (firstSteps ++ [.transcript "sess_1" true (some ⟨firstManifest, 0⟩)]) = some world ∧
      world.acknowledged "sess_1" = some true ∧
      ¬ ∃ next, (new indexTexts readTimes springTime []).run proceeding
        (closedStore world.process.disk) = (.value (), next) := by
  obtain ⟨store, ran⟩ := first_created
  have kept := run_invariant step_world_kept (world_kept_empty indexTexts readTimes)
    (Meets.of_inputs sound_first) ran
  have acknowledged : (IndexOperation.create firstEntry).succeeded (fun _ => none) "sess_1" =
      some true := rfl
  obtain ⟨sessions, listing, known⟩ := kept.listing
  have refuses := scan_refuses_truncated listing.1 (known "sess_1" true acknowledged)
    firstManifest lastEventSeq_empty
  refine ⟨_, (run_append ran _).trans (run_cons (world_transcribed "sess_1" true _) []),
    acknowledged, ?_⟩
  generalize store.onDisk (·.transcribe indexTexts "sess_1" true (some ⟨firstManifest, 0⟩)) =
    truncated at refuses
  rintro ⟨next, started⟩
  have started : (new indexTexts readTimes springTime []).run proceeding
      (closedStore truncated.disk) = (.value (), next) := started
  have ended := @new_needs_scan indexTexts readTimes proceeding springTime [] _ refuses
    (closedStore truncated.disk) rfl
  rw [started] at ended
  exact ended

end OpenJax.Transcript
