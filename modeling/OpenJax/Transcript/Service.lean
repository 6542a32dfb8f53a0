import OpenJax.Shared.Machine
import OpenJax.Transcript.Replay

set_option autoImplicit false

namespace OpenJax.Transcript

open Shared TranscriptStore Program

section

variable {Payload : Type}

/-- The invariant survives each kind of write that an append to the session makes. -/
structure Footprint (json : TranscriptJson Payload) (store : TranscriptStore) (sessionId : String)
    (allowed : FileStep → Prop) (invariant : FileTree → Prop) : Prop where
  directory : ∀ tree other, other ≠ [] → other <+: store.segmentsRoot sessionId →
    invariant tree → tree.lookup other = none → invariant (tree.insert other .directory)
  segment : ∀ tree name bytes, invariant tree →
    tree.lookup (store.segmentsRoot sessionId ++ [name]) ≠ some .directory →
    invariant (tree.insert (store.segmentsRoot sessionId ++ [name]) (.file bytes))
  manifest : ∀ tree manifest count, invariant tree →
    count = (json.manifest.toVec manifest).length ∨
      allowed (.rewrite (store.manifestPath sessionId) (json.manifest.toVec manifest) count) →
    invariant (tree.insert (store.manifestPath sessionId)
      (.file ((json.manifest.toVec manifest).take count)))

namespace Footprint

variable {json : TranscriptJson Payload} {store : TranscriptStore} {sessionId : String}
  {allowed : FileStep → Prop} {invariant : FileTree → Prop}

theorem keeps_openAppend (footprint : Footprint json store sessionId allowed invariant)
    (name : String) :
    Keeps allowed invariant (openAppend (store.segmentsRoot sessionId ++ [name])) := by
  apply Shared.keeps_openAppend
  intro tree held missing _
  exact footprint.segment tree name [] held (by simp [missing])

theorem keeps_writeManifest (footprint : Footprint json store sessionId allowed invariant)
    (manifest : TranscriptManifest) :
    Keeps allowed invariant (writeManifest json (store.manifestPath sessionId) manifest) := by
  apply keeps_withContext
  apply keeps_writeFile
  intro tree count held _ _ permitted
  exact footprint.manifest tree manifest count held permitted

theorem keeps_readManifest (path : Path) : Keeps allowed invariant (readManifest json path) := by
  apply Keeps.bind (keeps_withContext keeps_readToString)
  intro raw
  split
  · exact keeps_pure
  · exact keeps_fail

theorem keeps_readSegmentTail (path : Path) :
    Keeps allowed invariant (readSegmentTail json path) := by
  apply Keeps.bind keeps_inspect
  intro there
  split
  · apply Keeps.bind keeps_inspect
    intro directory
    split
    · exact keeps_pure
    · apply Keeps.bind (keeps_withContext keeps_readToString)
      intro content
      split
      · exact keeps_pure
      · split
        · exact keeps_pure
        · exact keeps_fail
  · exact keeps_pure

theorem keeps_recover (footprint : Footprint json store sessionId allowed invariant)
    (manifest : TranscriptManifest) :
    Keeps allowed invariant (recoverManifestFromTailIfNeeded json sessionId
      (store.segmentsRoot sessionId) (store.manifestPath sessionId) manifest) := by
  apply Keeps.bind (keeps_readSegmentTail _)
  intro tail
  split
  · exact keeps_pure
  · split
    · exact Keeps.bind (footprint.keeps_writeManifest _) fun _ => keeps_pure
    · exact keeps_pure

theorem keeps_rotate (footprint : Footprint json store sessionId allowed invariant)
    (manifest : TranscriptManifest) :
    Keeps allowed invariant (rotateIfActiveSegmentUnwritable json sessionId
      (store.segmentsRoot sessionId) (store.manifestPath sessionId) manifest) := by
  apply Keeps.bind (footprint.keeps_openAppend _).attempt
  intro opened
  split
  · exact keeps_pure
  · apply Keeps.bind keeps_ofExcept
    intro rotated
    apply Keeps.bind (footprint.keeps_writeManifest _)
    intro _
    exact Keeps.bind (keeps_withContext (footprint.keeps_openAppend _)) fun _ => keeps_pure

theorem keeps_chooseSegment (path : Path) (manifest : TranscriptManifest) (size : Nat) :
    Keeps allowed invariant (store.chooseSegment path manifest size) := by
  have measured : Keeps allowed invariant (store.shouldRotateBySize path manifest size) := by
    apply Keeps.bind keeps_inspect
    intro there
    split
    · apply Keeps.bind keeps_inspect
      intro directory
      split
      · exact keeps_pure
      · exact Keeps.bind (keeps_withContext keeps_fileLength) fun _ => keeps_pure
    · exact keeps_pure
  apply Keeps.bind measured
  intro rotates
  split
  · exact Keeps.bind keeps_ofExcept fun _ => keeps_pure
  · exact keeps_pure

theorem keeps_writeRecord (footprint : Footprint json store sessionId allowed invariant)
    (name : String) (encoded : Bytes) :
    Keeps allowed invariant (writeRecord (store.segmentsRoot sessionId ++ [name]) encoded) := by
  have wrote (bytes : Bytes) :
      Keeps allowed invariant (writeAll (store.segmentsRoot sessionId ++ [name]) bytes) := by
    apply keeps_writeAll
    intro tree old count held found _
    exact footprint.segment tree name _ held (by simp [found])
  apply Keeps.bind (keeps_withContext (footprint.keeps_openAppend name))
  intro _
  exact Keeps.bind (keeps_withContext (wrote encoded)) fun _ => keeps_withContext (wrote _)

theorem keeps_append (footprint : Footprint json store sessionId allowed invariant)
    {record : TranscriptRecord Payload} (own : record.sessionId = sessionId) :
    Keeps allowed invariant (append json store record) := by
  subst own
  apply Keeps.bind
  · apply keeps_withContext
    apply keeps_createDirAll
    exact footprint.directory
  intro _
  apply Keeps.bind
  · apply Keeps.bind keeps_inspect
    intro there
    split
    · exact keeps_readManifest _
    · exact keeps_pure
  intro loaded
  apply Keeps.bind (footprint.keeps_recover loaded)
  intro recovered
  apply Keeps.bind (footprint.keeps_rotate _)
  intro rotated
  apply Keeps.bind (keeps_chooseSegment _ _ _)
  intro chosen
  apply Keeps.bind (footprint.keeps_rotate chosen)
  intro final
  apply Keeps.bind (footprint.keeps_writeRecord _ _)
  intro _
  exact Keeps.bind (footprint.keeps_writeManifest _) fun _ => keeps_pure

end Footprint

theorem footprint_other (json : TranscriptJson Payload) (store : TranscriptStore)
    {sessionId other : String} (different : other ≠ sessionId) (files : SessionFiles Payload) :
    Footprint json store other (fun _ => True) (Stored json store sessionId files) where
  directory := by
    intro tree path named leads stored missing
    exact stored.opened (FileTree.Opened.create ((mem_inits_tail _ _).mpr ⟨named, leads⟩) missing)
  segment := fun tree name bytes stored _ =>
    stored.insert_other different (.inr ⟨name, rfl⟩)
  manifest := fun tree manifest count stored _ => stored.insert_other different (.inl rfl)

end

/-! The store over time: requests that end, and requests cut short by a crash or a failed write.
A restart needs no step of its own, since nothing but the files is carried over. -/

section

variable {Payload : Type}

inductive Request (Payload : Type) where
  | append (record : TranscriptRecord Payload)
  | recoverManifest (sessionId : String)
  | rotateSegment (sessionId : String)

def Request.sessionId : Request Payload → String
  | .append record => record.sessionId
  | .recoverManifest sessionId => sessionId
  | .rotateSegment sessionId => sessionId

def serve (json : TranscriptJson Payload) (store : TranscriptStore) :
    Request Payload → FileProgram (Option (TranscriptRecord Payload))
  | .append record => (append json store record).map some
  | .recoverManifest sessionId =>
      (recoverManifestFromActiveSegmentTail json store sessionId).map fun _ => none
  | .rotateSegment sessionId =>
      (rotateWhenActiveSegmentUnwritable json store sessionId).map fun _ => none

inductive Event (Payload : Type) where
  | served (request : Request Payload)
  /-- The request was cut short after so many steps on the files. -/
  | interrupted (request : Request Payload) (steps : Nat)

structure History (Payload : Type) where
  tree : FileTree
  acknowledged : List (TranscriptRecord Payload)

def History.start : History Payload := ⟨.empty, []⟩

def acknowledgement (result : Except Failure (Option (TranscriptRecord Payload))) :
    List (TranscriptRecord Payload) :=
  match result with
  | .ok (some record) => [record]
  | _ => []

def historyStep (json : TranscriptJson Payload) (store : TranscriptStore)
    (history : History Payload) : Event Payload → Option (History Payload)
  | .served request =>
      let outcome := (serve json store request).run history.tree
      some ⟨outcome.final, history.acknowledged ++ acknowledgement outcome.result⟩
  | .interrupted request steps => do
      let (_, left) ← (serve json store request).stoppedAfter history.tree steps
      some ⟨left, history.acknowledged⟩

def History.of (history : History Payload) (sessionId : String) : List (TranscriptRecord Payload) :=
  history.acknowledged.filter fun record => decide (record.sessionId = sessionId)

inductive Settled (json : TranscriptJson Payload) (files : SessionFiles Payload) :
    Request Payload → Except Failure (Option (TranscriptRecord Payload)) →
    SessionFiles Payload → Prop where
  | failed (request : Request Payload) (error : Failure)
      (unreadable : (∃ bytes, files.manifest = .torn bytes) ∨ files.Unreadable json) :
      Settled json files request (.error error) files
  | appended {record : TranscriptRecord Payload} (plan : Plan json files record) :
      Settled json files (.append record) (.ok (some plan.nextRecord)) plan.committed
  | recovered (sessionId : String) {mark : Mark} {tail : Option (TranscriptRecord Payload)}
      (whole : files.manifest = .whole mark) (tailed : files.EndsWith json mark.active tail) :
      Settled json files (.recoverManifest sessionId) (.ok none) (files.recovered mark tail)
  | kept (request : Request Payload) (quiet : ∀ record, request ≠ .append record) :
      Settled json files request (.ok none) files

inductive Stopped (json : TranscriptJson Payload) (store : TranscriptStore)
    (files : SessionFiles Payload) :
    Request Payload → FileStep → SessionFiles Payload → Prop where
  | appending {record : TranscriptRecord Payload} {step : FileStep} {left : SessionFiles Payload}
      (interrupted : Interrupted json store files record step left) :
      Stopped json store files (.append record) step left
  | tearing (sessionId : String) (bytes torn : Bytes) (count : Nat)
      (short : count < bytes.length) (lost : json.manifest.fromSlice torn = none) :
      Stopped json store files (.recoverManifest sessionId)
        (.rewrite (store.manifestPath sessionId) bytes count) (files.withManifest (.torn torn))
  | recovering (sessionId : String) (step : FileStep) {mark : Mark}
      {tail : Option (TranscriptRecord Payload)} (whole : files.manifest = .whole mark)
      (tailed : files.EndsWith json mark.active tail) :
      Stopped json store files (.recoverManifest sessionId) step (files.recovered mark tail)
  | kept (request : Request Payload) (step : FileStep) :
      Stopped json store files request step files

section Requests

variable {json : TranscriptJson Payload} {store : TranscriptStore} {sessionId : String}
  {files left : SessionFiles Payload} {tree : FileTree}

theorem torn_of_unmarked {timestamp : String} (unmarked : files.mark timestamp = none) :
    ∃ bytes, files.manifest = .torn bytes := by
  cases text : files.manifest with
  | torn bytes => exact ⟨bytes, rfl⟩
  | missing => simp [SessionFiles.mark, text] at unmarked
  | whole mark => simp [SessionFiles.mark, text] at unmarked

theorem mark_of_whole {mark : Mark} (whole : files.manifest = .whole mark) (timestamp : String) :
    files.mark timestamp = some mark := by
  rw [SessionFiles.mark, whole]

abbrev Serves {Payload : Type} (json : TranscriptJson Payload) (store : TranscriptStore)
    (files : SessionFiles Payload) (request : Request Payload) (tree : FileTree) : Prop :=
  (serve json store request).Establishes tree
    (fun result next => ∃ left, Settled json files request result left ∧
      Stored json store request.sessionId left next)
    fun step next => ∃ left, Stopped json store files request step left ∧
      Stored json store request.sessionId left next

theorem recoverManifest_establishes (stored : Stored json store sessionId files tree)
    (wellFormed : files.WellFormed json sessionId) :
    Serves json store files (.recoverManifest sessionId) tree := by
  have there := pathExists_manifest stored
  apply Program.Establishes.map
  apply Program.establishes_bind_of_value there
  cases text : files.manifest with
  | missing => exact Program.establishes_pure ⟨files, .kept _ (by simp), stored⟩
  | torn bytes =>
    obtain ⟨error, failed⟩ := readManifest_torn stored text (wellFormed.torn bytes text)
    apply Program.establishes_of_run (Program.bind_run_of_error failed)
    exact ⟨files, .failed _ error (.inl ⟨bytes, text⟩), stored⟩
  | whole mark =>
    have ready : Ready store sessionId tree := stored.ready (.inl (by simp [text]))
    apply Program.establishes_bind_of_value (readManifest_whole stored text)
    rcases recoverManifest_spec stored wellFormed ready mark with failed | ⟨tail, tailed, recovers⟩
    · obtain ⟨unreadable, error, failed⟩ := failed
      apply Program.establishes_of_run (Program.bind_run_of_error failed)
      exact ⟨files, .failed _ error (.inr unreadable), stored⟩
    · apply Program.Returns.bind
      · apply recovers.mono fun _ _ same => same
        intro step next passed
        rcases passed with ⟨bytes, torn, count, rfl, short, lost, left⟩ | left
        · exact ⟨_, .tearing sessionId bytes torn count short lost, left⟩
        · exact ⟨_, .recovering sessionId step text tailed, left⟩
      intro result next reached
      exact Program.establishes_pure ⟨_, .recovered sessionId text tailed, reached.2.1⟩

theorem rotateSegment_establishes (stored : Stored json store sessionId files tree)
    (wellFormed : files.WellFormed json sessionId) :
    Serves json store files (.rotateSegment sessionId) tree := by
  have there := pathExists_manifest stored
  apply Program.Establishes.map
  apply Program.establishes_bind_of_value there
  cases text : files.manifest with
  | missing => exact Program.establishes_pure ⟨files, .kept _ (by simp), stored⟩
  | torn bytes =>
    apply Program.Returns.bind
    · apply Program.Returns.mapError
      apply (returns_createDirAll stored.clear).mono fun _ _ same => same
      exact fun step next opened => ⟨files, .kept _ step, stored.opened opened⟩
    intro _ next reached
    have kept := stored.opened reached.1
    obtain ⟨error, failed⟩ := readManifest_torn kept text (wellFormed.torn bytes text)
    apply Program.establishes_of_run (Program.bind_run_of_error failed)
    exact ⟨files, .failed _ error (.inl ⟨bytes, text⟩), kept⟩
  | whole mark =>
    apply Program.Returns.bind
    · apply Program.Returns.mapError
      apply (returns_createDirAll stored.clear).mono fun _ _ same => same
      exact fun step next opened => ⟨files, .kept _ step, stored.opened opened⟩
    intro _ next reached
    have kept := stored.opened reached.1
    have bound := wellFormed.active mark text
    have same : files.ensure mark.active = files := by
      simp [SessionFiles.ensure, Nat.not_le.mpr bound]
    apply Program.establishes_bind_of_value (readManifest_whole kept text)
    have rotates := returns_rotate kept reached.2 mark (Nat.le_of_lt bound)
    rw [same] at rotates
    apply Program.Returns.bind
    · apply rotates.mono fun _ _ same => same
      exact fun step next left => ⟨files, .kept _ step, left⟩
    intro result next reached
    exact Program.establishes_pure ⟨files, .kept _ (by simp), reached.2.1⟩

theorem serve_establishes (request : Request Payload)
    (stored : Stored json store request.sessionId files tree)
    (wellFormed : files.WellFormed json request.sessionId) :
    Serves json store files request tree := by
  cases request with
  | recoverManifest sessionId => exact recoverManifest_establishes stored wellFormed
  | rotateSegment sessionId => exact rotateSegment_establishes stored wellFormed
  | append record =>
    apply Program.Establishes.map
    apply (append_establishes stored wellFormed).mono
    · intro result next ended
      rcases ended with ⟨error, rfl, kept, unmarked | unreadable⟩ | ⟨plan, rfl, kept⟩
      · exact ⟨files, .failed _ error (.inl (torn_of_unmarked unmarked)), kept⟩
      · exact ⟨files, .failed _ error (.inr unreadable), kept⟩
      · exact ⟨plan.committed, .appended plan, kept⟩
    · exact fun step next ⟨left, interrupted, kept⟩ => ⟨left, .appending interrupted, kept⟩

theorem keeps_serve {allowed : FileStep → Prop} {invariant : FileTree → Prop}
    {request : Request Payload}
    (footprint : Footprint json store request.sessionId allowed invariant) :
    Program.Keeps allowed invariant (serve json store request) := by
  cases request with
  | append record => exact (footprint.keeps_append rfl).map
  | recoverManifest sessionId =>
    apply Program.Keeps.map
    apply Program.Keeps.bind Program.keeps_inspect
    intro there
    split
    · apply Program.Keeps.bind (Footprint.keeps_readManifest _)
      intro manifest
      exact Program.Keeps.bind (footprint.keeps_recover _) fun _ => Program.keeps_pure
    · exact Program.keeps_pure
  | rotateSegment sessionId =>
    apply Program.Keeps.map
    apply Program.Keeps.bind Program.keeps_inspect
    intro there
    split
    · apply Program.Keeps.bind (keeps_withContext (keeps_createDirAll footprint.directory))
      intro _
      apply Program.Keeps.bind (Footprint.keeps_readManifest _)
      intro manifest
      exact Program.Keeps.bind (footprint.keeps_rotate _) fun _ => Program.keeps_pure
    · exact Program.keeps_pure

end Requests

section Invariants

variable {json : TranscriptJson Payload} {store : TranscriptStore} {sessionId : String}
  {files left : SessionFiles Payload} {request : Request Payload}
  {result : Except Failure (Option (TranscriptRecord Payload))}

theorem recovered_wellFormed (wellFormed : files.WellFormed json sessionId) {mark : Mark}
    {tail : Option (TranscriptRecord Payload)} (whole : files.manifest = .whole mark) :
    (files.recovered mark tail).WellFormed json sessionId := by
  cases tail with
  | none => exact wellFormed
  | some record =>
    have bounds := wellFormed.mark_bounds (mark_of_whole whole "")
    simp only [SessionFiles.recovered]
    split
    · apply wellFormed.withWhole
      · rw [active_recovered]
        exact wellFormed.active mark whole
      · rw [active_recovered]
        exact bounds.2
    · exact wellFormed

theorem Settled.wellFormed (settled : Settled json files request result left)
    (wellFormed : files.WellFormed json request.sessionId) :
    left.WellFormed json request.sessionId := by
  cases settled with
  | failed => exact wellFormed
  | appended plan => exact plan.committed_wellFormed wellFormed
  | recovered sessionId whole => exact recovered_wellFormed wellFormed whole
  | kept => exact wellFormed

theorem Stopped.wellFormed {step : FileStep} (stopped : Stopped json store files request step left)
    (wellFormed : files.WellFormed json request.sessionId) :
    left.WellFormed json request.sessionId := by
  cases stopped with
  | appending interrupted => exact interrupted.wellFormed wellFormed
  | tearing sessionId bytes torn count short lost => exact wellFormed.withTorn lost
  | recovering sessionId step whole => exact recovered_wellFormed wellFormed whole
  | kept => exact wellFormed

theorem Settled.own (settled : Settled json files request result left) :
    ∀ record ∈ acknowledgement result, record.sessionId = request.sessionId := by
  cases settled with
  | appended plan =>
    intro record listed
    rw [List.mem_singleton.mp listed]
    rfl
  | _ => simp [acknowledgement]

/-- What holds of the files of a session and of what was acknowledged of it, whatever is
requested, unless a request is cut short against the condition. -/
structure SessionInvariant (json : TranscriptJson Payload) (store : TranscriptStore)
    (condition : FileTree → Request Payload → FileStep → Prop)
    (invariant : SessionFiles Payload → List (TranscriptRecord Payload) → Prop) : Prop where
  initial : invariant .empty []
  settled : ∀ {files left request result acknowledged},
    files.WellFormed json (Request.sessionId request) → invariant files acknowledged →
    Settled json files request result left →
    invariant left (acknowledged ++ acknowledgement result)
  stopped : ∀ {tree files left request step acknowledged},
    Stored json store (Request.sessionId request) files tree →
    files.WellFormed json (Request.sessionId request) → invariant files acknowledged →
    condition tree request step → Stopped json store files request step left →
    invariant left acknowledged

def CutsMeet (json : TranscriptJson Payload) (store : TranscriptStore)
    (condition : FileTree → Request Payload → FileStep → Prop) (history : History Payload) :
    Event Payload → Prop
  | .served _ => True
  | .interrupted request steps => ∀ step left,
      (serve json store request).stoppedAfter history.tree steps = some (some step, left) →
      condition history.tree request step

def Sessions (json : TranscriptJson Payload) (store : TranscriptStore)
    (invariant : SessionFiles Payload → List (TranscriptRecord Payload) → Prop)
    (history : History Payload) : Prop :=
  ∀ sessionId, ∃ files, Stored json store sessionId files history.tree ∧
    files.WellFormed json sessionId ∧ invariant files (history.of sessionId)

theorem History.of_append (tree next : FileTree) (acknowledged added : List (TranscriptRecord Payload))
    (sessionId : String) :
    History.of ⟨next, acknowledged ++ added⟩ sessionId =
      History.of ⟨tree, acknowledged⟩ sessionId ++
        added.filter fun record => decide (record.sessionId = sessionId) := by
  simp [History.of]

variable {condition : FileTree → Request Payload → FileStep → Prop}
  {invariant : SessionFiles Payload → List (TranscriptRecord Payload) → Prop}

theorem sessions_start (kept : SessionInvariant json store condition invariant) :
    Sessions json store invariant .start := by
  intro sessionId
  exact ⟨.empty, stored_empty json store sessionId, wellFormed_empty json sessionId, kept.initial⟩

theorem sessions_preserved (kept : SessionInvariant json store condition invariant) :
    Preserves (historyStep json store) (CutsMeet json store condition)
      (Sessions json store invariant) := by
  intro history event next sessions meets stepped sessionId
  cases event with
  | served request =>
    cases stepped
    obtain ⟨own, ownStored, ownFormed, ownHeld⟩ := sessions request.sessionId
    obtain ⟨left, settled, leftStored⟩ := (serve_establishes request ownStored ownFormed).1
    by_cases same : request.sessionId = sessionId
    · subst same
      have all : (acknowledgement ((serve json store request).run history.tree).result).filter
          (fun record => decide (record.sessionId = request.sessionId)) =
          acknowledgement ((serve json store request).run history.tree).result := by
        rw [List.filter_eq_self]
        intro record listed
        exact decide_eq_true (settled.own record listed)
      refine ⟨left, leftStored, settled.wellFormed ownFormed, ?_⟩
      rw [History.of_append history.tree, all]
      exact kept.settled ownFormed ownHeld settled
    · have nothing : (acknowledgement ((serve json store request).run history.tree).result).filter
          (fun record => decide (record.sessionId = sessionId)) = [] := by
        rw [List.filter_eq_nil_iff]
        intro record listed
        rw [settled.own record listed]
        simpa using same
      obtain ⟨files, stored, wellFormed, held⟩ := sessions sessionId
      have frame := keeps_serve (footprint_other json store same files) history.tree stored
      refine ⟨files, frame.1, wellFormed, ?_⟩
      rw [History.of_append history.tree, nothing, List.append_nil]
      exact held
  | interrupted request steps =>
    obtain ⟨⟨label, left⟩, stop, found⟩ := Option.bind_eq_some_iff.mp stepped
    cases found
    obtain ⟨files, stored, wellFormed, held⟩ := sessions sessionId
    by_cases same : request.sessionId = sessionId
    · subst same
      rcases (serve_establishes request stored wellFormed).stoppedAfter stop with
        ⟨_, rfl⟩ | ⟨step, rfl, leaves⟩
      · exact ⟨files, stored, wellFormed, held⟩
      · obtain ⟨remaining, stopped, leftStored⟩ := leaves
        have allowed := meets step left stop
        exact ⟨remaining, leftStored, stopped.wellFormed wellFormed,
          kept.stopped stored wellFormed held allowed stopped⟩
    · have frame := keeps_serve (footprint_other json store same files) history.tree stored
      rcases frame.stoppedAfter stop with ⟨_, rfl⟩ | ⟨step, rfl, leaves⟩
      · exact ⟨files, stored, wellFormed, held⟩
      · exact ⟨files, leaves trivial, wellFormed, held⟩

theorem sessions_run (kept : SessionInvariant json store condition invariant)
    {events : List (Event Payload)} {history : History Payload}
    (meets : Meets (historyStep json store) (CutsMeet json store condition) .start events)
    (ran : run (historyStep json store) .start events = some history) :
    Sessions json store invariant history :=
  run_invariant (sessions_preserved kept) (sessions_start kept) meets ran

end Invariants

end

end OpenJax.Transcript
