import OpenJax.Transcript.IndexInvariant

set_option autoImplicit false

namespace OpenJax.Transcript

open Shared FaultProgram SessionIndexStore

variable {json : IndexJson} {parse : String → Option UtcTime} {answers : CallSite → CallAnswer}

section Calls

variable {pre : SessionIndexStore → Prop} {ends : Ends SessionIndexStore IndexError Unit}

theorem triple_diskCall {site : CallSite} {change : IndexDisk → IndexDisk}
    (changed : ∀ store, pre store → ends.value () (store.onDisk change))
    (failed : ∀ error store, pre store → ends.failed error store)
    (stopped : ∀ store, pre store → ends.stopped store) :
    Triple answers pre (diskCall site change) ends := by
  apply triple_atomicCall _ (fun store error => failed error store) stopped
  intro store value next holds done
  simp only [Except.ok.injEq, Prod.mk.injEq] at done
  exact done.2 ▸ changed store holds

theorem triple_syncCall {site : CallSite} (synced : ∀ store, pre store → ends.value () store)
    (failed : ∀ error store, pre store → ends.failed error store)
    (stopped : ∀ store, pre store → ends.stopped store) :
    Triple answers pre (syncCall site) ends :=
  triple_quietCall (fun store _ holds _ => synced store holds)
    (fun store error => failed error store) stopped

theorem writeJsonAtomic_triple {target : JsonTarget} {encoded : Bytes}
    {replaced : SessionIndexStore → Prop}
    (begun : ∀ bytes store, pre store → pre (store.onDisk (target.writeTmp bytes)))
    (renamed : ∀ store, pre store →
      replaced ((store.onDisk (target.writeTmp encoded)).onDisk target.rename)) :
    Triple answers pre (writeJsonAtomic target encoded)
      ⟨fun _ => replaced, fun _ store => pre store ∨ replaced store,
        fun store => pre store ∨ replaced store⟩ := by
  apply Triple.bind fun _ store => ∃ before, pre before ∧
    store = before.onDisk (target.writeTmp encoded)
  · apply triple_call
    · intro store value next _ holds done
      simp only [Except.ok.injEq, Prod.mk.injEq] at done
      exact ⟨store, holds, done.2.symm⟩
    · intro store refused _ done
      cases done
    · intro store done _ holds
      exact .inl (begun _ store holds)
    · intro store done _ holds
      exact .inl (begun _ store holds)
  · intro _
    have written {store : SessionIndexStore}
        (half : ∃ before, pre before ∧ store = before.onDisk (target.writeTmp encoded)) :
        pre store := by
      obtain ⟨before, holds, rfl⟩ := half
      exact begun _ before holds
    apply Triple.bind fun _ => replaced
    · apply triple_diskCall
      · intro store half
        obtain ⟨before, holds, rfl⟩ := half
        exact renamed before holds
      · exact fun _ store half => .inl (written half)
      · exact fun store half => .inl (written half)
    · exact fun _ => triple_syncCall (fun _ => id) (fun _ _ => .inr) fun _ => .inr

end Calls

section Leaving

variable {γ : Type} {view : SessionIndexStore → γ}

theorem leaves_diskCall {site : CallSite} {change : IndexDisk → IndexDisk}
    (same : ∀ store, view (store.onDisk change) = view store) :
    Leaves view (diskCall site change) := by
  apply leaves_atomicCall
  intro store value next done
  simp only [Except.ok.injEq, Prod.mk.injEq] at done
  exact done.2 ▸ same store

theorem leaves_syncCall (site : CallSite) : Leaves view (syncCall site) :=
  leaves_quietCall

theorem leaves_writeJsonAtomic {target : JsonTarget} (encoded : Bytes)
    (begun : ∀ bytes store, view (store.onDisk (target.writeTmp bytes)) = view store)
    (renamed : ∀ store, view (store.onDisk target.rename) = view store) :
    Leaves view (writeJsonAtomic target encoded) := by
  apply Leaves.bind
  · apply leaves_call
    · intro store value next done
      simp only [Except.ok.injEq, Prod.mk.injEq] at done
      exact done.2 ▸ begun encoded store
    · exact fun done => begun (encoded.take done)
  · intro _
    exact (leaves_diskCall renamed).bind fun _ => leaves_syncCall _

def LogsApart (view : SessionIndexStore → γ) : Prop :=
  ∀ (log logTmp logBak : IndexDisk → Option Bytes) store,
    view (store.onDisk fun disk =>
      { disk with log := log disk, logTmp := logTmp disk, logBak := logBak disk }) = view store

theorem leaves_hasBak_ite {α : Type} {first second : IndexProgram α} (there : Leaves view first)
    (missing : Leaves view second) :
    Leaves view (hasBak >>= fun found => if found then first else second) :=
  (leaves_inspect _).bind fun _ => leaves_ite there missing

theorem leaves_retireLog (apart : LogsApart view) : Leaves view retireLog := by
  have retired : Leaves view
      (diskCall .retireLog fun disk => { disk with logBak := disk.log, log := none }) :=
    leaves_diskCall (apart _ _ _)
  have dropped : Leaves view (diskCall .removeStaleBak dropBak) := leaves_diskCall (apart _ _ _)
  apply (leaves_inspect _).bind
  intro found
  apply leaves_ite
  · exact leaves_hasBak_ite (dropped.bind fun _ => retired) retired
  · exact leaves_pure _

theorem leaves_rollBackPublish (apart : LogsApart view) (publishErr : IndexError) :
    Leaves view (rollBackPublish publishErr) := by
  have moved : Leaves view (hasBak >>= fun found =>
      if found then diskCall .rollbackLog bakToLog else pure PUnit.unit) :=
    leaves_hasBak_ite (leaves_diskCall (apart _ _ _)) (leaves_pure _)
  apply moved.attempt.bind
  intro rolledBack
  apply (leaves_diskCall (apart _ _ _)).attempt.bind
  intro _
  cases rolledBack with
  | ok _ => exact leaves_fail _
  | error _ => exact leaves_fail _

theorem leaves_cleanUpBak (apart : LogsApart view) : Leaves view cleanUpBak := by
  have restored : Leaves view restoreBak :=
    (leaves_diskCall (apart _ _ _)).bind fun _ =>
      (leaves_diskCall (apart _ _ _)).bind fun _ => leaves_syncCall _
  apply (leaves_syncCall _).bind
  intro _
  apply leaves_hasBak_ite _ (leaves_pure _)
  apply (leaves_diskCall (apart _ _ _)).attempt.bind
  intro removed
  cases removed with
  | ok _ => exact leaves_pure _
  | error cleanupErr =>
    apply restored.attempt.bind
    intro rolledBack
    cases rolledBack with
    | ok _ => exact leaves_fail _
    | error _ => exact leaves_fail _

theorem leaves_rotateLogTmpBak (apart : LogsApart view) : Leaves view rotateLogTmpBak := by
  apply Leaves.bind
  · apply leaves_call
    · intro store value next done
      simp only [Except.ok.injEq, Prod.mk.injEq] at done
      exact done.2 ▸ apart _ _ _ store
    · intro done store
      by_cases none : done = 0
      · simp only [if_pos none]
        rfl
      · simp only [if_neg none]
        exact apart _ _ _ store
  · intro _
    apply (leaves_retireLog apart).bind
    intro _
    apply (leaves_diskCall (apart _ _ _)).attempt.bind
    intro published
    cases published with
    | ok _ => exact leaves_cleanUpBak apart
    | error publishErr => exact leaves_rollBackPublish apart publishErr

theorem leaves_markRepairRequired
    (health : ∀ store, view { store with health := .repairRequired } = view store)
    (marked : ∀ store, view (store.onDisk setMarker) = view store) :
    Leaves view markRepairRequired := by
  apply (leaves_modify health).bind
  intro _
  apply Leaves.bind _ fun _ => leaves_syncCall _
  apply leaves_call
  · intro store value next done
    simp only [Except.ok.injEq, Prod.mk.injEq] at done
    exact done.2 ▸ marked store
  · intro done store
    by_cases none : done = 0
    · simp only [if_pos none]
      rfl
    · simp only [if_neg none]
      exact marked store

end Leaving

section Rotation

variable {good : Option Bytes → Prop}

/-- What the log may be at every end of a change of the log: a backup counts where there is no log. -/
def Rotatable (good : Option Bytes → Prop) (store : SessionIndexStore) : Prop :=
  good store.disk.log ∧ (store.disk.log = none → good store.disk.logBak)

structure Rotating (good : Option Bytes → Prop) (store : SessionIndexStore) : Prop where
  log : good store.disk.log
  bak : good store.disk.logBak
  tmp : store.disk.logTmp = none ∨ store.disk.logTmp = some []

theorem Rotating.rotatable {store : SessionIndexStore} (rotating : Rotating good store) :
    Rotatable good store :=
  ⟨rotating.log, fun _ => rotating.bak⟩

theorem hasBak_triple {α : Type} {pre : SessionIndexStore → Prop}
    {ends : Ends SessionIndexStore IndexError α} {first second : IndexProgram α}
    (there : Triple answers pre first ends) (missing : Triple answers pre second ends) :
    Triple answers pre (hasBak >>= fun found => if found then first else second) ends := by
  apply Triple.look
  intro found
  apply triple_ite
  · exact fun _ => there.strengthen fun _ => And.left
  · exact fun _ => missing.strengthen fun _ => And.left

theorem retireLog_triple (absent : good none) :
    Triple answers (fun store => Rotatable good store ∧ store.disk.logTmp = some []) retireLog
      ⟨fun _ store => Rotating good store ∧ store.disk.logTmp = some [],
        fun _ => Rotatable good, Rotatable good⟩ := by
  apply Triple.look
  intro found
  cases found with
  | false =>
    apply triple_pure
    intro store holds
    have missing : store.disk.log = none := by simpa using holds.2
    exact ⟨⟨holds.1.1.1, holds.1.1.2 missing, .inr holds.1.2⟩, holds.1.2⟩
  | true =>
    have there {store : SessionIndexStore} (holds : (good store.disk.log ∧
        store.disk.log.isSome) ∧ store.disk.logTmp = some []) : Rotatable good store :=
      ⟨holds.1.1, fun missing => by simp [missing] at holds⟩
    have retired : Triple answers (fun store => (good store.disk.log ∧ store.disk.log.isSome) ∧
          store.disk.logTmp = some [])
        (diskCall .retireLog fun disk => { disk with logBak := disk.log, log := none })
        ⟨fun _ store => Rotating good store ∧ store.disk.logTmp = some [],
          fun _ => Rotatable good, Rotatable good⟩ := by
      apply triple_diskCall
      · exact fun store holds => ⟨⟨absent, holds.1.1, .inr holds.2⟩, holds.2⟩
      · exact fun _ _ => there
      · exact fun _ => there
    -- A backup of an earlier change is dropped before the log takes its place.
    have dropped : Triple answers (fun store => (good store.disk.log ∧ store.disk.log.isSome) ∧
          store.disk.logTmp = some []) (diskCall .removeStaleBak dropBak)
        ⟨fun _ store => (good store.disk.log ∧ store.disk.log.isSome) ∧
            store.disk.logTmp = some [],
          fun _ => Rotatable good, Rotatable good⟩ := by
      apply triple_diskCall
      · exact fun _ => id
      · exact fun _ _ => there
      · exact fun _ => there
    have both := hasBak_triple (dropped.bind _ fun _ => retired) retired
    exact both.strengthen fun store holds => ⟨⟨holds.1.1.1, holds.2⟩, holds.1.2⟩

theorem rotating_diskCall {site : CallSite} {change : IndexDisk → IndexDisk}
    (kept : ∀ store, Rotating good store → Rotating good (store.onDisk change)) :
    Triple answers (Rotating good) (diskCall site change) (.always (Rotating good)) :=
  triple_diskCall kept (fun _ _ => id) fun _ => id

theorem rollBackPublish_triple (absent : good none) (publishErr : IndexError) :
    Triple answers (Rotating good) (rollBackPublish publishErr)
      ⟨fun _ _ => False, fun _ => Rotating good, Rotating good⟩ := by
  apply Triple.tried (fun _ => Rotating good) fun _ => Rotating good
  · apply hasBak_triple
    · exact rotating_diskCall fun store rotating => ⟨rotating.bak, absent, rotating.tmp⟩
    · exact triple_pure fun _ => id
  all_goals
    intro _
    apply Triple.tried (fun _ => Rotating good) fun _ => Rotating good
    · exact rotating_diskCall fun store rotating => ⟨rotating.log, rotating.bak, .inl rfl⟩
    · exact fun _ => triple_fail fun _ => id
    · exact fun _ => triple_fail fun _ => id

theorem restoreBak_triple (absent : good none) :
    Triple answers (Rotating good) restoreBak (.always (Rotating good)) := by
  apply Triple.bind fun _ => Rotating good
  · exact rotating_diskCall fun store rotating => ⟨absent, rotating.bak, rotating.tmp⟩
  · intro _
    apply Triple.bind fun _ => Rotating good
    · exact rotating_diskCall fun store rotating => ⟨rotating.bak, absent, rotating.tmp⟩
    · exact fun _ => triple_syncCall (fun _ => id) (fun _ _ => id) fun _ => id

theorem cleanUpBak_triple (absent : good none) :
    Triple answers (fun store => Rotating good store ∧ store.disk.log = some []) cleanUpBak
      ⟨fun _ store => Rotating good store ∧ store.disk.log = some [], fun _ => Rotating good,
        Rotating good⟩ := by
  apply Triple.bind fun _ store => Rotating good store ∧ store.disk.log = some []
  · exact triple_syncCall (fun _ => id) (fun _ _ => And.left) fun _ => And.left
  · intro _
    apply hasBak_triple
    · apply Triple.tried (fun _ store => Rotating good store ∧ store.disk.log = some [])
        fun _ => Rotating good
      · apply triple_diskCall
        · exact fun store holds => ⟨⟨holds.1.log, absent, holds.1.tmp⟩, holds.2⟩
        · exact fun _ _ => And.left
        · exact fun _ => And.left
      · exact fun _ => triple_pure fun _ => id
      · intro cleanupErr
        apply Triple.tried (fun _ => Rotating good) fun _ => Rotating good
        · exact restoreBak_triple absent
        · exact fun _ => triple_fail fun _ => id
        · exact fun _ => triple_fail fun _ => id
    · exact triple_pure fun _ => id

theorem rotateLogTmpBak_triple (absent : good none) (empty : good (some [])) :
    Triple answers (Rotatable good) rotateLogTmpBak
      ⟨fun _ store => Rotatable good store ∧ store.disk.log = some [], fun _ => Rotatable good,
        Rotatable good⟩ := by
  apply Triple.bind fun _ store => Rotatable good store ∧ store.disk.logTmp = some []
  · apply triple_call
    · intro store value next _ holds done
      simp only [Except.ok.injEq, Prod.mk.injEq] at done
      exact done.2 ▸ ⟨holds, rfl⟩
    · intro store refused _ done
      cases done
    all_goals
      intro store done _ holds
      dsimp only [onDisk_disk, Rotatable]
      split
      · exact holds
      · exact holds
  · intro _
    apply Triple.bind _ (retireLog_triple absent)
    intro _
    apply Triple.tried (fun _ store => Rotating good store ∧ store.disk.log = some [])
      fun _ => Rotating good
    · apply triple_diskCall
      · intro store holds
        have emptied : (store.onDisk fun disk =>
            { disk with log := disk.logTmp, logTmp := none }).disk.log = some [] := holds.2
        exact ⟨⟨emptied ▸ empty, holds.1.bak, .inl rfl⟩, emptied⟩
      · exact fun _ _ => And.left
      · exact fun _ holds => holds.1.rotatable
    · intro _
      exact (cleanUpBak_triple absent).mono (fun _ _ holds => ⟨holds.1.rotatable, holds.2⟩)
        (fun _ _ => Rotating.rotatable) fun _ => Rotating.rotatable
    · intro publishErr
      exact (rollBackPublish_triple absent publishErr).mono (fun _ _ => False.elim)
        (fun _ _ => Rotating.rotatable) fun _ => Rotating.rotatable

end Rotation

section Compaction

variable {now : UtcTime} {entries : List IndexSessionEntry}

structure Agreeing (json : IndexJson) (parse : String → Option UtcTime)
    (entries : List IndexSessionEntry) (store : SessionIndexStore) : Prop where
  recorded : Recorded json parse entries store.disk
  entries : store.entries = entries

theorem Midway.agreeing {store : SessionIndexStore}
    (midway : Midway json parse entries entries store) : Agreeing json parse entries store :=
  ⟨midway.recorded, midway.entries⟩

def besidesLogs (store : SessionIndexStore) : Option Bytes × List IndexSessionEntry × IndexHealth :=
  (store.disk.snapshot, store.entries, store.health)

theorem markRepairRequired_triple {pre : SessionIndexStore → Prop}
    (health : ∀ store, pre store → pre { store with health := .repairRequired })
    (marked : ∀ store, pre store → pre (store.onDisk setMarker)) :
    Triple answers pre markRepairRequired
      ⟨fun _ store => pre store ∧ store.health = .repairRequired,
        fun _ store => pre store ∧ store.health = .repairRequired,
        fun store => pre store ∧ store.health = .repairRequired⟩ := by
  apply Triple.bind fun _ store => pre store ∧ store.health = .repairRequired
  · exact triple_modify fun store holds => ⟨health store holds, rfl⟩
  · intro _
    apply Triple.bind fun _ store => pre store ∧ store.health = .repairRequired
    · apply triple_call
      · intro store value next _ holds done
        simp only [Except.ok.injEq, Prod.mk.injEq] at done
        exact done.2 ▸ ⟨marked store holds.1, holds.2⟩
      · intro store refused _ done
        cases done
      all_goals
        intro store done _ holds
        by_cases none : done = 0
        · simp only [if_pos none]
          exact holds
        · simp only [if_neg none]
          exact ⟨marked store holds.1, holds.2⟩
    · exact fun _ => triple_syncCall (fun _ => id) (fun _ _ => id) fun _ => id

theorem rotate_compacted {encoded : Bytes} (unique : UniqueIds entries)
    (settled : ∀ entry ∈ entries, Renormalizes parse entry.updatedAt)
    (snapshot : encoded = json.snapshot.toVec (snapshotOf now entries)) :
    Triple answers
      (fun store => (Midway json parse entries entries store ∧ store.disk.log.isSome) ∧
        store.disk.snapshot = some encoded) rotateLogTmpBak
      ⟨fun _ => Midway json parse entries entries, fun _ => Agreeing json parse entries,
        Agreeing json parse entries⟩ := by
  -- The new snapshot gives the entries with any of these logs.
  let good (log : Option Bytes) : Prop := ∀ disk : IndexDisk,
    disk.snapshot = some encoded → disk.log = log → Indexed json parse disk entries
  have absent : good none := by
    intro disk taken missing
    apply indexed_snapshot unique settled (taken.trans (congrArg some snapshot))
    rw [missing]
    rfl
  have empty : good (some []) := by
    intro disk taken cleared
    apply indexed_snapshot unique settled (taken.trans (congrArg some snapshot))
    rw [cleared]
    rfl
  have apart : LogsApart besidesLogs := fun _ _ _ _ => rfl
  let beside (store : SessionIndexStore) : Prop := store.disk.snapshot = some encoded ∧
    store.entries = entries ∧ store.health = .healthy
  have kept : Triple answers beside rotateLogTmpBak (.always beside) := by
    apply (leaves_rotateLogTmpBak apart).triple
    intro store next same holds
    simp only [besidesLogs, Prod.mk.injEq] at same
    exact ⟨same.1.trans holds.1, same.2.1.trans holds.2.1, same.2.2.trans holds.2.2⟩
  have rotates : Triple answers (Rotatable good) rotateLogTmpBak _ :=
    rotateLogTmpBak_triple absent empty
  have logs := rotates.and
    (rotateLogTmpBak_triple (logging_none json parse) (logging_empty json parse))
  have agreeing {store : SessionIndexStore} (rotated : Rotatable good store)
      (logging : Rotatable (Logging json parse) store)
      (others : beside store) : Agreeing json parse entries store :=
    ⟨⟨rotated.1 store.disk others.1 rfl, logging.2⟩, others.2.1⟩
  apply ((logs.and kept).strengthen _).mono
  · intro _ store holds
    have agrees := agreeing holds.1.1.1 holds.1.2.1 holds.2
    exact ⟨agrees.recorded, agrees.entries, holds.2.2.2⟩
  · exact fun _ store holds => agreeing holds.1.1 holds.1.2 holds.2
  · exact fun store holds => agreeing holds.1.1 holds.1.2 holds.2
  · intro store holds
    obtain ⟨⟨midway, there⟩, taken⟩ := holds
    have present {log : Prop} (missing : store.disk.log = none) : log := by
      simp [missing] at there
    refine ⟨⟨⟨?_, present⟩, ⟨midway.recorded.restartable.log, present⟩⟩, taken, midway.entries,
      midway.health⟩
    intro disk snapshot log
    exact midway.recorded.indexed.of_files (snapshot.trans taken.symm) log

theorem compact_triple (unique : UniqueIds entries)
    (settled : ∀ entry ∈ entries, Renormalizes parse entry.updatedAt) :
    Triple answers
      (fun store => Midway json parse entries entries store ∧ store.disk.log.isSome)
      (compact json now)
      ⟨fun _ => Midway json parse entries entries, fun _ => Agreeing json parse entries,
        Agreeing json parse entries⟩ := by
  apply Triple.look
  intro seen
  let encoded := json.snapshot.toVec (snapshotOf now seen)
  let begun (store : SessionIndexStore) : Prop :=
    (Midway json parse entries entries store ∧ store.disk.log.isSome) ∧ seen = entries
  let replaced (store : SessionIndexStore) : Prop :=
    begun store ∧ store.disk.snapshot = some encoded
  have agreeing {store : SessionIndexStore} (either : begun store ∨ replaced store) :
      Agreeing json parse entries store := by
    rcases either with holds | holds
    · exact holds.1.1.agreeing
    · exact holds.1.1.1.agreeing
  apply Triple.bind fun _ => replaced
  · have wrote : Triple answers begun (writeJsonAtomic .snapshot encoded)
        ⟨fun _ => replaced, fun _ store => begun store ∨ replaced store,
          fun store => begun store ∨ replaced store⟩ := by
      apply writeJsonAtomic_triple
      · intro bytes store holds
        exact ⟨⟨⟨holds.1.1.recorded.of_files rfl rfl rfl, holds.1.1.entries, holds.1.1.health⟩,
          holds.1.2⟩, holds.2⟩
      · intro store holds
        obtain ⟨⟨midway, there⟩, rfl⟩ := holds
        have indexed : Indexed json parse ((store.onDisk (JsonTarget.snapshot.writeTmp
            encoded)).onDisk JsonTarget.snapshot.rename).disk seen :=
          midway.recorded.indexed.snapshot_log unique rfl rfl
        exact ⟨⟨⟨⟨⟨indexed, midway.recorded.bak⟩, midway.entries, midway.health⟩, there⟩, rfl⟩, rfl⟩
    apply (wrote.strengthen _).mono
    · exact fun _ _ => id
    · exact fun _ _ => agreeing
    · exact fun _ => agreeing
    · intro store holds
      exact ⟨holds.1, holds.2.symm.trans holds.1.1.entries⟩
  · intro _
    apply Triple.tried (fun _ => Midway json parse entries entries)
      fun _ => Agreeing json parse entries
    · intro store holds
      obtain ⟨⟨⟨midway, there⟩, rfl⟩, taken⟩ := holds
      exact rotate_compacted unique settled rfl store ⟨⟨midway, there⟩, taken⟩
    · exact fun _ => triple_pure fun _ => id
    · intro err
      have marks : Triple answers (Agreeing json parse entries) markRepairRequired
          (.always (Agreeing json parse entries)) := by
        apply (markRepairRequired_triple _ _).mono
        · exact fun _ _ => And.left
        · exact fun _ _ => And.left
        · exact fun _ => And.left
        · exact fun store agrees => ⟨agrees.recorded, agrees.entries⟩
        · exact fun store agrees => ⟨agrees.recorded.of_files rfl rfl rfl, agrees.entries⟩
      apply triple_ite
      · exact fun _ => marks.bind _ fun _ => triple_fail fun _ => id
      · exact fun _ => triple_fail fun _ => id

theorem compactionDue_triple {pre : SessionIndexStore → Prop} :
    Triple answers pre compactionDue
      ⟨fun due store => pre store ∧ (due → store.disk.log.isSome), fun _ => pre, pre⟩ := by
  apply Triple.look
  intro log
  cases log with
  | none => exact triple_pure fun store holds => ⟨holds.1, nofun⟩
  | some bytes =>
    apply Triple.bind fun _ store => pre store ∧ store.disk.log = some bytes
    · exact triple_syncCall (fun _ => id) (fun _ _ => And.left) fun _ => And.left
    · intro _
      apply Triple.bind fun _ store => pre store ∧ store.disk.log = some bytes
      · exact triple_quietCall (fun _ _ holds _ => holds) (fun _ _ => And.left) fun _ => And.left
      · exact fun lines => triple_pure fun store holds => ⟨holds.1, fun _ => by simp [holds.2]⟩

theorem maybeCompact_triple (unique : UniqueIds entries) :
    Triple answers (Midway json parse entries entries) (maybeCompact json now)
      ⟨fun _ => Midway json parse entries entries, fun _ => Agreeing json parse entries,
        Agreeing json parse entries⟩ := by
  intro start midway
  have settled := midway.recorded.indexed.settled unique
  have compacts : Triple answers (Midway json parse entries entries) (maybeCompact json now)
      ⟨fun _ => Midway json parse entries entries, fun _ => Agreeing json parse entries,
        Agreeing json parse entries⟩ := by
    apply Triple.bind fun (due : Bool) store =>
      Midway json parse entries entries store ∧ (due → store.disk.log.isSome)
    · exact compactionDue_triple.mono (fun _ _ => id) (fun _ _ => Midway.agreeing)
        fun _ => Midway.agreeing
    · intro due
      apply triple_ite
      · intro isDue
        exact (compact_triple unique settled).strengthen fun _ holds => ⟨holds.1, holds.2 isDue⟩
      · exact fun _ => triple_pure fun _ => And.left
  exact compacts start midway

end Compaction

end OpenJax.Transcript
