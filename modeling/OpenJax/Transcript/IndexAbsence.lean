import OpenJax.Transcript.IndexOutcomes

set_option autoImplicit false

namespace OpenJax.Transcript

open Shared FaultProgram SessionIndexStore

variable {json : IndexJson} {parse : String → Option UtcTime} {answers : CallSite → CallAnswer}
  {now : UtcTime} {sessionId : String}

structure Lacks (sessionId : String) (store : SessionIndexStore) : Prop where
  entry : findEntry sessionId store.entries = none
  directory : store.disk.sessions.lookup sessionId = none

def lackEnds (α : Type) (sessionId : String) : Ends SessionIndexStore IndexError α :=
  ⟨fun _ => Lacks sessionId, fun _ => Lacks sessionId, fun _ => True⟩

theorem findEntry_sorted {entries : List IndexSessionEntry} :
    findEntry sessionId (sortEntriesDesc entries) = none ↔ findEntry sessionId entries = none := by
  simp [findEntry, (sortEntriesDesc_perm entries).mem_iff]

variable {store : SessionIndexStore}

theorem Lacks.upsert (lacks : Lacks sessionId store) {entry : IndexSessionEntry}
    (other : entry.sessionId ≠ sessionId) : Lacks sessionId (upsertMemoryEntry entry store) := by
  refine ⟨findEntry_sorted.mpr ?_, lacks.directory⟩
  rw [findEntry_upsertEntry, if_neg (Ne.symm other)]
  exact lacks.entry

theorem Lacks.remove (lacks : Lacks sessionId store) (removed : String) :
    Lacks sessionId (removeMemoryEntry removed store) := by
  refine ⟨findEntry_sorted.mpr ?_, lacks.directory⟩
  rw [findEntry_removeEntry, lacks.entry, ite_self]

theorem Lacks.update (lacks : Lacks sessionId store) (updated : String)
    (change : SessionDirectory → SessionDirectory) :
    Lacks sessionId (store.onDisk (·.updateSession updated change)) := by
  refine ⟨lacks.entry, ?_⟩
  rw [SessionIndexStore.onDisk, lookup_updateSession]
  split
  case isTrue own => rw [← own, lacks.directory, Option.map_none]
  case isFalse => exact lacks.directory

theorem Lacks.beside {α : Type} {program : IndexProgram α}
    (leaves : Leaves (fun store => (store.disk.sessions, store.entries)) program) :
    Triple answers (Lacks sessionId) program (lackEnds α sessionId) := by
  have kept : Triple answers (Lacks sessionId) program (.always (Lacks sessionId)) := by
    apply leaves.triple
    intro store next same lacks
    obtain ⟨sessions, entries⟩ := Prod.mk.inj same
    exact ⟨entries ▸ lacks.entry, sessions ▸ lacks.directory⟩
  exact kept.mono (fun _ _ => id) (fun _ _ => id) fun _ _ => trivial

theorem append_lacks (purpose : LogPurpose) (record : SessionIndexLogRecord) :
    Triple answers (Lacks sessionId) (appendLogRecordToPath json purpose record)
      (lackEnds Unit sessionId) :=
  Lacks.beside (leaves_append fun _ _ => rfl)

theorem halt_lacks {α : Type} (error : IndexError) :
    Triple answers (Lacks sessionId) (do markRepairRequired; FaultProgram.fail error)
      (lackEnds α sessionId) :=
  Lacks.beside ((leaves_markRepairRequired (fun _ => rfl) fun _ => rfl).bind fun _ => leaves_fail _)

theorem writeSessionMetadata_lacks (updated : String)
    (mutate : SessionMetadata → SessionMetadata) :
    Triple answers (Lacks sessionId) (writeSessionMetadata json updated mutate)
      ⟨fun _ store => updated ≠ sessionId ∧ Lacks sessionId store, fun _ => Lacks sessionId,
        fun _ => True⟩ := by
  apply Triple.bind fun _ store => updated ≠ sessionId ∧ Lacks sessionId store
  · apply triple_quietCall
    · intro store metadata lacks read
      refine ⟨?_, lacks⟩
      -- There are no metadata of a session without a directory.
      intro own
      rw [own, lacks.directory] at read
      cases read
    · exact fun _ _ => id
    · exact fun _ _ => trivial
  intro metadata
  apply Triple.given
  intro other
  have writes : Triple answers (Lacks sessionId) (writeJsonAtomic (.metadata updated)
      (json.metadata.toVec (mutate metadata))) (lackEnds Unit sessionId) := by
    apply Triple.bind fun _ => Lacks sessionId
    · apply triple_call
      · intro store value next _ lacks done
        cases Except.ok.inj done
        exact lacks.update updated _
      · exact fun _ _ lacks _ => lacks
      · exact fun _ _ _ lacks => lacks.update updated _
      · exact fun _ _ _ _ => trivial
    intro _
    apply Triple.bind fun _ => Lacks sessionId
    · apply triple_atomicCall
      · intro store value next lacks done
        cases Except.ok.inj done
        exact lacks.update updated _
      · exact fun _ _ => id
      · exact fun _ _ => trivial
    · exact fun _ => Lacks.beside (leaves_syncCall _)
  exact writes.mono (fun _ _ lacks => ⟨other, lacks⟩) (fun _ _ => id) fun _ => id

theorem storeEntry_lacks (context : String) (next : IndexSessionEntry)
    (mutate : SessionMetadata → SessionMetadata) :
    Triple answers (Lacks sessionId) (storeEntry json now context next mutate)
      (lackEnds Unit sessionId) := by
  apply Triple.bind fun _ => Lacks sessionId
  · exact append_lacks _ _
  intro _
  apply Triple.tried _ _ (writeSessionMetadata_lacks next.sessionId mutate)
  · intro _
    apply Triple.given
    exact fun other => triple_modify fun _ lacks => lacks.upsert other
  · exact fun _ => halt_lacks _

theorem compensateCreate_lacks (created : String) (publishErr : IndexError) :
    Triple answers (Lacks sessionId) (compensateCreate json now created publishErr)
      (lackEnds Unit sessionId) := by
  apply Triple.tried _ _ (append_lacks _ _)
  · intro _
    apply Triple.bind fun _ => Lacks sessionId
    · exact triple_modify fun _ lacks => lacks.remove created
    intro _
    have clears : Triple answers (Lacks sessionId)
        (removeStaged .discardStaging created).attempt _ :=
      Lacks.beside (leaves_removeStaged (fun _ _ => rfl) _ _).attempt
    exact Triple.bind _ clears fun _ => triple_fail fun _ => id
  · exact fun _ => halt_lacks _

theorem createNormalized_lacks {entry : IndexSessionEntry} (other : entry.sessionId ≠ sessionId) :
    Triple answers (Lacks sessionId) (createNormalized json now entry)
      (lackEnds Unit sessionId) := by
  apply Triple.bind fun _ => Lacks sessionId
  · exact Lacks.beside (leaves_stage (fun _ _ => rfl) entry)
  intro _
  apply Triple.bind fun _ => Lacks sessionId
  · exact append_lacks _ _
  intro _
  apply Triple.bind fun _ => Lacks sessionId
  · exact triple_modify fun _ lacks => lacks.upsert other
  intro _
  apply Triple.tried (fun _ => Lacks sessionId) fun _ => Lacks sessionId
  · apply triple_atomicCall
    · intro store value next lacks done
      refine ⟨?_, ?_⟩
      all_goals
        unfold publishStaged at done
        split at done
        · cases done
        · split_ifs at done
          · cases Except.ok.inj done
            first
            | exact lacks.entry
            | exact (Table.lookup_insert_eq _ _ _ _).trans
                ((if_neg (Ne.symm other)).trans lacks.directory)
          · cases done
    · exact fun _ _ => id
    · exact fun _ _ => trivial
  · exact fun _ => triple_pure fun _ => id
  · exact fun publishErr => compensateCreate_lacks entry.sessionId publishErr

theorem compensateDelete_lacks {original : Option IndexSessionEntry}
    (other : ∀ entry, original = some entry → entry.sessionId ≠ sessionId)
    (removeErr : IndexError) :
    Triple answers (Lacks sessionId) (compensateDelete json now original removeErr)
      (lackEnds Unit sessionId) := by
  cases original with
  | none => exact triple_fail fun _ => id
  | some entry =>
    apply Triple.tried _ _ (append_lacks _ _)
    · intro _
      apply Triple.bind fun _ => Lacks sessionId
      · exact triple_modify fun _ lacks => lacks.upsert (other entry rfl)
      · exact fun _ => triple_fail fun _ => id
    · exact fun _ => halt_lacks _

theorem deleteKnown_lacks (deleted : String) {original : Option IndexSessionEntry}
    (other : ∀ entry, original = some entry → entry.sessionId ≠ sessionId) :
    Triple answers (Lacks sessionId) (deleteKnown json now deleted original)
      (lackEnds Unit sessionId) := by
  apply Triple.bind fun _ => Lacks sessionId
  · exact append_lacks _ _
  intro _
  apply Triple.bind fun _ => Lacks sessionId
  · exact triple_modify fun _ lacks => lacks.remove deleted
  intro _
  apply Triple.tried (fun _ => Lacks sessionId) fun _ => Lacks sessionId
  · apply triple_call
    · intro store value next _ lacks done
      split at done
      · cases Except.ok.inj done
        refine ⟨lacks.entry, ?_⟩
        rw [SessionIndexStore.onDisk, Table.lookup_erase_eq, lacks.directory, ite_self]
      · cases done
    · exact fun _ _ lacks _ => lacks
    · exact fun _ _ _ lacks => lacks.update deleted _
    · exact fun _ _ _ _ => trivial
  · exact fun _ => triple_pure fun _ => id
  · exact fun removeErr => compensateDelete_lacks other removeErr

theorem maybeCompact_lacks :
    Triple answers (Lacks sessionId) (maybeCompact json now) (lackEnds Unit sessionId) := by
  intro store lacks
  have compacts := @maybeCompact_outcome json answers now store store rfl
  generalize (maybeCompact json now).run answers store = outcome at compacts ⊢
  match outcome, compacts with
  | (.value _, next), same =>
    simp only [Ends.of, offIndex, Prod.mk.injEq] at same
    exact ⟨same.2.2.1 ▸ lacks.entry, same.1 ▸ lacks.directory⟩
  | (.failed _, next), same =>
    simp only [Ends.of, offLog, Prod.mk.injEq] at same
    exact ⟨same.2.2 ▸ lacks.entry, same.1 ▸ lacks.directory⟩
  | (.stopped, _), _ => trivial

theorem perform_lacks (operation : IndexOperation)
    (other : ∀ entry, operation = .create entry → entry.sessionId ≠ sessionId) :
    Triple answers (Lacks sessionId) (operation.perform json parse now)
      (lackEnds Unit sessionId) := by
  intro store lacks
  have bodies : Triple answers (fun next => next.entries = store.entries ∧ Lacks sessionId next)
      (operation.body json parse now) (lackEnds Bool sessionId) := by
    apply IndexOperation.body_course
    · exact fun _ => And.left
    · exact fun _ _ => And.right
    · exact fun _ _ _ => And.right
    · intro entry normal same _
      have created : ({ entry with updatedAt := normal } : IndexSessionEntry).sessionId ≠ sessionId :=
        other entry same
      exact (createNormalized_lacks created).strengthen fun _ => And.right
    · intro context next mutate _ _ _ _
      exact (storeEntry_lacks context next mutate).strengthen fun _ => And.right
    · intro deleted _
      have known : ∀ entry, findEntry deleted store.entries = some entry →
          entry.sessionId ≠ sessionId := by
        intro entry found own
        rw [← findEntry_id found, own, lacks.entry] at found
        cases found
      exact (deleteKnown_lacks deleted known).strengthen fun _ => And.right
  rw [IndexOperation.perform_eq]
  apply Triple.bind (fun _ => Lacks sessionId) bodies
  · intro due
    cases due with
    | true => exact maybeCompact_lacks
    | false => exact triple_pure fun _ => id
  · exact ⟨rfl, lacks⟩

theorem triple_any {α : Type} {pre : SessionIndexStore → Prop} (program : IndexProgram α) :
    Triple answers pre program (.always fun _ => True) := by
  intro store _
  generalize program.run answers store = outcome
  match outcome with
  | (.value _, _) | (.failed _, _) | (.stopped, _) => trivial

theorem compensateDelete_fails {pre : SessionIndexStore → Prop}
    (original : Option IndexSessionEntry) (removeErr : IndexError) :
    Triple answers pre (compensateDelete json now original removeErr)
      ⟨fun _ _ => False, fun _ _ => True, fun _ => True⟩ := by
  cases original with
  | none => exact triple_fail fun _ _ => trivial
  | some entry =>
    apply Triple.tried (fun _ _ => True) (fun _ _ => True) (triple_any _)
    · exact fun _ => Triple.bind _ (triple_any _) fun _ => triple_fail fun _ _ => trivial
    · exact fun _ => Triple.bind _ (triple_any _) fun _ => triple_fail fun _ _ => trivial

theorem deleteSessionIndexEntry_lacks (origin : SessionIndexStore) :
    Triple answers (fun store => store = origin) (deleteSessionIndexEntry json now sessionId)
      ⟨fun _ store => (origin.disk.sessions.lookup sessionId).isSome ∧ Lacks sessionId store,
        fun _ _ => True, fun _ => True⟩ := by
  let found := (origin.disk.sessions.lookup sessionId).isSome = true
  let untouched (store : SessionIndexStore) := store.disk.sessions = origin.disk.sessions
  have beside {α : Type} {program : IndexProgram α}
      (leaves : Leaves (fun store => store.disk.sessions) program) :
      Triple answers untouched program ⟨fun _ => untouched, fun _ _ => True, fun _ => True⟩ := by
    have kept : Triple answers untouched program (.always untouched) :=
      leaves.triple (fun _ _ same holds => same.trans holds) answers
    exact kept.mono (fun _ _ => id) (fun _ _ _ => trivial) fun _ _ => trivial
  have deletes : Triple answers untouched (deleteEntry json now sessionId)
      ⟨fun _ store => found ∧ Lacks sessionId store, fun _ _ => True, fun _ => True⟩ := by
    apply IndexOperation.triple_ensureWritable (fun _ _ _ => trivial)
    apply Triple.bind _ (beside (leaves_inspect _))
    intro original
    apply Triple.bind _ (beside (leaves_append fun _ _ => rfl))
    intro _
    apply Triple.bind fun _ store => untouched store ∧ findEntry sessionId store.entries = none
    · apply triple_modify
      intro store same
      refine ⟨same, findEntry_sorted.mpr ?_⟩
      rw [findEntry_removeEntry, if_pos rfl]
    intro _
    apply Triple.tried (fun _ store => found ∧ Lacks sessionId store) fun _ _ => True
    · apply triple_call
      · intro store value next _ holds done
        split at done
        case isTrue there =>
          cases Except.ok.inj done
          have same : store.disk.sessions = origin.disk.sessions := holds.1
          rw [same] at there
          refine ⟨there, holds.2, ?_⟩
          rw [SessionIndexStore.onDisk, Table.lookup_erase_eq, if_pos rfl]
        case isFalse => cases done
      · exact fun _ _ _ _ => trivial
      · exact fun _ _ _ _ => trivial
      · exact fun _ _ _ _ => trivial
    · exact fun _ => triple_pure fun _ => id
    · intro removeErr
      apply (compensateDelete_fails original removeErr).mono_value
      exact fun _ _ => False.elim
  apply Triple.bind fun _ store => found ∧ Lacks sessionId store
  · apply deletes.strengthen
    intro store same
    rw [same]
  intro _
  apply Triple.given
  intro there
  exact maybeCompact_lacks.mono (fun _ _ lacks => ⟨there, lacks⟩) (fun _ _ _ => trivial) fun _ => id

end OpenJax.Transcript
