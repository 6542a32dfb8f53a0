import OpenJax.Transcript.IndexReplay

set_option autoImplicit false

/-! What every operation of the index keeps: the files give the entries in memory again, or, where
the program was stopped or has asked for repair, files that the store can start from. -/

namespace OpenJax.Transcript

open Shared FaultProgram

variable {json : IndexJson} {parse : String → Option UtcTime} {answers : CallSite → CallAnswer}

def Logging (json : IndexJson) (parse : String → Option UtcTime) (log : Option Bytes) : Prop :=
  ∀ bytes, log = some bytes → ∃ records cut size,
    (∀ record ∈ records, SettledRecord parse record) ∧ size < (json.record.toVec cut).length ∧
      bytes = written json records ++ (json.record.toVec cut).take size

structure Restartable (json : IndexJson) (parse : String → Option UtcTime) (disk : IndexDisk) :
    Prop where
  base : ∃ base, HoldsSnapshot json disk base ∧ UniqueIds base ∧
    ∀ entry ∈ base, Renormalizes parse entry.updatedAt
  log : Logging json parse disk.log
  bak : disk.log = none → Logging json parse disk.logBak

theorem Restartable.of_files {disk other : IndexDisk} (restartable : Restartable json parse disk)
    (snapshot : other.snapshot = disk.snapshot) (log : other.log = disk.log)
    (bak : other.logBak = disk.logBak) : Restartable json parse other := by
  obtain ⟨⟨base, holds, kept⟩, logging, backup⟩ := restartable
  refine ⟨⟨base, ?_, kept⟩, log ▸ logging, ?_⟩
  · rwa [HoldsSnapshot, snapshot]
  · rwa [log, bak]

theorem logging_none (json : IndexJson) (parse : String → Option UtcTime) :
    Logging json parse none := by
  intro bytes there
  cases there

variable {records : List SessionIndexLogRecord}

theorem logging_written (settled : ∀ record ∈ records, SettledRecord parse record) :
    Logging json parse (some (written json records)) := by
  intro bytes there
  cases there
  -- No byte of any record.
  refine ⟨records, ⟨.deleteSession, "", "", none⟩, 0, settled, json.record.length_pos _, ?_⟩
  rw [List.take_zero, List.append_nil]

theorem logging_empty (json : IndexJson) (parse : String → Option UtcTime) :
    Logging json parse (some []) := by
  have none : ∀ record ∈ ([] : List SessionIndexLogRecord), SettledRecord parse record := by simp
  exact logging_written none

variable {disk : IndexDisk}

theorem HoldsLog.logging (holds : HoldsLog json disk records)
    (settled : ∀ record ∈ records, SettledRecord parse record) : Logging json parse disk.log := by
  rcases holds with ⟨missing, -⟩ | there
  · rw [missing]
    exact logging_none json parse
  · rw [there]
    exact logging_written settled

variable {entries : List IndexSessionEntry}

theorem Indexed.restartable (indexed : Indexed json parse disk entries)
    (bak : disk.log = none → Logging json parse disk.logBak) : Restartable json parse disk := by
  obtain ⟨base, records, indexing⟩ := indexed
  exact ⟨⟨base, indexing.snapshot, indexing.unique, indexing.baseSettled⟩,
    indexing.log.logging indexing.recordsSettled, bak⟩

theorem replayLogLines_cut (settled : ∀ record ∈ records, SettledRecord parse record) {line : Bytes}
    (unread : json.record.fromSlice line = none) (inked : isBlank line = false)
    (entries found : List IndexSessionEntry) :
    replayLogLines json parse (records.map json.record.toVec ++ [line]) entries ≠ .ok found := by
  induction records generalizing entries with
  | nil =>
    rw [List.map_nil, List.nil_append, replayLogLines, inked, unread]
    by_cases text : isUtf8 line <;> simp [text]
  | cons record rest ih =>
    have next := ih (fun other listed => settled other (List.mem_cons_of_mem _ listed))
      (effect record entries)
    rw [List.map_cons, List.cons_append, replayLogLines, json.record.utf8 record, isBlank_toVec,
      json.record.roundTrip]
    simpa [applyLogRecord_settled (settled record List.mem_cons_self), bind, Except.bind] using next

theorem take_toVec_plain (json : IndexJson) (record : SessionIndexLogRecord) (size : Nat) :
    lineFeed ∉ (json.record.toVec record).take size ∧
      carriageReturn ∉ (json.record.toVec record).take size :=
  ⟨fun among => (json.record.oneLine record).1 (List.mem_of_mem_take among),
    fun among => (json.record.oneLine record).2 (List.mem_of_mem_take among)⟩

theorem Restartable.load (restartable : Restartable json parse disk)
    (loaded : loadEntriesSnapshotAndLog json parse disk = .ok entries) :
    UniqueIds entries ∧ Indexed json parse disk entries := by
  obtain ⟨base, holds, unique, baseSettled⟩ := restartable.base
  have snapshot := loadSnapshot_holds holds unique baseSettled
  have whole (records : List SessionIndexLogRecord) (log : HoldsLog json disk records)
      (settled : ∀ record ∈ records, SettledRecord parse record) :
      UniqueIds entries ∧ Indexed json parse disk entries := by
    have indexing : Indexing json parse disk (replay records base) base records :=
      ⟨holds, log, unique, baseSettled, settled, fun _ => rfl⟩
    have same : replay records base = entries := Except.ok.inj (indexing.load.symm.trans loaded)
    exact same ▸ ⟨unique.replay records, base, records, indexing⟩
  cases there : disk.log with
  | none => exact whole [] (.inl ⟨there, rfl⟩) (by simp)
  | some bytes =>
    obtain ⟨records, cut, size, settled, short, rfl⟩ := restartable.log bytes there
    by_cases none : size = 0
    · rw [none, List.take_zero, List.append_nil] at there
      exact whole records (.inr there) settled
    · -- The text ends in the beginning of a record, and the log is refused.
      have begins : (json.record.toVec cut).take size ≠ [] := by
        simp [none, json.record.toVec_ne_nil cut]
      have lines := @splitLines_written_append json records _ (take_toVec_plain json cut size)
      rw [if_neg begins] at lines
      have inked : isBlank ((json.record.toVec cut).take size) = false := by
        obtain ⟨rest, opened⟩ := json.record.toVec_eq_cons cut
        obtain ⟨fewer, rfl⟩ := Nat.exists_eq_succ_of_ne_zero none
        rw [opened, List.take_succ_cons]
        exact isBlank_brace _
      rw [loadEntriesSnapshotAndLog, snapshot] at loaded
      change replayLog json parse disk base = .ok entries at loaded
      simp only [replayLog, there, lines] at loaded
      exact absurd loaded
        (replayLogLines_cut settled (json.record.fromSlice_take short) inked base entries)

/-- An append that fails leaves no byte in the log, and no stop parts a record from its line feed. -/
structure Untorn (answers : CallSite → CallAnswer) : Prop where
  record : ∀ purpose done, answers (.record purpose) = .fails done → done = 0
  newline : ∀ purpose done, answers (.newline purpose) ≠ .fails done
  joined : ∀ purpose done, answers (.newline purpose) = .stops done → done ≠ 0

structure Recorded (json : IndexJson) (parse : String → Option UtcTime)
    (entries : List IndexSessionEntry) (disk : IndexDisk) : Prop where
  indexed : Indexed json parse disk entries
  bak : disk.log = none → Logging json parse disk.logBak

structure Midway (json : IndexJson) (parse : String → Option UtcTime)
    (memory logged : List IndexSessionEntry) (store : SessionIndexStore) : Prop where
  recorded : Recorded json parse logged store.disk
  entries : store.entries = memory
  health : store.health = .healthy

theorem Recorded.restartable (recorded : Recorded json parse entries disk) :
    Restartable json parse disk :=
  recorded.indexed.restartable recorded.bak

theorem Recorded.of_files {disk other : IndexDisk} (recorded : Recorded json parse entries disk)
    (snapshot : other.snapshot = disk.snapshot) (log : other.log = disk.log)
    (bak : other.logBak = disk.logBak) : Recorded json parse entries other := by
  refine ⟨recorded.indexed.of_files snapshot log, ?_⟩
  rw [log, bak]
  exact recorded.bak

theorem extendLog_extendLog (disk : IndexDisk) (first second : Bytes) :
    (disk.extendLog first).extendLog second = disk.extendLog (first ++ second) := by
  simp [IndexDisk.extendLog]

theorem Indexed.extend_nil (indexed : Indexed json parse disk entries) :
    Indexed json parse (disk.extendLog []) entries := by
  obtain ⟨base, records, indexing⟩ := indexed
  refine ⟨base, records, { indexing with snapshot := indexing.snapshot, log := .inr ?_ }⟩
  rcases indexing.log with ⟨missing, rfl⟩ | there
  · simp [IndexDisk.extendLog, missing, written]
  · simp [IndexDisk.extendLog, there]

theorem Indexed.extend (indexed : Indexed json parse disk entries) {record : SessionIndexLogRecord}
    (settled : SettledRecord parse record) :
    Indexed json parse (disk.extendLog (json.record.toVec record ++ [lineFeed]))
      (effect record entries) :=
  indexed.append settled rfl rfl

theorem Indexed.extend_cut (indexed : Indexed json parse disk entries)
    (record : SessionIndexLogRecord) (done : Nat) :
    Restartable json parse (disk.extendLog ((json.record.toVec record).dropLast.take done)) := by
  obtain ⟨base, records, indexing⟩ := indexed
  refine ⟨⟨base, indexing.snapshot, indexing.unique, indexing.baseSettled⟩, ?_, fun missing => ?_⟩
  · intro bytes there
    cases there
    have text : disk.log.getD [] = written json records := by
      rcases indexing.log with ⟨missing, rfl⟩ | there
      · rw [missing]
        rfl
      · rw [there, Option.getD_some]
    have short : min done ((json.record.toVec record).length - 1) <
        (json.record.toVec record).length := by
      have := json.record.length_pos record
      omega
    refine ⟨records, record, _, indexing.recordsSettled, short, ?_⟩
    rw [text, List.dropLast_eq_take, List.take_take]
  · cases missing

theorem append_triple (purpose : LogPurpose) {record : SessionIndexLogRecord}
    (settled : SettledRecord parse record) {memory logged : List IndexSessionEntry} :
    Triple answers (Midway json parse memory logged) (appendLogRecordToPath json purpose record)
      ⟨fun _ => Midway json parse memory (effect record logged),
        fun _ store => Untorn answers → Midway json parse memory logged store,
        fun store => Untorn answers → Restartable json parse store.disk⟩ := by
  have whole {store : SessionIndexStore} (midway : Midway json parse memory logged store) :
      Midway json parse memory (effect record logged)
        ((store.onDisk (·.extendLog (json.record.toVec record))).onDisk (·.extendLog [lineFeed])) := by
    have indexed := midway.recorded.indexed.extend settled
    rw [← extendLog_extendLog] at indexed
    exact ⟨⟨indexed, nofun⟩, midway.entries, midway.health⟩
  apply Triple.bind fun _ store => ∃ before, Midway json parse memory logged before ∧
    store = before.onDisk (·.extendLog (json.record.toVec record))
  · apply triple_call
    · intro store value next _ midway done
      simp only [Except.ok.injEq, Prod.mk.injEq] at done
      exact ⟨store, midway, done.2.symm⟩
    · intro store refused _ done
      cases done
    · intro store done failed midway untorn
      rw [untorn.record purpose done failed, List.take_zero]
      exact ⟨⟨midway.recorded.indexed.extend_nil, nofun⟩, midway.entries, midway.health⟩
    · intro store done _ midway _
      exact midway.recorded.indexed.extend_cut record done
  · intro _
    apply triple_call
    · intro store value next _ half done
      obtain ⟨before, midway, rfl⟩ := half
      simp only [Except.ok.injEq, Prod.mk.injEq] at done
      exact done.2 ▸ whole midway
    · intro store refused _ done
      cases done
    · intro store done failed _ untorn
      exact absurd failed (untorn.newline purpose done)
    · intro store done stopped half untorn
      obtain ⟨before, midway, rfl⟩ := half
      obtain ⟨fewer, rfl⟩ := Nat.exists_eq_succ_of_ne_zero (untorn.joined purpose done stopped)
      rw [List.take_succ_cons, List.take_nil]
      exact (whole midway).recorded.restartable

end OpenJax.Transcript
