import OpenJax.Transcript.IndexStore

set_option autoImplicit false

namespace OpenJax.Transcript

open Shared

variable {json : IndexJson} {parse : String → Option UtcTime}

def effect (record : SessionIndexLogRecord) (entries : List IndexSessionEntry) :
    List IndexSessionEntry :=
  match record.op, record.payload with
  | .upsertSession, some entry => upsertEntry entry entries
  | .upsertSession, none => entries
  | .deleteSession, _ => removeEntry record.sessionId entries

def replay (records : List SessionIndexLogRecord) (entries : List IndexSessionEntry) :
    List IndexSessionEntry :=
  records.foldl (fun replayed record => effect record replayed) entries

def outcome (sessionId : String) (record : SessionIndexLogRecord) :
    Option (Option IndexSessionEntry) :=
  match record.op, record.payload with
  | .upsertSession, some entry =>
      if sessionId = entry.sessionId then some (some entry) else none
  | .upsertSession, none => none
  | .deleteSession, _ => if sessionId = record.sessionId then some none else none

@[simp] theorem replay_nil (entries : List IndexSessionEntry) : replay [] entries = entries := rfl

@[simp] theorem replay_cons (record : SessionIndexLogRecord) (rest : List SessionIndexLogRecord)
    (entries : List IndexSessionEntry) :
    replay (record :: rest) entries = replay rest (effect record entries) := rfl

theorem replay_append (first second : List SessionIndexLogRecord)
    (entries : List IndexSessionEntry) :
    replay (first ++ second) entries = replay second (replay first entries) :=
  List.foldl_append

theorem findEntry_upsertEntry (sessionId : String) (entry : IndexSessionEntry)
    (entries : List IndexSessionEntry) :
    findEntry sessionId (upsertEntry entry entries) =
      if sessionId = entry.sessionId then some entry else findEntry sessionId entries := by
  induction entries with
  | nil =>
    by_cases own : sessionId = entry.sessionId
    · simp [upsertEntry, findEntry, own]
    · simp [upsertEntry, findEntry, own, Ne.symm own]
  | cons existing rest ih =>
    by_cases same : existing.sessionId = entry.sessionId
    · by_cases own : sessionId = entry.sessionId
      · simp [upsertEntry, findEntry, same, own]
      · simp [upsertEntry, findEntry, same, own, Ne.symm own]
    · rw [upsertEntry, if_neg same]
      by_cases here : existing.sessionId = sessionId
      · have other : sessionId ≠ entry.sessionId := fun own => same (here.trans own)
        simp [findEntry, here, other]
      · have skipped (others : List IndexSessionEntry) :
            findEntry sessionId (existing :: others) = findEntry sessionId others := by
          simp [findEntry, here]
        rw [skipped, skipped, ih]

theorem findEntry_removeEntry (sessionId removed : String) (entries : List IndexSessionEntry) :
    findEntry sessionId (removeEntry removed entries) =
      if sessionId = removed then none else findEntry sessionId entries := by
  induction entries with
  | nil => simp [removeEntry, findEntry]
  | cons existing rest ih =>
    simp only [findEntry, removeEntry] at ih ⊢
    by_cases gone : existing.sessionId = removed
    · by_cases own : sessionId = removed
      · simp [own]
      · have other : ¬ existing.sessionId = sessionId := fun here => own (here.symm.trans gone)
        simpa [gone, own, Ne.symm own] using ih
    · by_cases here : existing.sessionId = sessionId
      · have other : ¬ sessionId = removed := fun own => gone (here.trans own)
        simp [here, other]
      · simpa [gone, here] using ih

theorem findEntry_effect (sessionId : String) (record : SessionIndexLogRecord)
    (entries : List IndexSessionEntry) :
    findEntry sessionId (effect record entries) =
      (outcome sessionId record).getD (findEntry sessionId entries) := by
  unfold effect outcome
  split
  · rw [findEntry_upsertEntry]
    split <;> rfl
  · rfl
  · rw [findEntry_removeEntry]
    split <;> rfl

variable {records : List SessionIndexLogRecord} {sessionId : String}

theorem findEntry_replay_touched (touched : ∃ record ∈ records, (outcome sessionId record).isSome)
    (entries others : List IndexSessionEntry) :
    findEntry sessionId (replay records entries) =
      findEntry sessionId (replay records others) := by
  induction records using List.reverseRecOn with
  | nil => simp at touched
  | append_singleton earlier last ih =>
    rw [replay_append, replay_append]
    simp only [replay_cons, replay_nil, findEntry_effect]
    cases said : outcome sessionId last with
    | some now => rfl
    | none =>
      apply ih
      obtain ⟨record, listed, some⟩ := touched
      rcases List.mem_append.mp listed with before | now
      · exact ⟨record, before, some⟩
      · rw [List.mem_singleton.mp now, said] at some
        cases some

theorem findEntry_replay_untouched (untouched : ∀ record ∈ records, outcome sessionId record = none)
    (entries : List IndexSessionEntry) :
    findEntry sessionId (replay records entries) = findEntry sessionId entries := by
  induction records generalizing entries with
  | nil => rfl
  | cons record rest ih =>
    rw [replay_cons, ih (fun other listed => untouched other (List.mem_cons_of_mem _ listed)),
      findEntry_effect, untouched record List.mem_cons_self, Option.getD_none]

theorem findEntry_replay_again {base entries : List IndexSessionEntry}
    (led : ∀ sessionId, findEntry sessionId entries = findEntry sessionId (replay records base))
    (sessionId : String) :
    findEntry sessionId (replay records entries) = findEntry sessionId entries := by
  by_cases touched : ∃ record ∈ records, (outcome sessionId record).isSome
  · rw [findEntry_replay_touched touched entries base, led]
  · push Not at touched
    apply findEntry_replay_untouched
    intro record listed
    simpa using touched record listed

variable {entries : List IndexSessionEntry}

theorem UniqueIds.effect (unique : UniqueIds entries) (record : SessionIndexLogRecord) :
    UniqueIds (effect record entries) := by
  unfold Transcript.effect
  split
  · exact unique.upsert _
  · exact unique
  · exact unique.remove _

theorem UniqueIds.replay (unique : UniqueIds entries) (records : List SessionIndexLogRecord) :
    UniqueIds (replay records entries) := by
  induction records generalizing entries with
  | nil => exact unique
  | cons record rest ih => exact ih (unique.effect record)

theorem mem_iff_findEntry (unique : UniqueIds entries) (entry : IndexSessionEntry) :
    entry ∈ entries ↔ findEntry entry.sessionId entries = some entry := by
  constructor
  · intro listed
    induction entries with
    | nil => cases listed
    | cons existing rest ih =>
      rw [UniqueIds, List.map_cons, List.nodup_cons] at unique
      rcases List.mem_cons.mp listed with rfl | later
      · simp [findEntry]
      · have other : existing.sessionId ≠ entry.sessionId :=
          fun same => unique.1 (same ▸ List.mem_map_of_mem later)
        have inner := ih unique.2 later
        simpa [findEntry, other] using inner
  · exact List.mem_of_find?_eq_some

variable {entry : IndexSessionEntry}

theorem findEntry_id (found : findEntry sessionId entries = some entry) :
    entry.sessionId = sessionId := by
  have matched := List.find?_some found
  exact beq_iff_eq.mp matched

variable {entries others : List IndexSessionEntry}

theorem perm_of_findEntry (unique : UniqueIds entries) (otherUnique : UniqueIds others)
    (same : ∀ sessionId, findEntry sessionId entries = findEntry sessionId others) :
    entries.Perm others := by
  rw [List.perm_ext_iff_of_nodup unique.of_map otherUnique.of_map]
  intro entry
  rw [mem_iff_findEntry unique, mem_iff_findEntry otherUnique, same]

theorem findEntry_perm (unique : UniqueIds entries) (order : entries.Perm others)
    (sessionId : String) : findEntry sessionId entries = findEntry sessionId others := by
  apply Option.ext
  intro entry
  constructor
  · intro found
    have listed := (mem_iff_findEntry unique entry).mpr (findEntry_id found ▸ found)
    have moved := (mem_iff_findEntry (unique.perm order) entry).mp (order.subset listed)
    rwa [findEntry_id found] at moved
  · intro found
    have listed := (mem_iff_findEntry (unique.perm order) entry).mpr (findEntry_id found ▸ found)
    have moved := (mem_iff_findEntry unique entry).mp (order.symm.subset listed)
    rwa [findEntry_id found] at moved

def written (json : IndexJson) (records : List SessionIndexLogRecord) : Bytes :=
  records.flatMap fun record => json.record.toVec record ++ [lineFeed]

theorem written_append (records : List SessionIndexLogRecord) (record : SessionIndexLogRecord) :
    written json (records ++ [record]) =
      written json records ++ (json.record.toVec record ++ [lineFeed]) := by
  simp [written]

theorem splitLines_written_append (records : List SessionIndexLogRecord) {last : Bytes}
    (plain : lineFeed ∉ last ∧ carriageReturn ∉ last) :
    splitLines (written json records ++ last) =
      records.map json.record.toVec ++ if last = [] then [] else [last] := by
  have single : ∀ line ∈ records.map json.record.toVec,
      lineFeed ∉ line ∧ carriageReturn ∉ line := by
    intro line listed
    obtain ⟨record, -, rfl⟩ := List.mem_map.mp listed
    exact json.record.oneLine record
  have lines := splitLines_lines single plain
  rwa [List.flatMap_map] at lines

theorem splitLines_written (records : List SessionIndexLogRecord) :
    splitLines (written json records) = records.map json.record.toVec := by
  have nothing : lineFeed ∉ ([] : Bytes) ∧ carriageReturn ∉ ([] : Bytes) :=
    ⟨List.not_mem_nil, List.not_mem_nil⟩
  simpa using @splitLines_written_append json records [] nothing

def SettledRecord (parse : String → Option UtcTime) (record : SessionIndexLogRecord) : Prop :=
  record.op = .upsertSession →
    ∃ entry, record.payload = some entry ∧ Renormalizes parse entry.updatedAt

theorem normalizeEntry_settled (settled : Renormalizes parse entry.updatedAt) :
    normalizeEntry parse entry = .ok entry := by
  unfold normalizeEntry
  rw [settled]

theorem normalizeEntries_settled (settled : ∀ entry ∈ entries, Renormalizes parse entry.updatedAt) :
    normalizeEntries parse entries = .ok entries := by
  induction entries with
  | nil => rfl
  | cons entry rest ih =>
    rw [normalizeEntries, normalizeEntry_settled (settled entry List.mem_cons_self),
      ih fun other listed => settled other (List.mem_cons_of_mem _ listed)]
    rfl

theorem applyLogRecord_settled {record : SessionIndexLogRecord}
    (settled : SettledRecord parse record) (entries : List IndexSessionEntry) :
    applyLogRecord parse record entries = .ok (effect record entries) := by
  unfold applyLogRecord effect
  cases kind : record.op with
  | upsertSession =>
    obtain ⟨entry, carried, renormalizes⟩ := settled kind
    simp [carried, normalizeEntry_settled renormalizes, Except.map]
  | deleteSession => rfl

theorem settled_effect {record : SessionIndexLogRecord} (settledRecord : SettledRecord parse record)
    (settled : ∀ entry ∈ entries, Renormalizes parse entry.updatedAt) :
    ∀ entry ∈ effect record entries, Renormalizes parse entry.updatedAt := by
  intro entry listed
  unfold effect at listed
  split at listed
  case h_1 payload kind carried =>
    obtain ⟨own, same, renormalizes⟩ := settledRecord kind
    cases carried.symm.trans same
    rcases mem_upsertEntry listed with rfl | before
    · exact renormalizes
    · exact settled entry before
  case h_2 => exact settled entry listed
  case h_3 => exact settled entry (List.mem_of_mem_filter listed)

theorem settled_replay (settledRecords : ∀ record ∈ records, SettledRecord parse record)
    {base : List IndexSessionEntry} (settled : ∀ entry ∈ base, Renormalizes parse entry.updatedAt) :
    ∀ entry ∈ replay records base, Renormalizes parse entry.updatedAt := by
  induction records generalizing base with
  | nil => exact settled
  | cons record rest ih =>
    apply ih fun other listed => settledRecords other (List.mem_cons_of_mem _ listed)
    exact settled_effect (settledRecords record List.mem_cons_self) settled

theorem isBlank_toVec (record : SessionIndexLogRecord) :
    isBlank (json.record.toVec record) = false := by
  obtain ⟨rest, opened⟩ := json.record.toVec_eq_cons record
  rw [opened]
  exact isBlank_brace rest

theorem replayLogLines_settled (settled : ∀ record ∈ records, SettledRecord parse record)
    (entries : List IndexSessionEntry) :
    replayLogLines json parse (records.map json.record.toVec) entries =
      .ok (replay records entries) := by
  induction records generalizing entries with
  | nil => rfl
  | cons record rest ih =>
    rw [List.map_cons, replayLogLines, json.record.utf8 record, isBlank_toVec,
      json.record.roundTrip, replay_cons,
      ← ih (fun other listed => settled other (List.mem_cons_of_mem _ listed))]
    simp [applyLogRecord_settled (settled record List.mem_cons_self), bind, Except.bind]

theorem upsertEntry_of_notMem (absent : entry.sessionId ∉ entries.map IndexSessionEntry.sessionId) :
    upsertEntry entry entries = entries ++ [entry] := by
  induction entries with
  | nil => rfl
  | cons existing rest ih =>
    rw [List.map_cons, List.mem_cons, not_or] at absent
    rw [upsertEntry, if_neg (Ne.symm absent.1), ih absent.2, List.cons_append]

theorem foldl_upsertEntry (collected : List IndexSessionEntry)
    (unique : UniqueIds (collected ++ entries)) :
    entries.foldl (fun collected entry => upsertEntry entry collected) collected =
      collected ++ entries := by
  induction entries generalizing collected with
  | nil => rw [List.foldl_nil, List.append_nil]
  | cons entry rest ih =>
    have absent : entry.sessionId ∉ collected.map IndexSessionEntry.sessionId := by
      rw [UniqueIds, List.map_append, List.map_cons, List.nodup_append] at unique
      intro listed
      exact unique.2.2 _ listed _ List.mem_cons_self rfl
    rw [List.foldl_cons, upsertEntry_of_notMem absent, ih _ (by simpa using unique)]
    simp

theorem collectEntries_unique (unique : UniqueIds entries) : collectEntries entries = entries :=
  foldl_upsertEntry [] unique

def HoldsSnapshot (json : IndexJson) (disk : IndexDisk) (base : List IndexSessionEntry) : Prop :=
  disk.snapshot = none ∧ base = [] ∨
    ∃ updatedAt, disk.snapshot =
      some (json.snapshot.toVec ⟨sessionIndexSchemaVersion, updatedAt, base⟩)

def HoldsLog (json : IndexJson) (disk : IndexDisk) (records : List SessionIndexLogRecord) : Prop :=
  disk.log = none ∧ records = [] ∨ disk.log = some (written json records)

structure Indexing (json : IndexJson) (parse : String → Option UtcTime) (disk : IndexDisk)
    (entries base : List IndexSessionEntry) (records : List SessionIndexLogRecord) : Prop where
  snapshot : HoldsSnapshot json disk base
  log : HoldsLog json disk records
  unique : UniqueIds base
  baseSettled : ∀ entry ∈ base, Renormalizes parse entry.updatedAt
  recordsSettled : ∀ record ∈ records, SettledRecord parse record
  led : ∀ sessionId, findEntry sessionId entries = findEntry sessionId (replay records base)

def Indexed (json : IndexJson) (parse : String → Option UtcTime) (disk : IndexDisk)
    (entries : List IndexSessionEntry) : Prop :=
  ∃ base records, Indexing json parse disk entries base records

def reload (json : IndexJson) (parse : String → Option UtcTime) (disk : IndexDisk) :
    Except IndexError (List IndexSessionEntry) :=
  (loadEntriesSnapshotAndLog json parse disk).map sortEntriesDesc

section Indexing

variable {disk : IndexDisk} {entries base : List IndexSessionEntry}
  {records : List SessionIndexLogRecord}

theorem loadSnapshot_holds (holds : HoldsSnapshot json disk base) (unique : UniqueIds base)
    (settled : ∀ entry ∈ base, Renormalizes parse entry.updatedAt) :
    loadSnapshot json parse disk = .ok base := by
  unfold loadSnapshot
  rcases holds with ⟨missing, empty⟩ | ⟨updatedAt, there⟩
  · rw [missing, empty]
  · rw [there]
    simp [json.snapshot.utf8, json.snapshot.roundTrip, normalizeEntries_settled settled,
      Except.map, collectEntries_unique unique]

theorem replayLog_holds (holds : HoldsLog json disk records)
    (settled : ∀ record ∈ records, SettledRecord parse record)
    (entries : List IndexSessionEntry) :
    replayLog json parse disk entries = .ok (replay records entries) := by
  unfold replayLog
  rcases holds with ⟨missing, empty⟩ | there
  · rw [missing, empty]
    rfl
  · rw [there]
    dsimp only
    rw [splitLines_written, replayLogLines_settled settled]

theorem Indexing.load (indexing : Indexing json parse disk entries base records) :
    loadEntriesSnapshotAndLog json parse disk = .ok (replay records base) := by
  rw [loadEntriesSnapshotAndLog,
    loadSnapshot_holds indexing.snapshot indexing.unique indexing.baseSettled]
  exact replayLog_holds indexing.log indexing.recordsSettled base

theorem Indexing.replayed_perm (indexing : Indexing json parse disk entries base records)
    (unique : UniqueIds entries) : (replay records base).Perm entries :=
  perm_of_findEntry (indexing.unique.replay records) unique fun sessionId =>
    (indexing.led sessionId).symm

theorem Indexed.reload (indexed : Indexed json parse disk entries) (unique : UniqueIds entries)
    (descending : Descending entries) : reload json parse disk = .ok entries := by
  obtain ⟨base, records, indexing⟩ := indexed
  rw [Transcript.reload, indexing.load]
  exact congrArg _ (sortEntriesDesc_eq (indexing.replayed_perm unique) descending unique)

theorem Indexed.congr (indexed : Indexed json parse disk entries) {others : List IndexSessionEntry}
    (same : ∀ sessionId, findEntry sessionId others = findEntry sessionId entries) :
    Indexed json parse disk others := by
  obtain ⟨base, records, indexing⟩ := indexed
  exact ⟨base, records,
    { indexing with led := fun sessionId => (same sessionId).trans (indexing.led sessionId) }⟩

variable {other : IndexDisk}

theorem Indexed.of_files (indexed : Indexed json parse disk entries)
    (snapshot : other.snapshot = disk.snapshot) (log : other.log = disk.log) :
    Indexed json parse other entries := by
  obtain ⟨base, records, indexing⟩ := indexed
  refine ⟨base, records, { indexing with snapshot := ?_, log := ?_ }⟩
  · rw [HoldsSnapshot, snapshot]
    exact indexing.snapshot
  · rw [HoldsLog, log]
    exact indexing.log

theorem Indexed.append (indexed : Indexed json parse disk entries) {record : SessionIndexLogRecord}
    (settled : SettledRecord parse record) (snapshot : other.snapshot = disk.snapshot)
    (log : other.log =
      some (disk.log.getD [] ++ (json.record.toVec record ++ [lineFeed]))) :
    Indexed json parse other (effect record entries) := by
  obtain ⟨base, records, indexing⟩ := indexed
  have whole : other.log = some (written json (records ++ [record])) := by
    rw [log, written_append]
    rcases indexing.log with ⟨missing, rfl⟩ | there
    · rw [missing]
      rfl
    · rw [there]
      rfl
  refine ⟨base, records ++ [record], ?_, .inr whole, indexing.unique, indexing.baseSettled, ?_, ?_⟩
  · rw [HoldsSnapshot, snapshot]
    exact indexing.snapshot
  · intro other listed
    rcases List.mem_append.mp listed with before | now
    · exact indexing.recordsSettled other before
    · rw [List.mem_singleton.mp now]
      exact settled
  · intro sessionId
    rw [replay_append, replay_cons, replay_nil, findEntry_effect, findEntry_effect,
      indexing.led sessionId]

theorem Indexed.settled (indexed : Indexed json parse disk entries) (unique : UniqueIds entries) :
    ∀ entry ∈ entries, Renormalizes parse entry.updatedAt := by
  obtain ⟨base, records, indexing⟩ := indexed
  intro entry listed
  exact settled_replay indexing.recordsSettled indexing.baseSettled entry
    ((indexing.replayed_perm unique).symm.subset listed)

theorem Indexed.snapshot_log (indexed : Indexed json parse disk entries)
    (unique : UniqueIds entries) {updatedAt : String} (snapshot : other.snapshot =
      some (json.snapshot.toVec ⟨sessionIndexSchemaVersion, updatedAt, entries⟩))
    (log : other.log = disk.log) : Indexed json parse other entries := by
  have settled := indexed.settled unique
  obtain ⟨base, records, indexing⟩ := indexed
  refine ⟨entries, records, .inr ⟨updatedAt, snapshot⟩, ?_, unique, settled,
    indexing.recordsSettled, ?_⟩
  · rw [HoldsLog, log]
    exact indexing.log
  · intro sessionId
    exact (findEntry_replay_again indexing.led sessionId).symm

theorem indexed_snapshot {updatedAt : String} (unique : UniqueIds entries)
    (settled : ∀ entry ∈ entries, Renormalizes parse entry.updatedAt) (snapshot : other.snapshot =
      some (json.snapshot.toVec ⟨sessionIndexSchemaVersion, updatedAt, entries⟩))
    (log : other.log.getD [] = []) : Indexed json parse other entries := by
  refine ⟨entries, [], .inr ⟨updatedAt, snapshot⟩, ?_, unique, settled, ?_, fun _ => rfl⟩
  · cases there : other.log with
    | none => exact .inl ⟨there, rfl⟩
    | some bytes =>
      rw [there, Option.getD_some] at log
      exact .inr (by rw [there, log]; rfl)
  · intro record listed
    cases listed

end Indexing

end OpenJax.Transcript
