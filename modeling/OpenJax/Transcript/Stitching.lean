import OpenJax.Transcript.Numbering

set_option autoImplicit false

namespace OpenJax.Transcript

open Shared TranscriptStore

variable {Payload : Type}

/-- What the files hold is the journal, numbered from one without a gap. -/
structure Represents (json : TranscriptJson Payload) (files : SessionFiles Payload)
    (journal : Journal Payload) : Prop where
  durable : Durable json files journal
  increasing : Increasing json files
  exact : ∀ chunks, files.Holds json chunks → chunks.flatten = journal
  counted : journal.map TranscriptRecord.eventSeq = List.range' 1 journal.length
  last : files.lastEventSeq = journal.length

section Journals

variable {journal : Journal Payload}

theorem Journal.lastEventSeq_of_counted
    (counted : journal.map TranscriptRecord.eventSeq = List.range' 1 journal.length) :
    journal.lastEventSeq = journal.length := by
  rw [Journal.lastEventSeq, ← List.getLast?_map, counted, List.getLast?_range']
  cases journal with
  | nil => rfl
  | cons record rest => simp

theorem Journal.counted_append
    (counted : journal.map TranscriptRecord.eventSeq = List.range' 1 journal.length)
    (record : TranscriptRecord Payload) :
    (journal.append record).map TranscriptRecord.eventSeq =
      List.range' 1 (journal.append record).length := by
  have next : (journal.stamp record).eventSeq = 1 + journal.length := by
    rw [Journal.stamp, Journal.lastEventSeq_of_counted counted, Nat.add_comm]
  rw [Journal.append, List.map_append, counted, List.map_singleton, next, List.length_append,
    List.length_singleton, List.range'_concat]
  simp

theorem filter_range'_after (start count after : Nat) :
    (List.range' (start + 1) count).filter (fun number => decide (number > after)) =
      List.range' (max start after + 1) (start + count - max start after) := by
  induction count generalizing start with
  | zero =>
    have nothing : start - max start after = 0 := by omega
    simp [nothing]
  | succ count ih =>
    rw [List.range'_succ, List.filter_cons, ih (start + 1)]
    by_cases beyond : start + 1 > after
    · have here : max start after = start := by omega
      have there : max (start + 1) after = start + 1 := by omega
      have left : start + (count + 1) - start = start + 1 + count - (start + 1) + 1 := by omega
      simp only [beyond, decide_true, if_true, here, there, left, List.range'_succ]
    · have here : max start after = after := by omega
      have there : max (start + 1) after = after := by omega
      have left : start + 1 + count - after = start + (count + 1) - after := by omega
      simp [beyond, here, there, left]

theorem Journal.counted_after
    (counted : journal.map TranscriptRecord.eventSeq = List.range' 1 journal.length)
    (after : Option Nat) :
    (journal.filter (isAfter after)).map TranscriptRecord.eventSeq =
      List.range' (after.getD 0 + 1) (journal.length - after.getD 0) := by
  cases after with
  | none =>
    rw [filter_isAfter_none, counted]
    simp
  | some number =>
    have same : journal.filter (isAfter (some number)) =
        journal.filter ((fun seq => decide (seq > number)) ∘ TranscriptRecord.eventSeq) := rfl
    rw [same, ← List.filter_map, counted]
    have numbers := filter_range'_after 0 journal.length number
    simpa using numbers

end Journals

section Steps

variable {json : TranscriptJson Payload} {store : TranscriptStore} {sessionId : String}
  {files left : SessionFiles Payload} {journal : Journal Payload}
  {record : TranscriptRecord Payload} {mark : Mark} {tail : Option (TranscriptRecord Payload)}

theorem represents_empty (json : TranscriptJson Payload) :
    Represents json (.empty : SessionFiles Payload) [] where
  durable := durable_empty json
  increasing := (increasing_kept json ⟨[], 0⟩).initial
  exact := by
    intro chunks holds
    have nothing : chunks = [] := by
      simpa [SessionFiles.Holds, SessionFiles.empty] using holds
    rw [nothing, List.flatten_nil]
  counted := rfl
  last := rfl

theorem Represents.recovered_last (represents : Represents json files journal)
    {timestamp : String} (marked : files.mark timestamp = some mark)
    (tailed : files.EndsWith json mark.active tail) :
    (mark.recovered tail).lastEventSeq = journal.length := by
  have last := represents.last
  rw [lastEventSeq_of_mark marked] at last
  rw [lastEventSeq_recovered, highest, last]
  obtain ⟨chunks, holds, _⟩ := represents.durable.held
  cases found : tail with
  | none => simp
  | some record =>
    have among : record ∈ chunks.flatten := by
      rw [tail_of_holds holds tailed, lastRecord] at found
      obtain ⟨records, there, ends⟩ := Option.bind_eq_some_iff.mp found
      exact List.mem_flatten.mpr ⟨records, List.mem_of_getElem? there, List.mem_of_getLast? ends⟩
    have numbered : record.eventSeq ∈ List.range' 1 journal.length := by
      rw [← represents.counted, ← represents.exact chunks holds]
      exact List.mem_map_of_mem among
    rw [List.mem_range'_1] at numbered
    simp only [Option.map_some, Option.getD_some]
    omega

theorem Represents.recovered (represents : Represents json files journal) {timestamp : String}
    (marked : files.mark timestamp = some mark) (tailed : files.EndsWith json mark.active tail) :
    Represents json (files.recovered mark tail) journal where
  durable := represents.durable.recovered (active_of_mark marked) tail
  increasing := represents.increasing.recovered marked
  exact := fun chunks holds => represents.exact chunks (holds_recovered.mp holds)
  counted := represents.counted
  last := by
    have agreed := represents.recovered_last marked tailed
    cases tail with
    | none => exact represents.last
    | some record =>
      simp only [SessionFiles.recovered]
      split
      · exact agreed
      · exact represents.last

theorem Represents.nextRecord (represents : Represents json files journal)
    (plan : Plan json files record) : plan.nextRecord = journal.stamp record := by
  have last := represents.recovered_last plan.marked plan.tailed
  simp only [Plan.nextRecord, numbered, Mark.manifest, last, Journal.stamp,
    Journal.lastEventSeq_of_counted represents.counted]

theorem Represents.committed (represents : Represents json files journal)
    (plan : Plan json files record) (wellFormed : files.WellFormed json sessionId) :
    Represents json plan.committed (journal.append record) where
  durable := by
    rw [Journal.append, ← represents.nextRecord plan]
    exact represents.durable.committed plan wellFormed
  increasing := plan.increasing_committed represents.increasing wellFormed
  exact := by
    intro chunks holds
    obtain ⟨earlier, text, held, _, _, rfl⟩ := (plan.holds_written wellFormed).mp holds
    have bound := (plan.opened_bounds wellFormed).1
    rw [held.length] at bound
    have ascending := plan.ascending_opened represents.increasing held
    obtain ⟨before, started, rfl⟩ := plan.holds_opened.mp held
    rw [(flatten_add plan.nextRecord ascending.beyond plan.chosen bound).1, Journal.append,
      represents.nextRecord plan, List.flatten_append, represents.exact before started,
      flatten_of_empty plan.added_empty, List.append_nil]
  counted := Journal.counted_append represents.counted record
  last := by
    have stamped : plan.committed.lastEventSeq = plan.nextRecord.eventSeq := rfl
    rw [stamped, represents.nextRecord plan, Journal.append, List.length_append, Journal.stamp,
      Journal.lastEventSeq_of_counted represents.counted]
    rfl

theorem represents_kept (json : TranscriptJson Payload) (store : TranscriptStore) :
    SessionInvariant json store (fun _ _ _ => False) (Represents json) where
  initial := represents_empty json
  settled := by
    intro files left request result acknowledged wellFormed represents settled
    cases settled with
    | failed => simpa [acknowledgement] using represents
    | appended plan =>
      have committed := represents.committed plan wellFormed
      rwa [Journal.append, ← represents.nextRecord plan] at committed
    | recovered sessionId whole tailed =>
      simpa [acknowledgement] using represents.recovered (mark_of_whole whole "") tailed
    | kept => simpa [acknowledgement] using represents
  stopped := by
    intro tree files left request step acknowledged _ _ _ impossible
    exact impossible.elim

end Steps

section Runs

variable {json : TranscriptJson Payload} {store : TranscriptStore} {history : History Payload}

theorem append_represents (sessions : Sessions json store (Represents json) history)
    (record : TranscriptRecord Payload) :
    ((append json store record).run history.tree).result =
      .ok (Journal.stamp (history.of record.sessionId) record) := by
  obtain ⟨files, stored, wellFormed, represents⟩ := sessions record.sessionId
  rcases (append_establishes stored wellFormed).1 with failed | ⟨plan, appended, _⟩
  · obtain ⟨written, succeeded⟩ := represents.durable.appends stored wellFormed
    obtain ⟨error, failed, _⟩ := failed
    simp [failed] at succeeded
  · rw [appended, represents.nextRecord plan]

theorem append_of (sessions : Sessions json store (Represents json) history)
    {record : TranscriptRecord Payload} {next : History Payload}
    (stepped : historyStep json store history (.served (.append record)) = some next)
    (sessionId : String) :
    next.of sessionId =
      if record.sessionId = sessionId then Journal.append (history.of sessionId) record
      else history.of sessionId := by
  have result : acknowledgement ((serve json store (.append record)).run history.tree).result =
      [Journal.stamp (history.of record.sessionId) record] := by
    have succeeded := append_represents sessions record
    simp [serve, Program.map, succeeded, Except.map, acknowledgement]
  cases stepped
  rw [History.of_append history.tree, result]
  by_cases own : record.sessionId = sessionId
  · subst own
    simp [Journal.stamp, Journal.append]
  · simp [Journal.stamp, own]

def journalOf (records : List (TranscriptRecord Payload)) (sessionId : String) : Journal Payload :=
  (records.filter fun record => decide (record.sessionId = sessionId)).foldl Journal.append []

theorem appends_run (sessions : Sessions json store (Represents json) history)
    (records : List (TranscriptRecord Payload)) :
    ∃ final, run (historyStep json store) history
        (records.map fun record => .served (.append record)) = some final ∧
      Sessions json store (Represents json) final ∧
      ∀ sessionId, final.of sessionId =
        (records.filter fun record => decide (record.sessionId = sessionId)).foldl Journal.append
          (history.of sessionId) := by
  induction records generalizing history with
  | nil => exact ⟨history, rfl, sessions, fun _ => rfl⟩
  | cons record rest ih =>
    obtain ⟨next, stepped⟩ : ∃ next, historyStep json store history
        (.served (.append record)) = some next := ⟨_, rfl⟩
    have kept := sessions_preserved (represents_kept json store) history
      (.served (.append record)) next sessions trivial stepped
    obtain ⟨final, ran, ends, journals⟩ := ih kept
    refine ⟨final, ?_, ends, ?_⟩
    · rw [List.map_cons, run, stepped]
      exact ran
    · intro sessionId
      rw [journals sessionId]
      rw [append_of sessions stepped sessionId, List.filter_cons]
      by_cases own : record.sessionId = sessionId
      · simp [own]
      · simp [own]

end Runs

end OpenJax.Transcript
