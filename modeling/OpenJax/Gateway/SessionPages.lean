import OpenJax.Gateway.ApiError
import OpenJax.Shared.Base64
import OpenJax.Transcript.IndexText

set_option autoImplicit false

namespace OpenJax.Gateway

open Shared Transcript

structure SessionListCursor where
  updatedAt : String
  sessionId : String
  deriving DecidableEq

structure SessionSummary where
  sessionId : String
  title : Option String
  createdAt : String
  updatedAt : String
  deriving DecidableEq

structure SessionListQuery where
  cursor : Option String
  limit : Option Nat

structure SessionListPage where
  sessions : List SessionSummary
  nextCursor : Option String

/-- How `serde_json` writes a cursor and reads it back. -/
structure CursorJson where
  toVec : SessionListCursor → Bytes
  fromSlice : Bytes → Option SessionListCursor
  roundTrip : ∀ cursor, fromSlice (toVec cursor) = some cursor

def SessionSummary.ofEntry (item : IndexSessionEntry) : SessionSummary :=
  ⟨item.sessionId, item.title, item.createdAt, item.updatedAt⟩

def normalizeLimit (limit : Option Nat) : Nat := max 1 (min (limit.getD 20) 100)

def indexRepairRequired : ApiError :=
  ⟨503, "INDEX_REPAIR_REQUIRED", "session index requires repair", false, .obj []⟩

def SessionListCursor.includes (cursor : SessionListCursor) (item : IndexSessionEntry) : Bool :=
  decide (item.updatedAt < cursor.updatedAt) ||
    (item.updatedAt == cursor.updatedAt && decide (item.sessionId < cursor.sessionId))

/-- The entries behind the cursor, as far as the limit goes, and where they end if there can be
more. -/
def listPersistedSessions (store : SessionIndexStore) (cursor : Option SessionListCursor)
    (limit : Nat) :
    Except ApiError (List IndexSessionEntry × Option SessionListCursor) :=
  if store.health = .repairRequired then .error indexRepairRequired
  else
    let sessions := (store.entries.filter fun item => cursor.all (·.includes item)).take limit
    .ok (sessions,
      if sessions.length = limit then
        sessions.getLast?.map fun last => ⟨last.updatedAt, last.sessionId⟩
      else none)

section Cursors

variable (json : CursorJson) (parse : String → Option UtcTime)

def invalidCursor (detail : String) : ApiError :=
  .invalidArgument "invalid cursor" (.obj [("cursor", .str detail)])

def normalizeCursorTimestamp (ts : String) : Except ApiError String :=
  match normalizeRfc3339UtcMillis parse ts with
  | some normal => .ok normal
  | none => .error (invalidCursor "ts_invalid")

def decodeCursor : Option String → Except ApiError (Option SessionListCursor)
  | none => .ok none
  | some cursor =>
      match Base64.decode cursor with
      | none => .error (invalidCursor "decode_failed")
      | some decoded =>
          match json.fromSlice decoded with
          | none => .error (invalidCursor "json_invalid")
          | some parsed =>
              (normalizeCursorTimestamp parse parsed.updatedAt).map fun updatedAt =>
                some ⟨updatedAt, parsed.sessionId⟩

def encodeCursor (cursor : SessionListCursor) : Except ApiError String :=
  (normalizeCursorTimestamp parse cursor.updatedAt).map fun updatedAt =>
    Base64.encode (json.toVec ⟨updatedAt, cursor.sessionId⟩)

def listSessions (store : SessionIndexStore) (query : SessionListQuery) :
    Except ApiError SessionListPage := do
  let decoded ← decodeCursor json parse query.cursor
  let (entries, next) ← listPersistedSessions store decoded (normalizeLimit query.limit)
  match next with
  | none => pure ⟨entries.map .ofEntry, none⟩
  | some cursor => pure ⟨entries.map .ofEntry, some (← encodeCursor json parse cursor)⟩

/-- The pages that a client gets who follows the cursors, in at most so many requests. -/
def followCursors (store : SessionIndexStore) (limit : Option Nat) :
    Nat → Option String → Except ApiError (Option (List SessionSummary))
  | 0, _ => .ok none
  | requests + 1, cursor => do
      let page ← listSessions json parse store ⟨cursor, limit⟩
      match page.nextCursor with
      | none => pure (some page.sessions)
      | some next =>
          pure ((← followCursors store limit requests (some next)).map (page.sessions ++ ·))

end Cursors

def ReadsNormalForms (parse : String → Option UtcTime) : Prop :=
  ∀ input time, parse input = some time →
    parse (formatUtcMillis time) = if 0 ≤ time.year ∧ time.year ≤ 9999 then some time else none

def PageEndsRead (parse : String → Option UtcTime) (limit : Nat)
    (entries : List IndexSessionEntry) : Prop :=
  ∀ page entry, entries[(page + 1) * limit - 1]? = some entry →
    (parse entry.updatedAt).isSome = true

section Pages

variable {json : CursorJson} {parse : String → Option UtcTime} {limit : Nat}
  {entries : List IndexSessionEntry}

theorem pageEndsRead_short (short : entries.length < limit) : PageEndsRead parse limit entries := by
  intro page entry found
  have inside := (List.getElem?_eq_some_iff.mp found).1
  have scaled : limit ≤ (page + 1) * limit := Nat.le_mul_of_pos_left limit (Nat.succ_pos page)
  omega

theorem pageEndsRead_split (positive : 0 < limit) {last : IndexSessionEntry}
    (found : entries[limit - 1]? = some last) :
    PageEndsRead parse limit entries ↔
      (parse last.updatedAt).isSome = true ∧ PageEndsRead parse limit (entries.drop limit) := by
  constructor
  · intro reads
    refine ⟨reads 0 last (by rwa [Nat.zero_add, Nat.one_mul]), fun page entry later => ?_⟩
    apply reads (page + 1) entry
    rw [List.getElem?_drop] at later
    rw [← later]
    congr 1
    have scaled : limit ≤ (page + 1) * limit := Nat.le_mul_of_pos_left limit (Nat.succ_pos page)
    rw [Nat.succ_mul (page + 1)]
    omega
  · rintro ⟨first, rest⟩ page entry there
    cases page with
    | zero =>
      rw [Nat.zero_add, Nat.one_mul, found, Option.some.injEq] at there
      exact there ▸ first
    | succ page =>
      apply rest page entry
      rw [List.getElem?_drop, ← there]
      congr 1
      have scaled : limit ≤ (page + 1) * limit := Nat.le_mul_of_pos_left limit (Nat.succ_pos page)
      rw [Nat.succ_mul (page + 1)]
      omega

theorem includes_iff (cursor : SessionListCursor) (item : IndexSessionEntry) :
    cursor.includes item = true ↔ item.key < toLex (cursor.updatedAt, cursor.sessionId) := by
  simp [SessionListCursor.includes, IndexSessionEntry.key, Prod.Lex.toLex_lt_toLex]

theorem filter_includes {before after : List IndexSessionEntry} {last : IndexSessionEntry}
    (descending : Descending (before ++ last :: after)) :
    (before ++ last :: after).filter (fun item =>
      (SessionListCursor.mk last.updatedAt last.sessionId).includes item) = after := by
  obtain ⟨-, tail, across⟩ := List.pairwise_append.mp descending
  have head := (List.pairwise_cons.mp tail).1
  have above : before.filter (fun item =>
      (SessionListCursor.mk last.updatedAt last.sessionId).includes item) = [] := by
    apply List.filter_eq_nil_iff.mpr
    intro item member included
    have below : item.key < last.key := (includes_iff _ item).mp included
    exact lt_asymm below (across item member last List.mem_cons_self)
  have same : ¬ (SessionListCursor.mk last.updatedAt last.sessionId).includes last = true := by
    rw [includes_iff]
    exact lt_irrefl last.key
  have behind : after.filter (fun item =>
      (SessionListCursor.mk last.updatedAt last.sessionId).includes item) = after := by
    apply List.filter_eq_self.mpr
    intro item member
    exact (includes_iff _ item).mpr (head item member)
  rw [List.filter_append, above, List.filter_cons_of_neg same, behind, List.nil_append]

theorem normal_of_reads (reads : ReadsNormalForms parse) {stored : String}
    (normal : ∃ input time, parse input = some time ∧ stored = formatUtcMillis time)
    (read : (parse stored).isSome = true) :
    normalizeCursorTimestamp parse stored = .ok stored := by
  obtain ⟨input, time, parsed, rfl⟩ := normal
  have again := reads input time parsed
  split at again
  · simp [normalizeCursorTimestamp, normalizeRfc3339UtcMillis, again]
  · rw [again] at read
    cases read

theorem decode_encodeCursor {cursor : SessionListCursor}
    (normal : normalizeCursorTimestamp parse cursor.updatedAt = .ok cursor.updatedAt) :
    ∃ text, encodeCursor json parse cursor = .ok text ∧
      decodeCursor json parse (some text) = .ok (some cursor) := by
  refine ⟨Base64.encode (json.toVec cursor), ?_, ?_⟩
  · rw [encodeCursor, normal]
    rfl
  · simp only [decodeCursor, Base64.decode_encode, json.roundTrip, normal]
    rfl

section Page

variable {store : SessionIndexStore} (healthy : store.health = .healthy) {text : Option String}
  {cursor : Option SessionListCursor} (decoded : decodeCursor json parse text = .ok cursor)
  {behind : List IndexSessionEntry} {limit : Option Nat}
  (selects : store.entries.filter (fun item => cursor.all (·.includes item)) = behind)

include healthy decoded selects

theorem listSessions_short (short : behind.length < normalizeLimit limit) :
    listSessions json parse store ⟨text, limit⟩ = .ok ⟨behind.map .ofEntry, none⟩ := by
  have listed : listPersistedSessions store cursor (normalizeLimit limit) =
      .ok (behind, none) := by
    simp only [listPersistedSessions, healthy, selects, reduceCtorEq, if_false]
    rw [List.take_of_length_le short.le, if_neg short.ne]
  simp only [listSessions, decoded, bind, Except.bind, listed]
  rfl

theorem listSessions_full {last : IndexSessionEntry}
    (found : behind[normalizeLimit limit - 1]? = some last) :
    listSessions json parse store ⟨text, limit⟩ =
      (encodeCursor json parse ⟨last.updatedAt, last.sessionId⟩).map fun next =>
        ⟨(behind.take (normalizeLimit limit)).map .ofEntry, some next⟩ := by
  have inside := (List.getElem?_eq_some_iff.mp found).1
  have positive : 0 < normalizeLimit limit := Nat.lt_of_lt_of_le Nat.zero_lt_one
    (Nat.le_max_left _ _)
  have full : (behind.take (normalizeLimit limit)).length = normalizeLimit limit := by
    rw [List.length_take]
    omega
  have ends : (behind.take (normalizeLimit limit)).getLast? = some last := by
    rw [List.getLast?_eq_getElem?, full, List.getElem?_take_of_lt (by omega), found]
  have listed : listPersistedSessions store cursor (normalizeLimit limit) =
      .ok (behind.take (normalizeLimit limit), some ⟨last.updatedAt, last.sessionId⟩) := by
    simp only [listPersistedSessions, healthy, selects, reduceCtorEq, if_false]
    rw [if_pos full, ends]
    rfl
  simp only [listSessions, decoded, bind, Except.bind, listed]
  cases encodeCursor json parse ⟨last.updatedAt, last.sessionId⟩ <;> rfl

end Page

theorem followCursors_behind (reads : ReadsNormalForms parse) {store : SessionIndexStore}
    (healthy : store.health = .healthy) (descending : Descending store.entries)
    (normal : ∀ entry ∈ store.entries, ∃ input time, parse input = some time ∧
      entry.updatedAt = formatUtcMillis time) (limit : Option Nat) (requests : Nat)
    {done behind : List IndexSessionEntry} (split : store.entries = done ++ behind)
    {text : Option String} {cursor : Option SessionListCursor}
    (decoded : decodeCursor json parse text = .ok cursor)
    (selects : store.entries.filter (fun item => cursor.all (·.includes item)) = behind)
    (enough : behind.length < requests) :
    (PageEndsRead parse (normalizeLimit limit) behind →
      followCursors json parse store limit requests text =
        .ok (some (behind.map .ofEntry))) ∧
      (¬ PageEndsRead parse (normalizeLimit limit) behind →
        followCursors json parse store limit requests text =
          .error (invalidCursor "ts_invalid")) := by
  induction requests generalizing done behind text cursor with
  | zero => exact absurd enough (Nat.not_lt_zero _)
  | succ requests ih =>
    have positive : 0 < normalizeLimit limit := Nat.lt_of_lt_of_le Nat.zero_lt_one
      (Nat.le_max_left _ _)
    rw [followCursors]
    cases found : behind[normalizeLimit limit - 1]? with
    | none =>
      have short : behind.length < normalizeLimit limit := by
        have outside := List.getElem?_eq_none_iff.mp found
        omega
      rw [listSessions_short healthy decoded selects short]
      exact ⟨fun _ => rfl, fun unread => absurd (pageEndsRead_short short) unread⟩
    | some last =>
      have inside := (List.getElem?_eq_some_iff.mp found).1
      rw [listSessions_full healthy decoded selects found, pageEndsRead_split positive found]
      have member : last ∈ store.entries := by
        rw [split]
        exact List.mem_append_right done (List.mem_of_getElem? found)
      cases read : parse last.updatedAt with
      | none =>
        -- The cursor of the page cannot be written.
        have refused : encodeCursor json parse ⟨last.updatedAt, last.sessionId⟩ =
            .error (invalidCursor "ts_invalid") := by
          simp only [encodeCursor, normalizeCursorTimestamp, normalizeRfc3339UtcMillis, read,
            Option.map_none]
          rfl
        rw [refused]
        exact ⟨fun both => absurd both.1 (by simp), fun _ => rfl⟩
      | some time =>
        have kept := normal_of_reads reads (normal last member) (Option.isSome_of_eq_some read)
        obtain ⟨next, written, readBack⟩ := @decode_encodeCursor json parse
          ⟨last.updatedAt, last.sessionId⟩ kept
        have parts : store.entries = (done ++ behind.take (normalizeLimit limit - 1)) ++
            last :: behind.drop (normalizeLimit limit) := by
          have tail : behind.drop (normalizeLimit limit - 1) =
              last :: behind.drop (normalizeLimit limit) := by
            obtain ⟨_, rfl⟩ := List.getElem?_eq_some_iff.mp found
            rw [List.drop_eq_getElem_cons inside, Nat.sub_add_cancel positive]
          rw [List.append_assoc, ← tail, List.take_append_drop, split]
        have selected : store.entries.filter (fun item =>
            (some (SessionListCursor.mk last.updatedAt last.sessionId)).all (·.includes item)) =
              behind.drop (normalizeLimit limit) := by
          rw [parts] at descending ⊢
          exact filter_includes descending
        have fewer : (behind.drop (normalizeLimit limit)).length < requests := by
          rw [List.length_drop]
          omega
        have remaining : store.entries = (done ++ behind.take (normalizeLimit limit)) ++
            behind.drop (normalizeLimit limit) := by
          rw [List.append_assoc, List.take_append_drop, split]
        obtain ⟨exact, fails⟩ := ih remaining readBack selected fewer
        rw [written]
        constructor
        · rintro ⟨-, reads⟩
          simp only [Except.map, bind, Except.bind, exact reads]
          rw [Option.map_some, ← List.map_append, List.take_append_drop]
          rfl
        · intro unread
          have later : ¬ PageEndsRead parse (normalizeLimit limit)
              (behind.drop (normalizeLimit limit)) := fun reads => unread ⟨rfl, reads⟩
          simp only [Except.map, bind, Except.bind, fails later]

theorem pages_list_sessions (reads : ReadsNormalForms parse) (disk : IndexDisk)
    (entries : List IndexSessionEntry) (unique : UniqueIds entries)
    (normal : ∀ entry ∈ entries, ∃ input time, parse input = some time ∧
      entry.updatedAt = formatUtcMillis time) (limit : Option Nat) :
    followCursors json parse ⟨disk, sortEntriesDesc entries, .healthy⟩ limit (entries.length + 1)
        none = .ok (some ((sortEntriesDesc entries).map .ofEntry)) ↔
      PageEndsRead parse (normalizeLimit limit) (sortEntriesDesc entries) := by
  have descending := descending_sortEntriesDesc unique
  have order := sortEntriesDesc_perm entries
  have sorted : ∀ entry ∈ sortEntriesDesc entries, ∃ input time, parse input = some time ∧
      entry.updatedAt = formatUtcMillis time :=
    fun entry member => normal entry (order.mem_iff.mp member)
  have whole := @followCursors_behind json parse reads ⟨disk, sortEntriesDesc entries, .healthy⟩
    rfl descending sorted limit (entries.length + 1) [] (sortEntriesDesc entries) rfl none none rfl
    (List.filter_eq_self.mpr fun _ _ => rfl) (by rw [order.length_eq]; omega)
  constructor
  · intro listed
    by_contra unread
    rw [whole.2 unread] at listed
    cases listed
  · exact whole.1

end Pages

def cursorBody (cursor : SessionListCursor) : List Char :=
  key "updated_at" ++ (stringText cursor.updatedAt ++
  (',' :: key "session_id" ++ stringText cursor.sessionId))

theorem cursorBody_injective : Function.Injective cursorBody := by
  intro first second same
  obtain ⟨updatedAt, same⟩ := separable_stringText.behind same
  have ends := List.append_cancel_left same
  obtain ⟨sessionId, _⟩ := separable_stringText _ _ [] [] (congrArg (· ++ []) ends)
  cases first
  cases second
  simp_all

def cursorText : ObjectText SessionListCursor where
  body := cursorBody
  injective := cursorBody_injective
  plain := by
    intro cursor
    simp only [cursorBody, List.all_append, List.all_cons, plain_stringText, Bool.true_and,
      Bool.and_true]
    decide

noncomputable def cursorJson : CursorJson where
  toVec := cursorText.codec.toVec
  fromSlice := cursorText.codec.fromSlice
  roundTrip := cursorText.codec.roundTrip

theorem readTimes_normal : ReadsNormalForms readTimes := by
  intro input time read
  unfold readTimes at read
  split at read
  · cases read
    rw [formatUtcMillis_spring]
    rfl
  · split at read
    · cases read
      decide +kernel
    · cases read

def springSession : IndexSessionEntry := ⟨"sess_1", none, springText, springText, 0, ""⟩

def oldestSession : IndexSessionEntry :=
  ⟨"sess_1", none, oldestText, "-001-12-31T23:00:00.000Z", 0, ""⟩

theorem pages_list_one :
    followCursors cursorJson readTimes ⟨.empty, sortEntriesDesc [springSession], .healthy⟩ (some 1)
      2 none = .ok (some ((sortEntriesDesc [springSession]).map .ofEntry)) := by
  have spring : ∃ input time, readTimes input = some time ∧
      springSession.updatedAt = formatUtcMillis time :=
    ⟨springText, springTime, rfl, formatUtcMillis_spring.symm⟩
  refine (pages_list_sessions readTimes_normal .empty [springSession] (List.nodup_singleton _)
    (fun entry member => List.mem_singleton.mp member ▸ spring) (some 1)).mpr ?_
  intro page entry found
  rw [sortEntriesDesc, List.mergeSort_singleton] at found
  cases page with
  | zero =>
    obtain rfl := Option.some.inj found
    rfl
  | succ page => cases found

/-- A session whose stored time is of a year before 0 ends a page, and its cursor is refused. -/
theorem oldest_session_unlisted :
    ¬ ∀ (json : CursorJson) (parse : String → Option UtcTime) (disk : IndexDisk)
      (entries : List IndexSessionEntry) (limit : Option Nat), ReadsNormalForms parse →
      UniqueIds entries → (∀ entry ∈ entries, ∃ input time, parse input = some time ∧
        entry.updatedAt = formatUtcMillis time) →
      followCursors json parse ⟨disk, sortEntriesDesc entries, .healthy⟩ limit
        (entries.length + 1) none = .ok (some ((sortEntriesDesc entries).map .ofEntry)) := by
  intro always
  have oldest : ∃ input time, readTimes input = some time ∧
      oldestSession.updatedAt = formatUtcMillis time :=
    ⟨oldestText, ⟨-1, 12, 31, 23, 0, 0, 0⟩, by decide +kernel, by decide +kernel⟩
  have listed := always cursorJson readTimes .empty [oldestSession] (some 1) readTimes_normal
    (List.nodup_singleton _) fun entry member => List.mem_singleton.mp member ▸ oldest
  rw [sortEntriesDesc, List.mergeSort_singleton, followCursors] at listed
  have ends : ([oldestSession] : List IndexSessionEntry)[normalizeLimit (some 1) - 1]? =
      some oldestSession := rfl
  have refused : encodeCursor cursorJson readTimes
      ⟨oldestSession.updatedAt, oldestSession.sessionId⟩ = .error (invalidCursor "ts_invalid") := by
    simp only [encodeCursor, normalizeCursorTimestamp, normalizeRfc3339UtcMillis, oldestSession,
      readTimes_oldest, Option.map_none]
    rfl
  rw [@listSessions_full cursorJson readTimes ⟨.empty, [oldestSession], .healthy⟩ rfl none none rfl
    [oldestSession] (some 1) rfl oldestSession ends, refused] at listed
  cases listed

end OpenJax.Gateway
