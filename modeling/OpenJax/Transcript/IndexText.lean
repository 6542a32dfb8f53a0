import OpenJax.Transcript.IndexStore
import OpenJax.Transcript.SegmentText

set_option autoImplicit false

namespace OpenJax.Transcript

open Shared

def entryBody (entry : IndexSessionEntry) : List Char :=
  key "session_id" ++ (stringText entry.sessionId ++
  (',' :: key "title" ++ (optionText entry.title ++
  (',' :: key "created_at" ++ (stringText entry.createdAt ++
  (',' :: key "updated_at" ++ (stringText entry.updatedAt ++
  (',' :: key "last_event_seq" ++ (numberText entry.lastEventSeq ++
  (key "last_preview" ++ stringText entry.lastPreview))))))))))

def entryText (entry : IndexSessionEntry) : List Char := objectText (entryBody entry)

def payloadText (payload : Option IndexSessionEntry) : List Char :=
  match payload with
  | none => "null".toList
  | some entry => entryText entry

def opText (op : IndexLogOpKind) : String :=
  match op with
  | .upsertSession => "upsert_session"
  | .deleteSession => "delete_session"

def logRecordBody (record : SessionIndexLogRecord) : List Char :=
  key "op" ++ (stringText (opText record.op) ++
  (',' :: key "session_id" ++ (stringText record.sessionId ++
  (',' :: key "ts" ++ (stringText record.ts ++
  (',' :: key "payload" ++ payloadText record.payload))))))

def snapshotBody (snapshot : SessionIndexSnapshot) : List Char :=
  key "schema_version" ++ (numberText snapshot.schemaVersion ++
  (key "updated_at" ++ (stringText snapshot.updatedAt ++
  (',' :: key "sessions" ++ arrayText entryText snapshot.sessions))))

def metadataBody (metadata : SessionMetadata) : List Char :=
  key "schema_version" ++ (numberText metadata.schemaVersion ++
  (key "session_id" ++ (stringText metadata.sessionId ++
  (',' :: key "title" ++ (optionText metadata.title ++
  (',' :: key "created_at" ++ (stringText metadata.createdAt ++
  (',' :: key "updated_at" ++ (stringText metadata.updatedAt ++
  (',' :: key "tags" ++ arrayText stringText metadata.tags))))))))))

theorem separable_entryText : Separable entryText := by
  intro first second before behind same
  simp only [entryText, objectText, entryBody, List.append_assoc, List.cons_append,
    List.cons.injEq, true_and] at same
  obtain ⟨sessionId, same⟩ := separable_stringText.behind same
  simp only [List.cons.injEq, true_and] at same
  obtain ⟨title, same⟩ := separable_optionText.behind same
  simp only [List.cons.injEq, true_and] at same
  obtain ⟨createdAt, same⟩ := separable_stringText.behind same
  simp only [List.cons.injEq, true_and] at same
  obtain ⟨updatedAt, same⟩ := separable_stringText.behind same
  simp only [List.cons.injEq, true_and] at same
  obtain ⟨lastEventSeq, same⟩ := separable_numberText.behind same
  obtain ⟨lastPreview, same⟩ := separable_stringText.behind same
  simp only [List.cons.injEq, List.nil_append, true_and] at same
  cases first
  cases second
  simp_all

theorem separable_payloadText : Separable payloadText := by
  intro first second before behind same
  cases first with
  | none =>
    cases second with
    | none => exact ⟨rfl, List.append_cancel_left same⟩
    | some entry => simp [payloadText, entryText, objectText] at same
  | some entry =>
    cases second with
    | none => simp [payloadText, entryText, objectText] at same
    | some other =>
      obtain ⟨rfl, rest⟩ := separable_entryText entry other before behind same
      exact ⟨rfl, rest⟩

theorem logRecordBody_injective : Function.Injective logRecordBody := by
  intro first second same
  obtain ⟨op, same⟩ := separable_stringText.behind same
  obtain ⟨sessionId, same⟩ := separable_stringText.behind same
  obtain ⟨ts, same⟩ := separable_stringText.behind same
  have ends := List.append_cancel_left same
  obtain ⟨payload, _⟩ := separable_payloadText _ _ [] [] (congrArg (· ++ []) ends)
  have kinds : Function.Injective opText := by
    intro one other equal
    cases one <;> cases other <;> first | rfl | exact absurd equal (by decide)
  have kind := kinds op
  cases first
  cases second
  simp_all

theorem snapshotBody_injective : Function.Injective snapshotBody := by
  intro first second same
  obtain ⟨schemaVersion, same⟩ := separable_numberText.behind same
  obtain ⟨updatedAt, same⟩ := separable_stringText.behind same
  have ends := List.append_cancel_left same
  have entries : Separable (arrayText entryText) := by
    apply separable_arrayText separable_entryText
    · intro entry rest opened
      simp [entryText, objectText] at opened
    · simp [entryText, objectText]
  obtain ⟨sessions, _⟩ := entries _ _ [] [] (congrArg (· ++ []) ends)
  cases first
  cases second
  simp_all

theorem metadataBody_injective : Function.Injective metadataBody := by
  intro first second same
  obtain ⟨schemaVersion, same⟩ := separable_numberText.behind same
  obtain ⟨sessionId, same⟩ := separable_stringText.behind same
  obtain ⟨title, same⟩ := separable_optionText.behind same
  obtain ⟨createdAt, same⟩ := separable_stringText.behind same
  obtain ⟨updatedAt, same⟩ := separable_stringText.behind same
  have ends := List.append_cancel_left same
  have tags : Separable (arrayText stringText) := by
    apply separable_arrayText separable_stringText
    · intro tag rest opened
      simp [stringText] at opened
    · simp [stringText]
  obtain ⟨same, _⟩ := tags _ _ [] [] (congrArg (· ++ []) ends)
  cases first
  cases second
  simp_all

variable (entry : IndexSessionEntry)

theorem plain_entryBody : (entryBody entry).all isPlain := by
  simp only [entryBody, List.all_append, List.all_cons, plain_numberText, plain_stringText,
    plain_optionText, Bool.true_and, Bool.and_true]
  decide

theorem balanced_entryText : Balanced (encoded (entryText entry)) :=
  balanced_objectText (balanced_plain (plain_entryBody entry))

theorem inline_objectText {body : List Char} (inline : body.all isInline) :
    (objectText body).all isInline := by
  simp only [objectText, List.all_cons, List.all_append, inline, List.all_nil, Bool.true_and,
    Bool.and_true]
  decide

theorem inline_entryText : (entryText entry).all isInline :=
  inline_objectText (inline_of_plain (plain_entryBody entry))

theorem balanced_payloadText (payload : Option IndexSessionEntry) :
    Balanced (encoded (payloadText payload)) := by
  cases payload with
  | none => exact balanced_plain (by decide)
  | some entry => exact balanced_entryText entry

theorem inline_payloadText (payload : Option IndexSessionEntry) :
    (payloadText payload).all isInline := by
  cases payload with
  | none => decide
  | some entry => exact inline_entryText entry

def logRecordText : NestedText SessionIndexLogRecord where
  body := logRecordBody
  injective := logRecordBody_injective
  balanced := by
    intro record
    have before : (key "op" ++ (stringText (opText record.op) ++ (',' :: key "session_id" ++
        (stringText record.sessionId ++ (',' :: key "ts" ++ (stringText record.ts ++
          ',' :: key "payload")))))).all isPlain := by
      simp only [List.all_append, List.all_cons, plain_stringText, Bool.true_and]
      decide
    have joined := (balanced_plain before).append (balanced_payloadText record.payload)
    rw [← encoded_append] at joined
    simpa [logRecordBody] using joined
  inline := by
    intro record
    simp only [logRecordBody, List.all_append, List.all_cons, inline_of_plain (plain_stringText _),
      inline_payloadText, Bool.true_and, Bool.and_true]
    decide

def snapshotText : NestedText SessionIndexSnapshot where
  body := snapshotBody
  injective := snapshotBody_injective
  balanced := by
    intro snapshot
    have before : (key "schema_version" ++ (numberText snapshot.schemaVersion ++
        (key "updated_at" ++ (stringText snapshot.updatedAt ++ ',' :: key "sessions")))).all
          isPlain := by
      simp only [List.all_append, List.all_cons, plain_numberText, plain_stringText, Bool.true_and]
      decide
    have joined := (balanced_plain before).append
      (balanced_arrayText balanced_entryText snapshot.sessions)
    rw [← encoded_append] at joined
    simpa [snapshotBody] using joined
  inline := by
    intro snapshot
    simp only [snapshotBody, List.all_append, List.all_cons, inline_of_plain (plain_stringText _),
      inline_of_plain (plain_numberText _), all_arrayText (by decide) inline_entryText,
      Bool.true_and, Bool.and_true]
    decide

def metadataText : ObjectText SessionMetadata where
  body := metadataBody
  injective := metadataBody_injective
  plain := by
    intro metadata
    simp only [metadataBody, List.all_append, List.all_cons, plain_numberText, plain_stringText,
      plain_optionText, all_arrayText (by decide) plain_stringText, Bool.true_and, Bool.and_true]
    decide

noncomputable def indexTexts : IndexJson where
  record := logRecordText.codec
  snapshot := snapshotText.codec.toObjectCodec
  metadata := metadataText.codec.toObjectCodec
  manifest := manifestText.codec.toObjectCodec
  lastEventSeq raw := (manifestText.codec.fromSlice raw).map TranscriptManifest.lastEventSeq
  lastEventSeq_toVec written := by
    have read := manifestText.codec.roundTrip written
    exact congrArg (Option.map TranscriptManifest.lastEventSeq) read

theorem length_le_stringText (text : String) : text.length ≤ (stringText text).length := by
  have inner (chars : List Char) : chars.length ≤ (chars.flatMap escaped).length := by
    induction chars with
    | nil => exact Nat.le_refl 0
    | cons c rest ih =>
      have inked := List.length_pos_iff.mpr (escaped_ne_nil c)
      simp only [List.length_cons, List.flatMap_cons, List.length_append]
      omega
  have own := inner text.toList
  simp only [stringText, List.length_cons, List.length_append, String.length_toList] at own ⊢
  omega

theorem infix_entryText {entry : IndexSessionEntry} {title : String}
    (titled : entry.title = some title) : stringText title <:+: entryText entry := by
  refine ⟨'\x7b' :: key "session_id" ++ stringText entry.sessionId ++ ',' :: key "title",
    ',' :: key "created_at" ++ (stringText entry.createdAt ++
    (',' :: key "updated_at" ++ (stringText entry.updatedAt ++
    (',' :: key "last_event_seq" ++ (numberText entry.lastEventSeq ++
    (key "last_preview" ++ stringText entry.lastPreview)))))) ++ ['\x7d'], ?_⟩
  simp only [entryText, objectText, entryBody, titled, optionText, List.append_assoc,
    List.cons_append]

theorem suffix_logRecordBody {record : SessionIndexLogRecord} {entry : IndexSessionEntry}
    (payload : record.payload = some entry) : entryText entry <:+ logRecordBody record := by
  refine ⟨key "op" ++ (stringText (opText record.op) ++ (',' :: key "session_id" ++
    (stringText record.sessionId ++ (',' :: key "ts" ++ (stringText record.ts ++
    ',' :: key "payload"))))), ?_⟩
  simp only [logRecordBody, payload, payloadText, List.append_assoc, List.cons_append]

theorem toVec_record : indexTexts.record.toVec = logRecordText.toVec := by
  simp only [indexTexts, NestedText.codec]

theorem title_le_line {record : SessionIndexLogRecord} {entry : IndexSessionEntry}
    {title : String} (payload : record.payload = some entry) (titled : entry.title = some title) :
    title.length ≤ (indexTexts.record.toVec record).length := by
  rw [toVec_record]
  calc title.length ≤ (stringText title).length := length_le_stringText title
    _ ≤ (entryText entry).length := (infix_entryText titled).length_le
    _ ≤ (logRecordBody record).length := (suffix_logRecordBody payload).length_le
    _ ≤ (logRecordText.toVec record).length := logRecordText.length_body_le record

theorem stringText_length_le (text : String) : (stringText text).length ≤ 6 * text.length + 2 := by
  have inner (chars : List Char) : (chars.flatMap escaped).length ≤ 6 * chars.length := by
    induction chars with
    | nil => exact Nat.le_refl 0
    | cons c rest ih =>
      have small : (escaped c).length ≤ 6 := by
        unfold escaped
        split <;> simp
      simp only [List.length_cons, List.flatMap_cons, List.length_append]
      omega
  have own := inner text.toList
  simp only [stringText, List.length_cons, List.length_append, String.length_toList] at own ⊢
  simpa using own

theorem optionText_length_le (text : Option String) :
    (optionText text).length ≤ 6 * (text.getD "").length + 4 := by
  cases text with
  | none => decide
  | some text => exact Nat.le_trans (stringText_length_le text) (Nat.add_le_add_left (by decide) _)

theorem numberText_length_le (number : Nat) : (numberText number).length ≤ number + 2 := by
  have digits : (Nat.toDigits 10 number).length ≤ number + 1 := by
    rw [Nat.length_toDigits_le_iff (by decide) (Nat.succ_pos number)]
    exact Nat.lt_of_lt_of_le (Nat.lt_pow_self (by decide))
      (Nat.pow_le_pow_right (by decide) (Nat.le_succ number))
  simpa [numberText] using digits

theorem length_key (name : String) : (key name).length = name.length + 3 := by
  simp [key, String.length_toList]

def IndexSessionEntry.size (entry : IndexSessionEntry) : Nat :=
  entry.sessionId.length + (entry.title.getD "").length + entry.createdAt.length +
    entry.updatedAt.length + entry.lastEventSeq + entry.lastPreview.length

theorem entryText_length_le : (entryText entry).length ≤ 6 * entry.size + 120 := by
  have sessionId := stringText_length_le entry.sessionId
  have title := optionText_length_le entry.title
  have createdAt := stringText_length_le entry.createdAt
  have updatedAt := stringText_length_le entry.updatedAt
  have lastEventSeq := numberText_length_le entry.lastEventSeq
  have lastPreview := stringText_length_le entry.lastPreview
  have names : "session_id".length = 10 ∧ "title".length = 5 ∧ "created_at".length = 10 ∧
      "updated_at".length = 10 ∧ "last_event_seq".length = 14 ∧ "last_preview".length = 12 := by
    decide +kernel
  simp only [entryText, objectText, entryBody, IndexSessionEntry.size, List.length_cons,
    List.length_append, length_key, List.length_nil, names]
  omega

theorem upsertRecord_length_le (now : UtcTime) (entry : IndexSessionEntry) :
    (indexTexts.record.toVec (SessionIndexStore.upsertRecord now entry)).length ≤
      24 * (2 * entry.size + (formatUtcMillis now).length) + 1000 := by
  have payload := entryText_length_le entry
  have sessionId := stringText_length_le entry.sessionId
  have ts := stringText_length_le (formatUtcMillis now)
  have op : (stringText "upsert_session").length = 16 := by decide +kernel
  have names : "op".length = 2 ∧ "session_id".length = 10 ∧ "ts".length = 2 ∧
      "payload".length = 7 := by
    decide +kernel
  have body : (logRecordText.body (SessionIndexStore.upsertRecord now entry)).length ≤
      12 * entry.size + 6 * (formatUtcMillis now).length + 240 := by
    simp only [logRecordText, logRecordBody, SessionIndexStore.upsertRecord, opText, payloadText,
      List.length_cons, List.length_append, length_key, names, op]
    have within : entry.sessionId.length ≤ entry.size := by
      unfold IndexSessionEntry.size
      omega
    omega
  have bytes := logRecordText.toVec_length_le (SessionIndexStore.upsertRecord now entry)
  rw [toVec_record]
  omega

def springTime : UtcTime := ⟨2026, 3, 30, 0, 0, 0, 0⟩

def springText : String := "2026-03-30T00:00:00.000Z"

def oldestText : String := "0000-01-01T00:00:00+01:00"

def readTimes (input : String) : Option UtcTime :=
  if input = springText then some springTime
  else if input = oldestText then some ⟨-1, 12, 31, 23, 0, 0, 0⟩
  else none

theorem formatUtcMillis_spring : formatUtcMillis springTime = springText := by
  decide +kernel

theorem renormalizes_spring : Renormalizes readTimes springText := by
  simp [Renormalizes, normalizeRfc3339UtcMillis, readTimes, formatUtcMillis_spring]

theorem normalize_oldest :
    normalizeRfc3339UtcMillis readTimes oldestText = some "-001-12-31T23:00:00.000Z" := by
  decide +kernel

theorem readTimes_oldest : readTimes "-001-12-31T23:00:00.000Z" = none := by
  decide +kernel

end OpenJax.Transcript
