import OpenJax.Shared.NestedText
import OpenJax.Transcript.Store

set_option autoImplicit false

namespace OpenJax.Transcript

open Shared

def key (name : String) : List Char := '"' :: name.toList ++ ['"', ':']

def recordBody (record : TranscriptRecord Unit) : List Char :=
  key "schema_version" ++ (numberText record.schemaVersion ++
  (key "session_id" ++ (stringText record.sessionId ++
  (',' :: key "event_seq" ++ (numberText record.eventSeq ++
  (key "turn_seq" ++ (numberText record.turnSeq ++
  (key "turn_id" ++ (optionText record.turnId ++
  (',' :: key "event_type" ++ (stringText record.eventType ++
  (',' :: key "stream_source" ++ (stringText record.streamSource ++
  (',' :: key "timestamp" ++ (stringText record.timestamp ++
  (',' :: key "payload" ++ "null".toList ++
  (',' :: key "request_id" ++ stringText record.requestId)))))))))))))))))

def manifestBody (manifest : TranscriptManifest) : List Char :=
  key "schema_version" ++ (numberText manifest.schemaVersion ++
  (key "session_id" ++ (stringText manifest.sessionId ++
  (',' :: key "last_event_seq" ++ (numberText manifest.lastEventSeq ++
  (key "last_turn_seq" ++ (numberText manifest.lastTurnSeq ++
  (key "active_segment" ++ (stringText manifest.activeSegment ++
  (',' :: key "updated_at" ++ stringText manifest.updatedAt))))))))))

theorem recordBody_injective : Function.Injective recordBody := by
  intro first second same
  obtain ⟨schemaVersion, same⟩ := separable_numberText.behind same
  obtain ⟨sessionId, same⟩ := separable_stringText.behind same
  obtain ⟨eventSeq, same⟩ := separable_numberText.behind same
  obtain ⟨turnSeq, same⟩ := separable_numberText.behind same
  obtain ⟨turnId, same⟩ := separable_optionText.behind same
  obtain ⟨eventType, same⟩ := separable_stringText.behind same
  obtain ⟨streamSource, same⟩ := separable_stringText.behind same
  obtain ⟨timestamp, same⟩ := separable_stringText.behind same
  have ends := List.append_cancel_left (List.append_cancel_left same)
  obtain ⟨requestId, _⟩ := separable_stringText _ _ [] [] (congrArg (· ++ []) ends)
  cases first
  cases second
  simp_all

theorem manifestBody_injective : Function.Injective manifestBody := by
  intro first second same
  obtain ⟨schemaVersion, same⟩ := separable_numberText.behind same
  obtain ⟨sessionId, same⟩ := separable_stringText.behind same
  obtain ⟨lastEventSeq, same⟩ := separable_numberText.behind same
  obtain ⟨lastTurnSeq, same⟩ := separable_numberText.behind same
  obtain ⟨activeSegment, same⟩ := separable_stringText.behind same
  have ends := List.append_cancel_left same
  obtain ⟨updatedAt, _⟩ := separable_stringText _ _ [] [] (congrArg (· ++ []) ends)
  cases first
  cases second
  simp_all

def recordText : ObjectText (TranscriptRecord Unit) where
  body := recordBody
  injective := recordBody_injective
  plain := by
    intro record
    simp only [recordBody, List.all_append, List.all_cons, plain_numberText, plain_stringText,
      plain_optionText, Bool.true_and, Bool.and_true]
    decide

def manifestText : ObjectText TranscriptManifest where
  body := manifestBody
  injective := manifestBody_injective
  plain := by
    intro manifest
    simp only [manifestBody, List.all_append, List.all_cons, plain_numberText, plain_stringText,
      Bool.true_and, Bool.and_true]
    decide

noncomputable def nullPayloads : TranscriptJson Unit where
  record := recordText.codec
  manifest := manifestText.codec.toObjectCodec

def userMessage : TranscriptRecord Unit :=
  { schemaVersion := transcriptSchemaVersion
    sessionId := "sess_1"
    eventSeq := 1
    turnSeq := 1
    turnId := some "turn_1"
    eventType := "user_message"
    streamSource := "synthetic"
    timestamp := "2026-03-30T00:00:00Z"
    payload := ()
    requestId := "req_1" }

theorem numbered_userMessage : TranscriptStore.numbered
    (.newEmpty userMessage.sessionId userMessage.timestamp) userMessage = userMessage := rfl

theorem record_length (record : TranscriptRecord Unit) :
    1 < (nullPayloads.record.toVec record).length ∧
      (nullPayloads.record.toVec record).length ≤ 4 * (recordBody record).length + 2 := by
  have same : nullPayloads.record.toVec record = recordText.toVec record := rfl
  rw [same]
  exact ⟨recordText.one_lt_length record, recordText.toVec_length_le record⟩

theorem userMessage_length : 1 < (nullPayloads.record.toVec userMessage).length ∧
    (nullPayloads.record.toVec userMessage).length + 1 ≤
      (TranscriptStore.new []).segmentMaxBytes := by
  have short : (recordBody userMessage).length ≤ 1000 := by decide +kernel
  obtain ⟨long, bound⟩ := record_length userMessage
  refine ⟨long, ?_⟩
  change _ ≤ 16 * 1024 * 1024
  omega

/-! What one segment file holds: lines, each made of what was written to it one after another,
and whether they can be read back. -/

structure SegmentText (Payload : Type) where
  /-- The lines that got their line feed. -/
  closed : List (List (Piece (TranscriptRecord Payload)))
  pending : List (Piece (TranscriptRecord Payload))

namespace SegmentText

variable {Payload : Type}

def empty : SegmentText Payload := ⟨[], []⟩

def lines (text : SegmentText Payload) : List (List (Piece (TranscriptRecord Payload))) :=
  text.closed ++ if text.pending.isEmpty then [] else [text.pending]

def addPiece (piece : Piece (TranscriptRecord Payload)) (text : SegmentText Payload) :
    SegmentText Payload :=
  { text with pending := text.pending ++ [piece] }

def endLine (text : SegmentText Payload) : SegmentText Payload :=
  ⟨text.closed ++ [text.pending], []⟩

section Codec

variable (codec : LineCodec (TranscriptRecord Payload))

def bytes (text : SegmentText Payload) : Bytes :=
  text.closed.flatMap (fun line => codec.joined line ++ [lineFeed]) ++ codec.joined text.pending

structure WellFormed (sessionId : String) (text : SegmentText Payload) : Prop where
  inhabited : ∀ line ∈ text.closed, line ≠ []
  begun : ∀ line ∈ text.closed ++ [text.pending], ∀ piece ∈ line,
    codec.Begun piece ∧ piece.value.sessionId = sessionId

def Readable (text : SegmentText Payload) (records : List (TranscriptRecord Payload)) : Prop :=
  text.lines = records.map fun record => [codec.complete record]

end Codec

variable {codec : LineCodec (TranscriptRecord Payload)} {sessionId : String}
  {text : SegmentText Payload}

@[simp] theorem bytes_empty : (empty : SegmentText Payload).bytes codec = [] := rfl

@[simp] theorem lines_empty : (empty : SegmentText Payload).lines = [] := rfl

theorem wellFormed_empty : (empty : SegmentText Payload).WellFormed codec sessionId where
  inhabited := by simp [empty]
  begun := by simp [empty]

variable (piece : Piece (TranscriptRecord Payload))

@[simp] theorem bytes_addPiece :
    (text.addPiece piece).bytes codec = text.bytes codec ++ codec.pieceBytes piece := by
  simp [addPiece, bytes]

@[simp] theorem bytes_endLine : text.endLine.bytes codec = text.bytes codec ++ [lineFeed] := by
  simp [endLine, bytes]

theorem lines_addPiece :
    (text.addPiece piece).lines = text.closed ++ [text.pending ++ [piece]] := by
  simp [addPiece, lines]

theorem lines_addPiece_endLine :
    (text.addPiece piece).endLine.lines = (text.addPiece piece).lines := by
  simp [addPiece, endLine, lines]

theorem WellFormed.addPiece (wellFormed : text.WellFormed codec sessionId)
    {piece : Piece (TranscriptRecord Payload)} (begun : codec.Begun piece)
    (own : piece.value.sessionId = sessionId) :
    (text.addPiece piece).WellFormed codec sessionId where
  inhabited := wellFormed.inhabited
  begun := by
    intro line among other listed
    rcases List.mem_append.mp among with closed | last
    · exact wellFormed.begun line (by simp [show line ∈ text.closed from closed]) other listed
    · rw [List.mem_singleton.mp last] at listed
      rcases List.mem_append.mp listed with old | new
      · exact wellFormed.begun text.pending (by simp) other old
      · rw [List.mem_singleton.mp new]
        exact ⟨begun, own⟩

theorem WellFormed.endLine (wellFormed : text.WellFormed codec sessionId)
    (inhabited : text.pending ≠ []) : text.endLine.WellFormed codec sessionId where
  inhabited := by
    intro line among
    rcases List.mem_append.mp among with closed | last
    · exact wellFormed.inhabited line closed
    · rw [List.mem_singleton.mp last]
      exact inhabited
  begun := by
    intro line among piece listed
    rcases List.mem_append.mp among with closed | last
    · exact wellFormed.begun line closed piece listed
    · rw [List.mem_singleton.mp last] at listed
      simp [SegmentText.endLine] at listed

theorem WellFormed.line (wellFormed : text.WellFormed codec sessionId)
    {line : List (Piece (TranscriptRecord Payload))} (among : line ∈ text.lines) :
    line ≠ [] ∧ ∀ piece ∈ line, codec.Begun piece ∧ piece.value.sessionId = sessionId := by
  rcases List.mem_append.mp among with closed | last
  · exact ⟨wellFormed.inhabited line closed, wellFormed.begun line (by simp [closed])⟩
  · by_cases nothing : text.pending = []
    · simp [nothing] at last
    · have same : line = text.pending := by simpa [nothing] using last
      subst same
      exact ⟨nothing, wellFormed.begun text.pending (by simp)⟩

theorem lineFeed_not_mem_joined (line : List (Piece (TranscriptRecord Payload))) :
    lineFeed ∉ codec.joined line ∧ carriageReturn ∉ codec.joined line := by
  simp only [ObjectCodec.joined, List.mem_flatMap, not_exists, not_and]
  constructor <;> intro piece _ inside
  · exact (codec.oneLine piece.value).1 (List.mem_of_mem_take inside)
  · exact (codec.oneLine piece.value).2 (List.mem_of_mem_take inside)

theorem joined_eq_nil {line : List (Piece (TranscriptRecord Payload))}
    (begun : ∀ piece ∈ line, codec.Begun piece) : codec.joined line = [] ↔ line = [] := by
  constructor
  · intro nothing
    by_contra inhabited
    obtain ⟨rest, written⟩ := codec.joined_eq_cons inhabited begun
    simp [nothing] at written
  · intro nothing
    simp [nothing]

theorem WellFormed.splitLines_bytes (wellFormed : text.WellFormed codec sessionId) :
    splitLines (text.bytes codec) = text.lines.map codec.joined := by
  have single : ∀ line ∈ text.closed.map codec.joined,
      lineFeed ∉ line ∧ carriageReturn ∉ line := by
    intro bytes among
    obtain ⟨line, _, rfl⟩ := List.mem_map.mp among
    exact lineFeed_not_mem_joined line
  have last : lineFeed ∉ codec.joined text.pending ∧ carriageReturn ∉ codec.joined text.pending :=
    lineFeed_not_mem_joined text.pending
  have whole := splitLines_lines single last
  have nothing : codec.joined text.pending = [] ↔ text.pending = [] :=
    joined_eq_nil fun piece listed => (wellFormed.begun text.pending (by simp) piece listed).1
  rw [List.flatMap_map] at whole
  rw [bytes, whole, lines]
  by_cases ended : text.pending = [] <;> simp [ended, nothing]

theorem isBlank_joined {line : List (Piece (TranscriptRecord Payload))} (inhabited : line ≠ [])
    (begun : ∀ piece ∈ line, codec.Begun piece) : isBlank (codec.joined line) = false := by
  obtain ⟨rest, written⟩ := codec.joined_eq_cons inhabited begun
  rw [written]
  exact isBlank_brace rest

theorem Readable.isUtf8_bytes {records : List (TranscriptRecord Payload)}
    (readable : text.Readable codec records) : isUtf8 (text.bytes codec) := by
  have each : ∀ line ∈ text.lines, isUtf8 (codec.joined line) := by
    intro line among
    rw [readable, List.mem_map] at among
    obtain ⟨record, _, rfl⟩ := among
    simpa using codec.utf8 record
  have closed : isUtf8 (text.closed.flatMap fun line => codec.joined line ++ [lineFeed]) := by
    rw [List.flatMap_def]
    apply isUtf8_flatten
    simp only [List.mem_map]
    rintro _ ⟨line, among, rfl⟩
    exact isUtf8_append (each line (by simp [lines, among])) isUtf8_lineFeed
  apply isUtf8_append closed
  by_cases nothing : text.pending = []
  · simp [nothing, isUtf8]
  · exact each text.pending (by simp [lines, nothing])

end SegmentText

section Replay

variable {Payload : Type} (json : TranscriptJson Payload) (path : Path)
  (manifest : TranscriptManifest) (after : Option Nat)

def wanted (manifest : TranscriptManifest) (after : Option Nat)
    (records : List (TranscriptRecord Payload)) : List (TranscriptRecord Payload) :=
  records.filter fun record =>
    decide (record.sessionId = manifest.sessionId) && TranscriptStore.isAfter after record

theorem replayLines_complete (records : List (TranscriptRecord Payload)) :
    TranscriptStore.replayLines json path manifest after
      (records.map fun record => json.record.joined [json.record.complete record]) =
      .ok (wanted manifest after records) := by
  induction records with
  | nil => rfl
  | cons record rest ih =>
    have text : isUtf8 (json.record.toVec record) := json.record.utf8 record
    have black : isBlank (json.record.toVec record) = false := by
      obtain ⟨bytes, written⟩ := json.record.toVec_eq_cons record
      rw [written]
      exact isBlank_brace bytes
    have found : json.record.fromSlice (json.record.toVec record) = some record :=
      json.record.roundTrip record
    simp only [ObjectCodec.joined_singleton, ObjectCodec.bytes_complete] at ih
    by_cases kept : record.sessionId = manifest.sessionId <;>
      by_cases later : TranscriptStore.isAfter after record <;>
      simp [TranscriptStore.replayLines, text, black, found, ih, Bind.bind, Except.bind, pure,
        Except.pure, wanted, kept, later]

variable {json path manifest after}

theorem complete_of_replayLines {lines : List (List (Piece (TranscriptRecord Payload)))}
    (begun : ∀ line ∈ lines, line ≠ [] ∧ ∀ piece ∈ line, json.record.Begun piece)
    {result : List (TranscriptRecord Payload)}
    (replayed : TranscriptStore.replayLines json path manifest after
      (lines.map json.record.joined) = .ok result) :
    ∃ records : List (TranscriptRecord Payload),
      lines = records.map fun record => [json.record.complete record] := by
  induction lines generalizing result with
  | nil => exact ⟨[], rfl⟩
  | cons line rest ih =>
    have here := begun line (by simp)
    have black := SegmentText.isBlank_joined here.1 here.2
    simp only [List.map_cons, TranscriptStore.replayLines, black] at replayed
    by_cases text : isUtf8 (json.record.joined line)
    · cases found : json.record.fromSlice (json.record.joined line) with
      | none => simp [text, found] at replayed
      | some record =>
        have single := (json.record.fromSlice_joined here.2 record).mp found
        cases remaining : TranscriptStore.replayLines json path manifest after
            (rest.map json.record.joined) with
        | error error => simp [text, found, remaining, Bind.bind, Except.bind] at replayed
        | ok others =>
          obtain ⟨records, complete⟩ := ih (fun other among => begun other (by simp [among]))
            remaining
          exact ⟨record :: records, by simp [single, complete]⟩
    · simp [text] at replayed

end Replay

end OpenJax.Transcript
