set_option autoImplicit false

namespace OpenJax.Transcript

def transcriptSchemaVersion : Nat := 1

def firstSegmentFile : String := "segment-000001.jsonl"

def defaultSegmentMaxBytes : Nat := 16 * 1024 * 1024

structure TranscriptRecord (Payload : Type) where
  schemaVersion : Nat
  sessionId : String
  eventSeq : Nat
  turnSeq : Nat
  turnId : Option String
  eventType : String
  streamSource : String
  timestamp : String
  payload : Payload
  requestId : String
  deriving DecidableEq

structure TranscriptManifest where
  schemaVersion : Nat
  sessionId : String
  lastEventSeq : Nat
  lastTurnSeq : Nat
  activeSegment : String
  updatedAt : String
  deriving DecidableEq

def TranscriptManifest.newEmpty (sessionId updatedAt : String) : TranscriptManifest :=
  { schemaVersion := transcriptSchemaVersion
    sessionId := sessionId
    lastEventSeq := 0
    lastTurnSeq := 0
    activeSegment := firstSegmentFile
    updatedAt := updatedAt }

abbrev Journal (Payload : Type) := List (TranscriptRecord Payload)

namespace Journal

variable {Payload : Type}

def lastEventSeq (journal : Journal Payload) : Nat :=
  (journal.getLast?.map TranscriptRecord.eventSeq).getD 0

def stamp (journal : Journal Payload) (record : TranscriptRecord Payload) :
    TranscriptRecord Payload :=
  { record with
    schemaVersion := transcriptSchemaVersion
    eventSeq := journal.lastEventSeq + 1 }

def append (journal : Journal Payload) (record : TranscriptRecord Payload) : Journal Payload :=
  journal ++ [journal.stamp record]

variable (journal : Journal Payload) (record : TranscriptRecord Payload)

@[simp] theorem stamp_turnId : (journal.stamp record).turnId = record.turnId := rfl

@[simp] theorem stamp_turnSeq : (journal.stamp record).turnSeq = record.turnSeq := rfl

end Journal

end OpenJax.Transcript
