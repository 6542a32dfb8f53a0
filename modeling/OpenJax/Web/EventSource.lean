import OpenJax.Shared.BlankLines
import OpenJax.Shared.JsonText
import OpenJax.Shared.TextDecoder
import OpenJax.Shared.TextLines
import OpenJax.Web.Types

set_option autoImplicit false

namespace OpenJax.Web

open Shared

abbrev Inline := { text : List Char // '\r' ∉ text ∧ '\n' ∉ text }

structure ObjectText where
  text : List Char
  fields : List (List Char × JsonValue)
  inline : '\r' ∉ text ∧ '\n' ∉ text
  opens : text.head? = some '\x7b'
  closes : text.getLast? = some '\x7d'
  parsed : JsonText.parse text = some (.object fields)

inductive SseFrame where
  | event (eventType eventSeq : Inline) (data : ObjectText)
  | comment (text : Inline)

namespace SseFrame

def front : SseFrame → List (List Char)
  | event eventType eventSeq _ =>
      ["event: ".toList ++ eventType.1, "id: ".toList ++ eventSeq.1]
  | comment _ => []

def last : SseFrame → List Char
  | event _ _ data => "data: ".toList ++ data.text
  | comment text => ':' :: text.1

def object : SseFrame → Option JsonValue
  | event _ _ data => some (.object data.fields)
  | comment _ => none

end SseFrame

structure SentFrame where
  frame : SseFrame
  crlf : Bool

namespace SentFrame

def lineEnd (crlf : Bool) : List Char := if crlf then ['\r', '\n'] else ['\n']

def body (sent : SentFrame) : List Char :=
  sent.frame.front.flatMap (· ++ lineEnd sent.crlf) ++ sent.frame.last

def text (sent : SentFrame) : List Char :=
  sent.body ++ (lineEnd sent.crlf ++ lineEnd sent.crlf)

end SentFrame

def streamText (frames : List SentFrame) : List Char := frames.flatMap SentFrame.text

def arrived : List SentFrame → Nat → List JsonValue
  | [], _ => []
  | sent :: rest, size =>
      (if (encoded sent.body).length ≤ size then sent.frame.object.toList else []) ++
        arrived rest (size - (encoded sent.text).length)

structure SseSplit where
  chunks : List (List Char)
  remainder : List Char

def splitSseBuffer (buffer : List Char) : SseSplit :=
  let chunks := splitBlank (joinLineEnds buffer)
  ⟨chunks.dropLast, chunks.getLastD []⟩

def splitSseBufferAtStreamEnd (buffer : List Char) : List (List Char) :=
  let split := splitSseBuffer buffer
  if (trimmedText split.remainder).isEmpty then split.chunks
  else split.chunks ++ [split.remainder]

structure SseChunk where
  event : Option (List Char)
  data : Option (List Char)

def readLine (output : SseChunk) (line : List Char) : SseChunk where
  event := ((stripPrefix? "event:" line).map trimmedText).or output.event
  data := ((stripPrefix? "data:" line).map trimmedText).or output.data

def chunkLines (chunk : List Char) : List (List Char) :=
  ((splitBy '\n' (joinLineEnds chunk)).map trimmedText).filter fun line => !line.isEmpty

def parseSseChunk (chunk : List Char) : Option SseChunk :=
  let lines := chunkLines chunk
  if lines.isEmpty then none else some (lines.foldl readLine ⟨none, none⟩)

inductive HandlerCall where
  | onEvent (event : JsonValue)
  | onError

def HandlerCall.event : HandlerCall → Option JsonValue
  | onEvent event => some event
  | onError => none

def dataCall : Option (List Char) → Option HandlerCall
  | none | some [] => none
  | some data =>
      match JsonText.parse data with
      | some event => some (.onEvent event)
      | none => some .onError

def processSseChunk (chunk : List Char) : Option HandlerCall :=
  dataCall ((parseSseChunk chunk).bind SseChunk.data)

def readEvents (decoder : TextDecoder) (buffer : List Char) : List Bytes → List HandlerCall
  | [] => (splitSseBufferAtStreamEnd (buffer ++ decoder.flush)).filterMap processSseChunk
  | value :: reads =>
      let (chars, decoder) := decoder.decode value
      let split := splitSseBuffer (buffer ++ chars)
      split.chunks.filterMap processSseChunk ++ readEvents decoder split.remainder reads

def streamEvents (reads : List Bytes) : List HandlerCall := readEvents .new [] reads

section

variable {first second : List Char}

theorem atStreamEnd_pieces (single : SingleReturns (first ++ second)) :
    splitSseBufferAtStreamEnd (first ++ second) = (splitSseBuffer first).chunks ++
      splitSseBufferAtStreamEnd ((splitSseBuffer first).remainder ++ second) := by
  have joined : Joined (joinLineEnds first) := joined_joinLineEnds single.left_of_append
  have pieces := splitBlank_pieces joined second
  rw [joinLineEnds_pieces single] at pieces
  have inked := splitBlank_ne_nil
    (joinLineEnds ((splitBlank (joinLineEnds first)).getLastD [] ++ second))
  have chunks : (splitSseBuffer (first ++ second)).chunks = (splitSseBuffer first).chunks ++
      (splitSseBuffer ((splitSseBuffer first).remainder ++ second)).chunks := by
    simp only [splitSseBuffer, pieces]
    rw [List.dropLast_append_of_ne_nil inked]
  have remainder : (splitSseBuffer (first ++ second)).remainder =
      (splitSseBuffer ((splitSseBuffer first).remainder ++ second)).remainder := by
    simp only [splitSseBuffer, pieces]
    rw [List.getLastD_eq_getLast?, List.getLast?_append_of_ne_nil _ inked,
      ← List.getLastD_eq_getLast?]
  rw [splitSseBufferAtStreamEnd, splitSseBufferAtStreamEnd]
  rw [chunks, remainder]
  split
  · rfl
  · rw [List.append_assoc]

theorem remainder_suffix (buffer : List Char) :
    (splitSseBuffer buffer).remainder <:+ joinLineEnds buffer := splitBlank_last_suffix _

theorem singleReturns_remainder (single : SingleReturns (first ++ second)) :
    SingleReturns ((splitSseBuffer first).remainder ++ second) := by
  obtain ⟨before, same⟩ := remainder_suffix first
  have joined := singleReturns_joined single
  rw [← same, List.append_assoc] at joined
  exact joined.right_of_append

theorem readEvents_eq {reads : List Bytes} {decoder : TextDecoder} {buffer chars : List Char}
    {last : Bytes} (decoded : decodeBytes decoder.pending reads.flatten = (chars, last))
    (plain : decoder.atStart → chars.head? ≠ some '\uFEFF')
    (single : SingleReturns (buffer ++ (chars ++ TextDecoder.flush ⟨last, false⟩))) :
    readEvents decoder buffer reads =
      (splitSseBufferAtStreamEnd
        (buffer ++ (chars ++ TextDecoder.flush ⟨last, false⟩))).filterMap processSseChunk := by
  induction reads generalizing decoder buffer chars last with
  | nil =>
    cases decoded
    rfl
  | cons value reads ih =>
    rw [List.flatten_cons, decodeBytes_append] at decoded
    cases decoded
    rw [readEvents, TextDecoder.decode_plain plain]
    dsimp only
    generalize cut : decodeBytes decoder.pending value = piece at plain single ⊢
    obtain ⟨chars, pending⟩ := piece
    dsimp only at plain single ⊢
    rw [List.append_assoc, ← List.append_assoc buffer] at single ⊢
    rw [atStreamEnd_pieces single, List.filterMap_append]
    congr 1
    have laterPlain : (decoder.atStart && chars.isEmpty) →
        (decodeBytes pending reads.flatten).1.head? ≠ some '\uFEFF' := by
      intro start
      obtain ⟨start, none⟩ := Bool.and_eq_true_iff.mp start
      have later := plain start
      rwa [List.isEmpty_iff.mp none, List.nil_append] at later
    exact ih (Prod.eta _).symm laterPlain (singleReturns_remainder single)

end

end OpenJax.Web
