import OpenJax.Shared.Lines

set_option autoImplicit false

namespace OpenJax.Streaming

open Shared

/-- The lines that a line feed ends, without it, and what follows the last line feed. -/
def splitComplete : Bytes → List Bytes × Bytes
  | [] => ([], [])
  | byte :: rest =>
      let (lines, tail) := splitComplete rest
      if byte = lineFeed then ([] :: lines, tail)
      else
        match lines with
        | [] => ([], byte :: tail)
        | line :: others => ((byte :: line) :: others, tail)

def dropReturn (line : Bytes) : Bytes :=
  if line.getLast? = some carriageReturn then line.dropLast else line

def takeCompleteLines (pending : Bytes) : List String × Bytes :=
  let (lines, tail) := splitComplete pending
  (lines.map fun line => fromUtf8Lossy (dropReturn line), tail)

def parseSseDataLine (line : String) : Option String :=
  let trimmed := trim line
  if startsWith trimmed "data:" then some (trim (String.ofList (trimmed.toList.drop 5)))
  else none

def collectFrames : List String → List String × Bool
  | [] => ([], false)
  | line :: rest =>
      let (frames, done) := collectFrames rest
      match parseSseDataLine line with
      | none => (frames, done)
      | some data => if data = "[DONE]" then (frames, true) else (data :: frames, done)

structure SseParser where
  pending : Bytes
  sawDone : Bool
  deriving DecidableEq, Repr

namespace SseParser

def default : SseParser := ⟨[], false⟩

def pushChunk (parser : SseParser) (bytes : Bytes) : List String × SseParser :=
  let (lines, tail) := takeCompleteLines (parser.pending ++ bytes)
  let (frames, done) := collectFrames lines
  (frames, ⟨tail, parser.sawDone || done⟩)

def finish (parser : SseParser) : List String × SseParser :=
  if parser.pending.isEmpty then ([], parser)
  else
    let (frames, done) := collectFrames [fromUtf8Lossy parser.pending]
    (frames, ⟨[], parser.sawDone || done⟩)

def pushChunks (parser : SseParser) : List Bytes → List String × SseParser
  | [] => ([], parser)
  | chunk :: rest =>
      let (frames, next) := parser.pushChunk chunk
      let (later, last) := next.pushChunks rest
      (frames ++ later, last)

end SseParser

theorem splitComplete_append (first second : Bytes) :
    splitComplete (first ++ second) =
      ((splitComplete first).1 ++ (splitComplete ((splitComplete first).2 ++ second)).1,
        (splitComplete ((splitComplete first).2 ++ second)).2) := by
  induction first with
  | nil => simp [splitComplete]
  | cons byte rest ih =>
    rw [List.cons_append, splitComplete, ih]
    by_cases ended : byte = lineFeed
    · simp [splitComplete, ended]
    · cases complete : (splitComplete rest).1 with
      | nil => simp [splitComplete, ended, complete]
      | cons line others => simp [splitComplete, ended, complete]

theorem collectFrames_append (first second : List String) :
    collectFrames (first ++ second) =
      ((collectFrames first).1 ++ (collectFrames second).1,
        (collectFrames first).2 || (collectFrames second).2) := by
  induction first with
  | nil => simp [collectFrames]
  | cons line rest ih =>
    rw [List.cons_append, collectFrames, ih, collectFrames]
    cases parseSseDataLine line with
    | none => rfl
    | some data => by_cases done : data = "[DONE]" <;> simp [done]

theorem splitComplete_idle {pending : Bytes} (waiting : (splitComplete pending).1 = []) :
    splitComplete pending = ([], pending) := by
  induction pending with
  | nil => rfl
  | cons byte rest ih =>
    by_cases ended : byte = lineFeed
    · simp [splitComplete, ended] at waiting
    · cases complete : (splitComplete rest).1 with
      | nil => simp [splitComplete, ended, ih complete]
      | cons line others => simp [splitComplete, ended, complete] at waiting

theorem splitComplete_tail (bytes : Bytes) :
    splitComplete (splitComplete bytes).2 = ([], (splitComplete bytes).2) := by
  induction bytes with
  | nil => rfl
  | cons byte rest ih =>
    by_cases ended : byte = lineFeed
    · simpa [splitComplete, ended] using ih
    · cases complete : (splitComplete rest).1 with
      | nil => simp [splitComplete, ended, complete, ih]
      | cons line others => simpa [splitComplete, ended, complete] using ih

variable (parser : SseParser)

theorem pushChunk_append (first second : Bytes) :
    parser.pushChunk (first ++ second) =
      ((parser.pushChunk first).1 ++ ((parser.pushChunk first).2.pushChunk second).1,
        ((parser.pushChunk first).2.pushChunk second).2) := by
  simp [SseParser.pushChunk, takeCompleteLines, ← List.append_assoc,
    splitComplete_append (parser.pending ++ first) second, collectFrames_append, Bool.or_assoc]

theorem pushChunks_eq (chunks : List Bytes) (waiting : (splitComplete parser.pending).1 = []) :
    parser.pushChunks chunks = parser.pushChunk chunks.flatten := by
  induction chunks generalizing parser with
  | nil =>
    simp [SseParser.pushChunks, SseParser.pushChunk, takeCompleteLines,
      splitComplete_idle waiting, collectFrames]
  | cons chunk rest ih =>
    have next : (splitComplete (parser.pushChunk chunk).2.pending).1 = [] := by
      simp [SseParser.pushChunk, takeCompleteLines, splitComplete_tail]
    rw [List.flatten_cons, pushChunk_append, ← ih _ next]
    rfl

def SseParser.read (parser : SseParser) (chunks : List Bytes) : List String × Bool :=
  let (frames, held) := parser.pushChunks chunks
  let (trailing, last) := held.finish
  (frames ++ trailing, last.sawDone)

-- The two parsers of the source are the same line for line.
def openAiSseParser : SseParser := .default

def anthropicSseParser : SseParser := .default

theorem read_eq (chunks : List Bytes) (waiting : (splitComplete parser.pending).1 = []) :
    parser.read chunks = parser.read [chunks.flatten] := by
  have whole : parser.pushChunks [chunks.flatten] = parser.pushChunk chunks.flatten := by
    rw [pushChunks_eq parser _ waiting, List.flatten_singleton]
  simp only [SseParser.read, whole, pushChunks_eq parser chunks waiting]

theorem frames_of_chunks (chunks : List Bytes) :
    openAiSseParser.read chunks = openAiSseParser.read [chunks.flatten] ∧
      anthropicSseParser.read chunks = anthropicSseParser.read [chunks.flatten] :=
  ⟨read_eq openAiSseParser chunks rfl, read_eq anthropicSseParser chunks rfl⟩

section Lines

theorem trimChars_of_ends {last : Char} (first : Char) (inner : List Char)
    (opens : isWhitespace first = false) (closes : isWhitespace last = false) :
    trimChars (first :: inner ++ [last]) = first :: inner ++ [last] := by
  have start : trimStart (first :: inner ++ [last]) = first :: inner ++ [last] := by
    simp [trimStart, opens]
  have back : trimStart (first :: inner ++ [last]).reverse = (first :: inner ++ [last]).reverse := by
    simp [trimStart, closes]
  rw [trimChars, start, back, List.reverse_reverse]

theorem black_last {text : List Char} (trimmed : trimChars text = text) (inhabited : text ≠ []) :
    ∃ inner last, text = inner ++ [last] ∧ isWhitespace last = false := by
  unfold trimChars at trimmed
  cases shape : trimStart (trimStart text).reverse with
  | nil =>
    rw [shape] at trimmed
    exact absurd trimmed.symm inhabited
  | cons last rest =>
    have black := List.head?_dropWhile_not isWhitespace (trimStart text).reverse
    rw [trimStart] at shape
    rw [shape] at black
    rw [trimStart, shape] at trimmed
    exact ⟨rest.reverse, last, by simpa using trimmed.symm, black⟩

inductive SseLine where
  | data (spaced : Bool) (payload : String)
  | other (text : String)
  deriving DecidableEq, Repr

namespace SseLine

def text : SseLine → String
  | .data spaced payload => "data:" ++ (if spaced then " " else "") ++ payload
  | .other text => text

def payload? : SseLine → Option String
  | .data _ payload => some payload
  | .other _ => none

def Single (text : String) : Prop := '\n' ∉ text.toList ∧ '\r' ∉ text.toList

def Legal : SseLine → Prop
  | .data _ payload => trim payload = payload ∧ Single payload
  | .other text => startsWith (trim text) "data:" = false ∧ Single text

instance (text : String) : Decidable (Single text) :=
  inferInstanceAs (Decidable ('\n' ∉ text.toList ∧ '\r' ∉ text.toList))

instance : (line : SseLine) → Decidable line.Legal
  | .data _ payload => inferInstanceAs (Decidable (trim payload = payload ∧ Single payload))
  | .other text =>
      inferInstanceAs (Decidable (startsWith (trim text) "data:" = false ∧ Single text))

end SseLine

theorem trimChars_data {payload : List Char} (trimmed : trimChars payload = payload)
    (spaces : List Char) (gap : spaces = [] ∨ spaces = [' ']) :
    trimChars ("data:".toList ++ spaces ++ payload) =
      "data:".toList ++ (if payload = [] then [] else spaces) ++ payload := by
  by_cases empty : payload = []
  · rcases gap with rfl | rfl <;> subst empty <;> decide
  · obtain ⟨inner, last, rfl, black⟩ := black_last trimmed empty
    rw [if_neg empty, ← List.append_assoc]
    exact trimChars_of_ends 'd' ("ata:".toList ++ spaces ++ inner) (by decide) black

theorem parseSseDataLine_text {line : SseLine} (legal : line.Legal) :
    parseSseDataLine line.text = line.payload? := by
  cases line with
  | other text =>
    simp [parseSseDataLine, SseLine.text, SseLine.payload?, legal.1]
  | data spaced payload =>
    have kept : trimChars payload.toList = payload.toList := by
      have same := congrArg String.toList legal.1
      rwa [trim, String.toList_ofList] at same
    generalize gapEq : (if spaced then [' '] else []) = gap
    have gapCases : gap = [] ∨ gap = [' '] := by
      cases spaced <;> simp_all
    have chars : (SseLine.data spaced payload).text.toList =
        "data:".toList ++ gap ++ payload.toList := by
      cases spaced <;> simp [SseLine.text, ← gapEq]
    have trimmed := trimChars_data kept gap gapCases
    have rest : trimChars ((if payload.toList = [] then [] else gap) ++ payload.toList) =
        payload.toList := by
      rcases gapCases with rfl | rfl
      · simpa using kept
      · by_cases empty : payload.toList = []
        · simpa [empty] using kept
        · rw [if_neg empty]
          simpa [trimChars, trimStart, isWhitespace] using kept
    simp only [parseSseDataLine, trim, chars, trimmed, SseLine.payload?, startsWith,
      String.toList_ofList]
    rw [List.append_assoc, if_pos (by simp)]
    have dropped : ("data:".toList ++ ((if payload.toList = [] then [] else gap) ++
        payload.toList)).drop 5 = (if payload.toList = [] then [] else gap) ++ payload.toList :=
      List.drop_left' (by decide)
    rw [dropped, rest, String.ofList_toList]

theorem single_text {line : SseLine} (legal : line.Legal) : SseLine.Single line.text := by
  cases line with
  | other text => exact legal.2
  | data spaced payload =>
    have clean := legal.2
    unfold SseLine.Single at clean ⊢
    cases spaced <;> simp [SseLine.text, clean]

theorem notMem_utf8 {c : Char} {byte : UInt8} {text : String} (code : byte.toNat = c.toNat)
    (small : byte.toNat < 0x80) (absent : c ∉ text.toList) : byte ∉ utf8 text := by
  intro among
  obtain ⟨other, listed, encoded⟩ := List.mem_flatMap.mp among
  have same : other = c := Char.toNat_inj.mp ((code_of_mem_encoded encoded small).trans code)
  exact absent (same ▸ listed)

theorem lineFeed_notMem {text : String} (single : SseLine.Single text) : lineFeed ∉ utf8 text :=
  notMem_utf8 (c := '\n') (by decide) (by decide) single.1

theorem carriageReturn_notMem {text : String} (single : SseLine.Single text) :
    carriageReturn ∉ utf8 text :=
  notMem_utf8 (c := '\r') (by decide) (by decide) single.2

theorem splitComplete_line {line : Bytes} (rest : Bytes) (unended : lineFeed ∉ line) :
    splitComplete (line ++ lineFeed :: rest) =
      (line :: (splitComplete rest).1, (splitComplete rest).2) := by
  induction line with
  | nil => simp [splitComplete]
  | cons byte line ih =>
    simp only [List.mem_cons, not_or] at unended
    simp [splitComplete, ih unended.2, Ne.symm unended.1]

theorem splitComplete_open {line : Bytes} (unended : lineFeed ∉ line) :
    splitComplete line = ([], line) := by
  apply splitComplete_idle
  induction line with
  | nil => rfl
  | cons byte line ih =>
    simp only [List.mem_cons, not_or] at unended
    simp [splitComplete, ih unended.2, Ne.symm unended.1]

theorem dropReturn_plain {line : Bytes} (plain : carriageReturn ∉ line) :
    dropReturn line = line := by
  unfold dropReturn
  rw [if_neg]
  intro last
  exact plain (List.mem_of_getLast? last)

theorem dropReturn_return (line : Bytes) : dropReturn (line ++ [carriageReturn]) = line := by
  simp [dropReturn]

end Lines

def lineEnd (returned : Bool) : Bytes :=
  if returned then [carriageReturn, lineFeed] else [lineFeed]

/-- What a provider sends: lines, of which the last may lack its end. -/
structure SseStream where
  lines : List (SseLine × Bool)
  last : Option SseLine

namespace SseStream

def bytes (stream : SseStream) : Bytes :=
  (stream.lines.flatMap fun line => utf8 line.1.text ++ lineEnd line.2) ++
    utf8 ((stream.last.map SseLine.text).getD "")

def allLines (stream : SseStream) : List SseLine :=
  stream.lines.map Prod.fst ++ stream.last.toList

def payloads (stream : SseStream) : List String := stream.allLines.filterMap SseLine.payload?

structure Legal (stream : SseStream) : Prop where
  line : ∀ line ∈ stream.allLines, line.Legal

end SseStream

variable {stream : SseStream}

theorem takeCompleteLines_bytes (legal : stream.Legal) :
    takeCompleteLines stream.bytes =
      (stream.lines.map fun line => line.1.text,
        utf8 ((stream.last.map SseLine.text).getD "")) := by
  obtain ⟨lines, last⟩ := stream
  have lastOpen : lineFeed ∉ utf8 ((last.map SseLine.text).getD "") := by
    cases last with
    | none => exact List.not_mem_nil
    | some line => exact lineFeed_notMem (single_text (legal.line line (by simp [SseStream.allLines])))
  induction lines with
  | nil => simp [takeCompleteLines, SseStream.bytes, splitComplete_open lastOpen]
  | cons line rest ih =>
    have single := single_text (legal.line line.1 (by simp [SseStream.allLines]))
    have later : (SseStream.mk rest last).Legal :=
      ⟨fun other member => legal.line other (by
        simp only [SseStream.allLines, List.map_cons, List.cons_append, List.mem_cons]
        exact .inr member)⟩
    have read := ih later
    obtain ⟨line, returned⟩ := line
    have split : (SseStream.mk ((line, returned) :: rest) last).bytes =
        (utf8 line.text ++ if returned then [carriageReturn] else []) ++
          lineFeed :: (SseStream.mk rest last).bytes := by
      cases returned <;> simp [SseStream.bytes, lineEnd]
    have unended : lineFeed ∉ utf8 line.text ++ if returned then [carriageReturn] else [] := by
      have text := lineFeed_notMem single
      cases returned
      · simpa using text
      · simpa using ⟨text, by decide⟩
    have dropped : dropReturn (utf8 line.text ++ if returned then [carriageReturn] else []) =
        utf8 line.text := by
      cases returned
      · simpa using dropReturn_plain (carriageReturn_notMem single)
      · exact dropReturn_return _
    simp only [takeCompleteLines] at read ⊢
    rw [split, splitComplete_line _ unended]
    simp only [Prod.mk.injEq] at read
    simp [dropped, fromUtf8Lossy_utf8, read.1, read.2]

theorem collectFrames_texts {lines : List SseLine} (legal : ∀ line ∈ lines, line.Legal) :
    collectFrames (lines.map SseLine.text) =
      ((lines.filterMap SseLine.payload?).filter (· != "[DONE]"),
        (lines.filterMap SseLine.payload?).contains "[DONE]") := by
  induction lines with
  | nil => rfl
  | cons line rest ih =>
    have read := ih fun other member => legal other (List.mem_cons_of_mem _ member)
    have here := parseSseDataLine_text (legal line List.mem_cons_self)
    simp only [List.map_cons, collectFrames, read, here]
    cases found : line.payload? with
    | none => simp [List.filterMap_cons_none found]
    | some data =>
      rw [List.filterMap_cons_some found]
      by_cases done : data = "[DONE]" <;> simp [done, Ne.symm]

theorem pushChunks_stream (legal : stream.Legal) {chunks : List Bytes}
    (whole : chunks.flatten = stream.bytes) :
    SseParser.default.pushChunks chunks =
      (((stream.lines.map Prod.fst).filterMap SseLine.payload?).filter (· != "[DONE]"),
        ⟨utf8 ((stream.last.map SseLine.text).getD ""),
          ((stream.lines.map Prod.fst).filterMap SseLine.payload?).contains "[DONE]"⟩) := by
  have lines : ∀ line ∈ stream.lines.map Prod.fst, line.Legal :=
    fun line member => legal.line line (List.mem_append_left _ member)
  have collected := collectFrames_texts lines
  rw [List.map_map] at collected
  rw [pushChunks_eq _ _ rfl, whole]
  simp only [SseParser.pushChunk, SseParser.default, List.nil_append,
    takeCompleteLines_bytes legal, Bool.false_or]
  exact congrArg (fun read : List String × Bool =>
    (read.1, SseParser.mk (utf8 ((stream.last.map SseLine.text).getD "")) read.2)) collected

theorem finish_stream {line : SseLine} (legal : line.Legal) (sawDone : Bool) :
    (SseParser.mk (utf8 line.text) sawDone).finish =
      (line.payload?.toList.filter (· != "[DONE]"),
        ⟨[], sawDone || line.payload?.toList.contains "[DONE]"⟩) := by
  by_cases empty : utf8 line.text = []
  · have none : line.payload? = none := by
      rw [← parseSseDataLine_text legal]
      have blank : line.text = "" := utf8_injective empty
      rw [blank]
      decide
    simp [SseParser.finish, empty, none]
  · have collected := @collectFrames_texts [line] (by simpa using legal)
    have single : [line].filterMap SseLine.payload? = line.payload?.toList := by
      cases found : line.payload? <;> simp [found]
    rw [List.map_singleton, single] at collected
    simp [SseParser.finish, empty, fromUtf8Lossy_utf8, collected]

theorem read_stream (legal : stream.Legal) {chunks : List Bytes}
    (whole : chunks.flatten = stream.bytes) :
    (SseParser.default.pushChunks chunks).1 ++ (SseParser.default.pushChunks chunks).2.finish.1 =
        stream.payloads.filter (· != "[DONE]") ∧
      (SseParser.default.pushChunks chunks).2.finish.2.sawDone =
        stream.payloads.contains "[DONE]" := by
  rw [pushChunks_stream legal whole, SseStream.payloads, SseStream.allLines, List.filterMap_append]
  cases shape : stream.last with
  | none => simp [SseParser.finish, utf8]
  | some line =>
    have finished := finish_stream (legal.line line (by simp [SseStream.allLines, shape]))
      (((stream.lines.map Prod.fst).filterMap SseLine.payload?).contains "[DONE]")
    have single : [line].filterMap SseLine.payload? = line.payload?.toList := by
      cases given : line.payload? <;> simp [given]
    rw [Option.map_some, Option.getD_some, finished, Option.toList_some, single]
    constructor
    · rw [List.filter_append]
    · simp only [List.contains_eq_any_beq, List.any_append]

end OpenJax.Streaming
