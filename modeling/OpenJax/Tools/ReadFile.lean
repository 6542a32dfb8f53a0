import OpenJax.Shared.Alternation
import OpenJax.Tools.HandlerArgs
import OpenJax.Tools.ListDir
import Mathlib.Data.List.DropRight

set_option autoImplicit false

namespace OpenJax.Tools.ReadFile

open Shared

def readMaxLineLength : Nat := 500

def formatReadLine (bytes : Bytes) : String :=
  let decoded := fromUtf8Lossy bytes
  if decoded.utf8ByteSize > readMaxLineLength then
    takeBytesAtCharBoundary decoded readMaxLineLength
  else decoded

def showLine (number : Nat) (display : String) : String := s!"L{number}: {display}"

def numberedLines (content : Bytes) : List String :=
  ((splitLines content).zipIdx 1).map fun line => showLine line.2 (formatReadLine line.1)

/-- The loop over the lines that are still to be read: how many have been seen when it ends, and
what is collected. -/
def sliceLoop (offset limit : Nat) : Nat → List String → List Bytes → Nat × List String
  | seen, collected, [] => (seen, collected)
  | seen, collected, buffer :: rest =>
      if seen + 1 < offset then sliceLoop offset limit (seen + 1) collected rest
      else if collected.length = limit then (seen + 1, collected)
      else
        sliceLoop offset limit (seen + 1) (collected ++ [showLine (seen + 1) (formatReadLine buffer)])
          rest

def readSlice (content : Bytes) (offset limit : Nat) : Except String (List String) :=
  let (seen, collected) := sliceLoop offset limit 0 [] (splitLines content)
  if seen < offset then .error "offset exceeds file length" else .ok collected

@[simp] theorem length_numberedLines (content : Bytes) :
    (numberedLines content).length = (splitLines content).length := by
  simp [numberedLines]

section SliceLoop

variable (offset limit : Nat)

def numberedFrom (seen : Nat) (lines : List Bytes) : List String :=
  (lines.zipIdx (seen + 1)).map fun line => showLine line.2 (formatReadLine line.1)

theorem sliceLoop_skips (seen : Nat) (lines : List Bytes) (before : seen < offset) :
    sliceLoop offset limit seen [] lines =
      if seen + lines.length < offset then (seen + lines.length, [])
      else sliceLoop offset limit (offset - 1) [] (lines.drop (offset - 1 - seen)) := by
  induction lines generalizing seen with
  | nil => simp [sliceLoop, before]
  | cons line rest ih =>
    rw [sliceLoop]
    by_cases skipped : seen + 1 < offset
    · rw [if_pos skipped, ih (seen + 1) skipped]
      have shift : offset - 1 - seen = (offset - 1 - (seen + 1)) + 1 := by omega
      rw [shift, List.drop_succ_cons, List.length_cons, Nat.add_assoc, Nat.add_comm 1]
    · have last : offset = seen + 1 := by omega
      subst last
      simp [sliceLoop]

theorem sliceLoop_collects (seen : Nat) (collected : List String) (lines : List Bytes)
    (reached : offset ≤ seen + 1) (room : collected.length ≤ limit) :
    (sliceLoop offset limit seen collected lines).2 =
        collected ++ (numberedFrom seen lines).take (limit - collected.length) ∧
      seen + min 1 lines.length ≤ (sliceLoop offset limit seen collected lines).1 := by
  induction lines generalizing seen collected with
  | nil => simp [sliceLoop, numberedFrom]
  | cons line rest ih =>
    rw [sliceLoop, if_neg (by omega)]
    by_cases full : collected.length = limit
    · simp [full]
    · rw [if_neg full]
      have step := ih (seen + 1) (collected ++ [showLine (seen + 1) (formatReadLine line)])
        (by omega)
        (by simp; omega)
      constructor
      · rw [step.1, List.append_assoc]
        congr 1
        have more : limit - collected.length = (limit - (collected.length + 1)) + 1 := by omega
        simp [numberedFrom, more]
      · have passed := step.2
        simp only [List.length_cons]
        omega

end SliceLoop

theorem drop_numberedLines (content : Bytes) (seen : Nat) :
    (numberedLines content).drop seen = numberedFrom seen ((splitLines content).drop seen) := by
  rw [numberedLines, numberedFrom, ← List.map_drop]
  congr 1
  apply List.ext_getElem
  · simp
  · intro index _ _
    simp
    omega

theorem readSlice_eq (content : Bytes) (offset limit : Nat) :
    readSlice content offset limit =
      if (splitLines content).length < offset then .error "offset exceeds file length"
      else .ok (((numberedLines content).drop (offset - 1)).take limit) := by
  simp only [readSlice]
  by_cases first : offset = 0
  · have collects := (sliceLoop_collects offset limit 0 [] (splitLines content)
      (by omega) (by simp)).1
    simp [first] at collects ⊢
    rw [collects, numberedFrom, numberedLines]
  · rw [sliceLoop_skips offset limit 0 (splitLines content) (by omega)]
    by_cases short : (splitLines content).length < offset
    · simp [short]
    · have collects := sliceLoop_collects offset limit (offset - 1) []
        ((splitLines content).drop (offset - 1)) (by omega) (by simp)
      have seen := collects.2
      rw [List.length_drop] at seen
      simp only [Nat.zero_add, short, if_false, Nat.sub_zero, collects.1, List.nil_append,
        List.length_nil, drop_numberedLines]
      rw [if_neg (by omega)]

theorem flatMap_pages {α : Type} (values : List α) (size count : Nat) :
    (List.range count).flatMap (fun page => (values.drop (page * size)).take size) =
      values.take (count * size) := by
  induction count with
  | zero => simp
  | succ count ih =>
    rw [List.range_succ, List.flatMap_append, ih, Nat.succ_mul, List.take_add]
    simp

theorem slices_list_every_line (content : Bytes) (limit : Nat) (positive : 1 ≤ limit) :
    (∀ offset, (∃ message, readSlice content offset limit = .error message) ↔
      (splitLines content).length < offset) ∧
      ∃ page : Nat → List String,
        (∀ count, count * limit < (splitLines content).length →
          readSlice content (1 + count * limit) limit = .ok (page count)) ∧
        (List.range (((splitLines content).length + limit - 1) / limit)).flatMap page =
          numberedLines content := by
  constructor
  · intro offset
    rw [readSlice_eq]
    split_ifs with beyond
    · simp [beyond]
    · simp [beyond]
  · refine ⟨fun count => ((numberedLines content).drop (count * limit)).take limit, ?_, ?_⟩
    · intro count present
      rw [readSlice_eq, if_neg (by omega), Nat.add_sub_cancel_left]
    · rw [flatMap_pages, List.take_of_length_le]
      rw [length_numberedLines]
      have whole := Nat.div_add_mod ((splitLines content).length + limit - 1) limit
      have part := Nat.mod_lt ((splitLines content).length + limit - 1) positive
      rw [Nat.mul_comm] at whole
      omega

theorem slices_list_every_line_of_three :
    (∀ offset, (∃ message, readSlice (utf8 "a\r\n\nb") offset 2 = .error message) ↔
      (splitLines (utf8 "a\r\n\nb")).length < offset) ∧
      ∃ page : Nat → List String,
        (∀ count, count * 2 < (splitLines (utf8 "a\r\n\nb")).length →
          readSlice (utf8 "a\r\n\nb") (1 + count * 2) 2 = .ok (page count)) ∧
        (List.range (((splitLines (utf8 "a\r\n\nb")).length + 2 - 1) / 2)).flatMap page =
          numberedLines (utf8 "a\r\n\nb") :=
  slices_list_every_line (utf8 "a\r\n\nb") 2 (by decide)

example : readSlice (utf8 "a\r\n\nb") 2 2 = .ok ["L2: ", "L3: b"] := by decide +kernel

/-! The indentation mode of the `Read` tool: a block of lines that grows around an anchor. What
the file takes in memory bounds its line numbers and indents, which are plain numbers here; the
arithmetic on arguments, and the counter that is an `i32`, are checked. -/

inductive ReadFault where
  | subtractUnderflow
  | multiplyOverflow
  | addOverflow
  | capacityOverflow
  | indexOutOfBounds
  deriving DecidableEq

def checkedSub (first second : Nat) : Except ReadFault Nat :=
  if second ≤ first then .ok (first - second) else .error .subtractUnderflow

def checkedMul (first second : Nat) : Except ReadFault Nat :=
  if first * second < 2 ^ 64 then .ok (first * second) else .error .multiplyOverflow

def checkedIncrement (counter : Nat) : Except ReadFault Nat :=
  if counter + 1 < 2 ^ 31 then .ok (counter + 1) else .error .addOverflow

/-- A buffer of references, eight bytes each; no buffer has more than `isize::MAX` bytes. -/
def withCapacity {α : Type} (capacity : Nat) : Except ReadFault (List α) :=
  if capacity * 8 < 2 ^ 63 then .ok [] else .error .capacityOverflow

def elementAt {α : Type} (values : List α) (index : Nat) : Except ReadFault α :=
  match values[index]? with
  | some value => .ok value
  | none => .error .indexOutOfBounds

def readTabWidth : Nat := 4

def readCommentPrefixes : List String := ["#", "//", "--"]

structure LineRecord where
  number : Nat
  raw : String
  display : String
  indent : Nat
  deriving DecidableEq

def LineRecord.isBlank (line : LineRecord) : Bool := (trimStart line.raw.toList).isEmpty

def LineRecord.isComment (line : LineRecord) : Bool :=
  readCommentPrefixes.any fun start => startsWith (trim line.raw) start

def measureIndent (line : String) : Nat :=
  ((line.toList.takeWhile fun c => c = ' ' || c = '\t').map fun c =>
    if c = '\t' then readTabWidth else 1).sum

def lineRecord (buffer : Bytes) (number : Nat) : LineRecord :=
  let raw := fromUtf8Lossy buffer
  { number, raw, display := formatReadLine buffer, indent := measureIndent raw }

def collectFileLines (content : Bytes) : List LineRecord :=
  ((splitLines content).zipIdx 1).map fun line => lineRecord line.1 line.2

def effectiveFrom (previousIndent : Nat) : List LineRecord → List Nat
  | [] => []
  | record :: rest =>
      let indent := if record.isBlank then previousIndent else record.indent
      indent :: effectiveFrom indent rest

def computeEffectiveIndents (records : List LineRecord) : List Nat := effectiveFrom 0 records

def trimEmptyLines (out : List LineRecord) : List LineRecord :=
  (out.dropWhile fun line => trim line.raw == "").rdropWhile fun line => trim line.raw == ""

structure Cursors where
  i : Int
  j : Nat
  iCounterMinIndent : Nat
  jCounterMinIndent : Nat
  out : List LineRecord

section Expansion

variable (collected : List LineRecord) (effectiveIndents : List Nat) (minIndent finalLimit : Nat)
  (options : IndentationArgs)

def takeAbove (cursors : Cursors) : Except ReadFault (Cursors × Nat) := do
  if 0 ≤ cursors.i then
    let indent ← elementAt effectiveIndents cursors.i.toNat
    if minIndent ≤ indent then
      let line ← elementAt collected cursors.i.toNat
      let pushed := { cursors with i := cursors.i - 1, out := line :: cursors.out }
      if indent = minIndent && !options.includeSiblings then
        let allowHeaderComment := options.includeHeader && line.isComment
        if allowHeaderComment || cursors.iCounterMinIndent == 0 then
          let counter ← checkedIncrement cursors.iCounterMinIndent
          return ({ pushed with iCounterMinIndent := counter }, 1)
        else
          -- The line is popped again.
          return ({ cursors with i := -1 }, 0)
      else return (pushed, 1)
    else return ({ cursors with i := -1 }, 0)
  else return (cursors, 0)

def takeBelow (cursors : Cursors) : Except ReadFault (Cursors × Nat) := do
  if cursors.j < collected.length then
    let indent ← elementAt effectiveIndents cursors.j
    if minIndent ≤ indent then
      let line ← elementAt collected cursors.j
      let pushed := { cursors with j := cursors.j + 1, out := cursors.out ++ [line] }
      if indent = minIndent && !options.includeSiblings then
        let counter ← checkedIncrement cursors.jCounterMinIndent
        if cursors.jCounterMinIndent > 0 then
          -- The line is popped again.
          return ({ cursors with j := collected.length, jCounterMinIndent := counter }, 0)
        else return ({ pushed with jCounterMinIndent := counter }, 1)
      else return (pushed, 1)
    else return ({ cursors with j := collected.length }, 0)
  else return (cursors, 0)

def expand : Nat → Cursors → Except ReadFault (Option (List LineRecord))
  | 0, _ => .ok none
  | turns + 1, cursors => do
      if cursors.out.length < finalLimit then
        let above ← takeAbove collected effectiveIndents minIndent options cursors
        -- The limit is looked at only after a line that is deep enough, but no other turn of the
        -- upper half brings the block up to it.
        if finalLimit ≤ above.1.out.length then return some above.1.out
        let below ← takeBelow collected effectiveIndents minIndent options above.1
        if above.2 + below.2 = 0 then return some below.1.out
        expand turns below.1
      else return some cursors.out

end Expansion

def minIndentFor (anchorIndent : Nat) (options : IndentationArgs) : Except ReadFault Nat :=
  if options.maxLevels = 0 then .ok 0
  else (checkedMul options.maxLevels readTabWidth).map fun depth => anchorIndent - depth

def showRecord (record : LineRecord) : String := showLine record.number record.display

def readIndentation (turns : Nat) (content : Bytes) (offset limit : Nat)
    (options : IndentationArgs) : Except ReadFault (Option (Except String (List String))) := do
  let anchorLine := options.anchorLine.getD offset
  let guardLimit := options.maxLines.getD limit
  let collected := collectFileLines content
  if collected.isEmpty || anchorLine > collected.length then
    return some (.error "anchor_line exceeds file length")
  let anchorIndex ← checkedSub anchorLine 1
  let effectiveIndents := computeEffectiveIndents collected
  let anchorIndent ← elementAt effectiveIndents anchorIndex
  let minIndent ← minIndentFor anchorIndent options
  let finalLimit := min (min limit guardLimit) collected.length
  if finalLimit = 1 then
    let anchor ← elementAt collected anchorIndex
    return some (.ok [showRecord anchor])
  let out ← withCapacity limit
  let anchor ← elementAt collected anchorIndex
  let cursors : Cursors :=
    { i := (anchorIndex : Int) - 1
      j := anchorIndex + 1
      iCounterMinIndent := 0
      jCounterMinIndent := 0
      out := out ++ [anchor] }
  let expanded ← expand collected effectiveIndents minIndent finalLimit options turns cursors
  return expanded.map fun block => .ok ((trimEmptyLines block).map showRecord)

example : readIndentation 9 (utf8 "a\n  b\n  c\nd\n") 2 10 ⟨none, 0, true, true, none⟩ =
    .ok (some (.ok ["L1: a", "L2:   b", "L3:   c", "L4: d"])) := by decide +kernel

example : readIndentation 9 (utf8 "a\n      b\n      c\nd\n") 2 10 ⟨none, 1, true, true, none⟩ =
    .ok (some (.ok ["L2:       b", "L3:       c"])) := by decide +kernel

example : readIndentation 9 (utf8 "a\n  b\n  c\nd\n") 2 10 ⟨some 0, 0, true, true, none⟩ =
    .error .subtractUnderflow := by decide +kernel

end OpenJax.Tools.ReadFile
