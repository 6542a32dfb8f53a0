import OpenJax.Tools.Context
import OpenJax.Tools.ReadModes

set_option autoImplicit false

namespace OpenJax.Tools.ReadFile

open Shared

section Runs

variable {minIndent : Nat} {options : IndentationArgs}

theorem upRun_isPart (counter : Nat) (lines : List MeasuredLine) :
    upRun minIndent options counter lines <+: lines := by
  induction lines generalizing counter with
  | nil => exact List.prefix_rfl
  | cons line rest ih =>
    rw [upRun]
    split_ifs
    · exact List.nil_prefix
    · exact (List.prefix_cons_inj line).mpr (ih _)
    · exact List.nil_prefix
    · exact (List.prefix_cons_inj line).mpr (ih _)

theorem downRun_isPart (counter : Nat) (lines : List MeasuredLine) :
    downRun minIndent options counter lines <+: lines := by
  induction lines generalizing counter with
  | nil => exact List.prefix_rfl
  | cons line rest ih =>
    rw [downRun]
    split_ifs
    · exact List.nil_prefix
    · exact List.nil_prefix
    · exact (List.prefix_cons_inj line).mpr (ih _)
    · exact (List.prefix_cons_inj line).mpr (ih _)

variable {lines : List MeasuredLine} {line : MeasuredLine} {counter : Nat}

theorem deep_of_mem_upRun (taken : line ∈ upRun minIndent options counter lines) :
    minIndent ≤ line.2 := by
  induction lines generalizing counter with
  | nil => cases taken
  | cons first rest ih =>
    rw [upRun] at taken
    split_ifs at taken with shallow
    · cases taken
    · rcases List.mem_cons.mp taken with rfl | later
      · omega
      · exact ih later
    · cases taken
    · rcases List.mem_cons.mp taken with rfl | later
      · omega
      · exact ih later

theorem deep_of_mem_downRun (taken : line ∈ downRun minIndent options counter lines) :
    minIndent ≤ line.2 := by
  induction lines generalizing counter with
  | nil => cases taken
  | cons first rest ih =>
    rw [downRun] at taken
    split_ifs at taken with shallow
    · cases taken
    · cases taken
    · rcases List.mem_cons.mp taken with rfl | later
      · omega
      · exact ih later
    · rcases List.mem_cons.mp taken with rfl | later
      · omega
      · exact ih later

theorem upRun_counted (some : 0 < counter) (taken : line ∈ upRun minIndent options counter lines)
    (there : atMinimum minIndent options line) : line.1.isComment := by
  induction lines generalizing counter with
  | nil => cases taken
  | cons first rest ih =>
    rw [upRun] at taken
    split_ifs at taken with shallow counted allowed
    · cases taken
    · rcases List.mem_cons.mp taken with rfl | later
      · have positive : (counter == 0) = false := beq_false_of_ne (by omega)
        rw [positive, Bool.or_false, Bool.and_eq_true] at allowed
        exact allowed.2
      · exact ih (by omega) later
    · cases taken
    · rcases List.mem_cons.mp taken with rfl | later
      · exact absurd there counted
      · exact ih some later

theorem upRun_single (lines : List MeasuredLine) :
    (upRun minIndent options 0 lines).Pairwise fun first second =>
      atMinimum minIndent options first → atMinimum minIndent options second →
        second.1.isComment := by
  induction lines with
  | nil => exact .nil
  | cons line rest ih =>
    rw [upRun]
    split_ifs with shallow counted
    · exact .nil
    · refine .cons (fun other taken _ there => upRun_counted (by omega) taken there) ?_
      apply List.pairwise_of_forall_mem_list
      exact fun first _ second taken _ there => upRun_counted (by omega) taken there
    · exact .nil
    · exact .cons (fun other _ here => absurd here counted) ih

theorem downRun_counted (some : 0 < counter)
    (taken : line ∈ downRun minIndent options counter lines) :
    ¬atMinimum minIndent options line := by
  induction lines generalizing counter with
  | nil => cases taken
  | cons first rest ih =>
    rw [downRun] at taken
    split_ifs at taken with shallow counted
    · cases taken
    · cases taken
    · rcases List.mem_cons.mp taken with rfl | later
      · exact counted
      · exact ih some later

theorem downRun_single (lines : List MeasuredLine) :
    (downRun minIndent options 0 lines).Pairwise fun first second =>
      ¬(atMinimum minIndent options first ∧ atMinimum minIndent options second) := by
  induction lines with
  | nil => exact .nil
  | cons line rest ih =>
    rw [downRun]
    split_ifs with shallow counted
    · exact .nil
    · omega
    · refine .cons (fun other taken both => downRun_counted (Nat.zero_lt_succ 0) taken both.2) ?_
      apply List.pairwise_of_forall_mem_list
      exact fun first taken second _ both => downRun_counted (Nat.zero_lt_succ 0) taken both.1
    · exact .cons (fun other _ both => counted both.1) ih

end Runs

def lineAt (content : Bytes) (index : Nat) : Option MeasuredLine :=
  (measured (collectFileLines content) (indents content))[index]?

/-- `count` lines of the file from the line at `start` on, as a block around the anchor. -/
structure AnchoredBlock (content : Bytes) (offset limit : Nat) (options : IndentationArgs)
    (start count : Nat) : Prop where
  inside : start + count ≤ (splitLines content).length
  bounded : count ≤ max 1 (finalLimit content limit options)
  /-- The anchor is shown, unless it is blank. -/
  anchored : (start ≤ anchorLine offset options - 1 ∧ anchorLine offset options - 1 < start + count) ∨
    ∃ line, lineAt content (anchorLine offset options - 1) = some line ∧ line.1.isBlank
  deep : ∀ index line, start ≤ index → index < start + count →
    index ≠ anchorLine offset options - 1 → lineAt content index = some line →
      minimumIndent content offset options ≤ line.2
  /-- Below the anchor one line at the minimum is shown at most. -/
  singleBelow : options.includeSiblings = false → ∀ first second line other,
    anchorLine offset options - 1 < first → first < second → second < start + count →
      lineAt content first = some line → lineAt content second = some other →
        ¬(line.2 = minimumIndent content offset options ∧
          other.2 = minimumIndent content offset options)
  /-- Of two lines at the minimum above the anchor the one further away is a comment. -/
  singleAbove : options.includeSiblings = false → ∀ first second line other,
    start ≤ first → first < second → second < anchorLine offset options - 1 →
      lineAt content first = some line → lineAt content second = some other →
        line.2 = minimumIndent content offset options →
          other.2 = minimumIndent content offset options → line.1.isComment

section Segments

variable {content : Bytes} {offset limit : Nat} {options : IndentationArgs}

structure Segments (content : Bytes) (offset limit : Nat) (options : IndentationArgs)
    (before above : List MeasuredLine) (anchor : MeasuredLine) (below after : List MeasuredLine) :
    Prop where
  whole : measured (collectFileLines content) (indents content) =
    before ++ (above ++ anchor :: below) ++ after
  place : before.length + above.length = anchorLine offset options - 1
  bounded : above.length + 1 + below.length ≤ max 1 (finalLimit content limit options)
  deep : ∀ line ∈ above ++ below, minimumIndent content offset options ≤ line.2
  singleBelow : below.Pairwise fun first second =>
    ¬(atMinimum (minimumIndent content offset options) options first ∧
      atMinimum (minimumIndent content offset options) options second)
  singleAbove : above.Pairwise fun second first =>
    atMinimum (minimumIndent content offset options) options first →
      atMinimum (minimumIndent content offset options) options second → second.1.isComment

variable (content offset limit options) in
def takenAbove : List MeasuredLine :=
  ((linesAbove content offset options).take (firstShare (finalLimit content limit options - 1)
    (linesAbove content offset options).length (linesBelow content offset options).length)).reverse

variable (content offset limit options) in
def takenBelow : List MeasuredLine :=
  (linesBelow content offset options).take (secondShare (finalLimit content limit options - 1)
    (linesAbove content offset options).length (linesBelow content offset options).length)

variable (limit) in
theorem grown_segments (positive : anchorLine offset options ≠ 0)
    (inside : anchorLine offset options ≤ (splitLines content).length) :
    ∃ before anchor after,
      Segments content offset limit options before (takenAbove content offset limit options) anchor
          (takenBelow content offset limit options) after ∧
        grownBlock content offset limit options =
          (takenAbove content offset limit options ++
            anchor :: takenBelow content offset limit options).map Prod.fst := by
  have same : (indents content).length = (collectFileLines content).length :=
    length_effectiveFrom 0 _
  have present : anchorLine offset options - 1 < (collectFileLines content).length := by
    rw [length_collectFileLines]
    omega
  have measuredPresent := same ▸ present
  have next : anchorLine offset options - 1 + 1 = anchorLine offset options := by omega
  obtain ⟨before, upper⟩ : takenAbove content offset limit options <:+
      (measured (collectFileLines content) (indents content)).take
        (anchorLine offset options - 1) := by
    apply List.reverse_prefix.mp
    rw [takenAbove, List.reverse_reverse]
    exact (List.take_prefix _ _).trans (upRun_isPart 0 _)
  obtain ⟨after, lower⟩ : takenBelow content offset limit options <+:
      (measured (collectFileLines content) (indents content)).drop (anchorLine offset options) :=
    (List.take_prefix _ _).trans (downRun_isPart 0 _)
  have cut := List.take_append_drop (anchorLine offset options - 1)
    (measured (collectFileLines content) (indents content))
  rw [lines_below same present, next, ← upper, ← lower] at cut
  refine ⟨before, ((collectFileLines content)[anchorLine offset options - 1],
    (indents content)[anchorLine offset options - 1]), after, ⟨?_, ?_, ?_, ?_, ?_, ?_⟩, ?_⟩
  · rw [← cut]
    simp only [List.append_assoc, List.cons_append]
  · have lengths := congrArg List.length upper
    simp only [List.length_append, List.length_take, measured, List.length_zip, same] at lengths
    omega
  · have shares := shares_le (finalLimit content limit options - 1)
      (linesAbove content offset options).length (linesBelow content offset options).length
    simp only [takenAbove, takenBelow, List.length_reverse, List.length_take]
    omega
  · intro line among
    rcases List.mem_append.mp among with taken | taken
    · exact deep_of_mem_upRun (List.mem_of_mem_take (List.mem_reverse.mp taken))
    · exact deep_of_mem_downRun (List.mem_of_mem_take taken)
  · exact (downRun_single _).take
  · exact List.pairwise_reverse.mpr (upRun_single _).take
  · simp only [grownBlock, grown, List.getElem?_eq_getElem present, Option.toList_some,
      List.map_append, List.map_cons, List.map_reverse, List.append_assoc, List.singleton_append,
      takenAbove, takenBelow]

def isEmptyLine (line : LineRecord) : Bool := trim line.raw == ""

theorem trimEmptyLines_split (out : List LineRecord) :
    ∃ front back, out = front ++ trimEmptyLines out ++ back ∧
      ∀ line ∈ front ++ back, isEmptyLine line := by
  refine ⟨out.takeWhile isEmptyLine, (out.dropWhile isEmptyLine).rtakeWhile isEmptyLine, ?_, ?_⟩
  · have cut := List.takeWhile_append_dropWhile (p := isEmptyLine) (l := out)
    rw [trimEmptyLines, List.append_assoc]
    change out = _ ++ ((out.dropWhile isEmptyLine).rdropWhile isEmptyLine ++ _)
    rw [List.rdropWhile_append_rtakeWhile, cut]
  · intro line among
    rcases List.mem_append.mp among with first | last
    · exact List.mem_takeWhile_imp first
    · exact List.mem_rtakeWhile_imp last

theorem isBlank_of_empty {line : LineRecord} (empty : isEmptyLine line) : line.isBlank := by
  have none : (trimStart (trimStart line.raw.toList).reverse).reverse = [] := by
    have chars := congrArg String.toList (beq_iff_eq.mp empty)
    simpa [trim, trimChars] using chars
  rw [List.reverse_eq_nil_iff, trimStart, List.dropWhile_eq_nil_iff] at none
  rw [LineRecord.isBlank, List.isEmpty_iff]
  by_contra filled
  have black := List.head_dropWhile_not isWhitespace filled
  have white := none _ (List.mem_reverse.mpr (List.head_mem filled))
  cases white.symm.trans black

theorem showRecord_collected (content : Bytes) :
    (collectFileLines content).map showRecord = numberedLines content := by
  simp [collectFileLines, numberedLines, showRecord, lineRecord, Function.comp_def]

theorem measured_records (content : Bytes) :
    (measured (collectFileLines content) (indents content)).map Prod.fst =
      collectFileLines content := by
  apply List.map_fst_zip
  rw [indents, computeEffectiveIndents, length_effectiveFrom]

variable {before above below after : List MeasuredLine} {anchor : MeasuredLine}

theorem Segments.shown
    (segments : Segments content offset limit options before above anchor below after)
    {front shown back : List LineRecord}
    (block : (above ++ anchor :: below).map Prod.fst = front ++ shown ++ back) :
    shown.map showRecord =
      ((numberedLines content).drop (before.length + front.length)).take shown.length := by
  have whole := congrArg (List.map Prod.fst) segments.whole
  rw [measured_records, List.map_append, List.map_append, block] at whole
  rw [← showRecord_collected, whole]
  have parts : before.map Prod.fst ++ (front ++ shown ++ back) ++ after.map Prod.fst =
      (before.map Prod.fst ++ front) ++ (shown ++ (back ++ after.map Prod.fst)) := by
    simp only [List.append_assoc]
  rw [parts, List.map_append, List.drop_left' (by simp), List.map_append, List.take_left' (by simp)]

theorem Segments.lineAt_above
    (segments : Segments content offset limit options before above anchor below after) {index : Nat}
    (from_ : before.length ≤ index) (upTo : index < anchorLine offset options - 1) :
    lineAt content index = above[index - before.length]? := by
  have place := segments.place
  rw [lineAt, segments.whole, List.append_assoc, List.getElem?_append_right from_,
    List.append_assoc, List.getElem?_append_left (by omega)]

theorem Segments.lineAt_below
    (segments : Segments content offset limit options before above anchor below after) {index : Nat}
    (from_ : anchorLine offset options - 1 < index)
    (upTo : index < before.length + (above ++ anchor :: below).length) :
    lineAt content index = below[index - (anchorLine offset options - 1) - 1]? := by
  have place := segments.place
  simp only [List.length_append, List.length_cons] at upTo
  rw [lineAt, segments.whole, List.append_assoc, List.getElem?_append_right (by omega),
    List.append_assoc, List.getElem?_append_right (by omega), List.cons_append,
    List.getElem?_cons, if_neg (by omega), List.getElem?_append_left (by omega)]
  congr 1
  omega

theorem Segments.lineAt_anchor
    (segments : Segments content offset limit options before above anchor below after) :
    lineAt content (anchorLine offset options - 1) = some anchor := by
  have place := segments.place
  rw [lineAt, segments.whole, List.append_assoc, List.getElem?_append_right (by omega),
    List.append_assoc, List.getElem?_append_right (by omega), List.cons_append,
    List.getElem?_cons, if_pos (by omega)]

theorem pairwise_at {α : Type} {R : α → α → Prop} {values : List α} (pairwise : values.Pairwise R)
    {first second : Nat} (order : first < second) {value other : α}
    (here : values[first]? = some value) (there : values[second]? = some other) : R value other := by
  obtain ⟨firstInside, rfl⟩ := List.getElem?_eq_some_iff.mp here
  obtain ⟨secondInside, rfl⟩ := List.getElem?_eq_some_iff.mp there
  exact List.pairwise_iff_getElem.mp pairwise first second firstInside secondInside order

theorem atMinimum_of_alone {minIndent : Nat} {line : MeasuredLine}
    (alone : options.includeSiblings = false) (least : line.2 = minIndent) :
    atMinimum minIndent options line := by
  simp [atMinimum, alone, least]

theorem Segments.block
    (segments : Segments content offset limit options before above anchor below after)
    {front shown back : List LineRecord}
    (block : (above ++ anchor :: below).map Prod.fst = front ++ shown ++ back)
    (blank : ∀ line ∈ front ++ back, isEmptyLine line) :
    AnchoredBlock content offset limit options (before.length + front.length) shown.length := by
  have place := segments.place
  have sizes := congrArg List.length block
  simp only [List.length_map, List.length_append, List.length_cons] at sizes
  have total := congrArg List.length segments.whole
  simp only [measured, indents, computeEffectiveIndents, List.length_zip, length_effectiveFrom,
    length_collectFileLines, List.length_append, List.length_cons] at total
  have bounded := segments.bounded
  refine ⟨by omega, by omega, ?_, ?_, ?_, ?_⟩
  · have middle : ((above ++ anchor :: below).map Prod.fst)[above.length]? = some anchor.1 := by
      simp
    rw [block] at middle
    by_cases early : above.length < front.length
    · rw [List.append_assoc, List.getElem?_append_left early] at middle
      exact .inr ⟨anchor, segments.lineAt_anchor, isBlank_of_empty
        (blank _ (List.mem_append_left _ (List.mem_of_getElem? middle)))⟩
    · by_cases late : front.length + shown.length ≤ above.length
      · rw [List.getElem?_append_right (by rw [List.length_append]; exact late)] at middle
        exact .inr ⟨anchor, segments.lineAt_anchor, isBlank_of_empty
          (blank _ (List.mem_append_right _ (List.mem_of_getElem? middle)))⟩
      · exact .inl (by omega)
  · intro index line first last other here
    rcases Nat.lt_or_gt_of_ne other with higher | lower
    · rw [segments.lineAt_above (by omega) higher] at here
      exact segments.deep line (List.mem_append_left _ (List.mem_of_getElem? here))
    · rw [segments.lineAt_below lower (by simp only [List.length_append, List.length_cons]; omega)]
        at here
      exact segments.deep line (List.mem_append_right _ (List.mem_of_getElem? here))
  · intro alone first second line other from_ order upTo here there both
    rw [segments.lineAt_below from_ (by simp only [List.length_append, List.length_cons]; omega)]
      at here
    rw [segments.lineAt_below (by omega)
      (by simp only [List.length_append, List.length_cons]; omega)] at there
    exact pairwise_at segments.singleBelow (by omega) here there
      ⟨atMinimum_of_alone alone both.1, atMinimum_of_alone alone both.2⟩
  · intro alone first second line other from_ order upTo here there least same
    rw [segments.lineAt_above (by omega) (by omega)] at here
    rw [segments.lineAt_above (by omega) upTo] at there
    exact pairwise_at segments.singleAbove (by omega) here there
      (atMinimum_of_alone alone same) (atMinimum_of_alone alone least)

end Segments

def defaultIndentation : IndentationArgs :=
  { anchorLine := none
    maxLevels := 0
    includeSiblings := false
    includeHeader := false
    maxLines := none }

def handle (turns : Nat) (content : Bytes) (args : ReadFileArgs) :
    Except ReadFault (Option (Except FunctionCallError String)) :=
  let answer (collected : Except String (List String)) : Except FunctionCallError String :=
    match collected with
    | .ok lines => .ok ("\n".intercalate lines)
    | .error message => .error (.internal message)
  if args.offset = 0 then
    .ok (some (.error (.respondToModel "offset must be a 1-indexed line number")))
  else if args.limit = 0 then
    .ok (some (.error (.respondToModel "limit must be greater than zero")))
  else
    match args.mode with
    | .slice => .ok (some (answer (readSlice content args.offset args.limit)))
    | .indentation =>
        (readIndentation turns content args.offset args.limit
          (args.indentation.getD defaultIndentation)).map fun collected => collected.map answer

/-- Arguments with which nothing overflows: the anchor is beyond the file, or it is a line of it,
the levels and the limit are small enough, and not too many lines above the anchor that the block
takes are exactly at the minimum. -/
def StaysInRange (content : Bytes) (offset limit : Nat) (options : IndentationArgs) : Prop :=
  ((splitLines content).length = 0 ∨ (splitLines content).length < anchorLine offset options) ∨
    (anchorLine offset options ≠ 0 ∧ options.maxLevels * readTabWidth < 2 ^ 64 ∧
      (finalLimit content limit options = 1 ∨
        limit * 8 < 2 ^ 63 ∧ countAbove content offset limit options < 2 ^ 31))

section Answers

variable {content : Bytes} {offset limit : Nat} {options : IndentationArgs}

theorem answers_in_range {turns : Nat} (enough : limit < turns)
    (inRange : StaysInRange content offset limit options) :
    ∃ outcome, readIndentation turns content offset limit options = .ok (some outcome) := by
  rw [readIndentation_eq content offset limit options enough]
  simp only [StaysInRange] at inRange
  split_ifs with outside zero deep single wide many
  · exact ⟨_, rfl⟩
  · omega
  · omega
  · exact ⟨_, rfl⟩
  · omega
  · omega
  · exact ⟨_, rfl⟩

theorem faults_out_of_range {turns : Nat} (enough : limit < turns)
    (outOfRange : ¬StaysInRange content offset limit options) :
    ∃ fault, readIndentation turns content offset limit options = .error fault := by
  rw [readIndentation_eq content offset limit options enough]
  simp only [StaysInRange] at outOfRange
  split_ifs with outside zero deep single wide many
  · omega
  · exact ⟨_, rfl⟩
  · exact ⟨_, rfl⟩
  · omega
  · exact ⟨_, rfl⟩
  · exact ⟨_, rfl⟩
  · omega

end Answers

section Shape

variable {content : Bytes} {offset limit : Nat} {options : IndentationArgs}

theorem anchor_block (positive : anchorLine offset options ≠ 0)
    (inside : anchorLine offset options ≤ (splitLines content).length) :
    (collectFileLines content)[anchorLine offset options - 1]?.toList.map showRecord =
        ((numberedLines content).drop (anchorLine offset options - 1)).take 1 ∧
      AnchoredBlock content offset limit options (anchorLine offset options - 1) 1 := by
  constructor
  · have present : anchorLine offset options - 1 < (collectFileLines content).length := by
      rw [length_collectFileLines]
      omega
    rw [← showRecord_collected, ← List.map_drop, ← List.map_take,
      List.drop_eq_getElem_cons present, List.getElem?_eq_getElem present]
    rfl
  · refine ⟨by omega, by omega, .inl (by omega), ?_, ?_, ?_⟩
    · intro index line from_ upTo other
      omega
    · intro alone first second line other from_ order upTo
      omega
    · intro alone first second line other from_ order upTo
      omega

theorem shown_is_block {turns : Nat} {shown : List String} (enough : limit < turns)
    (read : readIndentation turns content offset limit options = .ok (some (.ok shown))) :
    ∃ start count, shown = ((numberedLines content).drop start).take count ∧
      AnchoredBlock content offset limit options start count := by
  rw [readIndentation_eq content offset limit options enough] at read
  split_ifs at read with outside zero deep single wide many
  · simp at read
  · have inside : anchorLine offset options ≤ (splitLines content).length := by omega
    obtain rfl := by simpa using read
    exact ⟨_, _, anchor_block zero inside⟩
  · have inside : anchorLine offset options ≤ (splitLines content).length := by omega
    obtain rfl := by simpa using read
    obtain ⟨before, anchor, after, segments, grown⟩ := grown_segments limit zero inside
    obtain ⟨front, back, cut, blank⟩ :=
      trimEmptyLines_split (grownBlock content offset limit options)
    have block := grown.symm.trans cut
    exact ⟨_, _, segments.shown block, segments.block block blank⟩

end Shape

theorem indentation_shows_block (content : Bytes) (offset limit : Nat)
    (options : IndentationArgs) :
    (∀ turns, limit < turns → readIndentation turns content offset limit options ≠ .ok none) ∧
      ∀ turns shown, readIndentation turns content offset limit options = .ok (some (.ok shown)) →
        ∃ start count, shown = ((numberedLines content).drop start).take count ∧
          AnchoredBlock content offset limit options start count := by
  constructor
  · intro turns enough
    rw [readIndentation_eq content offset limit options enough]
    split_ifs <;> simp
  · intro turns shown read
    have enough : limit < max turns (limit + 1) := by omega
    apply shown_is_block enough
    rw [readIndentation_more (Nat.le_max_left turns (limit + 1)) (by rw [read]; simp), read]

theorem indentation_shows_block_of_four :
    (∀ turns, 10 < turns →
      readIndentation turns (utf8 "a\n  b\n\n  c\n") 2 10 ⟨none, 0, true, true, none⟩ ≠ .ok none) ∧
      ∃ start count, ["L1: a", "L2:   b", "L3: ", "L4:   c"] =
          ((numberedLines (utf8 "a\n  b\n\n  c\n")).drop start).take count ∧
        AnchoredBlock (utf8 "a\n  b\n\n  c\n") 2 10 ⟨none, 0, true, true, none⟩ start count :=
  let block := indentation_shows_block (utf8 "a\n  b\n\n  c\n") 2 10 ⟨none, 0, true, true, none⟩
  ⟨block.1, block.2 9 _ (by decide +kernel)⟩

end OpenJax.Tools.ReadFile
