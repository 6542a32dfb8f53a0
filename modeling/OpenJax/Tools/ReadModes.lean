import OpenJax.Tools.ReadBlock

set_option autoImplicit false

namespace OpenJax.Tools.ReadFile

open Shared

section Arguments

variable (content : Bytes) (offset limit : Nat) (options : IndentationArgs)

def anchorLine : Nat := options.anchorLine.getD offset

def finalLimit : Nat :=
  min (min limit (options.maxLines.getD limit)) (splitLines content).length

def indents : List Nat := computeEffectiveIndents (collectFileLines content)

def minimumIndent : Nat :=
  if options.maxLevels = 0 then 0
  else (indents content).getD (anchorLine offset options - 1) 0 - options.maxLevels * readTabWidth

def linesAbove : List MeasuredLine :=
  upRun (minimumIndent content offset options) options 0
    ((measured (collectFileLines content) (indents content)).take
      (anchorLine offset options - 1)).reverse

def linesBelow : List MeasuredLine :=
  downRun (minimumIndent content offset options) options 0
    ((measured (collectFileLines content) (indents content)).drop (anchorLine offset options))

def grownBlock : List LineRecord :=
  grown (finalLimit content limit options - 1) (linesAbove content offset options)
    (linesBelow content offset options)
    ((collectFileLines content)[anchorLine offset options - 1]?).toList

def countAbove : Nat :=
  countTaken (minimumIndent content offset options) options (finalLimit content limit options - 1)
    (linesAbove content offset options) (linesBelow content offset options)

end Arguments

section More

variable {collected : List LineRecord} {effectiveIndents : List Nat} {minIndent limit : Nat}
  {options : IndentationArgs}

theorem expand_more {turns more : Nat} {cursors : Cursors} (fewer : turns ≤ more)
    (ended : expand collected effectiveIndents minIndent limit options turns cursors ≠ .ok none) :
    expand collected effectiveIndents minIndent limit options more cursors =
      expand collected effectiveIndents minIndent limit options turns cursors := by
  induction turns generalizing more cursors with
  | zero => exact absurd rfl ended
  | succ turns ih =>
    obtain ⟨others, rfl⟩ : ∃ others, more = others + 1 := ⟨more - 1, by omega⟩
    simp only [expand] at ended ⊢
    by_cases room : cursors.out.length < limit
    · rw [if_pos room] at ended ⊢
      rw [if_pos room]
      cases upper : takeAbove collected effectiveIndents minIndent options cursors with
      | error fault => rfl
      | ok above =>
        simp only [upper, bind, Except.bind] at ended ⊢
        by_cases full : limit ≤ above.1.out.length
        · rw [if_pos full, if_pos full]
        · rw [if_neg full] at ended ⊢
          rw [if_neg full]
          cases lower : takeBelow collected effectiveIndents minIndent options above.1 with
          | error fault => rfl
          | ok below =>
            simp only [lower] at ended ⊢
            by_cases still : above.2 + below.2 = 0
            · rw [if_pos still, if_pos still]
            · rw [if_neg still] at ended ⊢
              rw [if_neg still]
              exact ih (by omega) ended
    · rw [if_neg room, if_neg room]

end More

theorem minimumIndent_checked (content : Bytes) (offset : Nat) (options : IndentationArgs)
    {anchorIndent : Nat}
    (anchor : (indents content)[anchorLine offset options - 1]? = some anchorIndent) :
    minIndentFor anchorIndent options =
      if 2 ^ 64 ≤ options.maxLevels * readTabWidth then .error .multiplyOverflow
      else .ok (minimumIndent content offset options) := by
  by_cases flat : options.maxLevels = 0
  · simp only [minIndentFor, flat, minimumIndent, if_true, Nat.zero_mul]
    rfl
  · rw [minIndentFor, if_neg flat, checkedMul, minimumIndent, if_neg flat, List.getD_eq_getElem?_getD, anchor]
    by_cases large : 2 ^ 64 ≤ options.maxLevels * readTabWidth
    · rw [if_pos large, if_neg (by omega)]
      rfl
    · rw [if_neg large, if_pos (by omega)]
      rfl

theorem starts_at (content : Bytes) (offset : Nat) (options : IndentationArgs)
    (positive : anchorLine offset options ≠ 0)
    (inside : anchorLine offset options - 1 < (collectFileLines content).length) :
    ({ i := (anchorLine offset options - 1 : Nat) - 1
       j := anchorLine offset options - 1 + 1
       iCounterMinIndent := 0
       jCounterMinIndent := 0
       out := [(collectFileLines content)[anchorLine offset options - 1]] } : Cursors).At
      (collectFileLines content) (indents content) (minimumIndent content offset options) options 0
      (linesAbove content offset options) (linesBelow content offset options)
      [(collectFileLines content)[anchorLine offset options - 1]] := by
  have upper : ((anchorLine offset options - 1 : Nat) - 1 + 1 : Int).toNat =
      anchorLine offset options - 1 := by omega
  have lower : anchorLine offset options - 1 + 1 = anchorLine offset options := by omega
  refine ⟨⟨?_, by simp, by simp⟩, rfl, ?_, ?_, rfl⟩
  · dsimp only
    omega
  · simp only [Cursors.above, upper, linesAbove]
  · simp only [Cursors.below, lower, linesBelow]

theorem readIndentation_eq {turns : Nat} (content : Bytes) (offset limit : Nat)
    (options : IndentationArgs) (enough : limit < turns) :
    readIndentation turns content offset limit options =
      if (splitLines content).length = 0 ∨
          (splitLines content).length < anchorLine offset options then
        .ok (some (.error "anchor_line exceeds file length"))
      else if anchorLine offset options = 0 then .error .subtractUnderflow
      else if 2 ^ 64 ≤ options.maxLevels * readTabWidth then .error .multiplyOverflow
      else if finalLimit content limit options = 1 then
        .ok (some (.ok
          ((collectFileLines content)[anchorLine offset options - 1]?.toList.map showRecord)))
      else if 2 ^ 63 ≤ limit * 8 then .error .capacityOverflow
      else if 2 ^ 31 ≤ countAbove content offset limit options then .error .addOverflow
      else
        .ok (some (.ok ((trimEmptyLines (grownBlock content offset limit options)).map
          showRecord))) := by
  have count := length_collectFileLines content
  have same : (indents content).length = (collectFileLines content).length :=
    length_effectiveFrom 0 _
  have refuses : ((collectFileLines content).isEmpty ||
      decide (anchorLine offset options > (splitLines content).length)) = true ↔
      (splitLines content).length = 0 ∨
        (splitLines content).length < anchorLine offset options := by
    rw [Bool.or_eq_true, List.isEmpty_iff, ← List.length_eq_zero_iff, decide_eq_true_eq, count]
  have anchorName : options.anchorLine.getD offset = anchorLine offset options := rfl
  have indentsName : computeEffectiveIndents (collectFileLines content) = indents content := rfl
  have limitName : min (min limit (options.maxLines.getD limit)) (splitLines content).length =
      finalLimit content limit options := rfl
  simp only [readIndentation, count, anchorName, indentsName, limitName, refuses]
  by_cases outside : (splitLines content).length = 0 ∨
      (splitLines content).length < anchorLine offset options
  · rw [if_pos outside, if_pos outside]
    rfl
  · rw [if_neg outside, if_neg outside]
    by_cases zero : anchorLine offset options = 0
    · rw [if_pos zero, checkedSub, if_neg (by omega)]
      rfl
    · have inside : anchorLine offset options - 1 < (collectFileLines content).length := by
        omega
      have measuredInside := same ▸ inside
      rw [if_neg zero, checkedSub, if_pos (by omega)]
      simp only [bind, Except.bind, elementAt_of_lt inside, elementAt_of_lt measuredInside]
      have anchorIndent := minimumIndent_checked content offset options
        (List.getElem?_eq_getElem measuredInside)
      rw [anchorIndent]
      have anchor : (collectFileLines content)[anchorLine offset options - 1]?.toList =
          [(collectFileLines content)[anchorLine offset options - 1]] := by
        rw [List.getElem?_eq_getElem inside]
        rfl
      by_cases deep : 2 ^ 64 ≤ options.maxLevels * readTabWidth
      · rw [if_pos deep, if_pos deep]
      · rw [if_neg deep, if_neg deep]
        by_cases single : finalLimit content limit options = 1
        · simp only [if_pos single, anchor]
          rfl
        · simp only [if_neg single, withCapacity]
          by_cases wide : 2 ^ 63 ≤ limit * 8
          · rw [if_pos wide, if_neg (by omega)]
          · rw [if_neg wide, if_pos (by omega)]
            have bound : finalLimit content limit options ≤ limit := by
              simp only [finalLimit]
              omega
            have fewer : finalLimit content limit options -
                [(collectFileLines content)[anchorLine offset options - 1]].length < turns := by
              simp only [List.length_singleton]
              omega
            simp only [List.nil_append]
            rw [expand_correct same (starts_at content offset options zero inside) fewer]
            simp only [Nat.zero_add, List.length_singleton, grownBlock, anchor]
            rw [← countAbove]
            by_cases many : 2 ^ 31 ≤ countAbove content offset limit options
            · rw [if_pos many, if_neg (Nat.not_lt.mpr many)]
            · rw [if_neg many, if_pos (Nat.not_le.mp many)]
              rfl

theorem readIndentation_more {turns more : Nat} {content : Bytes} {offset limit : Nat}
    {options : IndentationArgs} (fewer : turns ≤ more)
    (ended : readIndentation turns content offset limit options ≠ .ok none) :
    readIndentation more content offset limit options =
      readIndentation turns content offset limit options := by
  simp only [readIndentation, bind, Except.bind] at ended ⊢
  split at ended
  next refused => rw [if_pos refused, if_pos refused]
  next present =>
    rw [if_neg present, if_neg present]
    generalize checkedSub (options.anchorLine.getD offset) 1 = subtracted at ended ⊢
    cases subtracted with
    | error fault => rfl
    | ok anchorIndex =>
      dsimp only at ended ⊢
      generalize elementAt (computeEffectiveIndents (collectFileLines content)) anchorIndex =
        indexed at ended ⊢
      cases indexed with
      | error fault => rfl
      | ok anchorIndent =>
        dsimp only at ended ⊢
        generalize minIndentFor anchorIndent options = multiplied at ended ⊢
        cases multiplied with
        | error fault => rfl
        | ok minIndent =>
          dsimp only at ended ⊢
          split at ended
          next single => rw [if_pos single, if_pos single]
          next several =>
            rw [if_neg several, if_neg several]
            generalize withCapacity limit = allocated at ended ⊢
            cases allocated with
            | error fault => rfl
            | ok out =>
              dsimp only at ended ⊢
              generalize elementAt (collectFileLines content) anchorIndex = found at ended ⊢
              cases found with
              | error fault => rfl
              | ok anchor =>
                dsimp only at ended ⊢
                rw [expand_more fewer]
                intro running
                rw [running] at ended
                exact ended rfl

end OpenJax.Tools.ReadFile
