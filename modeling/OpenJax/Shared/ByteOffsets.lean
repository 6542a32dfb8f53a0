import Mathlib.Algebra.GroupWithZero.Nat
import Mathlib.Data.List.Basic
import Mathlib.Tactic.Common

set_option autoImplicit false

/-! Places in a text as numbers of bytes, which may lie inside a character. -/

namespace OpenJax.Shared

def byteSize (text : List Char) : Nat := (text.map Char.utf8Size).sum

def isCharBoundary : List Char → Nat → Bool
  | _, 0 => true
  | [], _ + 1 => false
  | c :: rest, offset + 1 =>
      c.utf8Size ≤ offset + 1 && isCharBoundary rest (offset + 1 - c.utf8Size)

/-- Nothing where the place is inside a character or behind the text: there a slice panics. -/
def splitAtByte : List Char → Nat → Option (List Char × List Char)
  | text, 0 => some ([], text)
  | [], _ + 1 => none
  | c :: rest, offset + 1 =>
      if c.utf8Size ≤ offset + 1 then
        (splitAtByte rest (offset + 1 - c.utf8Size)).map fun parts => (c :: parts.1, parts.2)
      else none

def floorBoundary (text : List Char) : Nat → Nat
  | 0 => 0
  | offset + 1 =>
      if isCharBoundary text (offset + 1) then offset + 1 else floorBoundary text offset

def ceilBoundary (text : List Char) : Nat → Nat → Nat
  | 0, offset => offset
  | steps + 1, offset =>
      if isCharBoundary text offset then offset else ceilBoundary text steps (offset + 1)

section

variable {front back text : List Char} {c : Char}

@[simp] theorem byteSize_nil : byteSize [] = 0 := rfl

@[simp] theorem byteSize_cons (c : Char) (text : List Char) :
    byteSize (c :: text) = c.utf8Size + byteSize text := List.sum_cons

@[simp] theorem byteSize_append (front back : List Char) :
    byteSize (front ++ back) = byteSize front + byteSize back := by
  rw [byteSize, List.map_append, List.sum_append]
  rfl

theorem byteSize_eq_zero (text : List Char) : byteSize text = 0 ↔ text = [] := by
  cases text with
  | nil => simp
  | cons c rest =>
    have positive := c.utf8Size_pos
    simp only [byteSize_cons, List.cons_ne_nil, iff_false]
    omega

theorem splitAtByte_zero (text : List Char) : splitAtByte text 0 = some ([], text) := by
  cases text <;> rfl

theorem isCharBoundary_zero (text : List Char) : isCharBoundary text 0 := by
  cases text <;> rfl

theorem byteSize_next (c : Char) (rest : List Char) : ∃ offset, byteSize (c :: rest) = offset + 1 ∧
    offset + 1 - c.utf8Size = byteSize rest ∧ c.utf8Size ≤ offset + 1 := by
  have positive := c.utf8Size_pos
  refine ⟨c.utf8Size - 1 + byteSize rest, ?_, by omega, by omega⟩
  rw [byteSize_cons]
  omega

theorem splitAtByte_front (front back : List Char) :
    splitAtByte (front ++ back) (byteSize front) = some (front, back) := by
  induction front with
  | nil => exact splitAtByte_zero back
  | cons c rest ih =>
    obtain ⟨offset, same, later, fits⟩ := byteSize_next c rest
    rw [same, List.cons_append, splitAtByte, if_pos fits, later, ih]
    rfl

theorem isCharBoundary_inside {inside : Nat} (some : 0 < inside) (less : inside < c.utf8Size) :
    isCharBoundary (front ++ c :: back) (byteSize front + inside) = false := by
  induction front with
  | nil =>
    obtain ⟨offset, rfl⟩ := Nat.exists_eq_succ_of_ne_zero (show inside ≠ 0 by omega)
    rw [List.nil_append, byteSize_nil, Nat.zero_add, Nat.succ_eq_add_one, isCharBoundary,
      decide_eq_false (by omega), Bool.false_and]
  | cons d rest ih =>
    obtain ⟨offset, same⟩ := Nat.exists_eq_succ_of_ne_zero
      (show byteSize (d :: rest) + inside ≠ 0 by omega)
    have later : offset + 1 - d.utf8Size = byteSize rest + inside := by
      rw [byteSize_cons] at same
      omega
    rw [same, List.cons_append, Nat.succ_eq_add_one, isCharBoundary, later, ih, Bool.and_false]

theorem isCharBoundary_front (front back : List Char) :
    isCharBoundary (front ++ back) (byteSize front) := by
  induction front with
  | nil => exact isCharBoundary_zero back
  | cons c rest ih =>
    obtain ⟨offset, same, later, fits⟩ := byteSize_next c rest
    rw [same, List.cons_append, isCharBoundary, later, ih, Bool.and_true, decide_eq_true fits]

theorem floorBoundary_boundary {offset : Nat} (boundary : isCharBoundary text offset) :
    floorBoundary text offset = offset := by
  cases offset with
  | zero => rfl
  | succ offset => rw [floorBoundary, if_pos boundary]

theorem floorBoundary_inside {inside : Nat} (less : inside < c.utf8Size) :
    floorBoundary (front ++ c :: back) (byteSize front + inside) = byteSize front := by
  induction inside with
  | zero => exact floorBoundary_boundary (isCharBoundary_front front (c :: back))
  | succ inside ih =>
    have no : isCharBoundary (front ++ c :: back) (byteSize front + inside + 1) = false :=
      isCharBoundary_inside (by omega) less
    rw [← Nat.add_assoc, floorBoundary, if_neg (by simp [no]), ih (by omega)]

theorem ceilBoundary_inside {inside steps : Nat} (some : 0 < inside) (most : inside ≤ c.utf8Size)
    (enough : c.utf8Size ≤ inside + steps) :
    ceilBoundary (front ++ c :: back) steps (byteSize front + inside) =
      byteSize (front ++ [c]) := by
  induction steps generalizing inside with
  | zero =>
    rw [ceilBoundary]
    simp only [byteSize_append, byteSize_cons, byteSize_nil]
    omega
  | succ steps ih =>
    rw [ceilBoundary]
    by_cases ends : inside = c.utf8Size
    · have boundary := isCharBoundary_front (front ++ [c]) back
      simp only [List.append_assoc, List.singleton_append, byteSize_append, byteSize_cons,
        byteSize_nil, Nat.add_zero] at boundary ⊢
      rw [ends, if_pos boundary]
    · rw [isCharBoundary_inside some (by omega), if_neg (by simp), Nat.add_assoc]
      exact ih (by omega) (by omega) (by omega)

end

end OpenJax.Shared
