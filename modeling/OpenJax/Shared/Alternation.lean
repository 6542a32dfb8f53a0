import Mathlib.Init

set_option autoImplicit false

/-! Two sides that give one element each in turn, the first before the second, until a budget is
used up or both sides are. -/

namespace OpenJax.Shared

def firstShare (budget first second : Nat) : Nat :=
  min first (max ((budget + 1) / 2) (budget - second))

def secondShare (budget first second : Nat) : Nat :=
  min second (budget - firstShare budget first second)

variable (budget first second : Nat)

theorem shares_both :
    firstShare (budget + 2) (first + 1) (second + 1) = firstShare budget first second + 1 ∧
      secondShare (budget + 2) (first + 1) (second + 1) = secondShare budget first second + 1 := by
  simp only [firstShare, secondShare]
  omega

theorem shares_last : firstShare 1 (first + 1) second = 1 ∧ secondShare 1 (first + 1) second = 0 := by
  simp only [firstShare, secondShare]
  omega

theorem shares_first :
    firstShare (budget + 1) (first + 1) 0 = firstShare budget first 0 + 1 ∧
      secondShare (budget + 1) (first + 1) 0 = secondShare budget first 0 := by
  simp only [firstShare, secondShare]
  omega

theorem shares_second :
    firstShare (budget + 1) 0 (second + 1) = firstShare budget 0 second ∧
      secondShare (budget + 1) 0 (second + 1) = secondShare budget 0 second + 1 := by
  simp only [firstShare, secondShare]
  omega

theorem shares_spent : firstShare 0 first second = 0 ∧ secondShare 0 first second = 0 := by
  simp only [firstShare, secondShare]
  omega

theorem shares_le :
    firstShare budget first second ≤ first ∧ secondShare budget first second ≤ second ∧
      firstShare budget first second + secondShare budget first second ≤ budget := by
  simp only [firstShare, secondShare]
  omega

end OpenJax.Shared
