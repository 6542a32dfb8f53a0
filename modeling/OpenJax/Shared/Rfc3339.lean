import Mathlib.Data.Prod.Lex
import Mathlib.Tactic.Common
import Mathlib.Data.List.DropRight
import Mathlib.Data.String.Basic

set_option autoImplicit false

/-! Dates of the proleptic Gregorian calendar, counted from the first day of the year 0. -/

namespace OpenJax.Shared.Calendar

section Splitting

variable {length : Nat → Nat} {fuel index days other : Nat} {place next : Nat × Nat}

/-- The period that a day falls into, and its number within it, where the periods from `index` on
have these lengths and at most `fuel` of them are tried. -/
def split (length : Nat → Nat) : Nat → Nat → Nat → Option (Nat × Nat)
  | 0, _, _ => none
  | fuel + 1, index, days =>
      if days < length index then some (index, days)
      else split length fuel (index + 1) (days - length index)

theorem split_bounds (found : split length fuel index days = some place) :
    index ≤ place.1 ∧ place.1 < index + fuel ∧ place.2 < length place.1 := by
  induction fuel generalizing index days with
  | zero => cases found
  | succ fuel ih =>
    rw [split] at found
    split at found
    · cases found
      exact ⟨Nat.le_refl _, by omega, by assumption⟩
    · have later := ih found
      exact ⟨by omega, by omega, later.2.2⟩

theorem split_lt (order : days < other) (found : split length fuel index days = some place)
    (after : split length fuel index other = some next) :
    place.1 < next.1 ∨ place.1 = next.1 ∧ place.2 < next.2 := by
  induction fuel generalizing index days other with
  | zero => cases found
  | succ fuel ih =>
    rw [split] at found after
    split at found
    · cases found
      split at after
      · cases after
        exact .inr ⟨rfl, order⟩
      · have later := (split_bounds after).1
        exact .inl (by dsimp only; omega)
    · rename_i passed
      split at after
      · omega
      · exact ih (by omega) found after

theorem split_total {first : Nat → Nat}
    (step : ∀ index, first (index + 1) = first index + length index)
    (inside : first index + days < first (index + fuel)) :
    ∃ place, split length fuel index days = some place ∧
      first place.1 + place.2 = first index + days := by
  induction fuel generalizing index days with
  | zero => exact absurd inside (Nat.not_lt.mpr (Nat.le_add_right _ _))
  | succ fuel ih =>
    have here := step index
    rw [split]
    split
    · exact ⟨(index, days), rfl, rfl⟩
    next passed =>
      have rest : first (index + 1) + (days - length index) = first index + days := by omega
      rw [show index + (fuel + 1) = index + 1 + fuel by omega, ← rest] at inside
      obtain ⟨place, found, total⟩ := ih inside
      exact ⟨place, found, total.trans rest⟩

end Splitting

def isLeap (year : Nat) : Bool :=
  decide (year % 4 = 0) && (decide (year % 100 ≠ 0) || decide (year % 400 = 0))

def yearLength (year : Nat) : Nat := if isLeap year then 366 else 365

def monthLength (leap : Bool) (month : Nat) : Nat :=
  [31, if leap then 29 else 28, 31, 30, 31, 30, 31, 31, 30, 31, 30, 31].getD month 0

structure Date where
  year : Nat
  month : Nat
  day : Nat
  deriving DecidableEq

def date (days : Nat) : Option Date := do
  let (year, dayOfYear) ← split yearLength 10000 0 days
  let (month, day) ← split (monthLength (isLeap year)) 12 0 dayOfYear
  pure ⟨year, month + 1, day + 1⟩

structure Date.Fits (date : Date) : Prop where
  year : date.year < 10000
  month : date.month < 100
  day : date.day < 100

theorem monthLength_le (leap : Bool) (month : Nat) : monthLength leap month ≤ 31 := by
  have listed : ∀ leap, ∀ month < 12, monthLength leap month ≤ 31 := by decide
  by_cases inside : month < 12
  · exact listed leap month inside
  · rw [monthLength, List.getD_eq_getElem?_getD, List.getElem?_eq_none (Nat.le_of_not_lt inside)]
    exact Nat.zero_le 31

theorem date_some {days : Nat} {found : Date} (dated : date days = some found) :
    ∃ year dayOfYear month day, split yearLength 10000 0 days = some (year, dayOfYear) ∧
      split (monthLength (isLeap year)) 12 0 dayOfYear = some (month, day) ∧
      found = ⟨year, month + 1, day + 1⟩ := by
  obtain ⟨⟨year, dayOfYear⟩, inYear, rest⟩ := Option.bind_eq_some_iff.mp dated
  obtain ⟨⟨month, day⟩, inMonth, rest⟩ := Option.bind_eq_some_iff.mp rest
  exact ⟨year, dayOfYear, month, day, inYear, inMonth, (Option.some.inj rest).symm⟩

theorem date_fits {days : Nat} {found : Date} (dated : date days = some found) : found.Fits := by
  obtain ⟨year, dayOfYear, month, day, inYear, inMonth, rfl⟩ := date_some dated
  have years := split_bounds inYear
  have months := split_bounds inMonth
  have short := monthLength_le (isLeap year) month
  dsimp only at years months
  exact ⟨by dsimp only; omega, by dsimp only; omega, by dsimp only; omega⟩

def Date.Before (first second : Date) : Prop :=
  first.year < second.year ∨ first.year = second.year ∧
    (first.month < second.month ∨ first.month = second.month ∧ first.day < second.day)

theorem date_before {days other : Nat} (order : days < other) {first second : Date}
    (dated : date days = some first) (after : date other = some second) : first.Before second := by
  obtain ⟨year, dayOfYear, month, day, inYear, inMonth, rfl⟩ := date_some dated
  obtain ⟨nextYear, nextDayOfYear, nextMonth, nextDay, inNextYear, inNextMonth, rfl⟩ :=
    date_some after
  rcases split_lt order inYear inNextYear with earlier | ⟨same, earlier⟩
  · exact .inl earlier
  · obtain rfl : year = nextYear := same
    rcases split_lt earlier inMonth inNextMonth with months | ⟨sameMonth, days⟩
    · exact .inr ⟨rfl, .inl (Nat.succ_lt_succ months)⟩
    · exact .inr ⟨rfl, .inr ⟨congrArg Nat.succ sameMonth, Nat.succ_lt_succ days⟩⟩

def firstDay (year : Nat) : Nat :=
  365 * year + (year + 3) / 4 - (year + 99) / 100 + (year + 399) / 400

theorem firstDay_succ (year : Nat) : firstDay (year + 1) = firstDay year + yearLength year := by
  have fours : (year + 1 + 3) / 4 = (year + 3) / 4 + if year % 4 = 0 then 1 else 0 := by
    split <;> omega
  have centuries : (year + 1 + 99) / 100 = (year + 99) / 100 + if year % 100 = 0 then 1 else 0 := by
    split <;> omega
  have cycles : (year + 1 + 399) / 400 = (year + 399) / 400 + if year % 400 = 0 then 1 else 0 := by
    split <;> omega
  have fewer : (year + 99) / 100 ≤ (year + 3) / 4 := by omega
  have nested : (year % 400 = 0 → year % 100 = 0) ∧ (year % 100 = 0 → year % 4 = 0) := by omega
  rw [firstDay, firstDay, fours, centuries, cycles]
  by_cases four : year % 4 = 0 <;> by_cases century : year % 100 = 0 <;>
    by_cases cycle : year % 400 = 0 <;> simp [yearLength, isLeap, four, century, cycle] <;> omega

theorem date_within {days : Nat} (inside : days < firstDay 10000) :
    ∃ found, date days = some found ∧ firstDay found.year ≤ days ∧
      days < firstDay (found.year + 1) := by
  have start : firstDay 0 = 0 := rfl
  obtain ⟨⟨year, dayOfYear⟩, inYear, total⟩ : ∃ place, split yearLength 10000 0 days = some place ∧
      firstDay place.1 + place.2 = firstDay 0 + days :=
    split_total firstDay_succ (by rwa [start, Nat.zero_add, Nat.zero_add])
  have short := (split_bounds inYear).2.2
  let monthStart (month : Nat) := ((List.range month).map (monthLength (isLeap year))).sum
  have within : monthStart 0 + dayOfYear < monthStart (0 + 12) := by
    have whole : monthStart (0 + 12) = yearLength year := by
      dsimp only [monthStart, yearLength]
      cases isLeap year <;> rfl
    rw [whole]
    exact (Nat.zero_add dayOfYear).symm ▸ short
  have monthStart_succ (month : Nat) :
      monthStart (month + 1) = monthStart month + monthLength (isLeap year) month := by
    simp [monthStart, List.range_succ]
  obtain ⟨⟨month, day⟩, inMonth, -⟩ := split_total monthStart_succ within
  refine ⟨⟨year, month + 1, day + 1⟩, ?_, ?_⟩
  · exact Option.bind_eq_some_iff.mpr
      ⟨_, inYear, Option.bind_eq_some_iff.mpr ⟨_, inMonth, rfl⟩⟩
  · have next := firstDay_succ year
    dsimp only at total short ⊢
    omega

example : date 719528 = some ⟨1970, 1, 1⟩ := by decide +kernel

end OpenJax.Shared.Calendar

/-! Times in UTC as RFC 3339 writes them with a fraction that has no zeros at its end, and how the
order of such texts compares with the order of the times. -/

namespace OpenJax.Shared.Rfc3339

open Calendar

def digits : Nat → Nat → List Char
  | 0, _ => []
  | width + 1, number =>
      Nat.digitChar (number / 10 ^ width % 10) :: digits width (number % 10 ^ width)

@[simp] theorem length_digits (width number : Nat) : (digits width number).length = width := by
  induction width generalizing number with
  | zero => rfl
  | succ width ih => simp [digits, ih]

theorem digitChar_lt : ∀ first < 10, ∀ second < 10,
    (Nat.digitChar first < Nat.digitChar second ↔ first < second) := by
  decide

theorem digitChar_inj : ∀ first < 10, ∀ second < 10,
    (Nat.digitChar first = Nat.digitChar second ↔ first = second) := by
  decide

theorem digitChar_le : ∀ number < 10, Nat.digitChar number < 'Z' := by
  decide

theorem digits_lt_Z {width number : Nat} : ∀ c ∈ digits width number, c < 'Z' := by
  induction width generalizing number with
  | zero => nofun
  | succ width ih =>
    intro c member
    rcases List.mem_cons.mp member with rfl | later
    · exact digitChar_le _ (Nat.mod_lt _ (by decide))
    · exact ih c later

variable {width first second : Nat}

theorem digits_append_lt (small : first < 10 ^ width) (smallSecond : second < 10 ^ width)
    (before behind : List Char) :
    digits width first ++ before < digits width second ++ behind ↔
      first < second ∨ first = second ∧ before < behind := by
  induction width generalizing first second with
  | zero =>
    obtain rfl : first = 0 := by simpa using small
    obtain rfl : second = 0 := by simpa using smallSecond
    simp [digits]
  | succ width ih =>
    have positive : 0 < 10 ^ width := Nat.pow_pos (by decide)
    have top : first / 10 ^ width < 10 := by
      rw [Nat.div_lt_iff_lt_mul positive]
      omega
    have topSecond : second / 10 ^ width < 10 := by
      rw [Nat.div_lt_iff_lt_mul positive]
      omega
    rw [digits, digits, List.cons_append, List.cons_append, List.cons_lt_cons_iff,
      Nat.mod_eq_of_lt top, Nat.mod_eq_of_lt topSecond, digitChar_lt _ top _ topSecond,
      digitChar_inj _ top _ topSecond,
      ih (Nat.mod_lt first positive) (Nat.mod_lt second positive)]
    have whole := Nat.div_add_mod first (10 ^ width)
    have wholeSecond := Nat.div_add_mod second (10 ^ width)
    constructor
    · rintro (high | ⟨same, low | ⟨sameLow, rest⟩⟩)
      · exact .inl (Nat.lt_of_div_lt_div high)
      · rw [same] at whole
        exact .inl (by omega)
      · rw [same, sameLow] at whole
        exact .inr ⟨by omega, rest⟩
    · rintro (less | ⟨rfl, rest⟩)
      · rcases Nat.lt_or_eq_of_le (Nat.div_le_div_right (c := 10 ^ width) less.le) with high | same
        · exact .inl high
        · rw [same] at whole
          exact .inr ⟨same, .inl (by omega)⟩
      · exact .inr ⟨rfl, .inr ⟨rfl, rest⟩⟩

theorem digits_lt (small : first < 10 ^ width) (smallSecond : second < 10 ^ width) :
    digits width first < digits width second ↔ first < second := by
  have compared := digits_append_lt small smallSecond [] []
  simpa using compared

theorem digits_injective (small : first < 10 ^ width) (smallSecond : second < 10 ^ width)
    (same : digits width first = digits width second) : first = second := by
  rcases Nat.lt_trichotomy first second with less | equal | more
  · have order := (digits_lt small smallSecond).mpr less
    exact absurd order (same ▸ List.lt_irrefl _)
  · exact equal
  · have order := (digits_lt smallSecond small).mpr more
    exact absurd order (same ▸ List.lt_irrefl _)

def trimmed (nanos : Nat) : List Char := (digits 9 nanos).rdropWhile (· == '0')

def fraction (nanos : Nat) : List Char :=
  if nanos = 0 then [] else '.' :: trimmed nanos

def tail (nanos : Nat) : List Char := fraction nanos ++ ['Z']

theorem digits_trimmed (nanos : Nat) :
    digits 9 nanos = trimmed nanos ++ List.replicate (9 - (trimmed nanos).length) '0' := by
  have zeros : ∀ c ∈ (digits 9 nanos).rtakeWhile (· == '0'), c = '0' := by
    intro c member
    have zero := List.mem_rtakeWhile_imp member
    exact beq_iff_eq.mp zero
  have whole : (digits 9 nanos).rdropWhile (· == '0') ++ (digits 9 nanos).rtakeWhile (· == '0') =
      digits 9 nanos := List.rdropWhile_append_rtakeWhile
  have lengths := congrArg List.length whole
  rw [List.length_append, length_digits] at lengths
  rw [List.eq_replicate_of_mem zeros] at whole
  have count : ((digits 9 nanos).rtakeWhile (· == '0')).length = 9 - (trimmed nanos).length := by
    rw [trimmed]
    omega
  rw [count] at whole
  exact whole.symm

theorem fraction_lt_Z {nanos : Nat} : ∀ c ∈ fraction nanos, c < 'Z' := by
  unfold fraction
  split
  · nofun
  · intro c member
    rcases List.mem_cons.mp member with rfl | digit
    · decide
    · exact digits_lt_Z c ((List.rdropWhile_prefix _ _).subset digit)

variable {first second : Nat}

theorem fraction_injective (small : first < 10 ^ 9) (smallSecond : second < 10 ^ 9)
    (same : fraction first = fraction second) : first = second := by
  unfold fraction at same
  split at same
  · split at same
    · omega
    · cases same
  · split at same
    · cases same
    · have kept : trimmed first = trimmed second := (List.cons.inj same).2
      apply digits_injective small smallSecond
      rw [digits_trimmed first, digits_trimmed second, kept]

theorem zero_le_digits {width number : Nat} : ∀ c ∈ digits width number, ¬ c < '0' := by
  have zero : ∀ digit < 10, ¬ Nat.digitChar digit < '0' := by decide
  induction width generalizing number with
  | zero => nofun
  | succ width ih =>
    intro c member
    rcases List.mem_cons.mp member with rfl | later
    · exact zero _ (Nat.mod_lt _ (by decide))
    · exact ih c later

theorem not_lt_zeros {text : List Char} (digits : ∀ c ∈ text, ¬ c < '0') {count : Nat}
    (long : count ≤ text.length) : ¬ text < List.replicate count '0' := by
  induction count generalizing text with
  | zero => exact List.not_lt_nil text
  | succ count ih =>
    cases text with
    | nil => exact absurd long (Nat.not_succ_le_zero count)
    | cons c rest =>
      rw [List.replicate_succ, List.cons_lt_cons_iff]
      rintro (less | ⟨-, less⟩)
      · exact digits c List.mem_cons_self less
      · exact ih (fun d member => digits d (List.mem_cons_of_mem c member))
          (Nat.le_of_succ_le_succ long) less

theorem lt_of_fraction_prefix {shorter longer : Nat} (small : shorter < 10 ^ 9)
    (smallLonger : longer < 10 ^ 9) (begins : fraction shorter <+: fraction longer)
    (apart : shorter ≠ longer) : shorter < longer := by
  unfold fraction at begins
  split at begins
  · omega
  · split at begins
    · cases List.prefix_nil.mp begins
    · obtain ⟨rest, whole⟩ := (List.prefix_cons_inj '.').mp begins
      apply Nat.lt_of_le_of_ne _ apart
      rw [← Nat.not_lt, ← digits_lt smallLonger small]
      have short := digits_trimmed shorter
      obtain ⟨behind, long⟩ : ∃ behind, digits 9 longer = trimmed shorter ++ behind :=
        ⟨_, by rw [digits_trimmed longer, ← whole, List.append_assoc]⟩
      have digit : ∀ c ∈ behind, ¬ c < '0' := by
        intro c member
        apply @zero_le_digits 9 longer
        rw [long]
        exact List.mem_append_right _ member
      have length := congrArg List.length long
      rw [length_digits, List.length_append] at length
      have least := not_lt_zeros digit (show 9 - (trimmed shorter).length ≤ _ by omega)
      rw [short, long]
      exact List.not_lt.mpr (List.append_left_le (List.not_lt.mp least))

theorem diverging_lt {first second : List Char} (apart : ¬ first <+: second)
    (apartBack : ¬ second <+: first) (before behind : List Char) :
    first ++ before < second ++ behind ↔ first < second := by
  induction first generalizing second with
  | nil => exact absurd (List.nil_prefix) apart
  | cons c rest ih =>
    cases second with
    | nil => exact absurd (List.nil_prefix) apartBack
    | cons d others =>
      rw [List.cons_append, List.cons_append, List.cons_lt_cons_iff, List.cons_lt_cons_iff]
      by_cases same : c = d
      · subst same
        rw [List.prefix_cons_inj] at apart apartBack
        rw [ih apart apartBack]
      · simp [same]

theorem tail_lt_of_prefix {shorter longer : Nat} (small : shorter < 10 ^ 9)
    (smallLonger : longer < 10 ^ 9) (begins : fraction shorter <+: fraction longer)
    (apart : shorter ≠ longer) : tail longer < tail shorter := by
  obtain ⟨rest, whole⟩ := begins
  cases rest with
  | nil =>
    rw [List.append_nil] at whole
    exact absurd (fraction_injective small smallLonger whole) apart
  | cons c rest =>
    have digit : c < 'Z' := by
      apply @fraction_lt_Z longer
      rw [← whole]
      exact List.mem_append_right _ List.mem_cons_self
    rw [tail, tail, ← whole, List.append_assoc]
    apply List.append_left_lt
    rw [List.cons_append, List.cons_lt_cons_iff]
    exact .inl digit

theorem tail_lt_of_diverging (small : first < 10 ^ 9) (smallSecond : second < 10 ^ 9)
    (apart : ¬ fraction first <+: fraction second)
    (apartBack : ¬ fraction second <+: fraction first) :
    tail first < tail second ↔ first < second := by
  rw [tail, tail, diverging_lt apart apartBack]
  unfold fraction at apart apartBack ⊢
  by_cases whole : first = 0
  · rw [if_pos whole] at apart
    exact absurd (List.nil_prefix) apart
  · by_cases wholeSecond : second = 0
    · rw [if_pos wholeSecond] at apartBack
      exact absurd (List.nil_prefix) apartBack
    · rw [if_neg whole, if_neg wholeSecond, List.prefix_cons_inj] at apart apartBack
      rw [if_neg whole, if_neg wholeSecond, List.cons_lt_cons_self,
        ← digits_lt small smallSecond, digits_trimmed first, digits_trimmed second,
        diverging_lt apart apartBack]

theorem tail_lt_iff (small : first < 10 ^ 9) (smallSecond : second < 10 ^ 9) {within : Prop}
    (holds : within) :
    (tail first < tail second ↔ first < second) ↔
      (within → first = second ∨
        ¬ fraction first <+: fraction second ∧ ¬ fraction second <+: fraction first) := by
  by_cases equal : first = second
  · subst equal
    simp
  · by_cases begins : fraction first <+: fraction second
    · have numbers := lt_of_fraction_prefix small smallSecond begins equal
      have texts := tail_lt_of_prefix small smallSecond begins equal
      have backwards : ¬ tail first < tail second := List.lt_asymm texts
      simp [holds, equal, begins, numbers, backwards]
    · by_cases beginsBack : fraction second <+: fraction first
      · have numbers := lt_of_fraction_prefix smallSecond small beginsBack (Ne.symm equal)
        have texts := tail_lt_of_prefix smallSecond small beginsBack (Ne.symm equal)
        have backwards : ¬ first < second := Nat.lt_asymm numbers
        simp [holds, equal, begins, beginsBack, texts, backwards]
      · have diverging := tail_lt_of_diverging small smallSecond begins beginsBack
        simp [equal, begins, beginsBack, diverging]

def epoch : Int := 719528 * 86400 * 1000000000

structure Fields where
  date : Date
  hour : Nat
  minute : Nat
  second : Nat
  nanos : Nat

def fields (nanos : Nat) : Option Fields :=
  (date (nanos / 1000000000 / 86400)).map fun date =>
    { date := date
      hour := nanos / 1000000000 / 3600 % 24
      minute := nanos / 1000000000 / 60 % 60
      second := nanos / 1000000000 % 60
      nanos := nanos % 1000000000 }

def Fields.text (time : Fields) : List Char :=
  digits 4 time.date.year ++ '-' :: (digits 2 time.date.month ++ '-' :: (digits 2 time.date.day ++
    'T' :: (digits 2 time.hour ++ ':' :: (digits 2 time.minute ++ ':' :: (digits 2 time.second ++
      tail time.nanos)))))

def format (instant : Int) : Option String :=
  if 0 ≤ instant + epoch then
    (fields (instant + epoch).toNat).map fun time => String.ofList time.text
  else none

example : format 1735689600500000000 = some "2025-01-01T00:00:00.5Z" := by decide +kernel

structure Fields.Fits (time : Fields) : Prop where
  date : time.date.Fits
  hour : time.hour < 24
  minute : time.minute < 60
  second : time.second < 60
  nanos : time.nanos < 10 ^ 9

theorem fields_fit {nanos : Nat} {time : Fields} (found : fields nanos = some time) :
    time.Fits := by
  obtain ⟨day, dated, rfl⟩ := Option.map_eq_some_iff.mp found
  exact ⟨date_fits dated, Nat.mod_lt _ (by decide), Nat.mod_lt _ (by decide),
    Nat.mod_lt _ (by decide), Nat.mod_lt _ (by decide)⟩

theorem fields_nanos {nanos : Nat} {time : Fields} (found : fields nanos = some time) :
    time.nanos = nanos % 1000000000 := by
  obtain ⟨day, dated, rfl⟩ := Option.map_eq_some_iff.mp found
  rfl

variable {time other : Fields}

theorem text_lt_iff (fits : time.Fits) (fitsOther : other.Fits) :
    time.text < other.text ↔
      time.date.year < other.date.year ∨ time.date.year = other.date.year ∧
      (time.date.month < other.date.month ∨ time.date.month = other.date.month ∧
      (time.date.day < other.date.day ∨ time.date.day = other.date.day ∧
      (time.hour < other.hour ∨ time.hour = other.hour ∧
      (time.minute < other.minute ∨ time.minute = other.minute ∧
      (time.second < other.second ∨ time.second = other.second ∧
        tail time.nanos < tail other.nanos))))) := by
  have two {number bound : Nat} (small : number < bound) (enough : bound ≤ 10 ^ 2) :
      number < 10 ^ 2 := Nat.lt_of_lt_of_le small enough
  unfold Fields.text
  rw [digits_append_lt fits.date.year fitsOther.date.year, List.cons_lt_cons_self,
    digits_append_lt fits.date.month fitsOther.date.month, List.cons_lt_cons_self,
    digits_append_lt fits.date.day fitsOther.date.day, List.cons_lt_cons_self,
    digits_append_lt (two fits.hour (by decide)) (two fitsOther.hour (by decide)),
    List.cons_lt_cons_self,
    digits_append_lt (two fits.minute (by decide)) (two fitsOther.minute (by decide)),
    List.cons_lt_cons_self,
    digits_append_lt (two fits.second (by decide)) (two fitsOther.second (by decide))]

theorem text_lt_of_seconds (found : fields first = some time) (after : fields second = some other)
    (less : first / 1000000000 < second / 1000000000) : time.text < other.text := by
  rw [text_lt_iff (fields_fit found) (fields_fit after)]
  obtain ⟨day, dated, rfl⟩ := Option.map_eq_some_iff.mp found
  obtain ⟨next, datedNext, rfl⟩ := Option.map_eq_some_iff.mp after
  dsimp only
  rcases Nat.lt_or_eq_of_le (Nat.div_le_div_right (c := 86400) less.le) with earlier | same
  · rcases date_before earlier dated datedNext with years | ⟨year, months | ⟨month, days⟩⟩
    · exact .inl years
    · exact .inr ⟨year, .inl months⟩
    · exact .inr ⟨year, .inr ⟨month, .inl days⟩⟩
  · rw [same] at dated
    cases dated.symm.trans datedNext
    refine .inr ⟨rfl, .inr ⟨rfl, .inr ⟨rfl, ?_⟩⟩⟩
    omega

theorem text_lt_of_same_second (found : fields first = some time)
    (after : fields second = some other) (same : first / 1000000000 = second / 1000000000) :
    time.text < other.text ↔ tail time.nanos < tail other.nanos := by
  rw [text_lt_iff (fields_fit found) (fields_fit after)]
  obtain ⟨day, dated, rfl⟩ := Option.map_eq_some_iff.mp found
  obtain ⟨next, datedNext, rfl⟩ := Option.map_eq_some_iff.mp after
  rw [same] at dated
  cases dated.symm.trans datedNext
  simp [same]

def subsecond (instant : Int) : Nat := (instant % 1000000000).toNat

def Telling (first second : Int) : Prop :=
  first / 1000000000 = second / 1000000000 → first = second ∨
    ¬ fraction (subsecond first) <+: fraction (subsecond second) ∧
      ¬ fraction (subsecond second) <+: fraction (subsecond first)

theorem format_some {instant : Int} {text : String} (written : format instant = some text) :
    ∃ time, 0 ≤ instant + epoch ∧ fields (instant + epoch).toNat = some time ∧
      text = String.ofList time.text := by
  unfold format at written
  split at written
  · rename_i begun
    obtain ⟨time, found, rfl⟩ := Option.map_eq_some_iff.mp written
    exact ⟨time, begun, found, rfl⟩
  · cases written

theorem format_lt_iff {first second : Int} {text other : String}
    (written : format first = some text) (after : format second = some other) :
    (text < other ↔ first < second) ↔ Telling first second := by
  obtain ⟨time, begun, found, rfl⟩ := format_some written
  obtain ⟨next, begunNext, foundNext, rfl⟩ := format_some after
  rw [String.lt_iff_toList_lt, String.toList_ofList, String.toList_ofList]
  have nanos := fields_nanos found
  have nanosNext := fields_nanos foundNext
  have small := (fields_fit found).nanos
  have smallNext := (fields_fit foundNext).nanos
  have sub : time.nanos = subsecond first := by
    rw [nanos, subsecond]
    unfold epoch at begun ⊢
    omega
  have subNext : next.nanos = subsecond second := by
    rw [nanosNext, subsecond]
    unfold epoch at begunNext ⊢
    omega
  have seconds : (first + epoch).toNat / 1000000000 < (second + epoch).toNat / 1000000000 ↔
      first / 1000000000 < second / 1000000000 := by
    unfold epoch at begun begunNext ⊢
    omega
  have secondsBack : (second + epoch).toNat / 1000000000 < (first + epoch).toNat / 1000000000 ↔
      second / 1000000000 < first / 1000000000 := by
    unfold epoch at begun begunNext ⊢
    omega
  rcases Int.lt_trichotomy (first / 1000000000) (second / 1000000000) with less | same | more
  · have texts := text_lt_of_seconds found foundNext (seconds.mpr less)
    exact ⟨fun _ equal => absurd less (equal ▸ Int.lt_irrefl _),
      fun _ => ⟨fun _ => by omega, fun _ => texts⟩⟩
  · have texts := text_lt_of_same_second found foundNext (by omega)
    rw [texts, sub, subNext]
    rw [sub] at small
    rw [subNext] at smallNext
    have order : first < second ↔ subsecond first < subsecond second := by
      unfold subsecond
      omega
    have equality : first = second ↔ subsecond first = subsecond second := by
      unfold subsecond
      omega
    rw [Telling, order, equality]
    exact tail_lt_iff small smallNext same
  · have texts := text_lt_of_seconds foundNext found (secondsBack.mpr more)
    have backwards : ¬ time.text < next.text := List.lt_asymm texts
    exact ⟨fun _ equal => absurd more (equal ▸ Int.lt_irrefl _),
      fun _ => ⟨fun before => absurd before backwards, fun before => by omega⟩⟩

end OpenJax.Shared.Rfc3339
