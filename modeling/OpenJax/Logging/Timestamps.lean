import Mathlib.Algebra.Group.Int.Defs
import OpenJax.Shared.Rfc3339
import OpenJax.Shared.Text

set_option autoImplicit false

namespace OpenJax.Logging

open OpenJax.Shared OpenJax.Shared.Rfc3339

def asU64 (number : Int) : Nat := (number % 2 ^ 64).toNat

/-- The numbers of a date: nothing that is divided is negative, so each division rounds down. -/
def ymd (days : Int) : Int × Int × Int :=
  let a := days + 32044
  let b := (4 * a + 3) / 146097
  let c := a - (146097 * b) / 4
  let d := (4 * c + 3) / 1461
  let e := c - (1461 * d) / 4
  let m := (5 * e + 2) / 153
  let day := e - (153 * m + 2) / 153 + 1
  let month := m + 3 - 12 * (m / 10)
  let year := 100 * b + d - 4800 + m / 10
  (year, month, day)

def daysToYmd (days : Nat) : Nat × Nat × Nat :=
  let date := ymd days
  (asU64 date.1, asU64 date.2.1, asU64 date.2.2)

def pad (width number : Nat) : List Char :=
  List.replicate (width - number.repr.length) '0' ++ number.repr.toList

def secondsPerDay : Nat := 86400

def daysBefore1970 : Nat := 719527

def chronoLikeFormat (unixSecs : Nat) : List Char :=
  let days := unixSecs / secondsPerDay
  let secsInDay := unixSecs % secondsPerDay
  let hours := secsInDay / 3600
  let minutes := (secsInDay % 3600) / 60
  let seconds := secsInDay % 60
  let date := daysToYmd (days + daysBefore1970)
  pad 4 date.1 ++ '-' :: (pad 2 date.2.1 ++ '-' :: (pad 2 date.2.2 ++ '_' ::
    (pad 2 hours ++ '-' :: (pad 2 minutes ++ '-' :: pad 2 seconds))))

def stamp (unixSecs : Nat) : Nat × Nat × Nat :=
  daysToYmd (unixSecs / secondsPerDay + daysBefore1970)

/-- A later second, whose year does not sort before the earlier one as a text, and where no day of
three digits follows one of two digits in the same month. -/
def SortsAfter (earlier now : Nat) : Prop :=
  earlier < now ∧ ¬pad 4 (stamp now).1 < pad 4 (stamp earlier).1 ∧
    ((stamp earlier).1 = (stamp now).1 → (stamp earlier).2.1 = (stamp now).2.1 →
      (stamp now).2.2 < 100 ∨ 100 ≤ (stamp earlier).2.2)

instance (earlier now : Nat) : Decidable (SortsAfter earlier now) :=
  inferInstanceAs (Decidable (_ ∧ _ ∧ (_ → _ → _)))

section Dates

variable {days other : Int}

theorem ymd_parts (positive : 0 ≤ days) : ∃ b c d e m : Int,
    (0 ≤ b ∧ 0 ≤ c ∧ 0 ≤ d ∧ d ≤ 99 ∧ 0 ≤ e ∧ e ≤ 365 ∧ 0 ≤ m ∧ m ≤ 11) ∧
      days + 32044 = 146097 * b / 4 + c ∧ c = 1461 * d / 4 + e ∧
      (b = (4 * (days + 32044) + 3) / 146097 ∧ d = (4 * c + 3) / 1461 ∧ m = (5 * e + 2) / 153) ∧
      ymd days = (100 * b + d - 4800 + m / 10, m + 3 - 12 * (m / 10), e - m + 1) := by
  obtain ⟨b, century⟩ : ∃ b, b = (4 * (days + 32044) + 3) / 146097 := ⟨_, rfl⟩
  obtain ⟨c, inCentury⟩ : ∃ c, c = days + 32044 - 146097 * b / 4 := ⟨_, rfl⟩
  have bounds : 0 ≤ b ∧ 0 ≤ c ∧ c ≤ 36524 := by omega
  obtain ⟨d, year⟩ : ∃ d, d = (4 * c + 3) / 1461 := ⟨_, rfl⟩
  obtain ⟨e, inYear⟩ : ∃ e, e = c - 1461 * d / 4 := ⟨_, rfl⟩
  have yearBounds : 0 ≤ d ∧ d ≤ 99 ∧ 0 ≤ e ∧ e ≤ 365 := by omega
  obtain ⟨m, month⟩ : ∃ m, m = (5 * e + 2) / 153 := ⟨_, rfl⟩
  have monthBounds : 0 ≤ m ∧ m ≤ 11 := by omega
  refine ⟨b, c, d, e, m, ?_, by omega, by omega, ⟨century, year, month⟩, ?_⟩
  · omega
  · rw [ymd, ← century, ← inCentury, ← year, ← inYear, ← month]
    have whole : (153 * m + 2) / 153 = m := by omega
    rw [whole]

theorem ymd_lt (positive : 0 ≤ days) (order : days < other) :
    (ymd days).1 < (ymd other).1 ∨ (ymd days).1 = (ymd other).1 ∧
      ((ymd days).2.1 < (ymd other).2.1 ∨ (ymd days).2.1 = (ymd other).2.1 ∧
        (ymd days).2.2 < (ymd other).2.2) := by
  obtain ⟨b, c, d, e, m, bounds, whole, inYear, ⟨century, year, month⟩, parts⟩ :=
    ymd_parts positive
  obtain ⟨b', c', d', e', m', bounds', whole', inYear', ⟨century', year', month'⟩, parts'⟩ :=
    ymd_parts (show 0 ≤ other by omega)
  rw [parts, parts']
  dsimp only
  -- A year from March on ends in the next calendar year, with the months 1 and 2.
  have laterYear (years : 100 * b + d < 100 * b' + d') :
      100 * b + d - 4800 + m / 10 < 100 * b' + d' - 4800 + m' / 10 ∨
        100 * b + d - 4800 + m / 10 = 100 * b' + d' - 4800 + m' / 10 ∧
          (m + 3 - 12 * (m / 10) < m' + 3 - 12 * (m' / 10) ∨
            m + 3 - 12 * (m / 10) = m' + 3 - 12 * (m' / 10) ∧ e - m + 1 < e' - m' + 1) := by
    clear whole whole' inYear inYear' century century' year year' month month'
    omega
  have centuries : b ≤ b' := by
    rw [century, century']
    exact Int.ediv_le_ediv (by decide) (by omega)
  rcases Int.lt_or_eq_of_le centuries with earlier | rfl
  · exact laterYear (by omega)
  · have rest : c < c' := by omega
    have years : d ≤ d' := by
      rw [year, year']
      exact Int.ediv_le_ediv (by decide) (by omega)
    rcases Int.lt_or_eq_of_le years with earlier | rfl
    · exact laterYear (by omega)
    · have inYears : e < e' := by omega
      have months : m ≤ m' := by
        rw [month, month']
        exact Int.ediv_le_ediv (by decide) (by omega)
      omega

theorem ymd_bounds (positive : 0 ≤ days) :
    (-4800 ≤ (ymd days).1 ∧ (ymd days).1 ≤ days) ∧ (1 ≤ (ymd days).2.1 ∧ (ymd days).2.1 ≤ 12) ∧
      (1 ≤ (ymd days).2.2 ∧ (ymd days).2.2 < 1000) := by
  obtain ⟨b, c, d, e, m, bounds, whole, inYear, ⟨century, year, month⟩, parts⟩ :=
    ymd_parts positive
  rw [parts]
  dsimp only
  have turned : m / 10 = 0 ∧ m ≤ 9 ∨ m / 10 = 1 ∧ 10 ≤ m := by omega
  refine ⟨⟨by omega, by omega⟩, ⟨?_, ?_⟩, by omega, by omega⟩
  · rcases turned with ⟨same, -⟩ | ⟨same, -⟩ <;> omega
  · rcases turned with ⟨same, -⟩ | ⟨same, -⟩ <;> omega

end Dates

theorem pad_two : ∀ number < 100, pad 2 number = digits 2 number := by decide

theorem pad_three {number : Nat} (small : number < 1000) (large : 100 ≤ number) :
    pad 2 number = digits 3 number := by
  have shown : number.repr.toList = digits 3 number := by
    rw [Nat.toList_repr, Nat.toDigits_of_base_le (by decide) (by omega),
      Nat.toDigits_of_base_le (by decide) (by omega), Nat.toDigits_of_lt_base (by omega)]
    have tens : number / 10 % 10 = number % 100 / 10 % 10 := by omega
    have units : number % 10 = number % 100 % 10 / 1 % 10 := by omega
    have hundreds : number / 10 / 10 = number / 100 % 10 := by omega
    rw [tens, units, hundreds]
    rfl
  have long : number.repr.length = 3 := by
    rw [← String.length_toList, shown, length_digits]
  rw [pad, long, shown]
  rfl

theorem isDigit_of_mem_pad {width number : Nat} {c : Char} (member : c ∈ pad width number) :
    c.isDigit := by
  rcases List.mem_append.mp member with zero | shown
  · rw [List.eq_of_mem_replicate zero]
    decide
  · exact isDigit_of_mem_repr shown

theorem digit_of_mem_pad {width number : Nat} {c : Char} (member : c ∈ pad width number) :
    '-' < c := by
  have digit := isDigit_of_mem_pad member
  rw [Char.isDigit, Bool.and_eq_true, decide_eq_true_iff, decide_eq_true_iff] at digit
  exact lt_of_lt_of_le (by decide : '-' < '0') digit.1

theorem ofDigitChars_pad (width number : Nat) :
    Nat.ofDigitChars 10 (pad width number) 0 = number := by
  rw [pad, Nat.ofDigitChars_append, Nat.ofDigitChars_replicate_zero, Nat.mul_zero,
    Nat.toList_repr, Nat.ofDigitChars_ten_toDigits]

theorem pad_injective {width first second : Nat} (same : pad width first = pad width second) :
    first = second := by
  have read := congrArg (fun text => Nat.ofDigitChars 10 text 0) same
  rwa [ofDigitChars_pad, ofDigitChars_pad] at read

theorem append_hyphen_lt {first second : List Char} (order : first < second)
    (above : ∀ c ∈ second, '-' < c) (before behind : List Char) :
    first ++ '-' :: before < second ++ '-' :: behind := by
  induction first generalizing second with
  | nil =>
    cases second with
    | nil => exact absurd order (List.lt_irrefl _)
    | cons d rest => exact List.cons_lt_cons_iff.mpr (.inl (above d List.mem_cons_self))
  | cons c rest ih =>
    cases second with
    | nil => exact absurd order (List.not_lt_nil _)
    | cons d others =>
      rw [List.cons_append, List.cons_append, List.cons_lt_cons_iff]
      rcases List.cons_lt_cons_iff.mp order with less | ⟨same, later⟩
      · exact .inl less
      · exact .inr ⟨same, ih later fun e member => above e (List.mem_cons_of_mem _ member)⟩

theorem append_lt_append_iff (text before behind : List Char) :
    text ++ before < text ++ behind ↔ before < behind := by
  induction text with
  | nil => rfl
  | cons c rest ih => simp [ih]

variable {first second : Nat}

theorem pad_append_lt (order : first < second) (small : second < 100) (before behind : List Char) :
    pad 2 first ++ before < pad 2 second ++ behind := by
  rw [pad_two first (by omega), pad_two second small]
  exact (digits_append_lt (by omega) small before behind).mpr (.inl order)

theorem day_append_lt (order : first < second) (small : second < 1000)
    (alike : second < 100 ∨ 100 ≤ first) (before behind : List Char) :
    pad 2 first ++ before < pad 2 second ++ behind := by
  rcases alike with two | three
  · exact pad_append_lt order two before behind
  · rw [pad_three (by omega) three, pad_three small (by omega)]
    exact (digits_append_lt (by omega) small before behind).mpr (.inl order)

theorem clock_append_lt (order : first < second) (within : second < secondsPerDay)
    (before behind : List Char) :
    pad 2 (first / 3600) ++ '-' :: (pad 2 (first % 3600 / 60) ++ '-' :: pad 2 (first % 60)) ++
        before <
      pad 2 (second / 3600) ++ '-' :: (pad 2 (second % 3600 / 60) ++ '-' :: pad 2 (second % 60)) ++
        behind := by
  have small : second / 3600 < 100 := by
    rw [secondsPerDay] at within
    omega
  simp only [List.append_assoc, List.cons_append]
  rcases Nat.lt_or_eq_of_le (Nat.div_le_div_right (c := 3600) order.le) with hours | hours
  · exact pad_append_lt hours small _ _
  · rw [hours, append_lt_append_iff, List.cons_lt_cons_iff]
    refine .inr ⟨rfl, ?_⟩
    rcases Nat.lt_or_ge (first % 3600 / 60) (second % 3600 / 60) with minutes | minutes
    · exact pad_append_lt minutes (by omega) _ _
    · have same : first % 3600 / 60 = second % 3600 / 60 := by omega
      rw [same, append_lt_append_iff, List.cons_lt_cons_iff]
      exact .inr ⟨rfl, pad_append_lt (by omega) (by omega) _ _⟩

theorem asU64_small {number : Int} (positive : 0 ≤ number) (small : number < 1000) :
    asU64 number = number.toNat := by
  rw [asU64, Int.emod_eq_of_lt positive (by omega)]

theorem asU64_injective {first second : Int} (low : -4800 ≤ first) (lowSecond : -4800 ≤ second)
    (high : first < 2 ^ 63) (highSecond : second < 2 ^ 63) (same : asU64 first = asU64 second) :
    first = second := by
  unfold asU64 at same
  omega

def dateText (date : Nat × Nat × Nat) (behind : List Char) : List Char :=
  pad 4 date.1 ++ '-' :: (pad 2 date.2.1 ++ '-' :: (pad 2 date.2.2 ++ '_' :: behind))

theorem dateText_lt {first second : Nat × Nat × Nat}
    (order : pad 4 first.1 < pad 4 second.1 ∨ first.1 = second.1 ∧ (first.2.1 < second.2.1 ∨
      first.2.1 = second.2.1 ∧ first.2.2 < second.2.2 ∧ (second.2.2 < 100 ∨ 100 ≤ first.2.2)))
    (month : second.2.1 < 100) (day : second.2.2 < 1000) (before behind : List Char) :
    dateText first before < dateText second behind := by
  unfold dateText
  rcases order with years | ⟨year, months | ⟨sameMonth, days, alike⟩⟩
  · exact append_hyphen_lt years (fun c member => digit_of_mem_pad member) _ _
  · rw [year, append_lt_append_iff, List.cons_lt_cons_iff]
    exact .inr ⟨rfl, pad_append_lt months month _ _⟩
  · rw [year, append_lt_append_iff, List.cons_lt_cons_iff, sameMonth]
    refine .inr ⟨rfl, ?_⟩
    rw [append_lt_append_iff, List.cons_lt_cons_iff]
    exact .inr ⟨rfl, day_append_lt days day alike _ _⟩

theorem dateText_same {date : Nat × Nat × Nat} {before behind : List Char} :
    dateText date before < dateText date behind ↔ before < behind := by
  unfold dateText
  rw [append_lt_append_iff, List.cons_lt_cons_iff, append_lt_append_iff, List.cons_lt_cons_iff,
    append_lt_append_iff, List.cons_lt_cons_iff]
  simp

def clockText (secs : Nat) : List Char :=
  pad 2 (secs / 3600) ++ '-' :: (pad 2 (secs % 3600 / 60) ++ '-' :: pad 2 (secs % 60))

theorem dateText_append (date : Nat × Nat × Nat) (text behind : List Char) :
    dateText date text ++ behind = dateText date (text ++ behind) := by
  simp only [dateText, List.append_assoc, List.cons_append]

theorem chronoLikeFormat_append (unixSecs : Nat) (behind : List Char) :
    chronoLikeFormat unixSecs ++ behind =
      dateText (stamp unixSecs) (clockText (unixSecs % secondsPerDay) ++ behind) := by
  rw [← dateText_append, chronoLikeFormat, clockText, stamp]
  unfold dateText
  rfl

theorem daysToYmd_year {days other : Nat} (inRange : days < 2 ^ 63) (otherInRange : other < 2 ^ 63)
    (year : (daysToYmd days).1 = (daysToYmd other).1) : (ymd days).1 = (ymd other).1 := by
  have low := (ymd_bounds (Int.natCast_nonneg days)).1
  have otherLow := (ymd_bounds (Int.natCast_nonneg other)).1
  have high : (ymd days).1 < 2 ^ 63 := lt_of_le_of_lt low.2 (by exact_mod_cast inRange)
  have otherHigh : (ymd other).1 < 2 ^ 63 :=
    lt_of_le_of_lt otherLow.2 (by exact_mod_cast otherInRange)
  exact asU64_injective low.1 otherLow.1 high otherHigh year

theorem daysToYmd_month (days : Nat) :
    (daysToYmd days).2.1 = (ymd days).2.1.toNat ∧ (daysToYmd days).2.2 = (ymd days).2.2.toNat := by
  obtain ⟨-, ⟨monthLow, monthHigh⟩, dayLow, dayHigh⟩ := ymd_bounds (Int.natCast_nonneg days)
  exact ⟨asU64_small (by omega) (by omega), asU64_small (by omega) dayHigh⟩

theorem daysToYmd_lt {days other : Nat} (order : days < other) (inRange : other < 2 ^ 63)
    (year : (daysToYmd days).1 = (daysToYmd other).1) :
    (daysToYmd days).2.1 < (daysToYmd other).2.1 ∨
      (daysToYmd days).2.1 = (daysToYmd other).2.1 ∧
        (daysToYmd days).2.2 < (daysToYmd other).2.2 := by
  have same := daysToYmd_year (order.trans inRange) inRange year
  have later := ymd_lt (Int.natCast_nonneg days) (Int.ofNat_lt.mpr order)
  obtain ⟨-, ⟨monthLow, -⟩, dayLow, -⟩ := ymd_bounds (Int.natCast_nonneg days)
  rw [(daysToYmd_month days).1, (daysToYmd_month days).2, (daysToYmd_month other).1,
    (daysToYmd_month other).2]
  clear year
  -- Only the dates count from here on, not how they come about.
  generalize ymd (days : Int) = date at *
  generalize ymd (other : Int) = otherDate at *
  rcases later with year | ⟨-, month | ⟨month, day⟩⟩
  · exact absurd same (ne_of_lt year)
  · exact .inl (by omega)
  · exact .inr ⟨by rw [month], by omega⟩

theorem daysToYmd_bounds (days : Nat) :
    (daysToYmd days).2.1 < 100 ∧ (daysToYmd days).2.2 < 1000 := by
  obtain ⟨-, ⟨-, monthHigh⟩, -, dayHigh⟩ := ymd_bounds (Int.natCast_nonneg days)
  rw [(daysToYmd_month days).1, (daysToYmd_month days).2]
  omega

theorem separator_notMem_chronoLikeFormat (unixSecs : Nat) : '/' ∉ chronoLikeFormat unixSecs := by
  have absent (width number : Nat) : '/' ∉ pad width number :=
    fun member => absurd (isDigit_of_mem_pad member) (by decide)
  simp [chronoLikeFormat, absent]

theorem chronoLikeFormat_append_lt {earlier now : Nat} (inRange : now < 2 ^ 64)
    (later : SortsAfter earlier now) (before behind : List Char) :
    chronoLikeFormat earlier ++ before < chronoLikeFormat now ++ behind := by
  obtain ⟨order, years, alike⟩ := later
  obtain ⟨month, day⟩ := daysToYmd_bounds (now / secondsPerDay + daysBefore1970)
  rw [chronoLikeFormat_append, chronoLikeFormat_append]
  rcases List.le_iff_lt_or_eq.mp (List.not_lt.mp years) with yearOrder | sameYear
  · exact dateText_lt (.inl yearOrder) month day _ _
  have year := pad_injective sameYear
  rcases Nat.lt_or_eq_of_le (Nat.div_le_div_right (c := secondsPerDay) order.le) with days | days
  · have small : now / secondsPerDay + daysBefore1970 < 2 ^ 63 := by
      rw [secondsPerDay, daysBefore1970]
      omega
    refine dateText_lt (.inr ⟨year, ?_⟩) month day _ _
    rcases daysToYmd_lt (Nat.add_lt_add_right days daysBefore1970) small year with
      months | ⟨sameMonth, dayOrder⟩
    · exact .inl months
    · exact .inr ⟨sameMonth, dayOrder, alike year sameMonth⟩
  · have sameStamp : stamp earlier = stamp now := by rw [stamp, stamp, days]
    rw [sameStamp, dateText_same]
    refine clock_append_lt ?_ (Nat.mod_lt _ (by decide)) _ _
    have split := Nat.div_add_mod earlier secondsPerDay
    have splitNow := Nat.div_add_mod now secondsPerDay
    rw [days] at split
    omega

def epochDay : Nat := 719528

/-- The date and the time of day in UTC of the Gregorian calendar, written as the format does. -/
def calendarText (unixSecs : Nat) : Option (List Char) :=
  (Calendar.date (unixSecs / secondsPerDay + epochDay)).map fun date =>
    dateText (date.year, date.month, date.day) (clockText (unixSecs % secondsPerDay))

theorem dateText_year {first second : Nat × Nat × Nat} {before behind : List Char}
    (same : dateText first before = dateText second behind) : first.1 = second.1 := by
  rcases lt_trichotomy (pad 4 first.1) (pad 4 second.1) with less | equal | more
  · exact absurd same
      (ne_of_lt (append_hyphen_lt less (fun c member => digit_of_mem_pad member) _ _))
  · exact pad_injective equal
  · exact absurd same.symm
      (ne_of_lt (append_hyphen_lt more (fun c member => digit_of_mem_pad member) _ _))

theorem ymd_year_lt {days year : Nat} (small : days < 2932897)
    (inYear : days + epochDay < Calendar.firstDay (year + 1)) :
    (ymd (days + daysBefore1970 : Nat)).1 + 4000 < year := by
  obtain ⟨b, c, d, e, m, bounds, whole, inComputed, -, parts⟩ :=
    ymd_parts (Int.natCast_nonneg (days + daysBefore1970))
  have years : Calendar.firstDay (year + 1) ≤ 366 * (year + 1) := by
    rw [Calendar.firstDay]
    omega
  rw [Int.natCast_add] at whole
  have shift : ((daysBefore1970 : Nat) : Int) = 719527 := rfl
  have epoch : epochDay = 719528 := rfl
  rw [parts]
  dsimp only
  omega

theorem chronoLikeFormat_ne_calendarText {unixSecs : Nat} (before : unixSecs < 253402300800) :
    ∃ text, calendarText unixSecs = some text ∧ chronoLikeFormat unixSecs ≠ text := by
  have small : unixSecs / secondsPerDay < 2932897 := Nat.div_lt_of_lt_mul before
  have inside : unixSecs / secondsPerDay + epochDay < Calendar.firstDay 10000 :=
    Nat.add_lt_add_right small epochDay
  obtain ⟨date, dated, -, inYear⟩ := Calendar.date_within inside
  refine ⟨_, congrArg (Option.map _) dated, fun same => ?_⟩
  rw [← List.append_nil (chronoLikeFormat unixSecs), chronoLikeFormat_append] at same
  have year : asU64 (ymd (unixSecs / secondsPerDay + daysBefore1970 : Nat)).1 = date.year :=
    dateText_year same
  have computed := ymd_year_lt small inYear
  have low := (ymd_bounds (Int.natCast_nonneg (unixSecs / secondsPerDay + daysBefore1970))).1.1
  have fits := (Calendar.date_fits dated).year
  -- A negative year wraps to a number far above all the years of the calendar.
  generalize (ymd (unixSecs / secondsPerDay + daysBefore1970 : Nat)).1 = shown at *
  unfold asU64 at year
  omega

theorem epoch_misdated : ∃ text, calendarText 0 = some text ∧ chronoLikeFormat 0 ≠ text :=
  chronoLikeFormat_ne_calendarText (by decide)

theorem july_misdated : calendarText 1784332800 = some "2026-07-18_00-00-00".toList ∧
    chronoLikeFormat 1784332800 = "18446744073709548930-06-99_00-00-00".toList ∧
    chronoLikeFormat (1784332800 + secondsPerDay) < chronoLikeFormat 1784332800 := by
  decide +kernel

end OpenJax.Logging
