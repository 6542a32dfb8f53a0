import OpenJax.Tools.ReadFile

set_option autoImplicit false

namespace OpenJax.Tools.ReadFile

open Shared

@[simp] theorem length_effectiveFrom (previousIndent : Nat) (records : List LineRecord) :
    (effectiveFrom previousIndent records).length = records.length := by
  induction records generalizing previousIndent with
  | nil => rfl
  | cons record rest ih => simp [effectiveFrom, ih]

@[simp] theorem length_collectFileLines (content : Bytes) :
    (collectFileLines content).length = (splitLines content).length := by
  simp [collectFileLines]

abbrev MeasuredLine := LineRecord × Nat

section Runs

variable (minIndent : Nat) (options : IndentationArgs)

def atMinimum (line : MeasuredLine) : Bool := line.2 = minIndent && !options.includeSiblings

def upRun (counter : Nat) : List MeasuredLine → List MeasuredLine
  | [] => []
  | line :: rest =>
      if line.2 < minIndent then []
      else if atMinimum minIndent options line then
        if options.includeHeader && line.1.isComment || counter == 0 then
          line :: upRun (counter + 1) rest
        else []
      else line :: upRun counter rest

def downRun (counter : Nat) : List MeasuredLine → List MeasuredLine
  | [] => []
  | line :: rest =>
      if line.2 < minIndent then []
      else if atMinimum minIndent options line then
        if counter > 0 then [] else line :: downRun (counter + 1) rest
      else line :: downRun counter rest

def countAtMinimum (lines : List MeasuredLine) : Nat :=
  lines.countP (atMinimum minIndent options)

end Runs

section Steps

variable {collected : List LineRecord} {effectiveIndents : List Nat} {minIndent finalLimit : Nat}
  {options : IndentationArgs}

def measured (collected : List LineRecord) (effectiveIndents : List Nat) : List MeasuredLine :=
  collected.zip effectiveIndents

variable (collected effectiveIndents minIndent options) in
def Cursors.above (cursors : Cursors) : List MeasuredLine :=
  upRun minIndent options cursors.iCounterMinIndent
    ((measured collected effectiveIndents).take (cursors.i + 1).toNat).reverse

variable (collected effectiveIndents minIndent options) in
def Cursors.below (cursors : Cursors) : List MeasuredLine :=
  downRun minIndent options cursors.jCounterMinIndent
    ((measured collected effectiveIndents).drop cursors.j)

variable (collected) in
structure Cursors.Ready (cursors : Cursors) : Prop where
  inside : cursors.i < collected.length
  upCounter : cursors.iCounterMinIndent < 2 ^ 31
  downCounter : cursors.j < collected.length → cursors.jCounterMinIndent ≤ 1

variable {index : Nat}

theorem elementAt_of_lt {α : Type} {values : List α} (present : index < values.length) :
    elementAt values index = .ok values[index] := by
  simp [elementAt, present]

theorem lines_above (same : effectiveIndents.length = collected.length)
    (present : index < collected.length) :
    ((measured collected effectiveIndents).take (index + 1)).reverse =
      (collected[index], effectiveIndents[index]) ::
        ((measured collected effectiveIndents).take index).reverse := by
  have inside : index < (measured collected effectiveIndents).length := by
    simp [measured, same, present]
  rw [List.take_succ_eq_append_getElem inside, List.reverse_append]
  simp [measured]

theorem lines_below (same : effectiveIndents.length = collected.length)
    (present : index < collected.length) :
    (measured collected effectiveIndents).drop index =
      (collected[index], effectiveIndents[index]) ::
        (measured collected effectiveIndents).drop (index + 1) := by
  have inside : index < (measured collected effectiveIndents).length := by
    simp [measured, same, present]
  rw [List.drop_eq_getElem_cons inside]
  simp [measured]

variable (minIndent options) in
def Cursors.up (cursors : Cursors) (line : MeasuredLine) : Cursors :=
  { cursors with
    i := cursors.i - 1
    iCounterMinIndent := cursors.iCounterMinIndent + countAtMinimum minIndent options [line]
    out := line.1 :: cursors.out }

variable (minIndent options) in
def Cursors.down (cursors : Cursors) (line : MeasuredLine) : Cursors :=
  { cursors with
    j := cursors.j + 1
    jCounterMinIndent := cursors.jCounterMinIndent + countAtMinimum minIndent options [line]
    out := cursors.out ++ [line.1] }

variable {cursors : Cursors}

theorem above_of_index (same : effectiveIndents.length = collected.length) (at_ : cursors.i = index)
    (present : index < collected.length) :
    cursors.above collected effectiveIndents minIndent options =
      upRun minIndent options cursors.iCounterMinIndent
        ((collected[index], effectiveIndents[index]) ::
          ((measured collected effectiveIndents).take index).reverse) := by
  have next : (cursors.i + 1).toNat = index + 1 := by omega
  rw [Cursors.above, next, lines_above same present]

theorem above_of_stopped (stopped : cursors.i < 0) :
    cursors.above collected effectiveIndents minIndent options = [] := by
  have none : (cursors.i + 1).toNat = 0 := by omega
  simp [Cursors.above, none, upRun]

variable (collected effectiveIndents minIndent options) in
theorem above_up (at_ : cursors.i = index) (line : MeasuredLine) :
    (cursors.up minIndent options line).above collected effectiveIndents minIndent options =
      upRun minIndent options
        (cursors.iCounterMinIndent + countAtMinimum minIndent options [line])
        ((measured collected effectiveIndents).take index).reverse := by
  have next : (cursors.i - 1 + 1).toNat = index := by omega
  simp only [Cursors.above, Cursors.up, next]

theorem countAtMinimum_single (line : MeasuredLine) :
    countAtMinimum minIndent options [line] =
      if atMinimum minIndent options line then 1 else 0 := by
  simp [countAtMinimum, List.countP_cons]

theorem takeAbove_of_index (same : effectiveIndents.length = collected.length)
    (at_ : cursors.i = index) (present : index < collected.length) {line : MeasuredLine}
    (here : line = (collected[index], effectiveIndents[index])) :
    takeAbove collected effectiveIndents minIndent options cursors =
      if line.2 < minIndent then .ok ({ cursors with i := -1 }, 0)
      else if atMinimum minIndent options line then
        if options.includeHeader && line.1.isComment || cursors.iCounterMinIndent == 0 then
          if cursors.iCounterMinIndent + countAtMinimum minIndent options [line] < 2 ^ 31 then
            .ok (cursors.up minIndent options line, 1)
          else .error .addOverflow
        else .ok ({ cursors with i := -1 }, 0)
      else .ok (cursors.up minIndent options line, 1) := by
  have positive : (0 : Int) ≤ index := Int.natCast_nonneg index
  subst here
  simp only [takeAbove, at_, if_pos positive, Int.toNat_natCast, elementAt_of_lt present,
    elementAt_of_lt (same ▸ present), bind, Except.bind, countAtMinimum_single, Cursors.up]
  by_cases shallow : effectiveIndents[index] < minIndent
  · rw [if_pos shallow, if_neg (by omega)]
    rfl
  · rw [if_neg shallow, if_pos (by omega)]
    cases counted : atMinimum minIndent options (collected[index], effectiveIndents[index]) with
    | false =>
      simp only [atMinimum] at counted
      rw [counted]
      rfl
    | true =>
      simp only [atMinimum] at counted
      rw [if_pos counted, if_pos rfl]
      split
      · simp only [checkedIncrement, if_true]
        by_cases fits : cursors.iCounterMinIndent + 1 < 2 ^ 31
        · rw [if_pos fits, if_pos fits]
          rfl
        · rw [if_neg fits, if_neg fits]
      · rfl

theorem takeBelow_of_index (same : effectiveIndents.length = collected.length)
    (ready : cursors.Ready collected) (present : cursors.j < collected.length) {line : MeasuredLine}
    (here : line = (collected[cursors.j], effectiveIndents[cursors.j])) :
    takeBelow collected effectiveIndents minIndent options cursors =
      if line.2 < minIndent then .ok ({ cursors with j := collected.length }, 0)
      else if atMinimum minIndent options line then
        if cursors.jCounterMinIndent > 0 then
          .ok ({ cursors with
            j := collected.length
            jCounterMinIndent := cursors.jCounterMinIndent + 1 }, 0)
        else .ok (cursors.down minIndent options line, 1)
      else .ok (cursors.down minIndent options line, 1) := by
  have counter := ready.downCounter present
  subst here
  simp only [takeBelow, if_pos present, elementAt_of_lt present,
    elementAt_of_lt (same ▸ present), bind, Except.bind, Cursors.down, countAtMinimum_single]
  by_cases shallow : effectiveIndents[cursors.j] < minIndent
  · rw [if_pos shallow, if_neg (by omega)]
    rfl
  · rw [if_neg shallow, if_pos (by omega)]
    cases counted : atMinimum minIndent options
        (collected[cursors.j], effectiveIndents[cursors.j]) with
    | false =>
      simp only [atMinimum] at counted
      rw [counted]
      rfl
    | true =>
      have fits : cursors.jCounterMinIndent + 1 < 2 ^ 31 := by omega
      simp only [atMinimum] at counted
      rw [if_pos counted, if_pos rfl]
      simp only [checkedIncrement, if_pos fits, if_true]
      split <;> rfl

variable (collected effectiveIndents minIndent options) in
structure Cursors.At (cursors : Cursors) (counter : Nat) (above below : List MeasuredLine)
    (out : List LineRecord) : Prop where
  ready : cursors.Ready collected
  counter : cursors.iCounterMinIndent = counter
  above : cursors.above collected effectiveIndents minIndent options = above
  below : cursors.below collected effectiveIndents minIndent options = below
  out : cursors.out = out

variable {cursors : Cursors} {counter : Nat} {above below : List MeasuredLine}
  {out : List LineRecord} {line : MeasuredLine}

theorem takeAbove_nil (same : effectiveIndents.length = collected.length)
    (at_ : cursors.At collected effectiveIndents minIndent options counter [] below out) :
    ∃ next, takeAbove collected effectiveIndents minIndent options cursors = .ok (next, 0) ∧
      next.At collected effectiveIndents minIndent options counter [] below out := by
  have inside := at_.ready.inside
  by_cases more : 0 ≤ cursors.i
  · obtain ⟨index, place⟩ := Int.eq_ofNat_of_zero_le more
    have present : index < collected.length := by omega
    refine ⟨{ cursors with i := -1 }, ?_, ?_⟩
    · have none := at_.above
      rw [above_of_index same place present, upRun] at none
      rw [takeAbove_of_index same place present rfl]
      split_ifs at none ⊢ <;> rfl
    · exact ⟨⟨by simp; omega, at_.ready.upCounter, at_.ready.downCounter⟩, at_.counter,
        above_of_stopped (by simp), at_.below, at_.out⟩
  · refine ⟨cursors, ?_, at_⟩
    simp only [takeAbove, if_neg more]
    rfl

theorem takeAbove_cons (same : effectiveIndents.length = collected.length)
    (at_ : cursors.At collected effectiveIndents minIndent options counter (line :: above) below
      out) :
    (counter + countAtMinimum minIndent options [line] < 2 ^ 31 →
      ∃ next, takeAbove collected effectiveIndents minIndent options cursors = .ok (next, 1) ∧
        next.At collected effectiveIndents minIndent options
          (counter + countAtMinimum minIndent options [line]) above below (line.1 :: out)) ∧
    (¬counter + countAtMinimum minIndent options [line] < 2 ^ 31 →
      takeAbove collected effectiveIndents minIndent options cursors = .error .addOverflow) := by
  have inside := at_.ready.inside
  have more : 0 ≤ cursors.i := by
    by_contra stopped
    have none := at_.above
    rw [above_of_stopped (by omega)] at none
    cases none
  obtain ⟨index, place⟩ := Int.eq_ofNat_of_zero_le more
  have present : index < collected.length := by omega
  have taken := at_.above
  have up := above_up collected effectiveIndents minIndent options place line
  have fits := at_.ready.upCounter
  rw [← at_.counter, ← at_.out]
  have arrives (enough : cursors.iCounterMinIndent + countAtMinimum minIndent options [line] < 2 ^ 31)
      (run : upRun minIndent options
        (cursors.iCounterMinIndent + countAtMinimum minIndent options [line])
        ((measured collected effectiveIndents).take index).reverse = above) :
      (cursors.up minIndent options line).At collected effectiveIndents minIndent options
        (cursors.iCounterMinIndent + countAtMinimum minIndent options [line]) above below
        (line.1 :: cursors.out) :=
    ⟨⟨by simp only [Cursors.up]; omega, enough, at_.ready.downCounter⟩, rfl, up.trans run,
      at_.below, rfl⟩
  rw [above_of_index same place present, upRun] at taken
  split_ifs at taken with shallow counted allowed
  · obtain ⟨rfl, run⟩ := List.cons.inj taken
    rw [takeAbove_of_index same place present rfl, if_neg shallow, if_pos counted, if_pos allowed]
    constructor
    · intro enough
      refine ⟨_, if_pos enough, arrives enough ?_⟩
      rw [countAtMinimum_single, if_pos counted]
      exact run
    · exact fun many => if_neg many
  · obtain ⟨rfl, run⟩ := List.cons.inj taken
    have free : countAtMinimum minIndent options [(collected[index], effectiveIndents[index])] = 0 := by
      rw [countAtMinimum_single, if_neg counted]
    rw [takeAbove_of_index same place present rfl, if_neg shallow, if_neg counted]
    constructor
    · intro enough
      refine ⟨_, rfl, arrives enough ?_⟩
      rw [free]
      exact run
    · intro many
      omega

theorem below_of_end (same : effectiveIndents.length = collected.length)
    (ended : collected.length ≤ cursors.j) :
    cursors.below collected effectiveIndents minIndent options = [] := by
  have none : (measured collected effectiveIndents).drop cursors.j = [] := by
    simp [measured, same, ended]
  simp [Cursors.below, none, downRun]

theorem takeBelow_nil (same : effectiveIndents.length = collected.length)
    (at_ : cursors.At collected effectiveIndents minIndent options counter above [] out) :
    ∃ next, takeBelow collected effectiveIndents minIndent options cursors = .ok (next, 0) ∧
      next.At collected effectiveIndents minIndent options counter above [] out := by
  by_cases present : cursors.j < collected.length
  · have none := at_.below
    rw [Cursors.below, lines_below same present, downRun] at none
    have ended (stopped : Cursors) (end_ : stopped.j = collected.length)
        (upper : stopped.i = cursors.i ∧ stopped.iCounterMinIndent = cursors.iCounterMinIndent ∧
          stopped.out = cursors.out) :
        stopped.At collected effectiveIndents minIndent options counter above [] out := by
      refine ⟨⟨?_, ?_, by omega⟩, ?_, ?_, below_of_end same (by omega), ?_⟩
      · exact upper.1 ▸ at_.ready.inside
      · exact upper.2.1 ▸ at_.ready.upCounter
      · exact upper.2.1.trans at_.counter
      · rw [Cursors.above, upper.1, upper.2.1]
        exact at_.above
      · exact upper.2.2.trans at_.out
    rw [takeBelow_of_index same at_.ready present rfl]
    split_ifs at none ⊢
    · exact ⟨_, rfl, ended _ rfl ⟨rfl, rfl, rfl⟩⟩
    · exact ⟨_, rfl, ended _ rfl ⟨rfl, rfl, rfl⟩⟩
  · refine ⟨cursors, ?_, at_⟩
    simp only [takeBelow, if_neg present]
    rfl

theorem takeBelow_cons (same : effectiveIndents.length = collected.length)
    (at_ : cursors.At collected effectiveIndents minIndent options counter above (line :: below)
      out) :
    ∃ next, takeBelow collected effectiveIndents minIndent options cursors = .ok (next, 1) ∧
      next.At collected effectiveIndents minIndent options counter above below
        (out ++ [line.1]) := by
  have present : cursors.j < collected.length := by
    by_contra ended
    have none := at_.below
    rw [below_of_end same (by omega)] at none
    cases none
  have taken := at_.below
  have few := at_.ready.downCounter present
  rw [Cursors.below, lines_below same present, downRun] at taken
  have arrives (run : downRun minIndent options
      (cursors.jCounterMinIndent + countAtMinimum minIndent options [line])
      ((measured collected effectiveIndents).drop (cursors.j + 1)) = below)
      (few : cursors.jCounterMinIndent + countAtMinimum minIndent options [line] ≤ 1) :
      (cursors.down minIndent options line).At collected effectiveIndents minIndent options counter
        above below (out ++ [line.1]) :=
    ⟨⟨at_.ready.inside, at_.ready.upCounter, fun _ => few⟩, at_.counter, at_.above, run,
      by rw [← at_.out]; rfl⟩
  rw [takeBelow_of_index same at_.ready present rfl]
  split_ifs at taken with shallow counted many
  · obtain ⟨rfl, run⟩ := List.cons.inj taken
    rw [if_neg shallow, if_pos counted, if_neg many]
    refine ⟨_, rfl, arrives ?_ ?_⟩ <;> rw [countAtMinimum_single, if_pos counted]
    · exact run
    · omega
  · obtain ⟨rfl, run⟩ := List.cons.inj taken
    rw [if_neg shallow, if_neg counted]
    refine ⟨_, rfl, arrives ?_ ?_⟩ <;> rw [countAtMinimum_single, if_neg counted]
    · exact run
    · omega

theorem countAtMinimum_cons (line : MeasuredLine) (lines : List MeasuredLine) :
    countAtMinimum minIndent options (line :: lines) =
      countAtMinimum minIndent options [line] + countAtMinimum minIndent options lines := by
  simp [countAtMinimum, List.countP_cons, Nat.add_comm]

def grown (budget : Nat) (above below : List MeasuredLine) (out : List LineRecord) :
    List LineRecord :=
  ((above.take (firstShare budget above.length below.length)).map Prod.fst).reverse ++ out ++
    (below.take (secondShare budget above.length below.length)).map Prod.fst

variable (minIndent options) in
def countTaken (budget : Nat) (above below : List MeasuredLine) : Nat :=
  countAtMinimum minIndent options (above.take (firstShare budget above.length below.length))

section Shares

variable (minIndent options) (budget : Nat) (first second : MeasuredLine) (above below : List MeasuredLine)
  (out : List LineRecord)

theorem taken_spent :
    grown 0 above below out = out ∧ countTaken minIndent options 0 above below = 0 := by
  simp [grown, countTaken, countAtMinimum, shares_spent]

theorem taken_none :
    grown budget [] [] out = out ∧ countTaken minIndent options budget [] [] = 0 := by
  simp [grown, countTaken, countAtMinimum]

theorem taken_second :
    grown (budget + 1) [] (second :: below) out = grown budget [] below (out ++ [second.1]) ∧
      countTaken minIndent options (budget + 1) [] (second :: below) =
        countTaken minIndent options budget [] below := by
  have shares := shares_second budget below.length
  simp [grown, countTaken, shares]

theorem taken_last :
    grown 1 (first :: above) below out = first.1 :: out ∧
      countTaken minIndent options 1 (first :: above) below =
        countAtMinimum minIndent options [first] := by
  have shares := shares_last above.length below.length
  simp [grown, countTaken, shares]

theorem taken_first :
    grown (budget + 1) (first :: above) [] out = grown budget above [] (first.1 :: out) ∧
      countTaken minIndent options (budget + 1) (first :: above) [] =
        countAtMinimum minIndent options [first] + countTaken minIndent options budget above [] := by
  have shares := shares_first budget above.length
  simp [grown, countTaken, shares, countAtMinimum_cons first (above.take _)]

theorem taken_both :
    grown (budget + 2) (first :: above) (second :: below) out =
        grown budget above below (first.1 :: out ++ [second.1]) ∧
      countTaken minIndent options (budget + 2) (first :: above) (second :: below) =
        countAtMinimum minIndent options [first] +
          countTaken minIndent options budget above below := by
  have shares := shares_both budget above.length below.length
  simp [grown, countTaken, shares, countAtMinimum_cons first (above.take _)]

theorem first_is_taken :
    countAtMinimum minIndent options [first] ≤
      countTaken minIndent options (budget + 1) (first :: above) below := by
  have share : firstShare (budget + 1) (first :: above).length below.length ≠ 0 := by
    simp only [firstShare, List.length_cons]
    omega
  obtain ⟨more, shared⟩ := Nat.exists_eq_succ_of_ne_zero share
  rw [countTaken, shared, List.take_succ_cons, countAtMinimum_cons first (above.take more)]
  omega

end Shares

theorem expand_correct (same : effectiveIndents.length = collected.length) {turns : Nat}
    (at_ : cursors.At collected effectiveIndents minIndent options counter above below out)
    (enough : finalLimit - out.length < turns) :
    expand collected effectiveIndents minIndent finalLimit options turns cursors =
      if counter + countTaken minIndent options (finalLimit - out.length) above below < 2 ^ 31 then
        .ok (some (grown (finalLimit - out.length) above below out))
      else .error .addOverflow := by
  induction turns generalizing cursors counter above below out with
  | zero => omega
  | succ turns ih =>
    simp only [expand, at_.out]
    have counterFits := at_.counter ▸ at_.ready.upCounter
    by_cases room : out.length < finalLimit
    · rw [if_pos room]
      obtain ⟨budget, left⟩ : ∃ budget, finalLimit - out.length = budget + 1 :=
        ⟨finalLimit - out.length - 1, by omega⟩
      rw [left]
      cases above with
      | nil =>
        obtain ⟨next, upper, after⟩ := takeAbove_nil same at_
        simp only [upper, bind, Except.bind, after.out]
        rw [if_neg (by omega)]
        cases below with
        | nil =>
          obtain ⟨last, lower, final⟩ := takeBelow_nil same after
          have taken := taken_none minIndent options (budget + 1) out
          rw [taken.1, taken.2, Nat.add_zero, if_pos counterFits]
          simp only [lower, final.out]
          rfl
        | cons line below =>
          obtain ⟨last, lower, final⟩ := takeBelow_cons same after
          have taken := taken_second minIndent options budget line below out
          have spent : finalLimit - (out ++ [line.1]).length = budget := by simp; omega
          rw [taken.1, taken.2, ← spent, ← ih final (by omega)]
          simp only [lower]
          rfl
      | cons line above =>
        by_cases fits : counter + countAtMinimum minIndent options [line] < 2 ^ 31
        · obtain ⟨next, upper, after⟩ := (takeAbove_cons same at_).1 fits
          simp only [upper, bind, Except.bind, after.out]
          by_cases full : finalLimit ≤ (line.1 :: out).length
          · have one : budget = 0 := by
              simp only [List.length_cons] at full
              omega
            have taken := taken_last minIndent options line above below out
            subst one
            rw [if_pos full, taken.1, taken.2, if_pos fits]
            rfl
          · rw [if_neg full]
            simp only [List.length_cons] at full
            cases below with
            | nil =>
              obtain ⟨last, lower, final⟩ := takeBelow_nil same after
              have taken := taken_first minIndent options budget line above out
              have spent : finalLimit - (line.1 :: out).length = budget := by simp; omega
              rw [taken.1, taken.2, ← Nat.add_assoc, ← spent, ← ih final (by omega)]
              simp only [lower]
              rfl
            | cons second below =>
              obtain ⟨last, lower, final⟩ := takeBelow_cons same after
              obtain ⟨fewer, rfl⟩ : ∃ fewer, budget = fewer + 1 := ⟨budget - 1, by omega⟩
              have taken := taken_both minIndent options fewer line second above below out
              have spent : finalLimit - (line.1 :: out ++ [second.1]).length = fewer := by
                simp; omega
              rw [taken.1, taken.2, ← Nat.add_assoc, ← spent, ← ih final (by omega)]
              simp only [lower]
              rfl
        · have overflows := (takeAbove_cons same at_).2 fits
          have among := first_is_taken minIndent options budget line above below
          rw [if_neg (by omega)]
          simp only [overflows, bind, Except.bind]
    · have spent : finalLimit - out.length = 0 := by omega
      have taken := taken_spent minIndent options above below out
      rw [if_neg room, spent, taken.1, taken.2, Nat.add_zero, if_pos counterFits]
      rfl

end Steps

end OpenJax.Tools.ReadFile
