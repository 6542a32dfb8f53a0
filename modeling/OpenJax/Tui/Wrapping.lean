import OpenJax.Shared.ByteOffsets

set_option autoImplicit false

namespace OpenJax.Tui

open OpenJax.Shared

/-- The two width functions of the unicode-width crate: a control character has no width. -/
structure UnicodeWidth where
  char : Char → Option Nat
  str : List Char → Nat

inductive Alignment where
  | left
  | center
  | right
  deriving DecidableEq

structure Span (Style : Type) where
  content : List Char
  style : Style
  deriving DecidableEq

structure Line (Style : Type) where
  style : Style
  alignment : Option Alignment
  spans : List (Span Style)
  deriving DecidableEq

namespace UnicodeWidth

def columns (widths : UnicodeWidth) (c : Char) : Nat := max ((widths.char c).getD 0) 1

def Bounded (widths : UnicodeWidth) : Prop :=
  ∀ text, widths.str text ≤ (text.map widths.columns).sum

end UnicodeWidth

namespace Line

variable {Style : Type}

def chars (line : Line Style) : List (Char × Style) :=
  line.spans.flatMap fun span => span.content.map fun c => (c, span.style)

def width (widths : UnicodeWidth) (line : Line Style) : Nat :=
  (line.spans.map fun span => widths.str span.content).sum

end Line

def fitEnd (widths : UnicodeWidth) (remainingWidth : Nat) : Nat → Nat → Nat → List Char → Nat
  | _, _, fit, [] => fit
  | idx, width, fit, c :: rest =>
      let w := widths.columns c
      if width + w > remainingWidth then fit
      else fitEnd widths remainingWidth (idx + c.utf8Size) (width + w) (idx + c.utf8Size) rest

def takeFitPrefix (widths : UnicodeWidth) (text : List Char) (remainingWidth : Nat) :
    Option (List Char × Nat) :=
  if remainingWidth = 0 then some ([], 0)
  else
    let fit := fitEnd widths remainingWidth 0 0 0 text
    (splitAtByte text fit).map fun parts => (parts.1, fit)

structure WrapState (Style : Type) where
  result : List (Line Style)
  current : List (Span Style)
  currentW : Nat

section

variable {Style : Type} (widths : UnicodeWidth)

def WrapState.row (line : Line Style) (state : WrapState Style) : Line Style where
  style := line.style
  alignment := none
  spans := state.current

def WrapState.push (content : List Char) (style : Style) (state : WrapState Style) :
    WrapState Style :=
  { state with current := state.current ++ [⟨content, style⟩] }

def WrapState.flush (line : Line Style) (state : WrapState Style) : WrapState Style where
  result := state.result ++ [state.row line]
  current := []
  currentW := 0

/-- The loop on what remains of a span: nothing when a slice panics or the fuel is used up. -/
def wrapRemaining (line : Line Style) (width : Nat) (style : Style) :
    Nat → WrapState Style → List Char → Option (WrapState Style)
  | _, state, [] => some state
  | 0, _, _ :: _ => none
  | fuel + 1, state, c :: rest => do
      let (take, takeBytes) ← takeFitPrefix widths (c :: rest) (width - state.currentW)
      if take.isEmpty then
        if !state.current.isEmpty then
          wrapRemaining line width style fuel (state.flush line) (c :: rest)
        else
          -- A character that no row can hold has a row of its own.
          let (_, remaining) ← splitAtByte (c :: rest) (byteSize [c])
          wrapRemaining line width style fuel ((state.push [c] style).flush line) remaining
      else
        let state := { state.push take style with currentW := state.currentW + widths.str take }
        let (_, remaining) ← splitAtByte (c :: rest) takeBytes
        let state := if state.currentW ≥ width then state.flush line else state
        wrapRemaining line width style fuel state remaining

def wrapSpans (line : Line Style) (width fuel : Nat) :
    WrapState Style → List (Span Style) → Option (WrapState Style)
  | state, [] => some state
  | state, span :: rest =>
      (wrapRemaining widths line width span.style fuel state span.content).bind fun state =>
        wrapSpans line width fuel state rest

def wordWrapLine (fuel : Nat) (line : Line Style) (width : Nat) : Option (List (Line Style)) := do
  let state ← wrapSpans widths line width fuel ⟨[], [], 0⟩ line.spans
  let result := if !state.current.isEmpty then (state.flush line).result else state.result
  return if result.isEmpty then [line] else result

def wordWrapLinesBorrowed (fuel : Nat) (lines : List (Line Style)) (widthOrOptions : Nat) :
    Option (List (Line Style)) :=
  let width := max widthOrOptions 1
  lines.foldlM (fun out line => (wordWrapLine widths fuel line width).map (out ++ ·)) []

end

section

variable {Style : Type} {widths : UnicodeWidth} {line : Line Style} {width : Nat}

theorem Line.width_le (bounded : widths.Bounded) (line : Line Style) :
    line.width widths ≤ (line.chars.map fun c => widths.columns c.1).sum := by
  rw [Line.width, Line.chars]
  induction line.spans with
  | nil => exact Nat.zero_le _
  | cons span rest ih =>
    have own := bounded span.content
    rw [List.map_cons, List.sum_cons, List.flatMap_cons, List.map_append, List.sum_append,
      List.map_map]
    exact Nat.add_le_add own ih

theorem fitEnd_eq (widths : UnicodeWidth) {remainingWidth : Nat} (idx : Nat) {width : Nat}
    (fits : width ≤ remainingWidth) (text : List Char) :
    ∃ take rest, text = take ++ rest ∧
      fitEnd widths remainingWidth idx width idx text = idx + byteSize take ∧
      width + (take.map widths.columns).sum ≤ remainingWidth := by
  induction text generalizing idx width with
  | nil => exact ⟨[], [], rfl, rfl, by simpa using fits⟩
  | cons c rest ih =>
    rw [fitEnd]
    split
    · exact ⟨[], c :: rest, rfl, rfl, by simpa using fits⟩
    next room =>
      obtain ⟨take, left, whole, ends, within⟩ :=
        ih (idx + c.utf8Size) (show width + widths.columns c ≤ remainingWidth by omega)
      refine ⟨c :: take, left, by rw [whole, List.cons_append], ?_, ?_⟩
      · rw [ends, byteSize_cons, Nat.add_assoc]
      · rw [List.map_cons, List.sum_cons]
        omega

theorem takeFitPrefix_eq (widths : UnicodeWidth) (text : List Char) (remainingWidth : Nat) :
    ∃ take rest, text = take ++ rest ∧
      takeFitPrefix widths text remainingWidth = some (take, byteSize take) ∧
      (take.map widths.columns).sum ≤ remainingWidth := by
  unfold takeFitPrefix
  split
  · exact ⟨[], text, rfl, rfl, Nat.zero_le _⟩
  · obtain ⟨take, rest, rfl, ends, within⟩ := fitEnd_eq widths 0 remainingWidth.zero_le text
    rw [Nat.zero_add] at ends within
    refine ⟨take, rest, rfl, ?_, within⟩
    rw [ends]
    dsimp only
    rw [splitAtByte_front, Option.map_some]

def Line.Fits (widths : UnicodeWidth) (width : Nat) (row : Line Style) : Prop :=
  row.width widths ≤ width ∨
    ∃ c style, row.chars = [(c, style)] ∧ width < row.width widths

namespace WrapState

structure Sound (widths : UnicodeWidth) (width : Nat) (line : Line Style)
    (laid : List (Char × Style)) (state : WrapState Style) : Prop where
  text : state.result.flatMap Line.chars ++ (state.row line).chars = laid
  rows : ∀ row ∈ state.result, row.Fits widths width
  counted : (state.row line).width widths = state.currentW
  room : state.currentW ≤ width

variable {state : WrapState Style} {laid : List (Char × Style)}

theorem flush_sound (text : state.result.flatMap Line.chars ++ (state.row line).chars = laid)
    (rows : ∀ row ∈ state.result, row.Fits widths width)
    (fits : (state.row line).Fits widths width) :
    (state.flush line).Sound widths width line laid where
  text := by
    rw [flush, List.flatMap_append, List.flatMap_singleton, ← text]
    exact List.append_nil _
  rows row member := by
    rcases List.mem_append.mp member with earlier | last
    · exact rows row earlier
    · cases List.mem_singleton.mp last
      exact fits
  counted := rfl
  room := Nat.zero_le _

theorem Sound.flush (sound : state.Sound widths width line laid) :
    (state.flush line).Sound widths width line laid :=
  flush_sound sound.text sound.rows (.inl (by rw [sound.counted]; exact sound.room))

theorem Sound.wide (sound : state.Sound widths width line laid) (fresh : state.current = [])
    (c : Char) (style : Style) :
    ((state.push [c] style).flush line).Sound widths width line (laid ++ [(c, style)]) := by
  have alone : ((state.push [c] style).row line).chars = [(c, style)] := by
    rw [row, push, fresh]
    rfl
  have none : (state.row line).chars = [] := by
    rw [row, fresh]
    rfl
  refine flush_sound ?_ sound.rows ?_
  · rw [alone, ← sound.text, none, List.append_nil]
    rfl
  · rcases Nat.lt_or_ge width (((state.push [c] style).row line).width widths) with wider | within
    · exact .inr ⟨c, style, alone, wider⟩
    · exact .inl within

theorem Sound.take (bounded : widths.Bounded) (sound : state.Sound widths width line laid)
    {content : List Char} (within : (content.map widths.columns).sum ≤ width - state.currentW)
    (style : Style) :
    WrapState.Sound widths width line (laid ++ content.map fun c => (c, style))
      { state.push content style with currentW := state.currentW + widths.str content } where
  text := by
    rw [← sound.text, List.append_assoc]
    simp only [row, push, Line.chars, List.flatMap_append, List.flatMap_singleton]
  rows := sound.rows
  counted := by
    rw [← sound.counted]
    simp only [row, push, Line.width, List.map_append, List.sum_append, List.map_singleton,
      List.sum_singleton]
  room := by
    have short := bounded content
    have room := sound.room
    dsimp only
    omega

def turns (state : WrapState Style) (remaining : List Char) : Nat :=
  2 * remaining.length + if state.current.isEmpty then 0 else 1

theorem turns_flush (remaining : List Char) :
    (state.flush line).turns remaining = 2 * remaining.length := rfl

theorem le_turns (state : WrapState Style) (remaining : List Char) :
    2 * remaining.length ≤ state.turns remaining := Nat.le_add_right _ _

theorem turns_le (state : WrapState Style) (remaining : List Char) :
    state.turns remaining ≤ 2 * remaining.length + 1 := by
  unfold turns
  split <;> omega

end WrapState

theorem wrapRemaining_sound (bounded : widths.Bounded) (style : Style) {fuel : Nat}
    {state : WrapState Style} {laid : List (Char × Style)}
    (sound : state.Sound widths width line laid) {remaining : List Char}
    (enough : state.turns remaining ≤ fuel) :
    ∃ next, wrapRemaining widths line width style fuel state remaining = some next ∧
      next.Sound widths width line (laid ++ remaining.map fun c => (c, style)) := by
  induction fuel generalizing state laid remaining with
  | zero =>
    cases remaining with
    | nil => exact ⟨state, rfl, by simpa using sound⟩
    | cons c rest => simp [WrapState.turns] at enough
  | succ fuel ih =>
    cases remaining with
    | nil => exact ⟨state, rfl, by simpa using sound⟩
    | cons c rest =>
      obtain ⟨take, left, whole, taken, within⟩ :=
        takeFitPrefix_eq widths (c :: rest) (width - state.currentW)
      rw [wrapRemaining, taken]
      simp only [Option.bind_eq_bind, Option.bind_some]
      split
      next empty =>
        rw [WrapState.turns] at enough
        split
        next begun =>
          -- A begun row has no room: it is flushed, and the same text is tried again.
          rw [if_neg (by simpa using begun)] at enough
          exact ih sound.flush (by rw [WrapState.turns_flush]; omega)
        next fresh =>
          have split := splitAtByte_front [c] rest
          rw [List.singleton_append] at split
          rw [split, Option.bind_some]
          rw [List.length_cons] at enough
          obtain ⟨next, ran, kept⟩ := ih (sound.wide (by simpa using fresh) c style)
            (show ((state.push [c] style).flush line).turns rest ≤ fuel by
              rw [WrapState.turns_flush]
              omega)
          exact ⟨next, ran, by simpa using kept⟩
      next some =>
        have shorter : left.length < (c :: rest).length := by
          rw [whole, List.length_append]
          have filled := List.length_pos_of_ne_nil (show take ≠ [] by simpa using some)
          omega
        rw [whole, splitAtByte_front, Option.bind_some]
        dsimp only
        have grown := sound.take bounded within style
        rw [List.map_append, ← List.append_assoc]
        have least := Nat.le_trans (state.le_turns (c :: rest)) enough
        split
        · exact ih grown.flush (by rw [WrapState.turns_flush]; omega)
        · refine ih grown ?_
          have most := WrapState.turns_le
            { state.push take style with currentW := state.currentW + widths.str take } left
          omega

theorem wrapSpans_sound (bounded : widths.Bounded) {fuel : Nat} {state : WrapState Style}
    {laid : List (Char × Style)} (sound : state.Sound widths width line laid)
    {spans : List (Span Style)} (enough : ∀ span ∈ spans, 2 * span.content.length < fuel) :
    ∃ next, wrapSpans widths line width fuel state spans = some next ∧
      next.Sound widths width line
        (laid ++ spans.flatMap fun span => span.content.map fun c => (c, span.style)) := by
  induction spans generalizing state laid with
  | nil => exact ⟨state, rfl, by simpa using sound⟩
  | cons span rest ih =>
    have most := state.turns_le span.content
    have own := enough span List.mem_cons_self
    obtain ⟨mid, ran, kept⟩ := wrapRemaining_sound bounded span.style sound
      (show state.turns span.content ≤ fuel by omega)
    obtain ⟨next, later, whole⟩ := ih kept fun other member =>
      enough other (List.mem_cons_of_mem _ member)
    refine ⟨next, by rw [wrapSpans, ran, Option.bind_some, later], ?_⟩
    rw [List.flatMap_cons, ← List.append_assoc]
    exact whole

def Wraps (widths : UnicodeWidth) (width : Nat) (line : Line Style) (rows : List (Line Style)) :
    Prop :=
  rows.flatMap Line.chars = line.chars ∧ ∀ row ∈ rows, row.Fits widths width

theorem wordWrapLine_wraps (bounded : widths.Bounded) (width : Nat) {fuel : Nat}
    (enough : ∀ span ∈ line.spans, 2 * span.content.length < fuel) :
    ∃ rows, wordWrapLine widths fuel line width = some rows ∧ Wraps widths width line rows := by
  have start : WrapState.Sound widths width line [] ⟨[], [], 0⟩ :=
    ⟨rfl, fun _ none => (by cases none), rfl, Nat.zero_le _⟩
  obtain ⟨state, ran, sound⟩ := wrapSpans_sound bounded start enough
  rw [List.nil_append] at sound
  obtain ⟨rows, same, whole⟩ : ∃ rows, (if !state.current.isEmpty then (state.flush line).result
      else state.result) = rows ∧ Wraps widths width line rows := by
    split
    next begun =>
      have last := sound.flush.text
      exact ⟨_, rfl, (List.append_nil _).symm.trans last, sound.flush.rows⟩
    next done =>
      have done : state.current = [] := by simpa using done
      have last := sound.text
      rw [WrapState.row, done] at last
      exact ⟨_, rfl, (List.append_nil _).symm.trans last, sound.rows⟩
  rw [wordWrapLine, ran]
  refine ⟨_, rfl, ?_⟩
  rw [same]
  split
  next empty =>
    -- A line without text is its own row.
    rw [List.isEmpty_iff] at empty
    have blank : line.chars = [] := by rw [← whole.1, empty, List.flatMap_nil]
    refine ⟨List.flatMap_singleton _ _, fun row member => ?_⟩
    cases List.mem_singleton.mp member
    have short := Line.width_le bounded line
    rw [blank] at short
    exact .inl (Nat.le_trans short (Nat.zero_le _))
  · exact whole

/-- With turns enough for each span the loops end, and each line is wrapped on its own. -/
theorem wordWrapLinesBorrowed_wraps (bounded : widths.Bounded) (lines : List (Line Style))
    (widthOrOptions : Nat) {fuel : Nat}
    (enough : ∀ line ∈ lines, ∀ span ∈ line.spans, 2 * span.content.length < fuel) :
    ∃ rows, wordWrapLinesBorrowed widths fuel lines widthOrOptions = some rows.flatten ∧
      List.Forall₂ (Wraps widths (max 1 widthOrOptions)) lines rows := by
  have all (out : List (Line Style)) : ∃ rows,
      lines.foldlM (fun out line =>
        (wordWrapLine widths fuel line (max widthOrOptions 1)).map (out ++ ·)) out =
          some (out ++ rows.flatten) ∧
        List.Forall₂ (Wraps widths (max 1 widthOrOptions)) lines rows := by
    induction lines generalizing out with
    | nil => exact ⟨[], by simp, .nil⟩
    | cons line rest ih =>
      obtain ⟨own, ran, wraps⟩ := wordWrapLine_wraps bounded (max widthOrOptions 1)
        (enough line List.mem_cons_self)
      obtain ⟨rows, later, others⟩ := ih (fun other member =>
        enough other (List.mem_cons_of_mem _ member)) (out ++ own)
      refine ⟨own :: rows, ?_, .cons (Nat.max_comm _ _ ▸ wraps) others⟩
      rw [List.foldlM_cons, ran, Option.map_some, Option.bind_eq_bind, Option.bind_some, later,
        List.flatten_cons, List.append_assoc]
  exact all []

end

def exampleWidths : UnicodeWidth where
  char c :=
    if c.toNat < 0x20 then none else if 0x300 ≤ c.toNat ∧ c.toNat < 0x370 then some 0
    else if 0x4E00 ≤ c.toNat ∧ c.toNat < 0xA000 then some 2 else some 1
  str text := (text.map fun c =>
    if 0x300 ≤ c.toNat ∧ c.toNat < 0x370 then 0
    else if 0x4E00 ≤ c.toNat ∧ c.toNat < 0xA000 then 2 else 1).sum

theorem exampleWidths_bounded : exampleWidths.Bounded := by
  intro text
  induction text with
  | nil => exact Nat.le_refl _
  | cons c rest ih =>
    have own : exampleWidths.str [c] ≤ exampleWidths.columns c := by
      simp only [UnicodeWidth.columns, exampleWidths, List.map_singleton, List.sum_singleton]
      split_ifs
      all_goals simp
      omega
    exact Nat.add_le_add own ih

theorem wordWrapLinesBorrowed_wraps_narrow :
    ∃ rows, wordWrapLinesBorrowed exampleWidths 5
        [⟨0, none, [⟨['é', '\u0301'], 1⟩, ⟨['你', 'a'], 2⟩]⟩] 1 = some rows.flatten ∧
      List.Forall₂ (Wraps exampleWidths 1)
        [⟨0, none, [⟨['é', '\u0301'], 1⟩, ⟨['你', 'a'], 2⟩]⟩] rows :=
  wordWrapLinesBorrowed_wraps exampleWidths_bounded _ 1 (by decide)

end OpenJax.Tui
