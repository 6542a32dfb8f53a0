import Mathlib.Data.List.TakeWhile
import OpenJax.Shared.ByteOffsets
import OpenJax.Shared.Machine
import OpenJax.Tui.App

set_option autoImplicit false

/-! The line of input with its cursor in bytes, as it is kept: the operations that slice it, and
that they do as the ones on characters. -/

namespace OpenJax.Tui

open Shared Protocol

namespace Bytes

def clampCursorToCharBoundary (app : App) (cursor : Nat) : Nat :=
  if byteSize app.input ≤ cursor then byteSize app.input else floorBoundary app.input cursor

def prevCharBoundary (app : App) (cursor : Nat) : Nat :=
  if cursor = 0 then 0 else floorBoundary app.input (cursor - 1)

def nextCharBoundary (app : App) (cursor : Nat) : Nat :=
  if byteSize app.input ≤ cursor then byteSize app.input
  else
    min (ceilBoundary app.input (byteSize app.input - (cursor + 1)) (cursor + 1))
      (byteSize app.input)

def activeSlashQuery (app : App) : Option (Option String) :=
  let cursor := min (clampCursorToCharBoundary app app.cursor) (byteSize app.input)
  (splitAtByte app.input cursor).bind fun (beforeCursor, _) =>
    let trimmed := trimStart beforeCursor
    let leadingWs := byteSize beforeCursor - byteSize trimmed
    if !(['/'].isPrefixOf trimmed) then some none
    else
      let commandTokenLen := ((words trimmed).head?.map byteSize).getD 0
      if commandTokenLen = 0 then some none
      else
        (splitAtByte trimmed commandTokenLen).map fun (_, later) =>
          if later.any isWhitespace then none
          else if cursor < leadingWs then none
          else some (String.ofList trimmed)

variable (skills : List SlashCommand)

def refreshSlashPalette (app : App) : Option App :=
  if app.pendingApproval.isSome then some app.dismissSlashPalette
  else
    (activeSlashQuery app).map fun active =>
      match active with
      | none => app.dismissSlashPalette
      | some query =>
          let found := matchCommands skills query 5
          { app with slashPalette :=
            ⟨true, query, found, min app.slashPalette.selectedIndex (found.length - 1)⟩ }

def completeSlashSelection (app : App) : Option (App × Bool) :=
  match app.slashPalette.found[app.slashPalette.selectedIndex]? with
  | none => some (app, false)
  | some selected =>
      let input := '/' :: selected.commandName.toList
      let completed := { app with input, cursor := byteSize input }
      if (findExact skills (String.ofList input)).isSome then
        some (completed.dismissSlashPalette, true)
      else (refreshSlashPalette skills completed).map fun refreshed => (refreshed, true)

def appendInput (app : App) (text : List Char) : Option App :=
  let cursor := min (clampCursorToCharBoundary app app.cursor) (byteSize app.input)
  (splitAtByte app.input cursor).bind fun (front, back) =>
    let input := front ++ text ++ back
    refreshSlashPalette skills
      { app with input, cursor := min (cursor + byteSize text) (byteSize input) }

def backspace (app : App) : Option App :=
  if app.input.isEmpty || app.cursor = 0 then some app
  else
    let cursor := clampCursorToCharBoundary app app.cursor
    let prev := prevCharBoundary app cursor
    if cursor < prev then none
    else
      (splitAtByte app.input prev).bind fun (front, _) =>
        (splitAtByte app.input cursor).bind fun (_, back) =>
          refreshSlashPalette skills { app with input := front ++ back, cursor := prev }

def moveCursorLeft (app : App) : Option App :=
  let cursor := clampCursorToCharBoundary app app.cursor
  refreshSlashPalette skills { app with cursor := prevCharBoundary app cursor }

def moveCursorRight (app : App) : Option App :=
  let cursor := clampCursorToCharBoundary app app.cursor
  refreshSlashPalette skills { app with cursor := nextCharBoundary app cursor }

def historyPrev (app : App) : Option App :=
  if app.inputHistory.isEmpty then some app
  else
    let nextIndex :=
      match app.historyNavIndex with
      | some 0 => 0
      | some index => index - 1
      | none => app.inputHistory.length - 1
    let historyNavDraft :=
      match app.historyNavIndex with
      | some _ => app.historyNavDraft
      | none => app.input
    app.inputHistory[nextIndex]?.bind fun input =>
      refreshSlashPalette skills
        { app with
          historyNavDraft, historyNavIndex := some nextIndex, input, cursor := byteSize input }

def historyNext (app : App) : Option App :=
  match app.historyNavIndex with
  | none => some app
  | some current =>
      if app.inputHistory.length ≤ current + 1 then
        refreshSlashPalette skills
          { app with
            historyNavIndex := none
            input := app.historyNavDraft
            cursor := byteSize app.historyNavDraft }
      else
        app.inputHistory[current + 1]?.bind fun input =>
          refreshSlashPalette skills
            { app with historyNavIndex := some (current + 1), input, cursor := byteSize input }

def submitSlashCommandIfExact (app : App) : Option (App × Bool) :=
  match findExact skills (String.ofList (trimChars app.input)) with
  | none => some (app, false)
  | some found =>
      match found.kind with
      | .builtin message replacesInput =>
          if found.commandName = "help" then
            some ((app.setLiveStatus message).clearInput.dismissSlashPalette, true)
          else
            let shown :=
              if replacesInput then
                { app with input := message.toList, cursor := byteSize message.toList }
              else (app.setLiveStatus message).clearInput.dismissSlashPalette
            (refreshSlashPalette skills shown).map fun refreshed => (refreshed, true)
      | .localPicker _ => some (app.openPolicyPicker, true)
      | .sessionAction _ | .skill _ => some (app, false)

def submitInput (app : App) : Option (App × Option SubmitAction) :=
  match app.pendingApproval with
  | some pending => some (app.decideApproval pending)
  | none =>
      match trimChars app.input with
      | [] => some (app, none)
      | '/' :: rest =>
          (submitSlashCommandIfExact skills app).map fun (submitted, handled) =>
            if handled then (submitted, none) else submitted.submitText skills ('/' :: rest)
      | input => some (app.submitUserTurn input)

def inputCursorOffset (app : App) : Option (List Char) :=
  (splitAtByte app.input (min app.cursor (byteSize app.input))).map Prod.fst

section Cursors

variable {app : App} {front back : List Char}

theorem front_le (split : app.input = front ++ back) : byteSize front ≤ byteSize app.input := by
  rw [split, byteSize_append]
  omega

variable (app)

theorem clamp_front (split : app.input = front ++ back) :
    clampCursorToCharBoundary app (byteSize front) = byteSize front := by
  unfold clampCursorToCharBoundary
  split
  next reaches =>
    rw [split, byteSize_append] at reaches ⊢
    omega
  · exact floorBoundary_boundary (split ▸ isCharBoundary_front front back)

theorem prev_front {c : Char} (split : app.input = front ++ c :: back) :
    prevCharBoundary app (byteSize (front ++ [c])) = byteSize front := by
  have positive := c.utf8Size_pos
  have size : byteSize (front ++ [c]) = byteSize front + c.utf8Size := by simp
  have inside : byteSize front + c.utf8Size - 1 = byteSize front + (c.utf8Size - 1) := by omega
  rw [prevCharBoundary, if_neg (by omega), size, inside, split]
  exact floorBoundary_inside (by omega)

theorem next_front {c : Char} (split : app.input = front ++ c :: back) :
    nextCharBoundary app (byteSize front) = byteSize (front ++ [c]) := by
  have positive := c.utf8Size_pos
  have size : byteSize app.input = byteSize front + (c.utf8Size + byteSize back) := by
    rw [split, byteSize_append, byteSize_cons]
  have last : byteSize (front ++ [c]) = byteSize front + c.utf8Size := by simp
  have ends : ceilBoundary (front ++ c :: back) (byteSize app.input - (byteSize front + 1))
      (byteSize front + 1) = byteSize (front ++ [c]) :=
    ceilBoundary_inside (by omega) (by omega) (by omega)
  rw [nextCharBoundary, if_neg (by omega), split] at *
  rw [ends, Nat.min_eq_left (by omega)]

theorem next_last (split : app.input = front) :
    nextCharBoundary app (byteSize front) = byteSize front := by
  rw [nextCharBoundary, if_pos (Nat.le_of_eq (by rw [split])), split]

end Cursors

def inBytes (app : App) : App := { app with cursor := byteSize (app.input.take app.cursor) }

structure Sound (app : App) : Prop where
  cursor : app.cursor ≤ app.input.length
  history : ∀ index, app.historyNavIndex = some index → index < app.inputHistory.length

section Simulation

variable {app : App}

theorem inBytes_split (app : App) :
    (inBytes app).input = app.input.take app.cursor ++ app.input.drop app.cursor :=
  (List.take_append_drop app.cursor app.input).symm

theorem clamp_inBytes (app : App) :
    clampCursorToCharBoundary (inBytes app) (inBytes app).cursor =
      byteSize (app.input.take app.cursor) := clamp_front _ (inBytes_split app)

theorem words_head {c : Char} (black : isWhitespace c = false) (rest : List Char) :
    (words (c :: rest)).head? = some ((c :: rest).takeWhile fun c => !isWhitespace c) := by
  induction rest generalizing c with
  | nil => simp [words, black]
  | cons d rest ih =>
    rw [words, if_neg (by simp [black]), List.takeWhile_cons_of_pos (by simp [black])]
    by_cases white : isWhitespace d
    · rw [List.takeWhile_cons_of_neg (by simp [white])]
      simp [white]
    · rw [Bool.not_eq_true] at white
      have later := ih white
      simp only [white]
      cases found : words (d :: rest) with
      | nil =>
        rw [found] at later
        cases later
      | cons word others =>
        rw [found, List.head?_cons, Option.some.injEq] at later
        rw [later]
        rfl

theorem activeSlashQuery_inBytes (app : App) :
    activeSlashQuery (inBytes app) = some app.activeSlashQuery := by
  have front : byteSize (app.input.take app.cursor) ≤ byteSize (inBytes app).input :=
    front_le (inBytes_split app)
  unfold activeSlashQuery
  rw [clamp_inBytes, Nat.min_eq_left front, inBytes_split]
  dsimp only
  rw [splitAtByte_front, Option.bind_some]
  unfold App.activeSlashQuery
  generalize app.input.take app.cursor = before
  dsimp only
  cases shown : trimStart before with
  | nil => rfl
  | cons c rest =>
    by_cases slash : c = '/'
    · subst slash
      let token := ('/' :: rest).takeWhile fun c => !isWhitespace c
      let later := ('/' :: rest).dropWhile fun c => !isWhitespace c
      have parts : '/' :: rest = token ++ later := List.takeWhile_append_dropWhile.symm
      have size : ((words ('/' :: rest)).head?.map byteSize).getD 0 = byteSize token := by
        rw [words_head (by decide)]
        rfl
      have some : byteSize token ≠ 0 := by
        rw [ne_eq, byteSize_eq_zero]
        exact List.cons_ne_nil _ _
      have blanks : later.any isWhitespace = ('/' :: rest).any isWhitespace := by
        have none : token.any isWhitespace = false := by
          rw [List.any_eq_false]
          intro c member
          simpa using List.mem_takeWhile_imp member
        rw [parts, List.any_append, none, Bool.false_or]
      have leading : ¬ byteSize before < byteSize before - byteSize ('/' :: rest) := by omega
      have starts : ['/'].isPrefixOf ('/' :: rest) = true := rfl
      rw [starts, size]
      simp only [Bool.not_true, Bool.false_eq_true, if_false, some, leading]
      conv_lhs => rw [parts]
      rw [splitAtByte_front, Option.map_some, ← parts, blanks]
    · have other : ['/'].isPrefixOf (c :: rest) = false := by
        simp [List.isPrefixOf, Ne.symm slash]
      rw [other]
      simp only [Bool.not_false, if_true]
      split
      · next same =>
        cases same
        exact absurd rfl slash
      · rfl

theorem refresh_inBytes (app : App) :
    refreshSlashPalette skills (inBytes app) = some (inBytes (app.refreshSlashPalette skills)) := by
  unfold refreshSlashPalette App.refreshSlashPalette
  rw [activeSlashQuery_inBytes, show (inBytes app).pendingApproval = app.pendingApproval from rfl]
  split
  · rfl
  · cases app.activeSlashQuery <;> rfl

theorem refresh_split (app : App) (front back : List Char) :
    refreshSlashPalette skills { app with input := front ++ back, cursor := byteSize front } =
      some (inBytes ({ app with input := front ++ back, cursor := front.length }.refreshSlashPalette
        skills)) := by
  have same : { app with input := front ++ back, cursor := byteSize front } =
      inBytes { app with input := front ++ back, cursor := front.length } := by
    rw [inBytes, List.take_left]
  rw [same, refresh_inBytes]

theorem refresh_end (app : App) (input : List Char) :
    refreshSlashPalette skills { app with input, cursor := byteSize input } =
      some (inBytes ({ app with input, cursor := input.length }.refreshSlashPalette skills)) := by
  have whole := refresh_split skills app input []
  rwa [List.append_nil] at whole

theorem Sound.split (sound : Sound app) :
    ∃ front back, app.input = front ++ back ∧ app.cursor = front.length ∧
      inBytes app = { app with cursor := byteSize front } :=
  ⟨_, _, (List.take_append_drop app.cursor app.input).symm,
    (List.length_take_of_le sound.cursor).symm, rfl⟩

theorem appendInput_inBytes (sound : Sound app) (text : List Char) :
    appendInput skills (inBytes app) text = some (inBytes (app.appendInput skills text)) := by
  obtain ⟨front, back, line, cursor, bytes⟩ := sound.split
  have size : byteSize front + byteSize text ≤ byteSize (front ++ text ++ back) := by
    simp only [byteSize_append]
    omega
  have whole := refresh_split skills app (front ++ text) back
  rw [byteSize_append, List.length_append] at whole
  have chars : app.appendInput skills text = { app with
      input := front ++ text ++ back
      cursor := front.length + text.length }.refreshSlashPalette skills := by
    simp [App.appendInput, line, cursor]
  rw [bytes, appendInput, clamp_front { app with cursor := byteSize front } line,
    Nat.min_eq_left (front_le line), line,
    splitAtByte_front, chars]
  dsimp only
  rw [Option.bind_some, Nat.min_eq_left size]
  exact whole

theorem backspace_inBytes (sound : Sound app) :
    backspace skills (inBytes app) = some (inBytes (app.backspace skills)) := by
  obtain ⟨front, back, line, cursor, bytes⟩ := sound.split
  rcases List.eq_nil_or_concat front with rfl | ⟨before, c, rfl⟩
  · have none : app.cursor = 0 := cursor
    simp [backspace, App.backspace, bytes, none]
  · rw [List.concat_eq_append] at line cursor bytes
    have inner : app.input = before ++ c :: back := by rw [line, List.append_assoc]; rfl
    have filled : app.input.isEmpty = false := by simp [inner]
    have positive := c.utf8Size_pos
    have size : byteSize (before ++ [c]) = byteSize before + c.utf8Size := by simp
    have chars : app.backspace skills =
        { app with input := before ++ back, cursor := before.length }.refreshSlashPalette skills := by
      simp [App.backspace, cursor, line]
    have clamped := clamp_front { app with cursor := byteSize (before ++ [c]) } line
    have prev := prev_front { app with cursor := byteSize (before ++ [c]) } inner
    rw [bytes, chars, backspace, if_neg (by simp [filled]; omega)]
    dsimp only
    rw [clamped, prev, if_neg (by omega)]
    conv_lhs => rw [inner]
    rw [splitAtByte_front, Option.bind_some, ← inner, line,
      splitAtByte_front, Option.bind_some]
    exact refresh_split skills app before back

theorem moveCursorLeft_inBytes (sound : Sound app) :
    moveCursorLeft skills (inBytes app) = some (inBytes (app.moveCursorLeft skills)) := by
  obtain ⟨front, back, line, cursor, bytes⟩ := sound.split
  have clamped := clamp_front { app with cursor := byteSize front } line
  rw [bytes, moveCursorLeft, App.moveCursorLeft]
  dsimp only
  rw [clamped]
  rcases List.eq_nil_or_concat front with rfl | ⟨before, c, rfl⟩
  · have none : app.cursor = 0 := cursor
    have whole := refresh_split skills app [] back
    rw [← line] at whole
    rw [none]
    exact whole
  · rw [List.concat_eq_append] at line cursor
    have inner : app.input = before ++ c :: back := by rw [line, List.append_assoc]; rfl
    have whole := refresh_split skills app before (c :: back)
    rw [← inner] at whole
    have prev := prev_front { app with cursor := byteSize (before ++ [c]) } inner
    rw [List.concat_eq_append, prev, cursor,
      List.length_append, List.length_singleton, Nat.add_sub_cancel]
    exact whole

theorem moveCursorRight_inBytes (sound : Sound app) :
    moveCursorRight skills (inBytes app) = some (inBytes (app.moveCursorRight skills)) := by
  obtain ⟨front, back, line, cursor, bytes⟩ := sound.split
  have clamped := clamp_front { app with cursor := byteSize front } line
  rw [bytes, moveCursorRight, App.moveCursorRight]
  dsimp only
  rw [clamped]
  cases back with
  | nil =>
    rw [List.append_nil] at line
    have whole := refresh_end skills app front
    rw [← line] at whole
    have last := next_last { app with cursor := byteSize front } line
    rw [last, cursor, line, Nat.min_eq_right (by omega), ← line]
    exact whole
  | cons c back =>
    have whole := refresh_split skills app (front ++ [c]) back
    rw [List.append_assoc, List.singleton_append, ← line, List.length_append,
      List.length_singleton] at whole
    have short : front.length + 1 ≤ app.input.length := by
      rw [line, List.length_append, List.length_cons]
      omega
    have next := next_front { app with cursor := byteSize front } line
    rw [next, cursor, Nat.min_eq_left short]
    exact whole

theorem getElem?_history {index : Nat} (inside : index < app.inputHistory.length) :
    app.inputHistory[index]? = some (app.inputHistory.getD index []) := by
  simp [inside]

theorem historyPrev_inBytes (sound : Sound app) :
    historyPrev skills (inBytes app) = some (inBytes (app.historyPrev skills)) := by
  unfold historyPrev App.historyPrev
  rw [show (inBytes app).inputHistory = app.inputHistory from rfl,
    show (inBytes app).historyNavIndex = app.historyNavIndex from rfl]
  by_cases none : app.inputHistory.isEmpty
  · rw [if_pos none, if_pos none]
  · rw [if_neg none, if_neg none]
    have filled : 0 < app.inputHistory.length := by
      rw [List.isEmpty_iff] at none
      exact List.length_pos_iff.mpr none
    cases browsed : app.historyNavIndex with
    | none =>
      dsimp only
      rw [getElem?_history (by omega), Option.bind_some]
      exact refresh_end skills { app with
        historyNavDraft := app.input
        historyNavIndex := some (app.inputHistory.length - 1) } _
    | some index =>
      have inside := sound.history index browsed
      cases index with
      | zero =>
        change app.inputHistory[0]?.bind _ = _
        rw [getElem?_history filled, Option.bind_some]
        exact refresh_end skills { app with historyNavIndex := some 0 } _
      | succ index =>
        change app.inputHistory[index]?.bind _ = _
        rw [getElem?_history (by omega), Option.bind_some]
        exact refresh_end skills { app with historyNavIndex := some index } _

theorem historyNext_inBytes (app : App) :
    historyNext skills (inBytes app) = some (inBytes (app.historyNext skills)) := by
  unfold historyNext App.historyNext
  rw [show (inBytes app).inputHistory = app.inputHistory from rfl,
    show (inBytes app).historyNavIndex = app.historyNavIndex from rfl]
  cases browsed : app.historyNavIndex with
  | none => rfl
  | some index =>
    dsimp only
    split
    · exact refresh_end skills { app with historyNavIndex := none } _
    next short =>
      rw [getElem?_history (by omega), Option.bind_some]
      exact refresh_end skills { app with historyNavIndex := some (index + 1) } _

theorem inBytes_end (app : App) (input : List Char) :
    inBytes { app with input, cursor := input.length } =
      { app with input, cursor := byteSize input } := by
  rw [inBytes, List.take_length]

theorem completeSlashSelection_inBytes (app : App) :
    completeSlashSelection skills (inBytes app) =
      some (inBytes (app.completeSlashSelection skills).1,
        (app.completeSlashSelection skills).2) := by
  unfold completeSlashSelection App.completeSlashSelection
  rw [show (inBytes app).slashPalette = app.slashPalette from rfl]
  cases app.slashPalette.found[app.slashPalette.selectedIndex]? with
  | none => rfl
  | some selected =>
    have completed := inBytes_end app ('/' :: selected.commandName.toList)
    have refreshed := refresh_end skills app ('/' :: selected.commandName.toList)
    dsimp only
    by_cases exact : (findExact skills (String.ofList ('/' :: selected.commandName.toList))).isSome
    · rw [if_pos exact, if_pos exact]
      exact congrArg (fun shown : App => some (shown.dismissSlashPalette, true)) completed.symm
    · rw [if_neg exact, if_neg exact]
      exact congrArg (Option.map fun refreshed => (refreshed, true)) refreshed

theorem submitSlashCommandIfExact_inBytes (app : App) :
    submitSlashCommandIfExact skills (inBytes app) =
      some (inBytes (app.submitSlashCommandIfExact skills).1,
        (app.submitSlashCommandIfExact skills).2) := by
  unfold submitSlashCommandIfExact App.submitSlashCommandIfExact
  rw [show (inBytes app).input = app.input from rfl]
  cases findExact skills (String.ofList (trimChars app.input)) with
  | none => rfl
  | some found =>
    dsimp only
    cases found.kind with
    | builtin message replacesInput =>
      dsimp only
      by_cases help : found.commandName = "help"
      · rw [if_pos help, if_pos help]
        rfl
      · rw [if_neg help, if_neg help]
        cases replacesInput with
        | true =>
          exact congrArg (Option.map fun refreshed => (refreshed, true))
            (refresh_end skills app message.toList)
        | false =>
          have refreshed := refresh_inBytes skills
            ((app.setLiveStatus message).clearInput.dismissSlashPalette)
          exact congrArg (Option.map fun refreshed => (refreshed, true)) refreshed
    | localPicker lines =>
      dsimp only
      unfold App.openPolicyPicker
      rw [show (inBytes app).pendingApproval = app.pendingApproval from rfl]
      cases app.pendingApproval <;> rfl
    | sessionAction action => rfl
    | skill skill => rfl

theorem decideApproval_inBytes (app : App) (pending : PendingApproval) :
    (inBytes app).decideApproval pending =
      (inBytes (app.decideApproval pending).1, (app.decideApproval pending).2) := by
  unfold App.decideApproval
  rw [show (inBytes app).input = app.input from rfl,
    show (inBytes app).selectionOf = app.selectionOf from rfl]
  cases app.selectionOf (String.ofList (trimChars app.input)) with
  | none => rfl
  | some selection => cases selection <;> rfl

theorem submitUserTurn_inBytes (app : App) (input : List Char) :
    (inBytes app).submitUserTurn input =
      (inBytes (app.submitUserTurn input).1, (app.submitUserTurn input).2) := by
  have pushed : ((inBytes app).pushInputHistory input).clearInput =
      (app.pushInputHistory input).clearInput := by
    unfold App.pushInputHistory
    rw [show (inBytes app).inputHistory = app.inputHistory from rfl]
    split
    · rfl
    · split <;> rfl
  unfold App.submitUserTurn
  rw [pushed]
  rfl

theorem submitText_inBytes (app : App) (input : List Char) :
    (inBytes app).submitText skills input =
      (inBytes (app.submitText skills input).1, (app.submitText skills input).2) := by
  unfold App.submitText
  split
  · rfl
  · rfl
  · exact submitUserTurn_inBytes app input

theorem submitInput_inBytes (app : App) :
    submitInput skills (inBytes app) =
      some (inBytes (app.submitInput skills).1, (app.submitInput skills).2) := by
  unfold submitInput App.submitInput
  rw [show (inBytes app).input = app.input from rfl,
    show (inBytes app).pendingApproval = app.pendingApproval from rfl]
  cases app.pendingApproval with
  | some pending => exact congrArg some (decideApproval_inBytes app pending)
  | none =>
    dsimp only
    cases trimChars app.input with
    | nil => rfl
    | cons c rest =>
      by_cases slash : c = '/'
      · subst slash
        rw [submitSlashCommandIfExact_inBytes]
        obtain ⟨submitted, handled⟩ := app.submitSlashCommandIfExact skills
        cases handled with
        | true => rfl
        | false => exact congrArg some (submitText_inBytes skills submitted ('/' :: rest))
      · simp [slash, submitUserTurn_inBytes]

end Simulation

end Bytes

end OpenJax.Tui
