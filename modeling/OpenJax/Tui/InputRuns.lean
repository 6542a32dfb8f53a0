import OpenJax.Tui.InputBytes

set_option autoImplicit false

namespace OpenJax.Tui

open Shared Protocol

inductive InputOp where
  | append (text : List Char)
  | backspace
  | cursorLeft
  | cursorRight
  | historyPrev
  | historyNext
  | completeSlash
  | moveSlash (delta : Int)
  | dismissSlash
  | submit
  | clear
  | openPolicyPicker
  | movePolicy (delta : Int)
  | pickPolicy (level : String)
  | dismissPolicyPicker
  | deferApproval
  | moveApproval (delta : Int)
  | event (event : Event)
  | draw

variable (skills : List SlashCommand)

namespace Bytes

def apply (app : App) : InputOp → Option App
  | .append text => appendInput skills app text
  | .backspace => backspace skills app
  | .cursorLeft => moveCursorLeft skills app
  | .cursorRight => moveCursorRight skills app
  | .historyPrev => historyPrev skills app
  | .historyNext => historyNext skills app
  | .completeSlash => (completeSlashSelection skills app).map Prod.fst
  | .moveSlash delta => some (app.moveSlashSelection delta)
  | .dismissSlash => some app.dismissSlashPalette
  | .submit => (submitInput skills app).map Prod.fst
  | .clear => some app.clear
  | .openPolicyPicker => some app.openPolicyPicker
  | .movePolicy delta => some (app.movePolicySelection delta)
  | .pickPolicy level => some (app.applyPolicyPick level)
  | .dismissPolicyPicker => some app.dismissPolicyPicker
  | .deferApproval => some app.deferPendingApproval
  | .moveApproval delta => some (app.moveApprovalSelection delta)
  | .event event => some (app.applyCoreEvent event)
  | .draw => (inputCursorOffset app).map fun _ => app

end Bytes

namespace App

def apply (app : App) : InputOp → App
  | .append text => app.appendInput skills text
  | .backspace => app.backspace skills
  | .cursorLeft => app.moveCursorLeft skills
  | .cursorRight => app.moveCursorRight skills
  | .historyPrev => app.historyPrev skills
  | .historyNext => app.historyNext skills
  | .completeSlash => (app.completeSlashSelection skills).1
  | .moveSlash delta => app.moveSlashSelection delta
  | .dismissSlash => app.dismissSlashPalette
  | .submit => (app.submitInput skills).1
  | .clear => app.clear
  | .openPolicyPicker => app.openPolicyPicker
  | .movePolicy delta => app.movePolicySelection delta
  | .pickPolicy level => app.applyPolicyPick level
  | .dismissPolicyPicker => app.dismissPolicyPicker
  | .deferApproval => app.deferPendingApproval
  | .moveApproval delta => app.moveApprovalSelection delta
  | .event event => app.applyCoreEvent event
  | .draw => app

def line (app : App) : List Char × Nat × List (List Char) × Option Nat × List Char :=
  (app.input, app.cursor, app.inputHistory, app.historyNavIndex, app.historyNavDraft)

end App

namespace Bytes

section Kept

variable {app next : App}

theorem Sound.same (sound : Sound app) (line : next.line = app.line) : Sound next := by
  simp only [App.line, Prod.mk.injEq] at line
  obtain ⟨input, cursor, history, index, -⟩ := line
  exact ⟨by rw [input, cursor]; exact sound.cursor, by rw [history, index]; exact sound.history⟩

@[simp] theorem line_refreshSlashPalette (app : App) :
    (app.refreshSlashPalette skills).line = app.line := by
  unfold App.refreshSlashPalette
  split
  · rfl
  · split <;> rfl

theorem Sound.refresh (sound : Sound app) : Sound (app.refreshSlashPalette skills) :=
  sound.same (line_refreshSlashPalette skills app)

theorem sound_event (sound : Sound app) (event : Event) : Sound (app.applyCoreEvent event) := by
  refine sound.same ?_
  cases event
  case approvalRequested =>
    simp only [App.applyCoreEvent, App.approvalRequested]
    repeat' split
    all_goals rfl
  case approvalResolved =>
    simp only [App.applyCoreEvent, App.approvalResolved]
    split <;> rfl
  all_goals rfl

theorem sound_pushInputHistory (sound : Sound app) (input : List Char) :
    Sound (app.pushInputHistory input) := by
  unfold App.pushInputHistory
  split
  · exact sound
  · split
    · exact ⟨sound.cursor, fun _ none => by cases none⟩
    · exact ⟨sound.cursor, fun _ none => by cases none⟩

theorem Sound.cleared (sound : Sound app) : Sound app.clearInput :=
  ⟨Nat.zero_le _, sound.history⟩

theorem sound_submitUserTurn (sound : Sound app) (input : List Char) :
    Sound (app.submitUserTurn input).1 :=
  (sound_pushInputHistory sound input).cleared.same rfl

theorem Sound.atEnd (sound : Sound app) (input : List Char) :
    Sound { app with input, cursor := input.length } := ⟨Nat.le_refl _, sound.history⟩

theorem sound_openPolicyPicker (sound : Sound app) : Sound app.openPolicyPicker := by
  unfold App.openPolicyPicker
  split
  · exact sound
  · exact sound.cleared.same rfl

theorem sound_submitSlash (sound : Sound app) : Sound (app.submitSlashCommandIfExact skills).1 := by
  unfold App.submitSlashCommandIfExact
  split
  · exact sound
  next found _ =>
    split
    · split
      · exact sound.cleared.same rfl
      · split
        · exact Sound.refresh skills (sound.atEnd _)
        · exact Sound.refresh skills (sound.cleared.same rfl)
    · exact sound_openPolicyPicker sound
    · exact sound
    · exact sound

theorem sound_clear (app : App) : Sound app.clear :=
  ⟨Nat.zero_le _, fun _ none => by cases none⟩

theorem sound_submit (sound : Sound app) : Sound (app.submitInput skills).1 := by
  unfold App.submitInput
  split
  next pending _ =>
    unfold App.decideApproval
    split <;> exact sound.cleared.same rfl
  · split
    · exact sound
    next rest _ =>
      have tried := sound_submitSlash skills sound
      split
      next submitted same =>
        rw [same] at tried
        exact tried
      next unsubmitted same =>
        rw [same] at tried
        unfold App.submitText
        split
        · exact tried.cleared.same rfl
        · exact sound_clear _
        · exact sound_submitUserTurn tried _
    · exact sound_submitUserTurn sound _

theorem sound_browse {index : Option Nat}
    (inside : ∀ place, index = some place → place < app.inputHistory.length)
    (input : List Char) : Sound (app.browseTo skills index input) :=
  Sound.refresh skills ⟨Nat.le_refl _, inside⟩

theorem sound_historyPrev (sound : Sound app) : Sound (app.historyPrev skills) := by
  unfold App.historyPrev
  split
  · exact sound
  next filled =>
    have some : 0 < app.inputHistory.length := by
      rw [List.isEmpty_iff] at filled
      exact List.length_pos_iff.mpr filled
    split
    next index browsed =>
      have inside := sound.history index browsed
      apply sound_browse skills
      rintro place ⟨⟩
      omega
    · refine sound_browse skills ?_ _
      rintro place ⟨⟩
      show _ < app.inputHistory.length
      omega

theorem sound_historyNext (sound : Sound app) : Sound (app.historyNext skills) := by
  unfold App.historyNext
  split
  · exact sound
  next index browsed =>
    split
    · exact sound_browse skills (fun _ none => by cases none) _
    next more =>
      apply sound_browse skills
      rintro place ⟨⟩
      omega

theorem sound_complete (sound : Sound app) : Sound (app.completeSlashSelection skills).1 := by
  unfold App.completeSlashSelection
  split
  · exact sound
  next selected _ =>
    dsimp only
    split
    · exact (sound.atEnd _).same rfl
    · exact Sound.refresh skills (sound.atEnd _)

theorem sound_apply (sound : Sound app) (op : InputOp) : Sound (app.apply skills op) := by
  cases op with
  | append text =>
    have cursor := sound.cursor
    refine Sound.refresh skills ⟨?_, sound.history⟩
    simp only [List.length_append, List.length_take, List.length_drop]
    omega
  | backspace =>
    rw [App.apply, App.backspace]
    split
    · exact sound
    · have cursor := sound.cursor
      refine Sound.refresh skills ⟨?_, sound.history⟩
      simp only [List.length_append, List.length_take, List.length_drop]
      omega
  | cursorLeft =>
    have cursor := sound.cursor
    exact Sound.refresh skills ⟨by show app.cursor - 1 ≤ app.input.length; omega, sound.history⟩
  | cursorRight => exact Sound.refresh skills ⟨Nat.min_le_right _ _, sound.history⟩
  | historyPrev => exact sound_historyPrev skills sound
  | historyNext => exact sound_historyNext skills sound
  | completeSlash => exact sound_complete skills sound
  | moveSlash delta =>
    rw [App.apply, App.moveSlashSelection]
    split
    · exact sound
    · exact sound.same rfl
  | submit => exact sound_submit skills sound
  | clear => exact sound_clear app
  | openPolicyPicker => exact sound_openPolicyPicker sound
  | deferApproval => exact sound.cleared.same rfl
  | moveApproval delta =>
    rw [App.apply, App.moveApprovalSelection]
    split
    · exact sound
    · exact sound.same rfl
  | event event => exact sound_event sound event
  | dismissSlash | movePolicy | pickPolicy | dismissPolicyPicker => exact sound.same rfl
  | draw => exact sound

theorem event_inBytes (app : App) (event : Event) :
    (inBytes app).applyCoreEvent event = inBytes (app.applyCoreEvent event) := by
  cases event
  case approvalRequested =>
    simp only [App.applyCoreEvent, App.approvalRequested]
    rw [show (inBytes app).pendingApproval = app.pendingApproval from rfl]
    repeat' split
    all_goals rfl
  case approvalResolved =>
    simp only [App.applyCoreEvent, App.approvalResolved]
    rw [show (inBytes app).pendingApproval = app.pendingApproval from rfl]
    split <;> rfl
  all_goals rfl

theorem apply_inBytes (sound : Sound app) (op : InputOp) :
    apply skills (inBytes app) op = some (inBytes (app.apply skills op)) := by
  cases op with
  | append text => exact appendInput_inBytes skills sound text
  | backspace => exact backspace_inBytes skills sound
  | cursorLeft => exact moveCursorLeft_inBytes skills sound
  | cursorRight => exact moveCursorRight_inBytes skills sound
  | historyPrev => exact historyPrev_inBytes skills sound
  | historyNext => exact historyNext_inBytes skills app
  | completeSlash => rw [apply, completeSlashSelection_inBytes]; rfl
  | submit => rw [apply, submitInput_inBytes]; rfl
  | openPolicyPicker =>
    rw [apply, App.apply, App.openPolicyPicker, App.openPolicyPicker,
      show (inBytes app).pendingApproval = app.pendingApproval from rfl]
    split <;> rfl
  | moveSlash delta =>
    rw [apply, App.apply, App.moveSlashSelection, App.moveSlashSelection,
      show (inBytes app).slashPalette = app.slashPalette from rfl]
    split <;> rfl
  | moveApproval delta =>
    rw [apply, App.apply, App.moveApprovalSelection, App.moveApprovalSelection,
      show (inBytes app).pendingApproval = app.pendingApproval from rfl]
    split <;> rfl
  | event event => exact congrArg some (event_inBytes app event)
  | draw =>
    have most : byteSize (app.input.take app.cursor) ≤ byteSize (inBytes app).input :=
      front_le (inBytes_split app)
    have slice : splitAtByte (inBytes app).input (min (inBytes app).cursor
        (byteSize (inBytes app).input)) =
          some (app.input.take app.cursor, app.input.drop app.cursor) := by
      rw [show (inBytes app).cursor = byteSize (app.input.take app.cursor) from rfl,
        Nat.min_eq_left most, inBytes_split, splitAtByte_front]
    rw [apply, inputCursorOffset, slice]
    rfl
  | clear | dismissSlash | movePolicy | pickPolicy | dismissPolicyPicker | deferApproval => rfl

end Kept

theorem run_inBytes {app : App} (sound : Sound app) (ops : List InputOp) :
    run (apply skills) (inBytes app) ops = some (inBytes (ops.foldl (App.apply skills) app)) ∧
      Sound (ops.foldl (App.apply skills) app) := by
  induction ops generalizing app with
  | nil => exact ⟨rfl, sound⟩
  | cons op rest ih =>
    rw [run_cons (apply_inBytes skills sound op)]
    exact ih (sound_apply skills sound op)

theorem inBytes_boundary (app : App) :
    (inBytes app).cursor ≤ byteSize (inBytes app).input ∧
      isCharBoundary (inBytes app).input (inBytes app).cursor := by
  refine ⟨front_le (inBytes_split app), ?_⟩
  rw [inBytes_split]
  exact isCharBoundary_front _ _

def Browses (op : InputOp) : Prop := op = .historyPrev ∨ op = .historyNext

def Drafted (original : List Char) (app : App) : Prop :=
  match app.historyNavIndex with
  | none => app.input = original
  | some _ => app.historyNavDraft = original

variable {original : List Char}

theorem drafted_refresh {app : App} (drafted : Drafted original app) :
    Drafted original (app.refreshSlashPalette skills) := by
  have line := line_refreshSlashPalette skills app
  simp only [App.line, Prod.mk.injEq] at line
  obtain ⟨input, -, -, index, draft⟩ := line
  rwa [Drafted, index, input, draft]

theorem drafted_browse {app : App} (drafted : Drafted original app) {op : InputOp}
    (browses : Browses op) : Drafted original (app.apply skills op) := by
  rcases browses with rfl | rfl
  · rw [App.apply, App.historyPrev]
    split
    · exact drafted
    · rw [Drafted] at drafted
      cases place : app.historyNavIndex with
      | none =>
        rw [place] at drafted
        exact drafted_refresh skills drafted
      | some index =>
        rw [place] at drafted
        exact drafted_refresh skills drafted
  · rw [App.apply, App.historyNext]
    cases place : app.historyNavIndex with
    | none => exact drafted
    | some index =>
      rw [Drafted, place] at drafted
      dsimp only
      split
      · exact drafted_refresh skills drafted
      · exact drafted_refresh skills drafted

theorem drafted_run {app : App} (drafted : Drafted original app) {moves : List InputOp}
    (browsing : ∀ op ∈ moves, Browses op) :
    Drafted original (moves.foldl (App.apply skills) app) := by
  induction moves generalizing app with
  | nil => exact drafted
  | cons op rest ih =>
    exact ih (drafted_browse skills drafted (browsing op List.mem_cons_self))
      fun other member => browsing other (List.mem_cons_of_mem _ member)

end Bytes

/-- No run of operations panics, and browsing that ends where it began restores the line. -/
theorem input_line_safe (policyDefault : String) (ops : List InputOp) :
    ∃ app, run (Bytes.apply skills) (App.start policyDefault) ops = some app ∧
      app.cursor ≤ byteSize app.input ∧ isCharBoundary app.input app.cursor ∧
      (∀ index, app.historyNavIndex = some index → index < app.inputHistory.length) ∧
      ∀ moves : List InputOp, (∀ op ∈ moves, op = .historyPrev ∨ op = .historyNext) →
        app.historyNavIndex = none → ∃ last, run (Bytes.apply skills) app moves = some last ∧
          (last.historyNavIndex = none → last.input = app.input) := by
  have start : Bytes.Sound (App.start policyDefault) :=
    ⟨Nat.le_refl _, fun _ none => by cases none⟩
  obtain ⟨ran, sound⟩ := Bytes.run_inBytes skills start ops
  obtain ⟨short, boundary⟩ := Bytes.inBytes_boundary (ops.foldl (App.apply skills)
    (App.start policyDefault))
  refine ⟨_, ran, short, boundary, sound.history, fun moves browsing outside => ?_⟩
  refine ⟨_, (Bytes.run_inBytes skills sound moves).1, fun ended => ?_⟩
  have begun : Bytes.Drafted (ops.foldl (App.apply skills) (App.start policyDefault)).input
      (ops.foldl (App.apply skills) (App.start policyDefault)) := by
    unfold Bytes.Drafted
    split
    next => rfl
    next index inside => cases inside.symm.trans outside
  have drafted := Bytes.drafted_run skills begun browsing
  unfold Bytes.Drafted at drafted
  split at drafted
  next => exact drafted
  next index inside => cases inside.symm.trans ended

end OpenJax.Tui
