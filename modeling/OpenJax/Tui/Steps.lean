import OpenJax.Tui.Runtime

set_option autoImplicit false

namespace OpenJax.Tui

open Shared Protocol

inductive LoopMove (tui : Terminal) : Terminal → Prop where
  | pop (request : ApprovalRequest) (rest : List ApprovalRequest) :
      tui.phase = .approvals → tui.queuedRequests = request :: rest →
        LoopMove tui { tui with
          queuedRequests := rest, app := tui.app.applyCoreEvent (requestEvent request) }
  | popped : tui.phase = .approvals → tui.queuedRequests = [] →
      LoopMove tui { tui with phase := .events }
  | receive (number : Nat) (task : Task) (event : Event) (rest : List Event) :
      tui.phase = .events ∨ tui.phase = .lastEvents → tui.coreEvents = some number →
        tui.tasks[number]? = some task → task.channel = event :: rest →
          LoopMove tui ((tui.setTask number { task with channel := rest }).setApp
            (tui.app.applyCoreEvent event))
  | received : tui.phase = .events → LoopMove tui { tui with phase := .finished }
  | concluded (number : Nat) (task : Task) : tui.phase = .finished → tui.turnTask = some number →
      tui.tasks[number]? = some task → task.phase = .ended →
        LoopMove tui { tui with turnTask := none, phase := .lastEvents }
  | poll : tui.phase = .finished → LoopMove tui { tui with phase := .polling }
  | closed : tui.phase = .lastEvents →
      (∀ (number : Nat) (task : Task), tui.coreEvents = some number →
        tui.tasks[number]? = some task → task.channel = []) →
          LoopMove tui { tui with coreEvents := none, phase := .polling }
  | again : tui.phase = .polling → LoopMove tui { tui with phase := .approvals }

section Loop

variable {tui next : Terminal}

theorem receive_cases (phase : tui.phase = .events ∨ tui.phase = .lastEvents) :
    (∃ received, tui.coreEvents.bind tui.receive = some received ∧ LoopMove tui received) ∨
      tui.coreEvents.bind tui.receive = none ∧
        ∀ (number : Nat) (task : Task), tui.coreEvents = some number →
          tui.tasks[number]? = some task → task.channel = [] := by
  cases listening : tui.coreEvents with
  | none => exact .inr ⟨rfl, nofun⟩
  | some number =>
    rw [Option.bind_some]
    cases found : tui.tasks[number]? with
    | none =>
      refine .inr ⟨by simp [Terminal.receive, found], fun other task same held => ?_⟩
      cases same
      rw [found] at held
      cases held
    | some task =>
      cases channel : task.channel with
      | nil =>
        refine .inr ⟨by simp [Terminal.receive, found, channel], fun other task same held => ?_⟩
        cases same
        rw [found] at held
        cases held
        exact channel
      | cons event rest =>
        refine .inl ⟨_, by simp only [Terminal.receive, found, channel]; rfl, ?_⟩
        exact .receive number task event rest phase listening found channel

theorem loopStep_move (stepped : tui.loopStep = some next) : LoopMove tui next := by
  unfold Terminal.loopStep at stepped
  split at stepped
  next phase =>
    split at stepped <;> cases stepped
    next request rest queued => exact .pop request rest phase queued
    next queued => exact .popped phase queued
  next phase =>
    rcases receive_cases (.inl phase) with ⟨received, taken, move⟩ | ⟨nothing, _⟩
    · rw [taken] at stepped
      cases stepped
      exact move
    · rw [nothing] at stepped
      cases stepped
      exact .received phase
  next phase =>
    split at stepped <;> cases stepped
    next concluded =>
      unfold Terminal.taskEnded at concluded
      cases handle : tui.turnTask with
      | none =>
        rw [handle] at concluded
        cases concluded
      | some number =>
        rw [handle, Option.bind_some] at concluded
        cases found : tui.tasks[number]? with
        | none =>
          rw [found] at concluded
          cases concluded
        | some task =>
          rw [found] at concluded
          exact .concluded number task phase handle found (of_decide_eq_true concluded)
    · exact .poll phase
  next phase =>
    rcases receive_cases (.inr phase) with ⟨received, taken, move⟩ | ⟨nothing, drained⟩
    · rw [taken] at stepped
      cases stepped
      exact move
    · rw [nothing] at stepped
      cases stepped
      exact .closed phase drained
  next phase =>
    cases stepped
    exact .again phase
  · cases stepped

end Loop

namespace Terminal

def aborts (tui : Terminal) : Bool :=
  tui.app.policyPicker.isNone && !tui.app.slashPalette.visible &&
    tui.app.pendingApproval.isNone && tui.turnTask.isSome

end Terminal

inductive KeyMove (tui : Terminal) : InputAction → Terminal → Prop where
  | edited (action : InputAction) (app : App) : action ≠ .quit →
      app.pendingApproval = tui.app.pendingApproval →
      (app.policyPicker.isSome → tui.app.policyPicker.isSome) →
        KeyMove tui action { tui.setApp app with phase := .approvals }
  | dealt (action : InputAction) (app : App) : action ≠ .quit → tui.turnTask = none →
      tui.app.pendingApproval = none → app.pendingApproval = none →
        KeyMove tui action { tui.setApp app with phase := .approvals }
  | started (kind : TaskKind) (app : App) : tui.turnTask = none →
      tui.app.pendingApproval = none → app.pendingApproval = none → app.policyPicker = none →
        KeyMove tui .submit { (tui.setApp app).spawn kind with phase := .approvals }
  | answered (pending : PendingApproval) (approved : Bool) (app : App) :
      tui.app.pendingApproval = some pending → app.pendingApproval = some pending →
      app.policyPicker = none →
        KeyMove tui .submit { (tui.setApp app).handleSubmitAction
          (.approvalDecision pending.requestId approved) with phase := .approvals }
  | aborted (number : Nat) : tui.aborts = true → tui.turnTask = some number →
      KeyMove tui .dismissOverlay { tui.abortTurn with phase := .approvals }
  | picked (level : String) : tui.app.policyPicker.isSome →
      KeyMove tui .submit (tui.applyPolicyLevel level)
  | picking (level : String) : tui.app.policyPicker.isSome →
      KeyMove tui .submit { tui.lockAgent .loop with phase := .lockingPolicy level }
  | quit : KeyMove tui .quit tui.quit

section Keys

variable {tui : Terminal} {skills : List SlashCommand}

theorem pickPolicy_move {selected : Nat} (opened : tui.app.policyPicker = some selected) :
    KeyMove tui .submit (tui.pickPolicy selected) := by
  have isOpen : tui.app.policyPicker.isSome := by rw [opened]; rfl
  unfold Terminal.pickPolicy
  split
  · exact .edited .submit tui.app nofun rfl id
  next level _ =>
    split
    · exact .picked level isOpen
    · exact .picking level isOpen

theorem submitLine_move (picker : tui.app.policyPicker = none)
    (free : tui.turnTask = none ∨ tui.app.pendingApproval.isSome) :
    KeyMove tui .submit { tui.submitLine skills with phase := .approvals } := by
  have submission := App.submitInput_submission skills tui.app
  unfold Terminal.submitLine
  generalize tui.app.submitInput skills = submitted at submission
  cases submission with
  | answered pending app approved shown same =>
    exact .answered pending approved app shown ((congrArg Prod.fst same).trans shown)
      ((congrArg Prod.snd same).trans picker)
  | deferred app _ same =>
    refine .edited .submit app nofun (congrArg Prod.fst same) fun opened => ?_
    rw [show app.policyPicker = none from (congrArg Prod.snd same).trans picker] at opened
    cases opened
  | handled app nothing clean =>
    exact .dealt .submit app nofun (free.resolve_right (by simp [nothing])) nothing clean
  | compact app nothing same =>
    exact .started .compaction app (free.resolve_right (by simp [nothing])) nothing
      ((congrArg Prod.fst same).trans nothing) ((congrArg Prod.snd same).trans picker)
  | turn app input nothing same =>
    exact .started .userTurn app (free.resolve_right (by simp [nothing])) nothing
      ((congrArg Prod.fst same).trans nothing) ((congrArg Prod.snd same).trans picker)

theorem submit_move : KeyMove tui .submit (tui.submit skills) := by
  unfold Terminal.submit
  split
  next selected opened => exact pickPolicy_move opened
  next picker =>
    dsimp only
    split
    · exact .edited .submit _ nofun rfl id
    next busy =>
      have free : tui.turnTask = none ∨ tui.app.pendingApproval.isSome := by
        cases handle : tui.turnTask with
        | none => exact .inl rfl
        | some number =>
          refine .inr (Option.isSome_iff_ne_none.mpr fun nothing => busy ?_)
          simp [handle, nothing]
      split
      · split
        next app found =>
          have kept := App.overlay_completeSlashSelection skills tui.app
          rw [found] at kept
          refine .edited .submit app nofun (congrArg Prod.fst kept) fun opened => ?_
          rw [show app.policyPicker = tui.app.policyPicker from congrArg Prod.snd kept] at opened
          exact opened
        · exact submitLine_move picker free
      · exact submitLine_move picker free

theorem dismissOverlay_move :
    KeyMove tui .dismissOverlay { tui.dismissOverlay with phase := .approvals } := by
  unfold Terminal.dismissOverlay
  split
  · exact .edited _ _ nofun rfl nofun
  next closed =>
    split
    · exact .edited _ _ nofun rfl id
    next hidden =>
      split
      · exact .edited _ _ nofun rfl id
      next nothing =>
        split
        next running =>
          obtain ⟨number, handle⟩ := Option.isSome_iff_exists.mp running
          exact .aborted number (by simp_all [Terminal.aborts]) handle
        next stopped =>
          exact .dealt _ _ nofun (by simpa using stopped) (by simpa using nothing) rfl

theorem same_overlay {app next : App} (same : next.overlay = app.overlay) :
    next.pendingApproval = app.pendingApproval ∧
      (next.policyPicker.isSome → app.policyPicker.isSome) := by
  refine ⟨congrArg Prod.fst same, fun opened => ?_⟩
  rw [← show next.policyPicker = app.policyPicker from congrArg Prod.snd same]
  exact opened

theorem overlay_moveSelection (app : App) (delta : Int) (history : App → App)
    (kept : (history app).overlay = app.overlay) :
    (Terminal.moveSelection app delta history).pendingApproval = app.pendingApproval ∧
      ((Terminal.moveSelection app delta history).policyPicker.isSome →
        app.policyPicker.isSome) := by
  unfold Terminal.moveSelection
  split
  next opened => exact ⟨rfl, fun _ => opened⟩
  split
  · exact same_overlay (by simp)
  split
  · exact same_overlay (by simp)
  · exact same_overlay kept

theorem editKey_overlay (app : App) (action : InputAction) :
    (Terminal.editKey skills app action).pendingApproval = app.pendingApproval ∧
      ((Terminal.editKey skills app action).policyPicker.isSome → app.policyPicker.isSome) := by
  cases action with
  | acceptSuggestion =>
    simp only [Terminal.editKey]
    split
    · exact same_overlay (by simp)
    · exact same_overlay rfl
  | backspace | moveLeft | moveRight => exact same_overlay (by simp [Terminal.editKey])
  | append text => exact same_overlay (by simp [Terminal.editKey])
  | moveUp => exact overlay_moveSelection app _ _ (by simp)
  | moveDown => exact overlay_moveSelection app _ _ (by simp)
  | none | quit | submit | dismissOverlay => exact same_overlay rfl

theorem handleKey_move (action : InputAction) : KeyMove tui action (tui.handleKey skills action) := by
  have kept := @editKey_overlay skills tui.app action
  cases action with
  | quit => exact .quit
  | submit => exact submit_move
  | dismissOverlay => exact dismissOverlay_move
  | _ => exact .edited _ _ nofun kept.1 kept.2

end Keys

structure Task.Like (task changed : Task) : Prop where
  kind : changed.kind = task.kind
  aborted : task.aborted = true → changed.aborted = true
  ended : task.phase = .ended → changed.phase = .ended
  asks : changed.phase.asks.isSome → task.phase.asks.isSome ∨ task.kind = .userTurn

theorem Task.Like.refl (task : Task) : task.Like task :=
  ⟨rfl, fun aborted => aborted, fun ended => ended, .inl⟩

theorem Task.like_answer (task : Task) (requestId : String) (approved : Bool) :
    task.Like (task.answer requestId approved) := by
  unfold Task.answer
  split
  next asked waiting =>
    split
    · refine ⟨rfl, fun aborted => aborted, fun ended => ?_, fun _ => .inl ?_⟩
      · rw [waiting] at ended
        cases ended
      · rw [waiting]
        rfl
    · exact .refl task
  · exact .refl task

def Alike (tui next : Terminal) : Prop :=
  ∀ (number : Nat) (changed : Task), next.tasks[number]? = some changed →
    ∃ task, tui.tasks[number]? = some task ∧ task.Like changed

section Handles

variable {tui next : Terminal}

theorem Alike.of_eq (same : next.tasks = tui.tasks) : Alike tui next :=
  fun _ changed found => ⟨changed, same ▸ found, .refl changed⟩

variable {task changed : Task} {number : Nat}

theorem Alike.set (found : tui.tasks[number]? = some task) (like : task.Like changed)
    (tasks : next.tasks = tui.tasks.set number changed) : Alike tui next := by
  intro other updated held
  rw [tasks, List.getElem?_set] at held
  split at held
  next same =>
    split at held <;> cases held
    exact ⟨task, same ▸ found, like⟩
  · exact ⟨updated, held, .refl updated⟩

theorem TaskMoved.alike {act : TaskAct} (moved : TaskMoved tui number task act changed next)
    (found : tui.tasks[number]? = some task) : Alike tui next :=
  .set found ⟨moved.move.kind, fun aborted => moved.move.aborted.trans aborted,
    fun ended => absurd ended moved.move.lives, moved.move.asks⟩ moved.tasks

theorem alike_resolve (requestId : String) (approved : Bool) :
    Alike tui (tui.resolve requestId approved).1 := by
  unfold Terminal.resolve
  split
  · intro number changed found
    obtain ⟨task, held, rfl⟩ := Option.map_eq_some_iff.mp
      ((List.getElem?_map (i := number)).symm.trans found)
    exact ⟨task, held, task.like_answer requestId approved⟩
  · exact .of_eq rfl

/-- A task that goes on is the one whose handle the loop has, and the loop has none while it waits
for the lock with the policy picker. -/
structure Tracked (tui : Terminal) : Prop where
  current : ∀ (number : Nat) (task : Task), tui.tasks[number]? = some task →
    task.aborted = true ∨ task.phase = .ended ∨ tui.turnTask = some number
  turns : ∀ (number : Nat) (task : Task), tui.tasks[number]? = some task →
    task.phase.asks.isSome → task.kind = .userTurn
  picker : tui.app.policyPicker.isSome → tui.turnTask = none
  locking : ∀ level, tui.phase = .lockingPolicy level → tui.turnTask = none

theorem tracked_start (policyLevel : String) : Tracked (.start policyLevel) :=
  ⟨by simp [Terminal.start], by simp [Terminal.start], by simp [Terminal.start, App.start],
    by simp [Terminal.start]⟩

theorem Tracked.kept (tracked : Tracked tui) (alike : Alike tui next)
    (turnTask : next.turnTask = tui.turnTask)
    (picker : next.app.policyPicker.isSome → tui.app.policyPicker.isSome)
    (locking : ∀ level, next.phase = .lockingPolicy level → tui.phase = .lockingPolicy level) :
    Tracked next where
  current number changed found := by
    obtain ⟨task, before, like⟩ := alike number changed found
    rw [turnTask]
    rcases tracked.current number task before with aborted | ended | current
    · exact .inl (like.aborted aborted)
    · exact .inr (.inl (like.ended ended))
    · exact .inr (.inr current)
  turns number changed found asks := by
    obtain ⟨task, before, like⟩ := alike number changed found
    rw [like.kind]
    exact (like.asks asks).elim (tracked.turns number task before) id
  picker opened := turnTask.trans (tracked.picker (picker opened))
  locking level waits := turnTask.trans (tracked.locking level (locking level waits))

theorem tracked_loop (tracked : Tracked tui) (move : LoopMove tui next) : Tracked next := by
  cases move with
  | pop request rest phase =>
    refine tracked.kept (.of_eq rfl) rfl (by simp) fun level waits => ?_
    rw [show tui.phase = .lockingPolicy level from waits] at phase
    cases phase
  | receive number task event rest phases _ found =>
    refine tracked.kept (.set found ?_ rfl) rfl (by simp [Terminal.setApp]) fun _ waits => waits
    exact ⟨rfl, fun aborted => aborted, fun ended => ended, .inl⟩
  | concluded number task _ handle found ended =>
    -- The handle is given up once the task has ended.
    refine ⟨fun other held member => ?_, tracked.turns, fun _ => rfl, nofun⟩
    refine (tracked.current other held member).imp_right fun either => ?_
    rcases either with concluded | current
    · exact .inl concluded
    · obtain rfl : number = other := Option.some.inj (handle.symm.trans current)
      obtain rfl : task = held := Option.some.inj (found.symm.trans member)
      exact .inl ended
  | popped | received | poll | closed | again => exact tracked.kept (.of_eq rfl) rfl id nofun

theorem tracked_abortTurn (tracked : Tracked tui) (handle : tui.turnTask = some number) :
    Tracked { tui.abortTurn with phase := .approvals } := by
  -- The task whose handle is given up is marked, and there is no other that goes on.
  have marked : ∀ (other : Nat) (changed : Task),
      (tui.markAborted number).tasks[other]? = some changed →
        (changed.aborted = true ∨ changed.phase = .ended) ∧
          ∃ task, tui.tasks[other]? = some task ∧ task.Like changed := by
    intro other changed held
    unfold Terminal.markAborted at held
    split at held
    next task found =>
      have like : task.Like { task with aborted := true } :=
        ⟨rfl, fun _ => rfl, fun ended => ended, .inl⟩
      refine ⟨?_, Alike.set found like rfl other changed held⟩
      rw [Terminal.setTask, List.getElem?_set] at held
      split at held
      · split at held <;> cases held
        exact .inl rfl
      next apart =>
        refine (tracked.current other changed held).imp_right fun either => ?_
        refine either.resolve_right fun current => apart ?_
        exact Option.some.inj (handle.symm.trans current)
    next missing =>
      refine ⟨?_, Alike.of_eq rfl other changed held⟩
      refine (tracked.current other changed held).imp_right fun either => ?_
      refine either.resolve_right fun current => ?_
      obtain rfl : number = other := Option.some.inj (handle.symm.trans current)
      rw [held] at missing
      cases missing
  unfold Terminal.abortTurn
  rw [handle]
  refine ⟨fun other changed held => ?_, fun other changed held asks => ?_, fun _ => rfl,
    by rintro _ ⟨⟩⟩
  · exact (marked other changed held).1.imp_right .inl
  · obtain ⟨task, found, like⟩ := (marked other changed held).2
    rw [like.kind]
    exact (like.asks asks).elim (tracked.turns other task found) id

theorem tracked_setApp (tracked : Tracked tui) {app : App} (closed : app.policyPicker = none) :
    Tracked (tui.setApp app) := by
  refine tracked.kept (.of_eq rfl) rfl (fun opened => ?_) fun _ waits => waits
  rw [show (tui.setApp app).app.policyPicker = none from closed] at opened
  cases opened

theorem answered_eq (requestId : String) (approved : Bool) :
    ∃ app, tui.handleSubmitAction (.approvalDecision requestId approved) =
        (tui.resolve requestId approved).1.setApp app ∧
      app.policyPicker = tui.app.policyPicker ∧
      app.pendingApproval =
        if (tui.resolve requestId approved).2 then none else tui.app.pendingApproval := by
  have kept : (tui.resolve requestId approved).1.app = tui.app := by
    unfold Terminal.resolve
    split <;> rfl
  simp only [Terminal.handleSubmitAction]
  split
  next found =>
    rw [found] at kept ⊢
    have picker := congrArg App.policyPicker kept
    exact ⟨_, rfl, picker, rfl⟩
  next found =>
    rw [found] at kept ⊢
    have picker := congrArg App.policyPicker kept
    have pending := congrArg App.pendingApproval kept
    exact ⟨_, rfl, picker, pending⟩

theorem tracked_key {action : InputAction} (tracked : Tracked tui)
    (move : KeyMove tui action next) : Tracked next := by
  cases move with
  | edited _ app _ _ picker => exact tracked.kept (.of_eq rfl) rfl picker nofun
  | dealt _ app _ handle => exact { tracked with picker := fun _ => handle, locking := nofun }
  | started kind app handle _ _ closed =>
    have before := tracked_setApp tracked closed
    refine ⟨fun number task found => ?_, fun number task found asks => ?_, fun opened => ?_, nofun⟩
    · rcases spawn_task found with old | ⟨same, rfl⟩
      · have concluded := before.current number task old
        rw [show (tui.setApp app).turnTask = none from handle] at concluded
        exact concluded.imp_right fun either => .inl (either.resolve_right nofun)
      · exact .inr (.inr (congrArg some same.symm))
    · rcases spawn_task found with old | ⟨_, rfl⟩
      · exact before.turns number task old asks
      · cases asks
    · rw [show ((tui.setApp app).spawn kind).app.policyPicker = none from closed] at opened
      cases opened
  | answered pending approved app _ _ closed =>
    obtain ⟨after, same, picker, _⟩ :=
      @answered_eq (tui.setApp app) pending.requestId approved
    rw [same]
    have turnTask : ((tui.setApp app).resolve pending.requestId approved).1.turnTask =
        tui.turnTask := by
      unfold Terminal.resolve
      split <;> rfl
    refine tracked.kept ?_ turnTask (fun opened => ?_) nofun
    · exact @alike_resolve (tui.setApp app) pending.requestId approved
    · have shut : after.policyPicker = none := picker.trans closed
      simp [Terminal.setApp, shut] at opened
  | aborted number _ handle => exact tracked_abortTurn tracked handle
  | picked level => exact tracked.kept (.of_eq rfl) rfl nofun nofun
  | picking level opened =>
    obtain ⟨holder, waiting, same⟩ := @lockAgent_eq tui .loop
    rw [same]
    exact { tracked with locking := fun _ _ => tracked.picker opened }
  | quit =>
    obtain ⟨holder, waiting, same⟩ := @lockAgent_eq tui .loop
    unfold Terminal.quit
    rw [same]
    refine tracked.kept (.of_eq rfl) rfl id fun level waits => ?_
    dsimp only at waits
    split at waits <;> cases waits

theorem tracked_task {act : TaskAct} (tracked : Tracked tui)
    (found : tui.tasks[number]? = some task) (moved : TaskMoved tui number task act changed next) :
    Tracked next := by
  refine tracked.kept (moved.alike found) moved.turnTask ?_ fun _ => ?_
  · rw [moved.app]
    exact id
  · rw [moved.phase]
    exact id

end Handles

inductive Move (tui : Terminal) : TuiInput → Terminal → Prop where
  | loop (next : Terminal) : LoopMove tui next → Move tui .loop next
  | key (action : InputAction) (next : Terminal) : tui.phase = .polling →
      KeyMove tui action next → Move tui (.key action) next
  | changePolicy (level : String) : tui.phase = .lockingPolicy level →
      Move tui .acquire (tui.release.applyPolicyLevel level)
  | leave : tui.phase = .quitting → Move tui .acquire { tui with phase := .shutting }
  | shutDown : tui.phase = .shutting →
      Move tui .shutDown { tui.release with
        phase := .exited, app := tui.app.applyCoreEvent .shutdownComplete }
  | task (number : Nat) (task changed : Task) (act : TaskAct) (next : Terminal) :
      tui.tasks[number]? = some task → TaskMoved tui number task act changed next →
        Move tui (.task number act) next

theorem step_move {skills : List SlashCommand} {tui next : Terminal} {input : TuiInput}
    (stepped : tui.step skills input = some next) : Move tui input next := by
  cases input with
  | loop => exact .loop next (loopStep_move stepped)
  | key action =>
    obtain ⟨phase, taken⟩ := (guard_bind_iff _ _ _).mp stepped
    cases taken
    exact .key action _ phase (handleKey_move action)
  | acquire =>
    obtain ⟨_, taken⟩ := (guard_bind_iff _ _ _).mp stepped
    split at taken <;> cases taken
    next level phase => exact .changePolicy level phase
    next phase => exact .leave phase
  | shutDown =>
    obtain ⟨phase, taken⟩ := (guard_bind_iff _ _ _).mp stepped
    cases taken
    exact .shutDown phase
  | task number act =>
    simp only [Terminal.step] at stepped
    split at stepped
    · cases stepped
    · obtain ⟨task, found, stepped⟩ := Option.bind_eq_some_iff.mp stepped
      obtain ⟨changed, moved⟩ := taskStep_moved stepped
      exact .task number task changed act next found moved

theorem tracked_move {tui next : Terminal} {input : TuiInput} (tracked : Tracked tui)
    (move : Move tui input next) : Tracked next := by
  cases move with
  | loop _ move => exact tracked_loop tracked move
  | key _ _ _ move => exact tracked_key tracked move
  | changePolicy level => exact tracked.kept (.of_eq rfl) rfl nofun nofun
  | leave => exact tracked.kept (.of_eq rfl) rfl id nofun
  | shutDown => exact tracked.kept (.of_eq rfl) rfl id nofun
  | task number task changed act _ found moved => exact tracked_task tracked found moved

end OpenJax.Tui
