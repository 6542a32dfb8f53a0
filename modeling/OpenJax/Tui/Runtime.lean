import OpenJax.Shared.Machine
import OpenJax.Tui.App
import Mathlib.Data.Finset.Basic

set_option autoImplicit false

/-! The event loop of the terminal, the approval handler and the tasks that hold the agent. The
tasks take their steps between any two steps of the loop. -/

namespace OpenJax.Tui

open Shared Protocol

structure ApprovalRequest where
  requestId : String
  target : String
  reason : String
  deriving DecidableEq

structure Asked where
  turnId : Nat
  request : ApprovalRequest
  deriving DecidableEq

inductive TaskPhase where
  | spawned
  | queued
  | running
  -- The event is sent, the handler does not have the request yet.
  | asking (asked : Asked)
  | pushed (asked : Asked)
  | waiting (asked : Asked) (answer : Option Bool)
  | ended
  deriving DecidableEq

inductive TaskKind where
  | userTurn
  | compaction
  deriving DecidableEq

structure Task where
  kind : TaskKind
  aborted : Bool
  phase : TaskPhase
  channel : List Event

inductive LockHolder where
  | loop
  | task (number : Nat)
  deriving DecidableEq

inductive LoopPhase where
  | approvals
  | events
  | finished
  | lastEvents
  | polling
  | lockingPolicy (level : String)
  | quitting
  | shutting
  | exited
  deriving DecidableEq

/-- `turnTask` is the handle of the loop's turn, and `coreEvents` the receiver of its events.
The handler keeps the ids whose sender it has and the requests that were not popped. -/
structure Terminal where
  app : App
  phase : LoopPhase
  turnTask : Option Nat
  coreEvents : Option Nat
  tasks : List Task
  holder : Option LockHolder
  waiting : List LockHolder
  policyLevel : String
  pending : Finset String
  queuedRequests : List ApprovalRequest

def Terminal.start (policyLevel : String) : Terminal :=
  ⟨.start policyLevel, .approvals, none, none, [], none, [], policyLevel, ∅, []⟩

inductive InputAction where
  | none
  | quit
  | submit
  | acceptSuggestion
  | backspace
  | moveLeft
  | moveRight
  | moveUp
  | moveDown
  | append (text : List Char)
  | dismissOverlay
  deriving DecidableEq

inductive TaskAct where
  | lock
  | acquire
  | emit (event : Event)
  | ask (event : Event)
  | push
  | keep
  | decide
  | timeout
  | finish
  -- The task is dropped at a point where it waits.
  | drop

inductive TuiInput where
  | loop
  | key (action : InputAction)
  | acquire
  | shutDown
  | task (number : Nat) (act : TaskAct)

def askedBy : Event → Option Asked
  | .approvalRequested turnId requestId target reason .. =>
      some ⟨turnId, ⟨requestId, target, reason⟩⟩
  | _ => none

def isApproval : Event → Bool
  | .approvalRequested .. | .approvalResolved .. => true
  | _ => false

def requestEvent (request : ApprovalRequest) : Event :=
  .approvalRequested 0 request.requestId request.target request.reason none none none none [] none
    none none

def TaskPhase.asks : TaskPhase → Option Asked
  | .asking asked | .pushed asked | .waiting asked _ => some asked
  | _ => none

def Task.asksFor (task : Task) (requestId : String) : Bool :=
  task.phase.asks.any fun asked => asked.request.requestId = requestId

def Task.waitsFor (task : Task) (requestId : String) : Bool :=
  match task.phase with
  | .waiting asked none => asked.request.requestId = requestId
  | _ => false

def Task.answer (task : Task) (requestId : String) (approved : Bool) : Task :=
  match task.phase with
  | .waiting asked none =>
      if asked.request.requestId = requestId then
        { task with phase := .waiting asked (some approved) }
      else task
  | _ => task

namespace Terminal

def resolve (tui : Terminal) (requestId : String) (approved : Bool) : Terminal × Bool :=
  if requestId ∈ tui.pending then
    ({ tui with
      pending := tui.pending.erase requestId
      tasks := tui.tasks.map fun task => task.answer requestId approved }, true)
  else (tui, false)

def lockAgent (tui : Terminal) (asker : LockHolder) : Terminal :=
  match tui.holder with
  | none => { tui with holder := some asker }
  | some _ => { tui with waiting := tui.waiting ++ [asker] }

def release (tui : Terminal) : Terminal :=
  { tui with holder := tui.waiting.head?, waiting := tui.waiting.tail }

def forget (tui : Terminal) (number : Nat) : Terminal :=
  if tui.holder = some (.task number) then tui.release
  else { tui with waiting := tui.waiting.erase (.task number) }

def setApp (tui : Terminal) (app : App) : Terminal := { tui with app }

def spawn (tui : Terminal) (kind : TaskKind) : Terminal :=
  { tui with
    tasks := tui.tasks ++ [⟨kind, false, .spawned, []⟩]
    turnTask := some tui.tasks.length
    coreEvents := some tui.tasks.length }

def setTask (tui : Terminal) (number : Nat) (task : Task) : Terminal :=
  { tui with tasks := tui.tasks.set number task }

def handleSubmitAction (tui : Terminal) : SubmitAction → Terminal
  | .userTurn _ => tui.spawn .userTurn
  | .compactSession => tui.spawn .compaction
  | .approvalDecision requestId approved =>
      match tui.resolve requestId approved with
      | (resolved, true) =>
          resolved.setApp { resolved.app with
            pendingApproval := none, approvalSelection := .approve, liveMessages := [] }
      | (unresolved, false) =>
          unresolved.setApp
            (unresolved.app.setLiveStatus "Approval resolve failed; request remains pending")

def applyPolicyLevel (tui : Terminal) (level : String) : Terminal :=
  { tui with policyLevel := level, app := tui.app.applyPolicyPick level, phase := .approvals }

def pickPolicy (tui : Terminal) (selected : Nat) : Terminal :=
  match ["allow", "ask", "deny"][selected]? with
  | none => { tui with phase := .approvals }
  | some level =>
      match tui.holder with
      | none => tui.applyPolicyLevel level
      | some _ => { tui.lockAgent .loop with phase := .lockingPolicy level }

def markAborted (tui : Terminal) (number : Nat) : Terminal :=
  match tui.tasks[number]? with
  | some task => tui.setTask number { task with aborted := true }
  | none => tui

def abortTurn (tui : Terminal) : Terminal :=
  let stopped :=
    match tui.turnTask with
    | some number => { tui.markAborted number with turnTask := none }
    | none => tui
  let app := tui.app.applyCoreEvent (.turnCompleted (tui.app.activeTurnId.getD 0))
  { stopped with coreEvents := none, app := app.setLiveStatus "已中断" }

def dismissOverlay (tui : Terminal) : Terminal :=
  if tui.app.policyPicker.isSome then tui.setApp tui.app.dismissPolicyPicker
  else if tui.app.slashPalette.visible then tui.setApp tui.app.dismissSlashPalette
  else if tui.app.pendingApproval.isSome then tui.setApp tui.app.deferPendingApproval
  else if tui.turnTask.isSome then tui.abortTurn
  else tui.setApp tui.app.clear

variable (skills : List SlashCommand)

def submitLine (tui : Terminal) : Terminal :=
  match tui.app.submitInput skills with
  | (app, some action) => (tui.setApp app).handleSubmitAction action
  | (app, none) => tui.setApp app

def submit (tui : Terminal) : Terminal :=
  match tui.app.policyPicker with
  | some selected => tui.pickPolicy selected
  | none =>
      let next :=
        if tui.turnTask.isSome ∧ tui.app.pendingApproval.isNone then
          tui.setApp (tui.app.setLiveStatus "Busy: previous turn still running")
        else if tui.app.pendingApproval.isNone ∧ tui.app.slashPalette.visible then
          match tui.app.completeSlashSelection skills with
          | (app, true) => tui.setApp app
          | (_, false) => tui.submitLine skills
        else tui.submitLine skills
      { next with phase := .approvals }

def moveSelection (app : App) (delta : Int) (history : App → App) : App :=
  if app.policyPicker.isSome then app.movePolicySelection delta
  else if app.pendingApproval.isSome then app.moveApprovalSelection delta
  else if app.slashPalette.visible then app.moveSlashSelection delta
  else history app

def editKey (app : App) : InputAction → App
  | .acceptSuggestion =>
      if app.pendingApproval.isNone ∧ app.slashPalette.visible then
        (app.completeSlashSelection skills).1
      else app
  | .backspace => app.backspace skills
  | .moveLeft => app.moveCursorLeft skills
  | .moveRight => app.moveCursorRight skills
  | .moveUp => moveSelection app (-1) (App.historyPrev skills)
  | .moveDown => moveSelection app 1 (App.historyNext skills)
  | .append text => app.appendInput skills text
  | .none | .quit | .submit | .dismissOverlay => app

def quit (tui : Terminal) : Terminal :=
  { tui.lockAgent .loop with phase := if tui.holder.isNone then .shutting else .quitting }

def handleKey (tui : Terminal) : InputAction → Terminal
  | .quit => tui.quit
  | .submit => tui.submit skills
  | .dismissOverlay => { tui.dismissOverlay with phase := .approvals }
  | action => { tui.setApp (editKey skills tui.app action) with phase := .approvals }

def receive (tui : Terminal) (number : Nat) : Option Terminal :=
  match tui.tasks[number]? with
  | some task =>
      match task.channel with
      | event :: rest =>
          some ((tui.setTask number { task with channel := rest }).setApp
            (tui.app.applyCoreEvent event))
      | [] => none
  | none => none

def taskEnded (tui : Terminal) : Bool :=
  (tui.turnTask.bind fun number => tui.tasks[number]?).any fun task => task.phase = .ended

def loopStep (tui : Terminal) : Option Terminal :=
  match tui.phase with
  | .approvals =>
      match tui.queuedRequests with
      | request :: rest =>
          some { tui with
            queuedRequests := rest, app := tui.app.applyCoreEvent (requestEvent request) }
      | [] => some { tui with phase := .events }
  | .events =>
      match tui.coreEvents.bind tui.receive with
      | some received => some received
      | none => some { tui with phase := .finished }
  | .finished =>
      if tui.taskEnded then some { tui with turnTask := none, phase := .lastEvents }
      else some { tui with phase := .polling }
  | .lastEvents =>
      match tui.coreEvents.bind tui.receive with
      | some received => some received
      | none => some { tui with coreEvents := none, phase := .polling }
  -- No key was pressed while the loop polled.
  | .polling => some { tui with phase := .approvals }
  | _ => none

def taskStep (tui : Terminal) (number : Nat) (task : Task) : TaskAct → Option Terminal
  | .lock =>
      match task.phase with
      | .spawned =>
          some ((tui.lockAgent (.task number)).setTask number
            { task with phase := if tui.holder.isNone then .running else .queued })
      | _ => none
  | .acquire =>
      if task.phase = .queued ∧ tui.holder = some (.task number) then
        some (tui.setTask number { task with phase := .running })
      else none
  | .emit event =>
      if task.phase = .running ∧ isApproval event = false then
        some (tui.setTask number { task with channel := task.channel ++ [event] })
      else none
  | .ask event =>
      match askedBy event with
      | some asked =>
          -- The id is a new one.
          if task.phase = .running ∧ task.kind = .userTurn ∧
              asked.request.requestId ∉ tui.pending ∧
              (tui.tasks.all fun other => !other.asksFor asked.request.requestId) = true then
            some (tui.setTask number
              { task with phase := .asking asked, channel := task.channel ++ [event] })
          else none
      | none => none
  | .push =>
      match task.phase with
      | .asking asked =>
          some ({ tui with
            queuedRequests := tui.queuedRequests ++ [asked.request] }.setTask number
              { task with phase := .pushed asked })
      | _ => none
  | .keep =>
      match task.phase with
      | .pushed asked =>
          some ({ tui with pending := insert asked.request.requestId tui.pending }.setTask number
            { task with phase := .waiting asked none })
      | _ => none
  | .decide =>
      match task.phase with
      | .waiting asked (some approved) =>
          some (tui.setTask number { task with
            phase := .running
            channel := task.channel ++
              [.approvalResolved asked.turnId asked.request.requestId approved] })
      | _ => none
  -- The handler's sender stays where it is.
  | .timeout =>
      match task.phase with
      | .asking asked | .pushed asked | .waiting asked none =>
          some (tui.setTask number { task with
            phase := .running
            channel := task.channel ++
              [.approvalResolved asked.turnId asked.request.requestId false] })
      | _ => none
  | .finish =>
      if task.phase = .running then
        some (tui.release.setTask number { task with phase := .ended })
      else none
  | .drop =>
      if task.aborted = true ∧ task.phase ≠ .ended then
        some ((tui.forget number).setTask number { task with phase := .ended })
      else none

def step (tui : Terminal) : TuiInput → Option Terminal
  | .loop => tui.loopStep
  | .key action => if tui.phase = .polling then some (tui.handleKey skills action) else none
  | .acquire =>
      if tui.holder = some .loop then
        match tui.phase with
        | .lockingPolicy level => some (tui.release.applyPolicyLevel level)
        | .quitting => some { tui with phase := .shutting }
        | _ => none
      else none
  | .shutDown =>
      if tui.phase = .shutting then
        some { tui.release with
          phase := .exited, app := tui.app.applyCoreEvent .shutdownComplete }
      else none
  | .task number act =>
      if tui.phase = .exited then none
      else tui.tasks[number]?.bind fun task => tui.taskStep number task act

end Terminal

def idleLoop : List TuiInput := [.loop, .loop, .loop]

def startTurn : List TuiInput :=
  idleLoop ++ [.key (.append ['h', 'i'])] ++ idleLoop ++ [.key .submit, .task 0 .lock]

def askForApproval : List TuiInput :=
  [.task 0 (.ask (.approvalRequested 1 "r" "ls" "why" none none none none [] none none none)),
    .task 0 .push, .task 0 .keep]

/-- The task, the ids of the handler's senders and its queue after the step. -/
inductive TaskMove (tui : Terminal) (task : Task) :
    TaskAct → Task → Finset String → List ApprovalRequest → Prop where
  | lock (phase : TaskPhase) : task.phase = .spawned → phase = .running ∨ phase = .queued →
      TaskMove tui task .lock { task with phase } tui.pending tui.queuedRequests
  | acquire : task.phase = .queued →
      TaskMove tui task .acquire { task with phase := .running } tui.pending tui.queuedRequests
  | emit (event : Event) : task.phase = .running → isApproval event = false →
      TaskMove tui task (.emit event) { task with channel := task.channel ++ [event] } tui.pending
        tui.queuedRequests
  | ask (event : Event) (asked : Asked) : askedBy event = some asked → task.phase = .running →
      task.kind = .userTurn → asked.request.requestId ∉ tui.pending →
      (∀ other ∈ tui.tasks, other.asksFor asked.request.requestId = false) →
      TaskMove tui task (.ask event)
        { task with phase := .asking asked, channel := task.channel ++ [event] } tui.pending
        tui.queuedRequests
  | push (asked : Asked) : task.phase = .asking asked →
      TaskMove tui task .push { task with phase := .pushed asked } tui.pending
        (tui.queuedRequests ++ [asked.request])
  | keep (asked : Asked) : task.phase = .pushed asked →
      TaskMove tui task .keep { task with phase := .waiting asked none }
        (insert asked.request.requestId tui.pending) tui.queuedRequests
  | decide (asked : Asked) (approved : Bool) : task.phase = .waiting asked (some approved) →
      TaskMove tui task .decide
        { task with
          phase := .running
          channel := task.channel ++
            [.approvalResolved asked.turnId asked.request.requestId approved] }
        tui.pending tui.queuedRequests
  | timeout (asked : Asked) : task.phase.asks = some asked →
      TaskMove tui task .timeout
        { task with
          phase := .running
          channel := task.channel ++
            [.approvalResolved asked.turnId asked.request.requestId false] }
        tui.pending tui.queuedRequests
  | finish : task.phase = .running →
      TaskMove tui task .finish { task with phase := .ended } tui.pending tui.queuedRequests
  | drop : task.aborted = true → task.phase ≠ .ended →
      TaskMove tui task .drop { task with phase := .ended } tui.pending tui.queuedRequests

structure TaskMoved (tui : Terminal) (number : Nat) (task : Task) (act : TaskAct) (changed : Task)
    (next : Terminal) : Prop where
  move : TaskMove tui task act changed next.pending next.queuedRequests
  tasks : next.tasks = tui.tasks.set number changed
  app : next.app = tui.app
  phase : next.phase = tui.phase
  turnTask : next.turnTask = tui.turnTask
  coreEvents : next.coreEvents = tui.coreEvents

section Steps

variable {tui next : Terminal} {number : Nat} {task changed : Task} {act : TaskAct}

theorem lockAgent_eq (asker : LockHolder) :
    ∃ holder waiting, tui.lockAgent asker = { tui with holder, waiting } := by
  unfold Terminal.lockAgent
  split
  · exact ⟨some asker, tui.waiting, rfl⟩
  · exact ⟨tui.holder, tui.waiting ++ [asker], rfl⟩

theorem forget_eq : ∃ holder waiting, tui.forget number = { tui with holder, waiting } := by
  unfold Terminal.forget
  split
  · exact ⟨tui.waiting.head?, tui.waiting.tail, rfl⟩
  · exact ⟨tui.holder, tui.waiting.erase (.task number), rfl⟩

theorem taskStep_moved (stepped : tui.taskStep number task act = some next) :
    ∃ changed, TaskMoved tui number task act changed next := by
  cases act with
  | lock =>
    simp only [Terminal.taskStep] at stepped
    split at stepped <;> cases stepped
    next spawned =>
      obtain ⟨holder, waiting, same⟩ := @lockAgent_eq tui (.task number)
      rw [same]
      refine ⟨_, .lock _ spawned ?_, rfl, rfl, rfl, rfl, rfl⟩
      cases tui.holder <;> simp
  | acquire =>
    obtain ⟨queued, taken⟩ := (guard_bind_iff _ _ _).mp stepped
    cases taken
    exact ⟨_, .acquire queued.1, rfl, rfl, rfl, rfl, rfl⟩
  | emit event =>
    obtain ⟨allowed, taken⟩ := (guard_bind_iff _ _ _).mp stepped
    cases taken
    exact ⟨_, .emit event allowed.1 allowed.2, rfl, rfl, rfl, rfl, rfl⟩
  | ask event =>
    simp only [Terminal.taskStep] at stepped
    split at stepped
    next asked request =>
      obtain ⟨⟨running, turn, unknown, new⟩, taken⟩ := (guard_bind_iff _ _ _).mp stepped
      cases taken
      refine ⟨_, .ask event asked request running turn unknown ?_, rfl, rfl, rfl, rfl, rfl⟩
      intro other member
      simpa using List.all_eq_true.mp new other member
    · cases stepped
  | push =>
    simp only [Terminal.taskStep] at stepped
    split at stepped <;> cases stepped
    next asked asking => exact ⟨_, .push asked asking, rfl, rfl, rfl, rfl, rfl⟩
  | keep =>
    simp only [Terminal.taskStep] at stepped
    split at stepped <;> cases stepped
    next asked pushed => exact ⟨_, .keep asked pushed, rfl, rfl, rfl, rfl, rfl⟩
  | decide =>
    simp only [Terminal.taskStep] at stepped
    split at stepped <;> cases stepped
    next asked approved waiting => exact ⟨_, .decide asked approved waiting, rfl, rfl, rfl, rfl, rfl⟩
  | timeout =>
    simp only [Terminal.taskStep] at stepped
    split at stepped <;> cases stepped
    all_goals
      rename_i asked asks
      exact ⟨_, .timeout asked (by rw [asks]; rfl), rfl, rfl, rfl, rfl, rfl⟩
  | finish =>
    obtain ⟨running, taken⟩ := (guard_bind_iff _ _ _).mp stepped
    cases taken
    exact ⟨_, .finish running, rfl, rfl, rfl, rfl, rfl⟩
  | drop =>
    obtain ⟨dropped, taken⟩ := (guard_bind_iff _ _ _).mp stepped
    cases taken
    obtain ⟨holder, waiting, same⟩ := @forget_eq tui number
    rw [same]
    exact ⟨_, .drop dropped.1 dropped.2, rfl, rfl, rfl, rfl, rfl⟩

namespace TaskMove

variable {pending : Finset String} {queued : List ApprovalRequest}

theorem kind (move : TaskMove tui task act changed pending queued) : changed.kind = task.kind := by
  cases move <;> rfl

theorem aborted (move : TaskMove tui task act changed pending queued) :
    changed.aborted = task.aborted := by
  cases move <;> rfl

theorem lives (move : TaskMove tui task act changed pending queued) : task.phase ≠ .ended := by
  intro ended
  cases move <;> simp_all [TaskPhase.asks]

theorem asks (move : TaskMove tui task act changed pending queued)
    (asking : changed.phase.asks.isSome) :
    task.phase.asks.isSome ∨ task.kind = .userTurn := by
  cases move with
  | emit => exact .inl asking
  | ask _ _ _ _ turn => exact .inr turn
  | push _ held => exact .inl (by rw [held]; rfl)
  | keep _ held => exact .inl (by rw [held]; rfl)
  | lock _ _ held => rcases held with rfl | rfl <;> cases asking
  | _ => cases asking

end TaskMove

theorem getElem?_setTask (changed : Task) (found : tui.tasks[number]? = some task) (other : Nat) :
    (tui.setTask number changed).tasks[other]? =
      if other = number then some changed else tui.tasks[other]? := by
  obtain ⟨inside, _⟩ := List.getElem?_eq_some_iff.mp found
  rw [Terminal.setTask, List.getElem?_set]
  by_cases same : number = other
  · simp [same, same ▸ inside]
  · simp [same, Ne.symm same]

theorem TaskMoved.getElem? (moved : TaskMoved tui number task act changed next)
    (found : tui.tasks[number]? = some task) (other : Nat) :
    next.tasks[other]? = if other = number then some changed else tui.tasks[other]? := by
  rw [moved.tasks]
  exact getElem?_setTask changed found other

theorem spawn_task {kind : TaskKind} (found : (tui.spawn kind).tasks[number]? = some task) :
    tui.tasks[number]? = some task ∨
      number = tui.tasks.length ∧ task = ⟨kind, false, .spawned, []⟩ := by
  rw [Terminal.spawn, List.getElem?_append] at found
  split at found
  · exact .inl found
  next outside =>
    obtain ⟨first, same⟩ := List.getElem?_eq_some_iff.mp found
    rw [List.length_singleton] at first
    rw [List.getElem_singleton] at same
    exact .inr ⟨by omega, same.symm⟩

end Steps

end OpenJax.Tui
