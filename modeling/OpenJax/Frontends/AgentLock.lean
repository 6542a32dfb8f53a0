import OpenJax.Stdio.Responses
import OpenJax.Tui.Steps

set_option autoImplicit false

/-! The loops that deliver the answers to approvals, and the lock of the agent. A turn holds the
lock while it waits for an answer. -/

namespace OpenJax.Stdio

open Shared Protocol

def TurnPhase.unanswered : TurnPhase → Bool
  | .waiting _ none => true
  | _ => false

def LoopPhase.isLocking : LoopPhase → Bool
  | .locking _ _ => true
  | _ => false

namespace Daemon

def holderWaits (daemon : Daemon) (cell : SessionCell) : Bool :=
  match cell.holder with
  | some (.turn line) => (daemon.workers.lookup line).any fun worker => worker.turn.unanswered
  | _ => false

def waitCycle (daemon : Daemon) : Bool :=
  match daemon.phase with
  | .locking sessionId _ => (daemon.cells.lookup sessionId).any daemon.holderWaits
  | _ => false

def agentFree (daemon : Daemon) (sessionId : String) : Bool :=
  (daemon.cells.lookup sessionId).all fun cell => cell.holder.isNone

end Daemon

def shutdownTarget (parse : String → Except String Json) (text : String) : Option String :=
  match parse text with
  | .error _ => none
  | .ok raw =>
      match RequestEnvelope.fromValue raw with
      | none => none
      | some request =>
          if request.protocolVersion = protocolVersion ∧ request.kind = kindRequest ∧
              request.method = "shutdown_session" then request.sessionId
          else none

def ShutsFree (parse : String → Except String Json) (daemon : Daemon) : DaemonInput → Prop
  | .line text _ _ =>
      (shutdownTarget parse text).all (fun sessionId =>
        decide (sessionId ∉ daemon.sessions) || daemon.agentFree sessionId) = true
  | .clean sessionId => daemon.agentFree sessionId = true
  | _ => True

instance (parse : String → Except String Json) (daemon : Daemon) (input : DaemonInput) :
    Decidable (ShutsFree parse daemon input) := by
  unfold ShutsFree
  split <;> infer_instance

section Loop

variable {daemon : Daemon} {line : Nat}

theorem lockAgent_free {sessionId : String} {cell : SessionCell} {after : AfterShutdown}
    (free : cell.holder = none) : (daemon.lockAgent sessionId cell after).phase.isLocking = false := by
  rw [Daemon.lockAgent, free]
  rfl

theorem withSession_unlocked {requestId sessionId : String} {handle : SessionCell → Daemon}
    (handled : ∀ cell, sessionId ∈ daemon.sessions → daemon.cells.lookup sessionId = some cell →
      (handle cell).phase.isLocking = false) :
    (daemon.withSession line requestId sessionId handle).phase.isLocking = false := by
  unfold Daemon.withSession
  split
  next member =>
    split
    next cell found => exact handled cell member found
    · rfl
  · rfl

theorem handleRequest_unlocked (request : RequestEnvelope) (sessionId createdAt : String)
    (reading : daemon.phase = .reading)
    (free : request.protocolVersion = protocolVersion → request.kind = kindRequest →
      request.method = "shutdown_session" → ∀ target, request.sessionId = some target →
      target ∈ daemon.sessions → daemon.agentFree target = true) :
    (daemon.handleRequest line request sessionId createdAt).phase.isLocking = false := by
  unfold Daemon.handleRequest
  split
  · rfl
  next accepted =>
    split
    · rfl
    split
    · unfold Daemon.streamEvents
      split
      · rfl
      · exact withSession_unlocked fun _ _ _ => rfl
    split
    · unfold Daemon.submitTurn
      repeat' split
      all_goals try rfl
      refine withSession_unlocked fun _ _ _ => ?_
      rw [Daemon.spawnTurn, Daemon.setWorker, reading]
      rfl
    split
    · unfold Daemon.resolveApproval
      repeat' split
      all_goals try rfl
      refine withSession_unlocked fun _ _ _ => ?_
      unfold Daemon.answerApproval
      split <;> rfl
    split
    next shuts =>
      unfold Daemon.shutdownSession
      split
      · rfl
      next target named =>
        refine withSession_unlocked fun cell member found => lockAgent_free ?_
        rw [not_or, not_not, not_not] at accepted
        have unheld := free accepted.1 accepted.2 shuts target named member
        rw [Daemon.agentFree, found] at unheld
        exact Option.isNone_iff_eq_none.mp unheld
    · rfl

theorem handleLine_unlocked {parse : String → Except String Json} {describe : Json → String}
    {text sessionId createdAt : String} (reading : daemon.phase = .reading)
    (free : (shutdownTarget parse text).all (fun target =>
      decide (target ∉ daemon.sessions) || daemon.agentFree target) = true) :
    (daemon.handleLine parse describe line text sessionId createdAt).phase.isLocking = false := by
  unfold Daemon.handleLine
  cases read : parse text with
  | error => rfl
  | ok raw =>
    dsimp only
    cases envelope : RequestEnvelope.fromValue raw with
    | none => rfl
    | some request =>
      refine handleRequest_unlocked request sessionId createdAt reading ?_
      intro version kind method target named member
      simpa [shutdownTarget, read, envelope, version, kind, method, named, member] using free

end Loop

theorem workerStep_phase {daemon next : Daemon} {line : Nat} {worker : Worker}
    {streaming works : Bool} (stepped : daemon.workerStep line worker streaming works = some next) :
    next.phase = daemon.phase := by
  unfold Daemon.workerStep at stepped
  split at stepped
  · split at stepped
    · cases stepped; rfl
    · split at stepped <;> cases stepped; rfl
  · cases stepped; rfl
  · dsimp only at stepped
    split at stepped <;> cases stepped <;> rfl
  · obtain ⟨phase, _, rfl⟩ := Option.map_eq_some_iff.mp stepped
    rfl
  · cases stepped; rfl
  · cases stepped

theorem turnStep_phase {daemon next : Daemon} {line : Nat} {worker : Worker} {cell : SessionCell}
    {act : TurnAct} (stepped : daemon.turnStep line worker cell act = some next) :
    next.phase = daemon.phase := by
  cases act <;> simp only [Daemon.turnStep] at stepped <;> repeat' split at stepped
  all_goals cases stepped
  all_goals rfl

def Unlocked (daemon : Daemon) : Prop := daemon.phase.isLocking = false

theorem unlocked_preserved (parse : String → Except String Json) (describe : Json → String) :
    Preserves (Daemon.step parse describe) (ShutsFree parse) Unlocked := by
  intro daemon input next unlocked allowed stepped
  cases input with
  | line text sessionId createdAt =>
    simp only [Daemon.step] at stepped
    split at stepped
    next reading =>
      split at stepped
      · cases stepped
        exact unlocked
      · split at stepped <;> cases stepped
        exact handleLine_unlocked reading allowed
    · cases stepped
  | clean sessionId =>
    simp only [Daemon.step] at stepped
    split at stepped
    · split at stepped
      · obtain ⟨cell, found, rfl⟩ := Option.map_eq_some_iff.mp stepped
        have free : daemon.agentFree sessionId = true := allowed
        rw [Daemon.agentFree, found] at free
        exact lockAgent_free (Option.isNone_iff_eq_none.mp free)
      · cases stepped
    · cases stepped
  | write works =>
    simp only [Daemon.step] at stepped
    split at stepped <;> cases stepped
    next rest _ => cases rest <;> rfl
  | acquire =>
    simp only [Daemon.step] at stepped
    split at stepped
    · split at stepped <;> cases stepped
      rfl
    · cases stepped
  | shutDown =>
    simp only [Daemon.step] at stepped
    split at stepped
    next sessionId after _ =>
      obtain ⟨cell, _, rfl⟩ := Option.map_eq_some_iff.mp stepped
      cases after <;> rfl
    · cases stepped
  | endOfInput | readFails | exit =>
    simp only [Daemon.step] at stepped
    split at stepped <;> cases stepped
    rfl
  | worker line works =>
    simp only [Daemon.step] at stepped
    split at stepped
    · cases stepped
    · obtain ⟨worker, _, stepped⟩ := Option.bind_eq_some_iff.mp stepped
      obtain ⟨cell, _, stepped⟩ := Option.bind_eq_some_iff.mp stepped
      rw [Unlocked, workerStep_phase stepped]
      exact unlocked
  | turn line act =>
    simp only [Daemon.step] at stepped
    split at stepped
    · cases stepped
    · obtain ⟨worker, _, stepped⟩ := Option.bind_eq_some_iff.mp stepped
      obtain ⟨cell, _, stepped⟩ := Option.bind_eq_some_iff.mp stepped
      rw [Unlocked, turnStep_phase stepped]
      exact unlocked

theorem no_waitCycle {daemon : Daemon} (unlocked : Unlocked daemon) : daemon.waitCycle = false := by
  unfold Daemon.waitCycle
  split
  next locking =>
    rw [Unlocked, locking] at unlocked
    cases unlocked
  · rfl

end OpenJax.Stdio

namespace OpenJax.Tui

open Shared Protocol

def TaskPhase.unanswered : TaskPhase → Bool
  | .waiting _ none => true
  | _ => false

def Task.awaits (task : Task) : Bool := !task.aborted && task.phase.unanswered

def Task.settled (task : Task) : Bool :=
  task.aborted || task.phase = .ended || task.kind = .compaction

namespace Terminal

def waitCycle (tui : Terminal) : Bool :=
  match tui.phase, tui.holder with
  | .lockingPolicy _, some (.task number) | .quitting, some (.task number) =>
      tui.tasks[number]?.any Task.awaits
  | _, _ => false

def idle (tui : Terminal) : Bool :=
  (tui.turnTask.bind fun number => tui.tasks[number]?).all Task.settled

end Terminal

def QuitsIdle (tui : Terminal) : TuiInput → Prop
  | .key .quit => tui.idle = true
  | _ => True

instance (tui : Terminal) (input : TuiInput) : Decidable (QuitsIdle tui input) := by
  unfold QuitsIdle
  split <;> infer_instance

structure Settled (tui : Terminal) : Prop extends Tracked tui where
  quitting : tui.phase = .quitting → ∀ (number : Nat) (task : Task),
    tui.tasks[number]? = some task → task.settled = true

theorem settled_start (policyLevel : String) : Settled (.start policyLevel) :=
  ⟨tracked_start policyLevel, nofun⟩

theorem asks_of_unanswered {phase : TaskPhase} (unanswered : phase.unanswered = true) :
    phase.asks.isSome := by
  unfold TaskPhase.unanswered at unanswered
  split at unanswered
  · rfl
  · cases unanswered

theorem Task.Like.settled {task changed : Task} (like : task.Like changed)
    (settled : task.settled = true) : changed.settled = true := by
  simp only [Task.settled, Bool.or_eq_true, decide_eq_true_iff, like.kind] at settled ⊢
  exact settled.imp_left (Or.imp like.aborted like.ended)

section Waiting

variable {tui next : Terminal}

theorem Tracked.awaits {number : Nat} {task : Task} (tracked : Tracked tui)
    (found : tui.tasks[number]? = some task) (concluded : task.settled = true) :
    task.awaits = false := by
  by_contra waits
  simp only [Task.awaits, Bool.not_eq_false, Bool.and_eq_true, Bool.not_eq_true'] at waits
  have turn := tracked.turns number task found (asks_of_unanswered waits.2)
  simp only [Task.settled, waits.1, turn, Bool.false_or, Bool.or_eq_true,
    decide_eq_true_iff] at concluded
  rcases concluded with ended | compaction
  · rw [ended] at waits
    cases waits.2
  · cases compaction

theorem Settled.no_waitCycle (settled : Settled tui) : tui.waitCycle = false := by
  unfold Terminal.waitCycle
  split
  next level number locking _ =>
    cases found : tui.tasks[number]? with
    | none => rfl
    | some task =>
      have handle := settled.locking level locking
      refine settled.awaits found ?_
      rcases settled.current number task found with aborted | ended | running
      · simp [Task.settled, aborted]
      · simp [Task.settled, ended]
      · rw [handle] at running
        cases running
  next number quitting _ =>
    cases found : tui.tasks[number]? with
    | none => rfl
    | some task => exact settled.awaits found (settled.quitting quitting number task found)
  · rfl

theorem settled_quit (tracked : Tracked tui) (idle : tui.idle = true) :
    ∀ (number : Nat) (task : Task), tui.tasks[number]? = some task → task.settled = true := by
  intro number task found
  rcases tracked.current number task found with aborted | ended | current
  · simp [Task.settled, aborted]
  · simp [Task.settled, ended]
  · rw [Terminal.idle, current, Option.bind_some, found] at idle
    exact idle

theorem quitting_key {action : InputAction} (move : KeyMove tui action next)
    (waits : next.phase = .quitting) : action = .quit ∧ next.tasks = tui.tasks := by
  cases move with
  | quit =>
    obtain ⟨holder, waiting, same⟩ := @lockAgent_eq tui .loop
    refine ⟨rfl, ?_⟩
    unfold Terminal.quit
    rw [same]
  | _ => cases waits

theorem quitting_loop (move : LoopMove tui next) (waits : next.phase = .quitting) :
    tui.phase = .quitting ∧ Alike tui next := by
  cases move with
  | pop => exact ⟨waits, .of_eq rfl⟩
  | receive number task event rest _ _ found =>
    refine ⟨waits, .set found ?_ rfl⟩
    exact ⟨rfl, fun aborted => aborted, fun ended => ended, .inl⟩
  | _ => cases waits

theorem settled_preserved (skills : List SlashCommand) :
    Preserves (Terminal.step skills) QuitsIdle Settled := by
  intro tui input next settled allowed stepped
  have move := step_move stepped
  refine ⟨tracked_move settled.toTracked move, fun waits number changed found => ?_⟩
  -- The tasks that were settled stay so.
  have stays : tui.phase = .quitting ∧ Alike tui next → changed.settled = true := by
    intro before
    obtain ⟨task, held, like⟩ := before.2 number changed found
    exact like.settled (settled.quitting before.1 number task held)
  cases move with
  | loop _ move => exact stays (quitting_loop move waits)
  | key action _ _ move =>
    obtain ⟨rfl, same⟩ := quitting_key move waits
    rw [same] at found
    exact settled_quit settled.toTracked allowed number changed found
  | task other task moved act _ held step => exact stays ⟨step.phase ▸ waits, step.alike held⟩
  | changePolicy | leave | shutDown => cases waits

end Waiting

end OpenJax.Tui

namespace OpenJax.Frontends

open Shared

/-- In no state of either program the loop waits for a lock whose holder waits for the loop. -/
theorem no_wait_cycle (parse : String → Except String Json) (describe : Json → String)
    (skills : List Tui.SlashCommand) (policyLevel : String) :
    (∀ inputs daemon, Meets (Stdio.Daemon.step parse describe) (Stdio.ShutsFree parse) .new inputs →
        run (Stdio.Daemon.step parse describe) .new inputs = some daemon →
          daemon.waitCycle = false) ∧
      ∀ inputs tui, Meets (Tui.Terminal.step skills) Tui.QuitsIdle (.start policyLevel) inputs →
        run (Tui.Terminal.step skills) (.start policyLevel) inputs = some tui →
          tui.waitCycle = false := by
  constructor
  next =>
    intro inputs daemon meets ran
    have initial : Stdio.Unlocked .new := rfl
    exact Stdio.no_waitCycle
      (run_invariant (Stdio.unlocked_preserved parse describe) initial meets ran)
  next =>
    intro inputs tui meets ran
    exact (run_invariant (Tui.settled_preserved skills) (Tui.settled_start policyLevel) meets
      ran).no_waitCycle

def askingTurn : List Stdio.DaemonInput :=
  [.line Stdio.startLine "s" "0", .write true, .line Stdio.submitLine "t" "0", .turn 1 .lock,
    .turn 1 (.ask "r")]

def askingTask : List Tui.TuiInput :=
  Tui.startTurn ++ Tui.askForApproval ++ [.loop, .loop, .loop, .loop, .loop]

def endedTurn : List Stdio.DaemonInput :=
  askingTurn ++ [.turn 1 (.timeout true), .turn 1 (.finish []), .line Stdio.shutdownLine "u" "0"]

def endedTask : List Tui.TuiInput :=
  askingTask ++ [.task 0 .timeout, .task 0 .finish] ++ Tui.idleLoop ++ Tui.idleLoop ++
    [.key .quit]

theorem no_wait_cycle_ended :
    (∃ daemon, run (Stdio.Daemon.step Stdio.readSample fun _ => "") .new endedTurn = some daemon ∧
        daemon.waitCycle = false) ∧
      ∃ tui, run (Tui.Terminal.step []) (.start "ask") endedTask = some tui ∧
        tui.waitCycle = false := by
  have both := no_wait_cycle Stdio.readSample (fun _ => "") [] "ask"
  constructor
  next =>
    have ran := Option.eq_some_of_isSome (show (run (Stdio.Daemon.step Stdio.readSample fun _ => "")
      .new endedTurn).isSome by decide +kernel)
    exact ⟨_, ran, both.1 _ _ (by decide +kernel) ran⟩
  next =>
    have ran := Option.eq_some_of_isSome (show (run (Tui.Terminal.step []) (.start "ask")
      endedTask).isSome by decide +kernel)
    exact ⟨_, ran, both.2 _ _ (by decide +kernel) ran⟩

theorem waits_for_approval :
    (∃ daemon, run (Stdio.Daemon.step Stdio.readSample fun _ => "") .new
        (askingTurn ++ [.line Stdio.shutdownLine "u" "0"]) = some daemon ∧
          daemon.waitCycle = true) ∧
      ∃ tui, run (Tui.Terminal.step []) (.start "ask") (askingTask ++ [.key .quit]) = some tui ∧
        tui.waitCycle = true :=
  ⟨⟨_, Option.eq_some_of_isSome (by decide +kernel), by decide +kernel⟩,
    ⟨_, Option.eq_some_of_isSome (by decide +kernel), by decide +kernel⟩⟩

end OpenJax.Frontends
