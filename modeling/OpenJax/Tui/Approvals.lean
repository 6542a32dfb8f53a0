import OpenJax.Tui.Steps

set_option autoImplicit false

/-! A request for approval reaches the interface by the handler's queue and by the events of the
turn. What is shown is a request that the turn still asks for, or whose resolution is on its way. -/

namespace OpenJax.Tui

open Shared Protocol

def resolvedId : Event → Option String
  | .approvalResolved _ requestId _ => some requestId
  | _ => none

def resolves (requestId : String) (events : List Event) : Bool :=
  events.any fun event => resolvedId event = some requestId

def LoopPhase.draining : LoopPhase → Bool
  | .events | .finished | .lastEvents => true
  | _ => false

def Task.live (task : Task) (requestId : String) : Bool :=
  task.asksFor requestId || resolves requestId task.channel

def App.pendingId (app : App) : Option String := app.pendingApproval.map PendingApproval.requestId

namespace Terminal

def listened (tui : Terminal) : Option Task := tui.coreEvents.bind fun number => tui.tasks[number]?

def queuedIds (tui : Terminal) : List String := tui.queuedRequests.map ApprovalRequest.requestId

def decides (skills : List SlashCommand) (tui : Terminal) : Option (String × Bool) :=
  match tui.app.policyPicker, (tui.app.submitInput skills).2 with
  | none, some (.approvalDecision requestId approved) => some (requestId, approved)
  | _, _ => none

def waitsFor (tui : Terminal) (requestId : String) : Bool :=
  tui.tasks.any fun task => !task.aborted && task.waitsFor requestId

def turnOver (tui : Terminal) : Bool :=
  (tui.turnTask.bind fun number => tui.tasks[number]?).all fun task => task.phase = .ended

def drained (tui : Terminal) : Bool :=
  tui.queuedRequests.isEmpty && tui.listened.all fun task => task.channel.isEmpty

end Terminal

/-- A turn is aborted only when it has no request in the queue, and puts none there afterwards. A
request times out only after the loop has popped it, if the loop drains the events, and no answer
is given to it before the loop has received the event of that. -/
def SafeStep (skills : List SlashCommand) (tui : Terminal) : TuiInput → Prop
  | .key .dismissOverlay => tui.aborts = true → tui.queuedRequests = []
  | .key .submit =>
      ((tui.decides skills).all fun decision =>
        decide (decision.1 ∉ tui.pending) ||
          tui.listened.all fun task => !resolves decision.1 task.channel) = true
  | .task number .push => (tui.tasks[number]?.all fun task => !task.aborted) = true
  | .task number .timeout =>
      (!tui.phase.draining || tui.tasks[number]?.all fun task =>
        task.phase.asks.all fun asked => decide (asked.request.requestId ∉ tui.queuedIds)) = true
  | _ => True

instance (skills : List SlashCommand) (tui : Terminal) (input : TuiInput) :
    Decidable (SafeStep skills tui input) := by
  unfold SafeStep
  split <;> infer_instance

theorem pendingId_event {app : App} {event : Event} {requestId : String}
    (shown : (app.applyCoreEvent event).pendingId = some requestId) :
    (∃ asked, askedBy event = some asked ∧ asked.request.requestId = requestId) ∨
      app.pendingId = some requestId ∧ resolvedId event ≠ some requestId := by
  cases event
  case approvalRequested turnId asked target reason version rule tool preview tags backend degrade
      kind =>
    refine .inl ⟨⟨turnId, ⟨asked, target, reason⟩⟩, rfl, ?_⟩
    simp only [App.applyCoreEvent, App.approvalRequested] at shown
    split at shown
    next existing _ =>
      split at shown
      next same => exact same.symm.trans (Option.some.inj shown)
      · exact Option.some.inj shown
    · exact Option.some.inj shown
  case approvalResolved turnId resolved approved =>
    simp only [App.applyCoreEvent, App.approvalResolved] at shown
    split at shown
    next other =>
      refine .inr ⟨shown, fun same => ?_⟩
      obtain rfl : resolved = requestId := Option.some.inj same
      obtain ⟨pending, held, rfl⟩ := Option.map_eq_some_iff.mp shown
      simp [held] at other
    · cases shown
  all_goals exact .inr ⟨shown, by rintro ⟨⟩⟩

/-- The task whose events are received, the request shown, those in the queue, and whether the
loop drains the events. -/
structure Consistent (task : Task) (pendingId : Option String) (queuedIds : List String)
    (draining : Bool) : Prop where
  shown : ∀ requestId, pendingId = some requestId → task.live requestId = true
  queued : ∀ requestId ∈ queuedIds, task.live requestId = true
  opened : draining = true → ∀ requestId ∈ queuedIds, task.asksFor requestId = true
  decided : draining = true → ∀ asked approved, task.phase = .waiting asked (some approved) →
    asked.request.requestId ∉ queuedIds
  announced : ∀ before event after asked, task.channel = before ++ event :: after →
    askedBy event = some asked →
      task.asksFor asked.request.requestId = true ∨
        resolves asked.request.requestId after = true

structure Shown (tui : Terminal) : Prop where
  handle : ∀ number, tui.turnTask = some number → tui.coreEvents = some number ∧
    ∃ task, tui.tasks[number]? = some task ∧ task.aborted = false
  listening : ∀ number, tui.coreEvents = some number → tui.turnTask = some number ∨
    tui.phase = .lastEvents ∧ ∃ task, tui.tasks[number]? = some task ∧ task.phase = .ended
  closing : tui.phase = .lastEvents → tui.turnTask = none
  silent : tui.listened = none → tui.app.pendingId = none ∧ tui.queuedIds = []
  consistent : ∀ task, tui.listened = some task →
    Consistent task tui.app.pendingId tui.queuedIds tui.phase.draining

theorem shown_start (policyLevel : String) : Shown (.start policyLevel) :=
  ⟨nofun, nofun, nofun, fun _ => ⟨rfl, rfl⟩, nofun⟩

section Consistency

variable {task changed : Task} {pendingId : Option String} {queuedIds : List String}
  {draining : Bool}

theorem Consistent.paused (ok : Consistent task pendingId queuedIds draining) :
    Consistent task pendingId queuedIds false :=
  { ok with opened := nofun, decided := nofun }

theorem Consistent.silence (ok : Consistent task pendingId queuedIds draining)
    (concluded : task.phase.asks = none) (empty : task.channel = []) :
    pendingId = none ∧ queuedIds = [] := by
  have dead : ∀ requestId, task.live requestId = false := by
    intro requestId
    simp [Task.live, Task.asksFor, concluded, empty, resolves]
  constructor
  · rw [Option.eq_none_iff_forall_ne_some]
    intro requestId same
    exact absurd (ok.shown requestId same) (by simp [dead])
  · rw [List.eq_nil_iff_forall_not_mem]
    intro requestId member
    exact absurd (ok.queued requestId member) (by simp [dead])

theorem resolves_append (requestId : String) (events others : List Event) :
    resolves requestId (events ++ others) =
      (resolves requestId events || resolves requestId others) :=
  List.any_append

theorem split_concat {before channel after : List Event} {event last : Event}
    (split : channel ++ [last] = before ++ event :: after) :
    (event = last ∧ after = []) ∨
      ∃ earlier, after = earlier ++ [last] ∧ channel = before ++ event :: earlier := by
  rcases List.eq_nil_or_concat after with rfl | ⟨earlier, final, rfl⟩
  · exact .inl ⟨(List.cons.inj (List.append_inj' split rfl).2).1.symm, rfl⟩
  · have shifted : channel ++ [last] = (before ++ event :: earlier) ++ [final] := by
      simpa using split
    obtain ⟨same, ends⟩ := List.append_inj' shifted rfl
    exact .inr ⟨earlier, by rw [(List.cons.inj ends).1, List.concat_eq_append], same⟩

variable {requestId : String}

theorem Consistent.pop {app : App} {event : Event}
    (ok : Consistent task app.pendingId (requestId :: queuedIds) draining)
    (carries : ∀ asked, askedBy event = some asked → asked.request.requestId = requestId) :
    Consistent task (app.applyCoreEvent event).pendingId queuedIds false where
  shown other same := by
    rcases pendingId_event same with ⟨asked, request, rfl⟩ | ⟨before, _⟩
    · rw [carries asked request]
      exact ok.queued requestId List.mem_cons_self
    · exact ok.shown other before
  queued other member := ok.queued other (List.mem_cons_of_mem _ member)
  opened := nofun
  decided := nofun
  announced := ok.announced

theorem Consistent.receive {app : App} {event : Event} {rest : List Event}
    (ok : Consistent task app.pendingId queuedIds true) (channel : task.channel = event :: rest) :
    Consistent { task with channel := rest } (app.applyCoreEvent event).pendingId queuedIds
      true where
  shown requestId same := by
    rcases pendingId_event same with ⟨asked, request, rfl⟩ | ⟨before, other⟩
    · exact Bool.or_eq_true_iff.mpr (ok.announced [] event rest asked channel request)
    · have live := ok.shown requestId before
      change (task.asksFor requestId || resolves requestId rest) = true
      simpa [Task.live, channel, resolves, other] using live
  queued requestId member := by
    have asks := ok.opened rfl requestId member
    exact Bool.or_eq_true_iff.mpr (.inl asks)
  opened := ok.opened
  decided := ok.decided
  announced before other after asked split :=
    ok.announced (event :: before) other after asked (channel.trans (congrArg _ split))

theorem Consistent.same (events : List Event) (ok : Consistent task pendingId queuedIds draining)
    (asks : ∀ requestId, changed.asksFor requestId = task.asksFor requestId)
    (channel : changed.channel = task.channel ++ events)
    (unanswered : ∀ asked approved, changed.phase ≠ .waiting asked (some approved))
    (silent : ∀ event ∈ events, askedBy event = none) (single : events.length ≤ 1) :
    Consistent changed pendingId queuedIds draining := by
  have live : ∀ requestId, task.live requestId = true → changed.live requestId = true := by
    intro requestId before
    simp only [Task.live, asks, channel, resolves_append, Bool.or_eq_true] at before ⊢
    exact before.imp_right .inl
  refine ⟨fun id same => live id (ok.shown id same), fun id member => live id (ok.queued id member),
    fun drains id member => (asks id).trans (ok.opened drains id member),
    fun _ asked approved answered => absurd answered (unanswered asked approved), ?_⟩
  intro before event after asked split request
  rw [channel] at split
  rw [asks]
  cases events with
  | nil =>
    rw [List.append_nil] at split
    exact ok.announced before event after asked split request
  | cons last rest =>
    obtain rfl : rest = [] :=
      List.eq_nil_of_length_eq_zero (Nat.le_zero.mp (Nat.le_of_succ_le_succ single))
    rcases split_concat split with ⟨rfl, _⟩ | ⟨earlier, rfl, older⟩
    · rw [silent event List.mem_cons_self] at request
      cases request
    · rw [resolves_append, Bool.or_eq_true]
      exact (ok.announced before event earlier asked older request).imp_right .inl

theorem Consistent.still (ok : Consistent task pendingId queuedIds draining)
    (asks : ∀ requestId, changed.asksFor requestId = task.asksFor requestId)
    (channel : changed.channel = task.channel)
    (unanswered : ∀ asked approved, changed.phase ≠ .waiting asked (some approved)) :
    Consistent changed pendingId queuedIds draining :=
  ok.same [] asks (by rw [channel, List.append_nil]) unanswered (by simp) (by simp)

theorem Consistent.spawned (kind : TaskKind) :
    Consistent ⟨kind, false, .spawned, []⟩ none [] false := by
  constructor <;> simp

theorem Consistent.resolved {asked : Asked} {approved : Bool}
    (ok : Consistent task pendingId queuedIds draining) (asks : task.phase.asks = some asked)
    (popped : draining = true → asked.request.requestId ∉ queuedIds) :
    Consistent { task with
      phase := .running
      channel := task.channel ++
        [.approvalResolved asked.turnId asked.request.requestId approved] }
      pendingId queuedIds draining := by
  have asksOne : ∀ requestId, task.asksFor requestId = true →
      asked.request.requestId = requestId := by
    intro requestId same
    simpa [Task.asksFor, asks] using same
  have live : ∀ requestId, task.live requestId = true → ({ task with
      phase := .running
      channel := task.channel ++
        [.approvalResolved asked.turnId asked.request.requestId approved] } : Task).live
          requestId = true := by
    intro requestId before
    simp only [Task.live, resolves_append, Bool.or_eq_true] at before ⊢
    rcases before with same | resolving
    · have id := asksOne requestId same
      exact .inr (.inr (by simp [resolves, resolvedId, id]))
    · exact .inr (.inl resolving)
  refine ⟨fun id same => live id (ok.shown id same), fun id member => live id (ok.queued id member),
    fun drains id member => ?_, by simp, ?_⟩
  · have same := asksOne id (ok.opened drains id member)
    exact absurd (same ▸ member) (popped drains)
  · intro before event after other split request
    rcases split_concat split with ⟨rfl, _⟩ | ⟨earlier, rfl, older⟩
    · cases request
    · rw [resolves_append, Bool.or_eq_true]
      rcases ok.announced before event earlier other older request with same | resolving
      · have id := asksOne _ same
        exact .inr (.inr (by simp [resolves, resolvedId, id]))
      · exact .inr (.inl resolving)

theorem Consistent.ask {event : Event} {asked : Asked}
    (ok : Consistent task pendingId queuedIds draining) (request : askedBy event = some asked)
    (running : task.phase = .running) :
    Consistent { task with phase := .asking asked, channel := task.channel ++ [event] } pendingId
      queuedIds draining := by
  have idle : ∀ requestId, task.asksFor requestId = false := by
    intro requestId
    simp [Task.asksFor, TaskPhase.asks, running]
  have live : ∀ requestId, task.live requestId = true → ({ task with
      phase := .asking asked, channel := task.channel ++ [event] } : Task).live requestId =
        true := by
    intro requestId before
    simp only [Task.live, idle, Bool.false_or, resolves_append, Bool.or_eq_true] at before ⊢
    exact .inr (.inl before)
  refine ⟨fun id same => live id (ok.shown id same), fun id member => live id (ok.queued id member),
    fun drains id member => ?_, by simp, ?_⟩
  · have asks := ok.opened drains id member
    rw [idle] at asks
    cases asks
  · intro before other after another split asks
    rcases split_concat split with ⟨rfl, _⟩ | ⟨earlier, rfl, older⟩
    · obtain rfl : asked = another := Option.some.inj (request.symm.trans asks)
      exact .inl (by simp [Task.asksFor, TaskPhase.asks])
    · have resolving := ok.announced before other earlier another older asks
      rw [idle, resolves_append, Bool.or_eq_true] at *
      exact .inr (.inl (resolving.resolve_left (by simp)))

theorem Consistent.push (ok : Consistent task pendingId queuedIds draining)
    (asks : task.asksFor requestId = true)
    (unanswered : ∀ asked approved, task.phase ≠ .waiting asked (some approved)) :
    Consistent task pendingId (queuedIds ++ [requestId]) draining where
  shown := ok.shown
  queued other member := by
    rcases List.mem_append.mp member with old | new
    · exact ok.queued other old
    · rw [List.mem_singleton.mp new]
      exact Bool.or_eq_true_iff.mpr (.inl asks)
  opened drains other member := by
    rcases List.mem_append.mp member with old | new
    · exact ok.opened drains other old
    · rwa [List.mem_singleton.mp new]
  decided _ asked approved answered := absurd answered (unanswered asked approved)
  announced := ok.announced

theorem Consistent.move {tui : Terminal} {act : TaskAct} {senders : Finset String}
    {requests : List ApprovalRequest}
    (ok : Consistent task pendingId tui.queuedIds draining) (unaborted : task.aborted = false)
    (popped : act = .timeout → draining = true → ∀ asked, task.phase.asks = some asked →
      asked.request.requestId ∉ tui.queuedIds)
    (move : TaskMove tui task act changed senders requests) :
    Consistent changed pendingId (requests.map ApprovalRequest.requestId) draining := by
  cases move with
  | lock phase spawned next =>
    refine ok.still (fun requestId => ?_) rfl ?_
    · rcases next with rfl | rfl <;> simp [Task.asksFor, spawned, TaskPhase.asks]
    · rcases next with rfl | rfl <;> simp
  | acquire queued =>
    refine ok.still (fun requestId => ?_) rfl (by simp)
    simp [Task.asksFor, queued, TaskPhase.asks]
  | emit event running plain =>
    refine ok.same [event] (fun _ => rfl) rfl (by simp [running]) (fun other member => ?_) (by simp)
    rw [List.mem_singleton.mp member]
    cases event <;> first | rfl | cases plain
  | ask event asked request running => exact ok.ask request running
  | push asked asking =>
    have same : Consistent { task with phase := .pushed asked } pendingId tui.queuedIds
        draining := by
      refine ok.still (fun requestId => ?_) rfl (by simp)
      simp [Task.asksFor, asking, TaskPhase.asks]
    rw [List.map_append]
    exact same.push (by simp [Task.asksFor, TaskPhase.asks]) (by simp)
  | keep asked pushed =>
    refine ok.still (fun requestId => ?_) rfl (by simp)
    simp [Task.asksFor, pushed, TaskPhase.asks]
  | decide asked approved waiting =>
    exact ok.resolved (by rw [waiting]; rfl) fun drains => ok.decided drains asked approved waiting
  | timeout asked asks => exact ok.resolved asks fun drains => popped rfl drains asked asks
  | finish running =>
    refine ok.still (fun requestId => ?_) rfl (by simp)
    simp [Task.asksFor, running, TaskPhase.asks]
  | drop aborted =>
    rw [unaborted] at aborted
    cases aborted

theorem Consistent.answer {approved : Bool} (ok : Consistent task pendingId queuedIds false) :
    Consistent (task.answer requestId approved) pendingId queuedIds false := by
  have asks : ∀ other, (task.answer requestId approved).asksFor other = task.asksFor other := by
    intro other
    unfold Task.answer
    split
    next asked waiting =>
      split
      · simp [Task.asksFor, TaskPhase.asks, waiting]
      · rfl
    · rfl
  have channel : (task.answer requestId approved).channel = task.channel := by
    unfold Task.answer
    split
    · split <;> rfl
    · rfl
  have live : ∀ other, (task.answer requestId approved).live other = task.live other := by
    intro other
    rw [Task.live, asks, channel, Task.live]
  refine ⟨fun id same => (live id).trans (ok.shown id same),
    fun id member => (live id).trans (ok.queued id member), by rintro ⟨⟩, by rintro ⟨⟩, ?_⟩
  intro before event after asked split request
  rw [asks]
  exact ok.announced before event after asked (channel.symm.trans split) request

end Consistency

section Steps

variable {tui next : Terminal}

theorem Shown.calm (shown : Shown tui) (tasks : next.tasks = tui.tasks)
    (turnTask : next.turnTask = tui.turnTask) (coreEvents : next.coreEvents = tui.coreEvents)
    (pendingId : next.app.pendingId = tui.app.pendingId)
    (queued : next.queuedRequests = tui.queuedRequests)
    (before : tui.phase ≠ .lastEvents) (after : next.phase ≠ .lastEvents)
    (draining : next.phase.draining = true → tui.phase.draining = true) : Shown next := by
  have listened : next.listened = tui.listened := by
    rw [Terminal.listened, coreEvents, tasks, Terminal.listened]
  refine ⟨?_, fun number listening => .inl ?_, fun closing => absurd closing after, ?_, ?_⟩
  · rw [turnTask, coreEvents, tasks]
    exact shown.handle
  · rw [turnTask]
    rw [coreEvents] at listening
    exact (shown.listening number listening).resolve_right fun closing => before closing.1
  · rw [listened, pendingId, Terminal.queuedIds, queued]
    exact shown.silent
  · intro task found
    have ok := shown.consistent task (listened ▸ found)
    rw [pendingId, Terminal.queuedIds, queued]
    cases drains : next.phase.draining with
    | true =>
      rw [draining drains] at ok
      exact ok
    | false => exact ok.paused

theorem Shown.idle (shown : Shown tui) (tasks : next.tasks = tui.tasks)
    (turnTask : next.turnTask = tui.turnTask) (coreEvents : next.coreEvents = tui.coreEvents)
    (pendingId : next.app.pendingId = tui.app.pendingId)
    (queued : next.queuedRequests = tui.queuedRequests) (before : tui.phase ≠ .lastEvents)
    (idle : next.phase.draining = false) : Shown next := by
  refine shown.calm tasks turnTask coreEvents pendingId queued before (fun closing => ?_)
    fun drains => ?_
  · rw [closing] at idle
    cases idle
  · rw [idle] at drains
    cases drains


theorem listened_some {number : Nat} {task : Task} (listening : tui.coreEvents = some number)
    (found : tui.tasks[number]? = some task) : tui.listened = some task := by
  rw [Terminal.listened, listening, Option.bind_some, found]

theorem shown_loop (shown : Shown tui) (move : LoopMove tui next) : Shown next := by
  cases move with
  | pop request rest phase queued =>
    have ids : tui.queuedIds = request.requestId :: rest.map ApprovalRequest.requestId := by
      rw [Terminal.queuedIds, queued, List.map_cons]
    refine ⟨shown.handle, shown.listening, shown.closing, fun nothing => ?_, fun task found => ?_⟩
    · have empty := (shown.silent nothing).2
      rw [ids] at empty
      cases empty
    · have ok := shown.consistent task found
      rw [ids, phase] at ok
      refine phase ▸ ok.pop fun asked request => ?_
      cases request
      rfl
  | popped phase queued =>
    refine ⟨shown.handle, fun number listening => .inl ?_, by rintro ⟨⟩, shown.silent,
      fun task found => ?_⟩
    · refine (shown.listening number listening).resolve_right fun closing => ?_
      rw [phase] at closing
      cases closing.1
    · have ok := shown.consistent task found
      have ids : tui.queuedIds = [] := by rw [Terminal.queuedIds, queued]; rfl
      rw [ids] at ok
      change Consistent task tui.app.pendingId tui.queuedIds true
      rw [ids]
      exact { ok with
        opened := fun _ _ member => absurd member List.not_mem_nil
        decided := fun _ _ _ _ => List.not_mem_nil }
  | receive number task event rest phase listening found channel =>
    have at_ := @getElem?_setTask tui number task { task with channel := rest } found
    have drains : tui.phase.draining = true := by rcases phase with same | same <;> rw [same] <;> rfl
    refine ⟨fun other handle => ?_, fun other listens => ?_, shown.closing, fun nothing => ?_,
      fun changed held => ?_⟩
    · obtain ⟨listens, live, member, unaborted⟩ := shown.handle other handle
      refine ⟨listens, ?_⟩
      by_cases same : other = number
      · subst same
        obtain rfl : task = live := Option.some.inj (found.symm.trans member)
        exact ⟨_, (at_ other).trans (if_pos rfl), unaborted⟩
      · exact ⟨live, ((at_ other).trans (if_neg same)).trans member, unaborted⟩
    · refine (shown.listening other listens).imp_right fun closing => ⟨closing.1, ?_⟩
      obtain ⟨ended, member, concluded⟩ := closing.2
      obtain rfl : number = other := Option.some.inj (listening.symm.trans listens)
      obtain rfl : task = ended := Option.some.inj (found.symm.trans member)
      exact ⟨_, (at_ number).trans (if_pos rfl), concluded⟩
    · have updated := (at_ number).trans (if_pos rfl)
      have held := @listened_some (tui.setTask number { task with channel := rest }) number _
        listening updated
      rw [show (tui.setTask number { task with channel := rest }).listened = none from nothing]
        at held
      cases held
    · have updated := (at_ number).trans (if_pos rfl)
      have same := @listened_some (tui.setTask number { task with channel := rest }) number _
        listening updated
      obtain rfl : _ = changed := Option.some.inj (same.symm.trans held)
      have ok := shown.consistent task (listened_some listening found)
      rw [drains] at ok
      change Consistent _ _ _ tui.phase.draining
      rw [drains]
      exact ok.receive channel
  | received phase =>
    exact shown.calm rfl rfl rfl rfl rfl (by simp [phase]) (by rintro ⟨⟩)
      (by simp [phase, LoopPhase.draining])
  | concluded number task phase handle found ended =>
    have listening := (shown.handle number handle).1
    refine ⟨by rintro _ ⟨⟩, fun other listens => .inr ⟨rfl, task, ?_, ended⟩, fun _ => rfl, shown.silent,
      fun changed held => ?_⟩
    · obtain rfl : number = other := Option.some.inj (listening.symm.trans listens)
      exact found
    · have ok := shown.consistent changed held
      rw [phase] at ok
      exact ok
  | poll phase => exact shown.idle rfl rfl rfl rfl rfl (by simp [phase]) rfl
  | closed phase empty =>
    have handle := shown.closing phase
    refine ⟨fun other held => ?_, by rintro _ ⟨⟩, by rintro ⟨⟩, fun _ => ?_,
      by rintro _ ⟨⟩⟩
    · rw [show tui.turnTask = some other from held] at handle
      cases handle
    · change tui.app.pendingId = none ∧ tui.queuedIds = []
      cases listening : tui.coreEvents with
      | none => exact shown.silent (by rw [Terminal.listened, listening]; rfl)
      | some number =>
        have either := shown.listening number listening
        rw [handle] at either
        obtain ⟨_, task, found, ended⟩ := either.resolve_left (by rintro ⟨⟩)
        -- The turn asks for nothing any more, and all its events are received.
        have ok := shown.consistent task (listened_some listening found)
        exact ok.silence (by rw [ended]; rfl) (empty number task listening found)
  | again phase => exact shown.idle rfl rfl rfl rfl rfl (by simp [phase]) rfl

theorem Shown.resting (shown : Shown tui) (handle : tui.turnTask = none)
    (phase : tui.phase = .polling) :
    tui.coreEvents = none ∧ tui.queuedIds = [] := by
  have deaf : tui.coreEvents = none := by
    rw [Option.eq_none_iff_forall_ne_some]
    intro number listening
    rcases shown.listening number listening with turn | closing
    · rw [handle] at turn
      cases turn
    · rw [phase] at closing
      cases closing.1
  exact ⟨deaf, (shown.silent (by rw [Terminal.listened, deaf]; rfl)).2⟩

theorem markAborted_eq (number : Nat) : ∃ tasks, tui.markAborted number = { tui with tasks } := by
  unfold Terminal.markAborted
  split
  · exact ⟨_, rfl⟩
  · exact ⟨tui.tasks, rfl⟩

theorem shown_resolve (shown : Shown tui) (phase : tui.phase = .polling) (requestId : String)
    (approved : Bool) (app : App)
    (pendingId : app.pendingId = none ∨ app.pendingId = tui.app.pendingId) :
    Shown { (tui.resolve requestId approved).1.setApp app with phase := .approvals } := by
  have less : ∀ task, Consistent task tui.app.pendingId tui.queuedIds false →
      Consistent task app.pendingId tui.queuedIds false := by
    intro task ok
    rcases pendingId with none | same
    · exact { ok with shown := fun id shows => by rw [none] at shows; cases shows }
    · rw [same]
      exact ok
  have hidden : tui.app.pendingId = none → app.pendingId = none := by
    intro before
    exact pendingId.elim id fun same => same.trans before
  unfold Terminal.resolve
  split
  · have tasks : ∀ number : Nat,
        (tui.tasks.map fun task : Task => task.answer requestId approved)[number]? =
          (tui.tasks[number]?).map fun task : Task => task.answer requestId approved :=
      fun number => List.getElem?_map
    have kept : ∀ task : Task, (task.answer requestId approved).aborted = task.aborted := by
      intro task
      unfold Task.answer
      split
      · split <;> rfl
      · rfl
    refine ⟨fun number handle => ?_, fun number listening => .inl ?_, by rintro ⟨⟩,
      fun nothing => ?_,
      fun changed held => ?_⟩
    · obtain ⟨listening, task, found, unaborted⟩ := shown.handle number handle
      refine ⟨listening, task.answer requestId approved, ?_, (kept task).trans unaborted⟩
      exact (tasks number).trans (by rw [found]; rfl)
    · refine (shown.listening number listening).resolve_right fun closing => ?_
      rw [phase] at closing
      cases closing.1
    · have before : tui.listened = none := by
        cases listening : tui.coreEvents with
        | none => rw [Terminal.listened, listening]; rfl
        | some number =>
          rw [Terminal.listened, listening, Option.bind_some]
          have gone : (tui.coreEvents.bind fun number => (tui.tasks.map fun task =>
            task.answer requestId approved)[number]?) = none := nothing
          rw [listening, Option.bind_some, tasks, Option.map_eq_none_iff] at gone
          exact gone
      exact (shown.silent before).imp_left hidden
    · obtain ⟨number, listening, found⟩ := Option.bind_eq_some_iff.mp held
      obtain ⟨task, before, rfl⟩ := Option.map_eq_some_iff.mp ((tasks number).symm.trans found)
      have ok := shown.consistent task (listened_some listening before)
      exact less _ ok.paused.answer
  · refine ⟨shown.handle, fun number listening => .inl ?_, by rintro ⟨⟩,
      fun nothing => (shown.silent nothing).imp_left hidden, fun task found => ?_⟩
    · refine (shown.listening number listening).resolve_right fun closing => ?_
      rw [phase] at closing
      cases closing.1
    · exact less task (shown.consistent task found).paused

theorem shown_key {skills : List SlashCommand} {action : InputAction} (shown : Shown tui)
    (allowed : SafeStep skills tui (.key action)) (phase : tui.phase = .polling)
    (move : KeyMove tui action next) : Shown next := by
  cases move with
  | edited _ app _ pending =>
    have same : app.pendingId = tui.app.pendingId :=
      congrArg (Option.map PendingApproval.requestId) pending
    exact shown.idle rfl rfl rfl same rfl (by simp [phase]) rfl
  | dealt _ app _ handle _ clean =>
    obtain ⟨deaf, empty⟩ := shown.resting handle phase
    have pendingId : app.pendingId = none := by rw [App.pendingId, clean]; rfl
    refine ⟨fun number held => ?_, fun number listening => ?_, by rintro ⟨⟩,
      fun _ => ⟨pendingId, empty⟩,
      fun task held => ?_⟩
    · rw [show tui.turnTask = some number from held] at handle
      cases handle
    · rw [show tui.coreEvents = some number from listening] at deaf
      cases deaf
    · obtain ⟨number, listening, _⟩ := Option.bind_eq_some_iff.mp held
      rw [show tui.coreEvents = some number from listening] at deaf
      cases deaf
  | started kind app handle _ clean =>
    obtain ⟨_, empty⟩ := shown.resting handle phase
    have pendingId : app.pendingId = none := by rw [App.pendingId, clean]; rfl
    have new : (tui.tasks ++ [(⟨kind, false, .spawned, []⟩ : Task)])[tui.tasks.length]? =
        some ⟨kind, false, .spawned, []⟩ := List.getElem?_concat_length
    refine ⟨fun number held => ?_, fun number listening => .inl listening, by rintro ⟨⟩,
      fun _ => ⟨pendingId, empty⟩, fun task held => ?_⟩
    · obtain rfl : tui.tasks.length = number := Option.some.inj held
      exact ⟨rfl, _, new, rfl⟩
    · obtain rfl : _ = task := Option.some.inj (new.symm.trans held)
      change Consistent _ app.pendingId tui.queuedIds false
      rw [pendingId, empty]
      exact .spawned kind
  | answered pending approved app before same =>
    obtain ⟨after, eq, _, left⟩ := @answered_eq (tui.setApp app) pending.requestId approved
    rw [eq]
    refine @shown_resolve (tui.setApp app) ?_ phase pending.requestId approved after ?_
    · have pendingId : app.pendingId = tui.app.pendingId :=
        congrArg (Option.map PendingApproval.requestId) (same.trans before.symm)
      exact shown.calm rfl rfl rfl pendingId rfl (by simp [phase]) (by simp [Terminal.setApp, phase])
        id
    · split at left
      · exact .inl (by rw [App.pendingId, left]; rfl)
      · exact .inr (congrArg (Option.map PendingApproval.requestId) left)
  | aborted number aborts handle =>
    have empty := allowed aborts
    have clean : tui.app.pendingApproval = none := by
      simp only [Terminal.aborts, Bool.and_eq_true, Option.isNone_iff_eq_none] at aborts
      exact aborts.1.2
    obtain ⟨tasks, same⟩ := @markAborted_eq tui number
    unfold Terminal.abortTurn
    rw [handle]
    dsimp only
    rw [same]
    constructor
    case handle => rintro _ ⟨⟩
    case listening => rintro _ ⟨⟩
    case closing => rintro ⟨⟩
    case silent =>
      exact fun _ => ⟨congrArg (Option.map PendingApproval.requestId) clean,
        congrArg (List.map ApprovalRequest.requestId) empty⟩
    case consistent => rintro _ ⟨⟩
  | picked level => exact shown.idle rfl rfl rfl rfl rfl (by simp [phase]) rfl
  | picking level =>
    obtain ⟨holder, waiting, same⟩ := @lockAgent_eq tui .loop
    rw [same]
    exact shown.idle rfl rfl rfl rfl rfl (by simp [phase]) rfl
  | quit =>
    obtain ⟨holder, waiting, same⟩ := @lockAgent_eq tui .loop
    unfold Terminal.quit
    rw [same]
    refine shown.idle rfl rfl rfl rfl rfl (by simp [phase]) ?_
    cases tui.holder <;> rfl

theorem queued_of_move {task changed : Task} {act : TaskAct} {senders : Finset String}
    {requests : List ApprovalRequest} (move : TaskMove tui task act changed senders requests) :
    (act = .push ∧ task.phase ≠ .ended) ∨ requests = tui.queuedRequests := by
  cases move with
  | push asked asking => exact .inl ⟨rfl, by simp [asking]⟩
  | _ => exact .inr rfl

theorem shown_task {skills : List SlashCommand} {number : Nat} {task changed : Task}
    {act : TaskAct} (tracked : Tracked tui) (shown : Shown tui)
    (allowed : SafeStep skills tui (.task number act)) (found : tui.tasks[number]? = some task)
    (moved : TaskMoved tui number task act changed next) : Shown next := by
  have tasks := moved.getElem? found
  have lives := moved.move.lives
  have handle : ∀ other, next.turnTask = some other → next.coreEvents = some other ∧
      ∃ task, next.tasks[other]? = some task ∧ task.aborted = false := by
    intro other held
    rw [moved.turnTask] at held
    obtain ⟨listening, live, member, unaborted⟩ := shown.handle other held
    rw [moved.coreEvents]
    refine ⟨listening, ?_⟩
    by_cases same : other = number
    · subst same
      obtain rfl : task = live := Option.some.inj (found.symm.trans member)
      exact ⟨changed, (tasks other).trans (if_pos rfl), moved.move.aborted.trans unaborted⟩
    · exact ⟨live, ((tasks other).trans (if_neg same)).trans member, unaborted⟩
  have listening : ∀ other, next.coreEvents = some other → next.turnTask = some other ∨
      next.phase = .lastEvents ∧ ∃ task, next.tasks[other]? = some task ∧ task.phase = .ended := by
    intro other listens
    rw [moved.coreEvents] at listens
    rw [moved.turnTask, moved.phase]
    refine (shown.listening other listens).imp_right fun closing => ⟨closing.1, ?_⟩
    obtain ⟨ended, member, concluded⟩ := closing.2
    by_cases same : other = number
    · subst same
      obtain rfl : task = ended := Option.some.inj (found.symm.trans member)
      exact absurd concluded lives
    · exact ⟨ended, ((tasks other).trans (if_neg same)).trans member, concluded⟩
  have closing : next.phase = .lastEvents → next.turnTask = none := by
    rw [moved.phase, moved.turnTask]
    exact shown.closing
  by_cases own : tui.coreEvents = some number
  · have unaborted : task.aborted = false := by
      rcases shown.listening number own with turn | ⟨_, ended, member, concluded⟩
      · obtain ⟨_, live, member, unaborted⟩ := shown.handle number turn
        obtain rfl : task = live := Option.some.inj (found.symm.trans member)
        exact unaborted
      · obtain rfl : task = ended := Option.some.inj (found.symm.trans member)
        exact absurd concluded lives
    have held : next.listened = some changed :=
      listened_some (moved.coreEvents.trans own) ((tasks number).trans (if_pos rfl))
    refine ⟨handle, listening, closing, fun nothing => ?_, fun other same => ?_⟩
    · rw [held] at nothing
      cases nothing
    · obtain rfl : changed = other := Option.some.inj (held.symm.trans same)
      have ok := shown.consistent task (listened_some own found)
      rw [moved.app, moved.phase]
      refine ok.move unaborted (fun timeout drains asked asks => ?_) moved.move
      subst timeout
      simpa [SafeStep, found, asks, drains] using allowed
  next =>
    -- A task that the loop does not listen to puts nothing in the queue.
    have queued : next.queuedRequests = tui.queuedRequests := by
      refine (queued_of_move moved.move).resolve_left fun pushes => own ?_
      obtain ⟨rfl, _⟩ := pushes
      have unaborted : task.aborted = false := by simpa [SafeStep, found] using allowed
      refine (shown.handle number ?_).1
      refine ((tracked.current number task found).resolve_left ?_).resolve_left lives
      simp [unaborted]
    have held : next.listened = tui.listened := by
      rw [Terminal.listened, moved.coreEvents, Terminal.listened]
      cases listens : tui.coreEvents with
      | none => rfl
      | some other =>
        rw [Option.bind_some, Option.bind_some, tasks]
        exact if_neg (show other ≠ number from fun same => own (same ▸ listens))
    refine ⟨handle, listening, closing, ?_, ?_⟩
    · rw [held, moved.app, Terminal.queuedIds, queued]
      exact shown.silent
    · rw [held, moved.app, moved.phase, Terminal.queuedIds, queued]
      exact shown.consistent

end Steps

theorem shown_move {skills : List SlashCommand} {tui next : Terminal} {input : TuiInput}
    (tracked : Tracked tui) (shown : Shown tui) (allowed : SafeStep skills tui input)
    (move : Move tui input next) : Shown next := by
  cases move with
  | loop _ move => exact shown_loop shown move
  | key _ _ phase move => exact shown_key shown allowed phase move
  | changePolicy level phase =>
    exact shown.idle rfl rfl rfl rfl rfl (by simp [phase]) rfl
  | leave phase => exact shown.idle rfl rfl rfl rfl rfl (by simp [phase]) rfl
  | shutDown phase => exact shown.idle rfl rfl rfl rfl rfl (by simp [phase]) rfl
  | task number task changed act _ found moved => exact shown_task tracked shown allowed found moved

def TaskPhase.unkept : TaskPhase → Option Asked
  | .asking asked | .pushed asked | .waiting asked (some _) => some asked
  | _ => none

theorem asks_of_unkept {phase : TaskPhase} {asked : Asked} (unkept : phase.unkept = some asked) :
    phase.asks = some asked := by
  unfold TaskPhase.unkept at unkept
  split at unkept <;> cases unkept <;> rfl

theorem waits_of_kept {task : Task} {requestId : String} (asks : task.asksFor requestId = true)
    (kept : ∀ asked, task.phase.unkept = some asked → asked.request.requestId ≠ requestId) :
    task.waitsFor requestId = true := by
  unfold Task.asksFor TaskPhase.asks at asks
  unfold Task.waitsFor
  split at asks
  next asked asking => exact absurd (of_decide_eq_true asks) (kept asked (by rw [asking]; rfl))
  next asked pushed => exact absurd (of_decide_eq_true asks) (kept asked (by rw [pushed]; rfl))
  next asked answer waiting =>
    cases answer with
    | none =>
      rw [waiting]
      exact asks
    | some approved => exact absurd (of_decide_eq_true asks) (kept asked (by rw [waiting]; rfl))
  · cases asks

structure Senders (tui : Terminal) : Prop where
  unkept : ∀ (number : Nat) (task : Task) (asked : Asked), tui.tasks[number]? = some task →
    task.phase.unkept = some asked → asked.request.requestId ∉ tui.pending
  alone : ∀ (first second : Nat) (task other : Task) (requestId : String),
    tui.tasks[first]? = some task → tui.tasks[second]? = some other →
      task.asksFor requestId = true → other.asksFor requestId = true → first = second

theorem senders_start (policyLevel : String) : Senders (.start policyLevel) :=
  ⟨by simp [Terminal.start], by simp [Terminal.start]⟩

section Senders

variable {tui next : Terminal}

theorem Senders.kept (senders : Senders tui) (pending : next.pending = tui.pending)
    (tasks : ∀ (number : Nat) (changed : Task), next.tasks[number]? = some changed →
      changed.phase.asks = none ∨
        ∃ task, tui.tasks[number]? = some task ∧ changed.phase = task.phase) :
    Senders next where
  unkept number changed asked found unkept := by
    rw [pending]
    rcases tasks number changed found with silent | ⟨task, before, same⟩
    · rw [asks_of_unkept unkept] at silent
      cases silent
    · exact senders.unkept number task asked before (same ▸ unkept)
  alone first second task other requestId found member asks others := by
    rcases tasks first task found with silent | ⟨old, before, same⟩
    · simp [Task.asksFor, silent] at asks
    rcases tasks second other member with silent | ⟨older, earlier, alike⟩
    · simp [Task.asksFor, silent] at others
    refine senders.alone first second old older requestId before earlier ?_ ?_
    · rwa [Task.asksFor, ← same]
    · rwa [Task.asksFor, ← alike]

theorem Senders.same (senders : Senders tui) (pending : next.pending = tui.pending)
    (tasks : next.tasks = tui.tasks) : Senders next :=
  senders.kept pending fun _ changed found => .inr ⟨changed, tasks ▸ found, rfl⟩

theorem senders_resolve (senders : Senders tui) (requestId : String) (approved : Bool) :
    Senders (tui.resolve requestId approved).1 := by
  unfold Terminal.resolve
  split
  · have asks : ∀ (task : Task) other,
        (task.answer requestId approved).asksFor other = task.asksFor other := by
      intro task other
      unfold Task.answer
      split
      next asked waiting =>
        split
        · simp [Task.asksFor, TaskPhase.asks, waiting]
        · rfl
      · rfl
    have before : ∀ (number : Nat) (changed : Task),
        (tui.tasks.map fun task : Task => task.answer requestId approved)[number]? =
          some changed →
            ∃ task, tui.tasks[number]? = some task ∧ task.answer requestId approved = changed :=
      fun number changed found =>
        Option.map_eq_some_iff.mp ((List.getElem?_map (i := number)).symm.trans found)
    refine ⟨fun number changed asked found unkept => ?_, ?_⟩
    · obtain ⟨task, held, rfl⟩ := before number changed found
      change asked.request.requestId ∉ tui.pending.erase requestId
      rw [Finset.mem_erase, not_and]
      intro other
      -- The task that got the answer is the one whose sender is gone.
      unfold Task.answer at unkept
      split at unkept
      next waiting _ =>
        split at unkept
        next same =>
          cases unkept
          exact absurd same other
        · exact senders.unkept number task asked held unkept
      · exact senders.unkept number task asked held unkept
    · intro first second changed other id found member asksFirst asksSecond
      obtain ⟨task, held, rfl⟩ := before first changed found
      obtain ⟨another, holds, rfl⟩ := before second other member
      rw [asks] at asksFirst asksSecond
      exact senders.alone first second task another id held holds asksFirst asksSecond
  · exact senders

variable {requests : List ApprovalRequest} {task changed : Task} {senders : Finset String}

variable {act : TaskAct}

theorem asks_of_move {requestId : String} (move : TaskMove tui task act changed senders requests)
    (asks : changed.asksFor requestId = true) :
    task.asksFor requestId = true ∨ ∀ other ∈ tui.tasks, other.asksFor requestId = false := by
  cases move with
  | lock phase spawned next => rcases next with rfl | rfl <;> cases asks
  | emit => exact .inl asks
  | ask event asked _ _ _ _ new =>
    obtain rfl : asked.request.requestId = requestId := of_decide_eq_true asks
    exact .inr new
  | push asked asking => exact .inl (by rw [Task.asksFor, asking]; exact asks)
  | keep asked pushed => exact .inl (by rw [Task.asksFor, pushed]; exact asks)
  | acquire | decide | timeout | finish | drop => cases asks

theorem unkept_of_move {asked : Asked} (move : TaskMove tui task act changed senders requests)
    (before : ∀ asked, task.phase.unkept = some asked → asked.request.requestId ∉ tui.pending)
    (unkept : changed.phase.unkept = some asked) : asked.request.requestId ∉ senders := by
  cases move with
  | lock phase spawned next => rcases next with rfl | rfl <;> cases unkept
  | emit => exact before asked unkept
  | ask event other _ _ _ unknown =>
    obtain rfl : other = asked := Option.some.inj unkept
    exact unknown
  | push other asking =>
    obtain rfl : other = asked := Option.some.inj unkept
    exact before other (by rw [asking]; rfl)
  | acquire | keep | decide | timeout | finish | drop => cases unkept

theorem senders_of_move {requestId : String} (move : TaskMove tui task act changed senders requests)
    (kept : requestId ∈ senders) : requestId ∈ tui.pending ∨ task.asksFor requestId = true := by
  cases move with
  | keep asked pushed =>
    refine (Finset.mem_insert.mp kept).symm.imp_right fun same => ?_
    simp [Task.asksFor, pushed, TaskPhase.asks, same]
  | _ => exact .inl kept

theorem senders_task {number : Nat} (senders : Senders tui) (found : tui.tasks[number]? = some task)
    (moved : TaskMoved tui number task act changed next) : Senders next := by
  have tasks := moved.getElem? found
  -- Only the task that takes the step may ask for something new.
  have before : ∀ (other : Nat) (held : Task) (requestId : String),
      next.tasks[other]? = some held → held.asksFor requestId = true →
        (∃ old, tui.tasks[other]? = some old ∧ old.asksFor requestId = true) ∨
          other = number ∧ ∀ task ∈ tui.tasks, task.asksFor requestId = false := by
    intro other held requestId member asks
    rw [tasks] at member
    split at member
    next same =>
      obtain rfl : changed = held := Option.some.inj member
      rcases asks_of_move moved.move asks with old | new
      · exact .inl ⟨task, same ▸ found, old⟩
      · exact .inr ⟨same, new⟩
    · exact .inl ⟨held, member, asks⟩
  refine ⟨fun other held asked member unkept => ?_, ?_⟩
  · have holds := member
    rw [tasks] at member
    split at member
    next same =>
      obtain rfl : changed = held := Option.some.inj member
      exact unkept_of_move moved.move (fun asked => senders.unkept number task asked found) unkept
    next apart =>
      intro kept
      rcases senders_of_move moved.move kept with old | asks
      · exact senders.unkept other held asked member unkept old
      · refine apart (senders.alone other number held task _ member found ?_ asks)
        simp [Task.asksFor, asks_of_unkept unkept]
  · intro first second held other requestId member holds asks asksToo
    rcases before first held requestId member asks with ⟨old, was, asked⟩ | ⟨rfl, new⟩
    · rcases before second other requestId holds asksToo with ⟨older, been, askedToo⟩ | ⟨_, new⟩
      · exact senders.alone first second old older requestId was been asked askedToo
      · rw [new old (List.mem_of_getElem? was)] at asked
        cases asked
    · rcases before second other requestId holds asksToo with ⟨older, been, askedToo⟩ | ⟨same, _⟩
      · rw [new older (List.mem_of_getElem? been)] at askedToo
        cases askedToo
      · exact same.symm

theorem senders_key {action : InputAction} (senders : Senders tui)
    (move : KeyMove tui action next) : Senders next := by
  cases move with
  | started kind app =>
    refine senders.kept rfl fun number changed found => ?_
    rcases spawn_task found with old | ⟨_, rfl⟩
    · exact .inr ⟨changed, old, rfl⟩
    · exact .inl rfl
  | answered pending approved app =>
    obtain ⟨after, same, _⟩ := @answered_eq (tui.setApp app) pending.requestId approved
    rw [same]
    have before : Senders (tui.setApp app) := senders.same rfl rfl
    exact (senders_resolve before pending.requestId approved).same rfl rfl
  | aborted number _ handle =>
    unfold Terminal.abortTurn
    rw [handle]
    dsimp only
    unfold Terminal.markAborted
    split
    next task found =>
      refine senders.kept rfl fun other changed held => .inr ?_
      have at_ := @getElem?_setTask tui number task { task with aborted := true } found other
      rw [show (tui.setTask number { task with aborted := true }).tasks[other]? = some changed
        from held] at at_
      split at at_
      next same =>
        cases at_
        exact ⟨task, same ▸ found, rfl⟩
      · exact ⟨changed, at_.symm, rfl⟩
    · exact senders.same rfl rfl
  | picking | quit =>
    obtain ⟨holder, waiting, same⟩ := @lockAgent_eq tui .loop
    simp only [Terminal.quit, same]
    exact senders.same rfl rfl
  | edited | dealt | picked => exact senders.same rfl rfl

theorem senders_move {input : TuiInput} (senders : Senders tui) (move : Move tui input next) :
    Senders next := by
  cases move with
  | loop _ move =>
    cases move with
    | receive number task event rest _ _ found =>
      refine senders.kept rfl fun other changed held => .inr ?_
      have at_ := @getElem?_setTask tui number task { task with channel := rest } found other
      rw [show (tui.setTask number { task with channel := rest }).tasks[other]? = some changed
        from held] at at_
      split at at_
      next same =>
        cases at_
        exact ⟨task, same ▸ found, rfl⟩
      · exact ⟨changed, at_.symm, rfl⟩
    | _ => exact senders.same rfl rfl
  | key _ _ _ move => exact senders_key senders move
  | task _ _ _ _ _ found moved => exact senders_task senders found moved
  | changePolicy | leave | shutDown => exact senders.same rfl rfl

end Senders

structure Approving (tui : Terminal) : Prop where
  tracked : Tracked tui
  shown : Shown tui
  senders : Senders tui

theorem approving_preserved (skills : List SlashCommand) :
    Preserves (Terminal.step skills) (SafeStep skills) Approving := by
  intro tui input next approving allowed stepped
  have move := step_move stepped
  exact ⟨tracked_move approving.tracked move,
    shown_move approving.tracked approving.shown allowed move,
    senders_move approving.senders move⟩

section Runs

variable {tui : Terminal} {skills : List SlashCommand}

theorem pending_of_decides {requestId : String} {approved : Bool}
    (decides : tui.decides skills = some (requestId, approved)) :
    tui.app.pendingId = some requestId := by
  have submission := App.submitInput_submission skills tui.app
  unfold Terminal.decides at decides
  generalize tui.app.submitInput skills = submitted at submission decides
  split at decides
  next given =>
    cases decides
    cases submission with
    | answered pending app _ before =>
      cases given
      rw [App.pendingId, before]
      rfl
    | _ => cases given
  · cases decides

theorem Approving.delivered (approving : Approving tui) {requestId : String} {approved : Bool}
    (decides : tui.decides skills = some (requestId, approved))
    (allowed : SafeStep skills tui (.key .submit))
    (resolved : (tui.resolve requestId approved).2 = true) : tui.waitsFor requestId = true := by
  have shows := pending_of_decides decides
  have sender : requestId ∈ tui.pending := by
    by_contra missing
    rw [Terminal.resolve, if_neg missing] at resolved
    cases resolved
  cases held : tui.listened with
  | none =>
    rw [(approving.shown.silent held).1] at shows
    cases shows
  | some task =>
    obtain ⟨number, listening, found⟩ := Option.bind_eq_some_iff.mp held
    have live := (approving.shown.consistent task held).shown requestId shows
    have unresolved : resolves requestId task.channel = false := by
      simpa [SafeStep, decides, sender, held] using allowed
    have asks : task.asksFor requestId = true := by
      rwa [Task.live, unresolved, Bool.or_false] at live
    have waits : task.waitsFor requestId = true := by
      refine waits_of_kept asks fun asked unkept same => ?_
      exact approving.senders.unkept number task asked found unkept (same ▸ sender)
    rcases approving.shown.listening number listening with turn | ⟨_, ended, member, concluded⟩
    · obtain ⟨_, live, member, unaborted⟩ := approving.shown.handle number turn
      obtain rfl : task = live := Option.some.inj (found.symm.trans member)
      exact List.any_eq_true.mpr ⟨task, List.mem_of_getElem? found, by simp [unaborted, waits]⟩
    · obtain rfl : task = ended := Option.some.inj (found.symm.trans member)
      simp [Task.asksFor, TaskPhase.asks, concluded] at asks

theorem Approving.nothing_left (approving : Approving tui) (concluded : tui.turnOver = true)
    (drained : tui.drained = true) : tui.app.pendingId = none := by
  have empty := (Bool.and_eq_true_iff.mp drained).2
  cases held : tui.listened with
  | none => exact (approving.shown.silent held).1
  | some task =>
    obtain ⟨number, listening, found⟩ := Option.bind_eq_some_iff.mp held
    have ended : task.phase = .ended := by
      rcases approving.shown.listening number listening with turn | ⟨_, ended, member, done⟩
      · rw [Terminal.turnOver, turn, Option.bind_some, found] at concluded
        exact of_decide_eq_true concluded
      · obtain rfl : task = ended := Option.some.inj (found.symm.trans member)
        exact done
    rw [held] at empty
    have channel : task.channel = [] := List.isEmpty_iff.mp empty
    exact ((approving.shown.consistent task held).silence (by rw [ended]; rfl) channel).1

end Runs

def approvedTurn : List TuiInput :=
  startTurn ++ askForApproval ++ [.loop, .loop, .loop, .loop, .loop]

end OpenJax.Tui
