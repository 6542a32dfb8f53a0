import Mathlib.Data.Finset.Range
import OpenJax.Tools.Orchestrator

set_option autoImplicit false

namespace OpenJax.Tools

open Shared Policy Protocol Sandbox

section Reuse

variable {Output : Type} (environment : ToolEnvironment Output)

def ToolOrchestrator.after (orchestrator : ToolOrchestrator) : List ToolCall → ToolOrchestrator
  | [] => orchestrator
  | call :: rest => (orchestrator.run environment call).1.after rest

def EditDecidedAsk (call : ToolCall) : Prop :=
  call.invocation.toolName = "Edit" ∧ decisionOf environment call = .ask

def EditApproved (history : List (ToolCall × RunOutcome Output)) (turnId : Nat) : Prop :=
  ∃ entry ∈ history, entry.2.granted ∧ EditDecidedAsk environment entry.1 ∧
    entry.1.invocation.turn.turnId = turnId

def RunsUnasked (orchestrator : ToolOrchestrator) (call : ToolCall) : Prop :=
  (orchestrator.run environment call).2.dispatched = true ∧
    (orchestrator.run environment call).2.approval = none

/-- The call is an edit that is approved in a turn which is not remembered yet, while as many
turns are remembered as there is room for. -/
def Overflows (orchestrator : ToolOrchestrator) (call : ToolCall) : Prop :=
  call.invocation.toolName = "Edit" ∧ decisionOf environment call ∈ [DecisionKind.ask, .escalate] ∧
    call.approval = .answered true ∧
    call.invocation.turn.turnId ∉ orchestrator.approvedMutatingTurns ∧
    256 ≤ orchestrator.approvedMutatingTurns.card

variable {environment}

theorem sharesApproval_iff (invocation : ToolInvocation) :
    sharesApproval invocation = true ↔ invocation.toolName = "Edit" := by
  simp only [sharesApproval, isMutatingOperation, isShellLikeTool]
  constructor
  · intro shares
    split at shares <;> simp_all
  · intro same
    simp [same]

variable {orchestrator : ToolOrchestrator} {call : ToolCall}

theorem run_granted (asks : requiresOwnApproval (decisionOf environment call) = true)
    (fresh : orchestrator.shouldReuseMutatingApproval call.invocation = false)
    (answer : call.approval = .answered true) :
    (orchestrator.run environment call).1 = orchestrator.recordMutatingApproval call.invocation ∧
      (orchestrator.run environment call).2.granted := by
  rw [decisionOf] at asks
  have allowed : (evaluatePolicyCenterDecision environment.parseJson call.invocation).kind ≠
      .deny := by
    intro denied
    simp [denied, requiresOwnApproval] at asks
  simp [ToolOrchestrator.run, RunOutcome.granted, allowed, asks, fresh, answer]

theorem unasked_of_remembered (edit : EditDecidedAsk environment call)
    (known : call.invocation.turn.turnId ∈ orchestrator.approvedMutatingTurns) :
    RunsUnasked environment orchestrator call := by
  have ⟨name, asks⟩ := edit
  rw [decisionOf] at asks
  have reused : orchestrator.shouldReuseMutatingApproval call.invocation = true := by
    simp [ToolOrchestrator.shouldReuseMutatingApproval, (sharesApproval_iff _).mpr name, known]
  simp [RunsUnasked, ToolOrchestrator.run, asks, reused]

theorem remembered_of_unasked (edit : EditDecidedAsk environment call)
    (unasked : RunsUnasked environment orchestrator call) :
    call.invocation.turn.turnId ∈ orchestrator.approvedMutatingTurns := by
  rcases run_cases environment orchestrator call Prod.mk.eta.symm with
    ⟨-, idle, -⟩ | ⟨-, -, -, -, started⟩ | ⟨-, -, -, -, -, granted⟩
  · rw [unasked.1] at idle
    cases idle
  · rw [edit.2, ToolOrchestrator.shouldReuseMutatingApproval, Bool.and_eq_true,
      decide_eq_true_iff] at started
    exact (started.resolve_left (by decide)).2
  · rw [RunOutcome.granted, unasked.2] at granted
    cases granted

theorem run_overflows (overflows : Overflows environment orchestrator call) :
    (orchestrator.run environment call).1.approvedMutatingTurns = ∅ ∧
      (orchestrator.run environment call).2.granted := by
  obtain ⟨name, asks, answer, unknown, full⟩ := overflows
  have fresh : orchestrator.shouldReuseMutatingApproval call.invocation = false := by
    simp [ToolOrchestrator.shouldReuseMutatingApproval, unknown]
  obtain ⟨recorded, granted⟩ := run_granted ((requiresOwnApproval_iff _).mpr asks) fresh answer
  have many := Finset.card_insert_of_notMem unknown
  refine ⟨?_, granted⟩
  rw [recorded, ToolOrchestrator.recordMutatingApproval, if_pos ((sharesApproval_iff _).mpr name)]
  dsimp only
  rw [if_pos (by omega)]

theorem run_remembers (fits : ¬ Overflows environment orchestrator call) :
    orchestrator.approvedMutatingTurns ⊆
        (orchestrator.run environment call).1.approvedMutatingTurns ∧
      ((orchestrator.run environment call).2.granted → call.invocation.toolName = "Edit" →
        call.invocation.turn.turnId ∈
          (orchestrator.run environment call).1.approvedMutatingTurns) := by
  rcases run_cases environment orchestrator call Prod.mk.eta.symm with
    ⟨same, -, refused⟩ | ⟨same, -, unasked, -⟩ | ⟨recorded, -, asks, fresh, answer, -⟩
  · rw [same]
    exact ⟨subset_rfl, fun granted => absurd granted refused⟩
  · rw [same, RunOutcome.granted, unasked]
    exact ⟨subset_rfl, by rintro ⟨⟩⟩
  · rw [recorded, ToolOrchestrator.recordMutatingApproval]
    split_ifs with shares
    · have name := (sharesApproval_iff _).mp shares
      have unknown : call.invocation.turn.turnId ∉ orchestrator.approvedMutatingTurns := by
        simpa [ToolOrchestrator.shouldReuseMutatingApproval, shares] using fresh
      have room : ¬ 256 ≤ orchestrator.approvedMutatingTurns.card := fun full =>
        fits ⟨name, (requiresOwnApproval_iff _).mp asks, answer, unknown, full⟩
      have one := Finset.card_insert_of_notMem unknown
      dsimp only
      rw [if_neg (by omega)]
      exact ⟨Finset.subset_insert .., fun _ _ => Finset.mem_insert_self ..⟩
    · exact ⟨subset_rfl, fun _ name => absurd ((sharesApproval_iff _).mpr name) shares⟩

theorem after_append (orchestrator : ToolOrchestrator) (earlier later : List ToolCall) :
    orchestrator.after environment (earlier ++ later) =
      (orchestrator.after environment earlier).after environment later := by
  induction earlier generalizing orchestrator with
  | nil => rfl
  | cons call earlier ih => exact ih _

theorem runAll_append (orchestrator : ToolOrchestrator) (earlier later : List ToolCall) :
    orchestrator.runAll environment (earlier ++ later) =
      orchestrator.runAll environment earlier ++
        (orchestrator.after environment earlier).runAll environment later := by
  induction earlier generalizing orchestrator with
  | nil => rfl
  | cons call earlier ih => exact congrArg _ (ih _)

theorem approved_remembered (calls : List ToolCall)
    (fits : ∀ earlier call later, calls = earlier ++ call :: later →
      Overflows environment (ToolOrchestrator.new.after environment earlier) call →
      ∀ turnId, ¬ EditApproved environment
        (ToolOrchestrator.new.runAll environment (earlier ++ [call])) turnId)
    {turnId : Nat}
    (approved : EditApproved environment (ToolOrchestrator.new.runAll environment calls) turnId) :
    turnId ∈ (ToolOrchestrator.new.after environment calls).approvedMutatingTurns := by
  induction calls using List.reverseRecOn with
  | nil =>
    obtain ⟨entry, member, -⟩ := approved
    cases member
  | append_singleton calls call ih =>
    have room : ¬ Overflows environment (ToolOrchestrator.new.after environment calls) call :=
      fun overflows => fits calls call [] rfl overflows turnId approved
    have ⟨kept, added⟩ := run_remembers room
    have before := ih fun earlier other later split =>
      fits earlier other (later ++ [call]) (by rw [split, List.append_assoc, List.cons_append])
    rw [after_append]
    rw [runAll_append] at approved
    obtain ⟨entry, member, granted, edit, same⟩ := approved
    rcases List.mem_append.mp member with old | new
    · exact kept (before ⟨entry, old, granted, edit, same⟩)
    · obtain rfl := List.mem_singleton.mp new
      rw [← same]
      exact added granted edit.1

/-- Whatever edit comes next in a turn with an approved one runs unasked, exactly as long as no
approval that there was no room for came with such an edit or after one. -/
theorem approval_reused_iff (environment : ToolEnvironment Output) (calls : List ToolCall) :
    (∀ earlier later, calls = earlier ++ later → ∀ next, EditDecidedAsk environment next →
      EditApproved environment (ToolOrchestrator.new.runAll environment earlier)
        next.invocation.turn.turnId →
      RunsUnasked environment (ToolOrchestrator.new.after environment earlier) next) ↔
    ∀ earlier call later, calls = earlier ++ call :: later →
      Overflows environment (ToolOrchestrator.new.after environment earlier) call →
      ∀ turnId, ¬ EditApproved environment
        (ToolOrchestrator.new.runAll environment (earlier ++ [call])) turnId := by
  constructor
  next =>
    intro reused earlier call later split overflows turnId approved
    have ⟨entry, member, granted, edit, same⟩ := approved
    have unasked := reused (earlier ++ [call]) later (by simpa using split) entry.1 edit
      (by rwa [same])
    have known := remembered_of_unasked edit unasked
    rw [after_append, ToolOrchestrator.after, ToolOrchestrator.after,
      (run_overflows overflows).1] at known
    cases known
  next =>
    intro fits earlier later split next edit approved
    refine unasked_of_remembered edit (approved_remembered earlier ?_ approved)
    intro before call rest inner
    exact fits before call (rest ++ later) (by rw [split, inner, List.append_assoc,
      List.cons_append])

theorem few_turns_fit {calls earlier later : List ToolCall}
    (split : calls = earlier ++ call :: later) {turns : Finset Nat} (few : turns.card ≤ 256)
    (all : ∀ turnId, GrantedEarlier sharesApproval
      (ToolOrchestrator.new.runAll environment calls) turnId → turnId ∈ turns) :
    ¬ Overflows environment (ToolOrchestrator.new.after environment earlier) call := by
  intro overflows
  have room := overflows
  obtain ⟨name, -, -, unknown, full⟩ := room
  have ran : ToolOrchestrator.new.runAll environment calls =
      ToolOrchestrator.new.runAll environment earlier ++
        (call, ((ToolOrchestrator.new.after environment earlier).run environment call).2) ::
          (ToolOrchestrator.new.after environment (earlier ++ [call])).runAll environment later := by
    rw [split, runAll_append, after_append]
    rfl
  have known : ∀ turnId ∈ (ToolOrchestrator.new.after environment earlier).approvedMutatingTurns,
      GrantedEarlier sharesApproval (ToolOrchestrator.new.runAll environment earlier) turnId := by
    clear overflows unknown full ran split
    induction earlier using List.reverseRecOn with
    | nil =>
      intro turnId member
      simp [ToolOrchestrator.after, ToolOrchestrator.new] at member
    | append_singleton earlier other ih =>
      rw [after_append, runAll_append]
      exact run_keeps_granted environment _ _ ih other Prod.mk.eta.symm
  have inside : insert call.invocation.turn.turnId
      (ToolOrchestrator.new.after environment earlier).approvedMutatingTurns ⊆ turns := by
    intro turnId member
    apply all
    rw [ran]
    rcases Finset.mem_insert.mp member with new | old
    · exact ⟨_, List.mem_append_right _ List.mem_cons_self, (run_overflows overflows).2,
        (sharesApproval_iff _).mpr name, new.symm⟩
    · obtain ⟨entry, found, facts⟩ := known turnId old
      exact ⟨entry, List.mem_append_left _ found, facts⟩
  have bound := Finset.card_le_card inside
  rw [Finset.card_insert_of_notMem unknown] at bound
  omega

/-- As long as edits are approved in 256 turns at most, a turn with an approved edit is not asked
again. -/
theorem few_turns_reuse {calls earlier later : List ToolCall} (split : calls = earlier ++ later)
    {turns : Finset Nat} (few : turns.card ≤ 256)
    (all : ∀ turnId, GrantedEarlier sharesApproval
      (ToolOrchestrator.new.runAll environment calls) turnId → turnId ∈ turns)
    {next : ToolCall} (edit : EditDecidedAsk environment next)
    (approved : EditApproved environment (ToolOrchestrator.new.runAll environment earlier)
      next.invocation.turn.turnId) :
    RunsUnasked environment (ToolOrchestrator.new.after environment earlier) next := by
  refine unasked_of_remembered edit (approved_remembered earlier ?_ approved)
  intro before call rest inner overflows
  have whole : calls = before ++ call :: (rest ++ later) := by
    rw [split, inner, List.append_assoc, List.cons_append]
  exact absurd overflows (few_turns_fit whole few all)

end Reuse

def approvedEdit (turnId : Nat) : ToolCall :=
  { invocation :=
      { toolName := "Edit"
        callId := "call_1"
        payload := .function "\x7b\x7d"
        turn :=
          { turnId := turnId
            sessionId := none
            cwd := "/workspace"
            hasEventSink := false
            policyRuntime := some (.new (.new .ask [])) } }
    requestId := "request"
    approval := .answered true
    timeoutMs := 300000 }

theorem approvedEdit_asks (turnId : Nat) : EditDecidedAsk idleEnvironment (approvedEdit turnId) :=
  ⟨rfl, rfl⟩

theorem second_edit_unasked :
    RunsUnasked idleEnvironment (ToolOrchestrator.new.after idleEnvironment [approvedEdit 1])
      (approvedEdit 1) := by
  refine few_turns_reuse (List.append_nil _).symm (by decide : ({1} : Finset Nat).card ≤ 256) ?_
    (approvedEdit_asks 1) ⟨_, List.mem_cons_self, rfl, approvedEdit_asks 1, rfl⟩
  rintro _ ⟨entry, member, -, -, rfl⟩
  obtain rfl := List.mem_singleton.mp member
  exact Finset.mem_singleton_self 1

theorem turns_remembered {count : Nat} (few : count ≤ 256) :
    (ToolOrchestrator.new.after idleEnvironment
      ((List.range count).map approvedEdit)).approvedMutatingTurns = Finset.range count := by
  induction count with
  | zero => rfl
  | succ count ih =>
    have before := ih (Nat.le_of_succ_le few)
    rw [List.range_succ, List.map_append, after_append]
    have recorded : (ToolOrchestrator.run idleEnvironment (ToolOrchestrator.new.after
        idleEnvironment ((List.range count).map approvedEdit)) (approvedEdit count)).1 = _ :=
      (run_granted (by rfl) (by
        rw [ToolOrchestrator.shouldReuseMutatingApproval, before]
        simp [approvedEdit]) rfl).1
    rw [List.map_singleton, ToolOrchestrator.after, ToolOrchestrator.after, recorded,
      ToolOrchestrator.recordMutatingApproval, if_pos (by rfl), before]
    dsimp only [approvedEdit]
    rw [← Finset.range_add_one, Finset.card_range, if_neg (by omega)]

theorem approval_forgotten_after_257_turns :
    ¬ ∀ calls next, EditDecidedAsk idleEnvironment next →
      EditApproved idleEnvironment (ToolOrchestrator.new.runAll idleEnvironment calls)
        next.invocation.turn.turnId →
      RunsUnasked idleEnvironment (ToolOrchestrator.new.after idleEnvironment calls) next := by
  intro claimed
  obtain ⟨calls, memory⟩ : ∃ calls, (ToolOrchestrator.new.after idleEnvironment
      calls).approvedMutatingTurns = Finset.range 256 :=
    ⟨_, turns_remembered (Nat.le_refl 256)⟩
  have overflows : Overflows idleEnvironment (ToolOrchestrator.new.after idleEnvironment calls)
      (approvedEdit 256) := by
    refine ⟨rfl, by simp [(approvedEdit_asks 256).2], rfl, ?_, ?_⟩
    · rw [memory]
      exact Finset.notMem_range_self
    · rw [memory, Finset.card_range]
  have ⟨forgotten, granted⟩ := run_overflows overflows
  have unasked := claimed (calls ++ [approvedEdit 256]) (approvedEdit 256)
    (approvedEdit_asks 256) (by
      rw [runAll_append]
      exact ⟨_, List.mem_append_right _ List.mem_cons_self, granted, approvedEdit_asks 256, rfl⟩)
  have known := remembered_of_unasked (approvedEdit_asks 256) unasked
  rw [after_append, ToolOrchestrator.after, ToolOrchestrator.after, forgotten] at known
  cases known

end OpenJax.Tools
