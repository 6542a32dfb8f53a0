import OpenJax.Gateway.ApprovalInvariant

set_option autoImplicit false

namespace OpenJax.Gateway

open Shared Tools ApprovalState

structure ApprovalSound (pool : ApprovalPool) : Prop where
  shared : SharedSound pool.shared
  fits : ∀ task ∈ pool.tasks, TaskFits pool.shared task
  alone : (pool.tasks.filterMap ApprovalTask.token).Nodup

structure Stepped (state next : ApprovalState) (task : ApprovalTask)
    (rest : List ApprovalTask) : Prop where
  sound : SharedSound next
  grows : Grows state next task.token
  fits : ∀ task ∈ rest, TaskFits next task
  single : rest.length ≤ 1
  token : ∀ follower ∈ rest, ∀ key, follower.token = some key → task.token = some key ∨
    ∃ approvalId ∈ state.pending, key = (true, approvalId)

variable {state next : ApprovalState} {task : ApprovalTask}

theorem Stepped.ends (sound : SharedSound next) (grows : Grows state next task.token) :
    Stepped state next task [] :=
  ⟨sound, grows, nofun, Nat.zero_le 1, nofun⟩

theorem Stepped.goesOn {task follower : ApprovalTask} (sound : SharedSound next)
    (grows : Grows state next task.token) (fits : TaskFits next follower)
    (token : ∀ key, follower.token = some key → task.token = some key ∨
      ∃ approvalId ∈ state.pending, key = (true, approvalId)) :
    Stepped state next task [follower] where
  sound := sound
  grows := grows
  fits _ member := List.mem_singleton.mp member ▸ fits
  single := Nat.le_refl 1
  token _ member := List.mem_singleton.mp member ▸ token

variable {approvalId : String}

theorem fits_leaving {state : ApprovalState} {outcome : ApprovalOutcome}
    (requested : approvalId ∈ state.requested)
    (given : ∀ approved, outcome = .answered approved → state.Succeeded approvalId approved) :
    TaskFits (state.dropReceiver approvalId) (.tool approvalId (.leaving outcome)) :=
  have drops := grows_dropReceiver state approvalId none
  ⟨drops.requested requested, fun _ found => receiver_dropped found,
    fun approved answered => drops.succeeded (given approved answered)⟩

variable {rest : List ApprovalTask} {poll : ApprovalPoll}

theorem advanceTool_stepped {phase : WaitPhase} (sound : SharedSound state)
    (fits : TaskFits state (.tool approvalId phase))
    (advanced : state.advanceTool approvalId phase poll = some (next, rest)) :
    Stepped state next (.tool approvalId phase) rest := by
  have dropped := sound.dropReceiver approvalId
  have drops := grows_dropReceiver state approvalId (some (false, approvalId))
  have concluded : SharedSound ((state.dropReceiver approvalId).finish approvalId) :=
    dropped.finish (drops.requested fits.1) fun _ found => receiver_dropped found
  have overs := drops.trans (grows_finish (state.dropReceiver approvalId) approvalId)
  unfold advanceTool at advanced
  split at advanced
  -- The channel is made.
  · cases advanced
    exact .goesOn (sound.openChannel fits.1 fits.2.1 fits.2.2) (grows_open fits.2.1)
      ⟨fits.1, trivial⟩ fun _ => .inl
  -- An answer is there.
  · obtain ⟨approved, sent, same⟩ := Option.map_eq_some_iff.mp advanced
    cases same
    obtain ⟨channel, found, value⟩ := Option.bind_eq_some_iff.mp sent
    have succeeded := sound.values approvalId channel approved found value
    refine .goesOn dropped drops (fits_leaving fits.1 ?_) fun _ => .inl
    rintro given ⟨⟩
    exact succeeded
  -- The sender is gone.
  · obtain ⟨-, same⟩ := (Option.ite_none_right_eq_some).mp advanced
    cases same
    exact .goesOn dropped drops (fits_leaving fits.1 nofun) fun _ => .inl
  -- The handler's own timeout has elapsed.
  · cases advanced
    have leaving : TaskFits (state.dropReceiver approvalId)
        (.tool approvalId (.leaving (.failed "approval timed out"))) := fits_leaving fits.1 nofun
    exact .goesOn concluded overs leaving fun _ => .inl
  -- The handler has removed what it put into the map, and returns.
  · rename_i outcome
    cases advanced
    have removes (token : Option (Bool × String)) := grows_removePending state approvalId token
    have removed := (sound.removePending approvalId).finish ((removes none).requested fits.1)
      ((removes none).dropped approvalId nofun fits.2.1)
    refine .ends (removed.release ?_) ((removes _).trans ((grows_finish _ approvalId).trans
      (grows_release _ approvalId outcome _)))
    intro answered
    exact (removes none).succeeded (fits.2.2 true answered)
  · cases advanced
    exact .ends (concluded.release nofun) (overs.trans (grows_release _ approvalId .timedOut _))
  · cases advanced
    exact .ends concluded overs
  · cases advanced

theorem advanceResolve_stepped {approved late : Bool} {phase : ResolvePhase}
    (sound : SharedSound state) (fits : TaskFits state (.resolve approvalId approved late phase))
    (advanced : state.advanceResolve approvalId approved late phase poll = some (next, rest)) :
    Stepped state next (.resolve approvalId approved late phase) rest := by
  unfold advanceResolve at advanced
  split at advanced
  · obtain same := Option.some.inj advanced
    split at same
    -- It was resolved before.
    · rename_i member
      cases same
      have already := sound.resolved approvalId member
      exact .ends (sound.answer nofun fun _ => .inr ⟨rfl, already⟩) (grows_answer ..)
    · cases same
      exact .goesOn sound (.refl state _) of_decide_eq_true nofun
  · obtain same := Option.some.inj advanced
    split at same
    -- The sender is in the map: no other call has it.
    · rename_i member
      cases same
      obtain ⟨channel, found, sender⟩ := sound.pending approvalId member
      have erased := Finset.notMem_erase approvalId state.pending
      refine .goesOn (sound.erasePending approvalId) (grows_erase state approvalId _)
        ⟨fits, erased, channel, found, sender⟩ ?_
      rintro key ⟨⟩
      exact .inr ⟨approvalId, member, rfl⟩
    · cases same
      exact .ends (sound.answer nofun fun _ => .inl rfl) (grows_answer ..)
  · obtain same := Option.some.inj advanced
    obtain ⟨lateOver, unpending, channel, found, sender⟩ := fits
    rw [found] at same
    split at same
    -- The receiver is there, so the request is not over.
    · rename_i receiver
      cases same
      have timely : late = false := by
        cases late with
        | false => rfl
        | true =>
          have gone := sound.finished approvalId (lateOver rfl) channel found
          cases receiver.symm.trans gone
      subst timely
      have sent : SharedSound ((state.setChannel approvalId ⟨some approved, false, true⟩).answer
          approvalId approved false .resolved) := sound.send found sender receiver unpending
      have succeeded := (succeeded_answer (state.setChannel approvalId ⟨some approved, false, true⟩)
        approvalId approved false .resolved approvalId approved).mpr (.inr ⟨rfl, rfl, rfl⟩)
      exact .goesOn sent ((grows_send found receiver).trans (grows_answer ..))
        ⟨rfl, approved, succeeded⟩ nofun
    · cases same
      have closed : Grows state (state.changeChannel approvalId fun channel =>
          { channel with sender := false }) (some (true, approvalId)) :=
        grows_changeChannel (fun _ => id) fun apart => absurd rfl apart
      exact .ends ((sound.change (lessens_sender unpending)).answer nofun fun _ => .inl rfl)
        (closed.trans (grows_answer ..))
  · cases advanced
    exact .ends (sound.record fits.2) { Grows.refl state none with }
  -- The call is dropped.
  · cases advanced
    exact .ends sound (.refl state _)
  · cases advanced
    exact .ends sound (.refl state _)
  · cases advanced
    exact .ends sound (.refl state _)
  · cases advanced

theorem advance_stepped (sound : SharedSound state) (fits : TaskFits state task)
    (advanced : approvals.advance state task poll = some (next, rest)) :
    Stepped state next task rest := by
  cases task with
  | tool approvalId phase => exact advanceTool_stepped sound fits advanced
  | resolve approvalId approved late phase => exact advanceResolve_stepped sound fits advanced

theorem pending_untaken {state : ApprovalState} {tasks : List ApprovalTask}
    (fits : ∀ task ∈ tasks, TaskFits state task) (pending : approvalId ∈ state.pending) :
    ∀ task ∈ tasks, task.token ≠ some (true, approvalId) := by
  intro task member same
  have fitting := fits task member
  cases task with
  | tool other phase => cases same
  | resolve other approved late phase =>
    cases phase with
    | sending =>
      cases same
      exact fitting.2.1 pending
    | checking | taking | recording => cases same

theorem ApprovalSound.step {pool : ApprovalPool} (sound : ApprovalSound pool) {index : Nat}
    (chosen : pool.tasks[index]? = some task) {next : ApprovalState}
    (step : Stepped pool.shared next task rest) :
    ApprovalSound ⟨next, pool.tasks.eraseIdx index ++ rest⟩ where
  shared := step.sound
  fits other member := by
    rcases List.mem_append.mp member with among | new
    · have apart : ∀ key, task.token = some key → other.token ≠ some key :=
        fun key held => TaskSystem.token_alone sound.alone chosen held other among
      exact step.grows.fits apart (sound.fits other (List.mem_of_mem_eraseIdx among))
    · exact step.fits other new
  alone := by
    have ended := TaskSystem.tokens_ended sound.alone index
    match rest, step with
    | [], _ => simpa using ended
    | [follower], step =>
      apply TaskSystem.tokens_append ended
      intro key held other among
      rcases step.token follower List.mem_cons_self key held with same | ⟨approvalId, pending, rfl⟩
      · exact TaskSystem.token_alone sound.alone chosen same other among
      · exact pending_untaken sound.fits pending other (List.mem_of_mem_eraseIdx among)
    | _ :: _ :: _, step => exact absurd step.single (by simp)

theorem approvals_preserves : Preserves approvals.step NewRequests ApprovalSound := by
  intro pool input next sound allowed stepped
  cases input with
  | start request =>
    cases stepped
    cases request with
    | request approvalId =>
      have grows : Grows pool.shared
          { pool.shared with requested := pool.shared.requested ++ [approvalId] } none :=
        { Grows.refl pool.shared none with requested := List.subset_append_left _ _ }
      have unopened : pool.shared.channels.lookup approvalId = none := by
        cases found : pool.shared.channels.lookup approvalId with
        | none => rfl
        | some channel => exact absurd (sound.shared.known approvalId channel found) allowed
      have fresh : approvalId ∉ pool.shared.finished :=
        fun member => allowed (sound.shared.finishedKnown approvalId member)
      refine ⟨sound.shared.request approvalId, ?_, ?_⟩
      · intro task member
        rcases List.mem_append.mp member with before | new
        · exact grows.fits nofun (sound.fits task before)
        · obtain rfl := List.mem_singleton.mp new
          exact ⟨List.mem_append_right _ List.mem_cons_self, unopened, fresh⟩
      · apply TaskSystem.tokens_append sound.alone
        rintro key ⟨⟩ other member same
        have fitting := sound.fits other member
        cases other with
        | tool known phase =>
          cases same
          exact allowed fitting.1
        | resolve known approved late phase => cases phase <;> cases same
    | resolve approvalId approved =>
      refine ⟨sound.shared, ?_, TaskSystem.tokens_append sound.alone nofun⟩
      intro task member
      rcases List.mem_append.mp member with before | new
      · exact sound.fits task before
      · obtain rfl := List.mem_singleton.mp new
        rfl
  | advance index poll =>
    obtain ⟨task, shared, rest, chosen, advanced, rfl⟩ := TaskSystem.step_advance stepped
    exact sound.step chosen (advance_stepped sound.shared
      (sound.fits task (List.mem_of_getElem? chosen)) advanced)

theorem noApprovals_sound : ApprovalSound noApprovals where
  shared :=
    ⟨nofun, nofun, nofun, nofun, nofun, List.nodup_nil, nofun, nofun, nofun, nofun⟩
  fits := nofun
  alone := List.nodup_nil

/-- A call of `resolve_approval` for a request that was over when the call came. -/
def LateResolve (state : ApprovalState) (approvalId : String) : ApprovalTask → Prop
  | .resolve resolved _ late phase =>
      resolved = approvalId ∧ (late = true ∨ phase = .checking ∧ approvalId ∈ state.finished)
  | .tool .. => False

structure LeavesAlone (state next : ApprovalState) (approvalId : String) : Prop where
  dead : ∀ channel, state.channels.lookup approvalId = some channel → channel.receiver = false
  pending : next.pending = state.pending ∨ next.pending = state.pending.erase approvalId
  channels : next.channels = state.channels ∨ next.channels =
    (state.changeChannel approvalId fun channel => { channel with sender := false }).channels
  resolvedApprovals : next.resolvedApprovals = state.resolvedApprovals
  requested : next.requested = state.requested
  finished : next.finished = state.finished
  released : next.released = state.released

theorem LateResolve.finished {state : ApprovalState} (late : LateResolve state approvalId task)
    (fits : TaskFits state task) : approvalId ∈ state.finished := by
  cases task with
  | tool other phase => exact late.elim
  | resolve other approved isLate phase =>
    obtain ⟨rfl, isLate | ⟨-, member⟩⟩ := late
    · cases phase with
      | checking =>
        cases fits.symm.trans isLate
      | taking => exact fits isLate
      | sending => exact fits.1 isLate
      | recording => cases fits.1.symm.trans isLate
    · exact member

theorem late_leaves (sound : SharedSound state) (fits : TaskFits state task)
    (late : LateResolve state approvalId task)
    (advanced : approvals.advance state task poll = some (next, rest)) :
    LeavesAlone state next approvalId := by
  have dead := sound.finished approvalId (late.finished fits)
  cases task with
  | tool other phase => exact late.elim
  | resolve other approved isLate phase =>
    obtain ⟨rfl, concluded⟩ := late
    change state.advanceResolve other approved isLate phase poll = some (next, rest) at advanced
    unfold advanceResolve at advanced
    split at advanced
    · obtain same := Option.some.inj advanced
      split at same <;> cases same <;> exact ⟨dead, .inl rfl, .inl rfl, rfl, rfl, rfl, rfl⟩
    · obtain same := Option.some.inj advanced
      split at same
      · cases same
        exact ⟨dead, .inr rfl, .inl rfl, rfl, rfl, rfl, rfl⟩
      · cases same
        exact ⟨dead, .inl rfl, .inl rfl, rfl, rfl, rfl, rfl⟩
    · obtain same := Option.some.inj advanced
      obtain ⟨-, -, channel, found, -⟩ := fits
      rw [found, Option.any_some, dead channel found, if_neg Bool.false_ne_true] at same
      cases same
      rw [changeChannel_frame]
      exact ⟨dead, .inl rfl, .inr rfl, rfl, rfl, rfl, rfl⟩
    · rcases concluded with isLate | ⟨phase, -⟩
      · cases fits.1.symm.trans isLate
      · cases phase
    · cases advanced
      exact ⟨dead, .inl rfl, .inl rfl, rfl, rfl, rfl, rfl⟩
    · cases advanced
      exact ⟨dead, .inl rfl, .inl rfl, rfl, rfl, rfl, rfl⟩
    · cases advanced
      exact ⟨dead, .inl rfl, .inl rfl, rfl, rfl, rfl, rfl⟩
    · cases advanced

structure AnsweredOnce (pool : ApprovalPool) : Prop where
  once : pool.shared.succeededIds.Nodup
  approved : ∀ approvalId, (approvalId, .answered true) ∈ pool.shared.released →
    pool.shared.Succeeded approvalId true
  late : ∀ answer ∈ pool.shared.answers, answer.late = true →
    answer.outcome = .notFound ∨
      answer.outcome = .alreadyResolved ∧
        ∃ given, pool.shared.Succeeded answer.approvalId given
  idle : ∀ index task poll next approvalId, pool.tasks[index]? = some task →
    LateResolve pool.shared approvalId task →
      approvals.step pool (.advance index poll) = some next →
        LeavesAlone pool.shared next.shared approvalId

theorem approvals_answered_once {inputs : List (PoolInput ApprovalCall ApprovalPoll)}
    {pool : ApprovalPool} (requests : Meets approvals.step NewRequests noApprovals inputs)
    (ran : run approvals.step noApprovals inputs = some pool) : AnsweredOnce pool := by
  have sound := run_invariant approvals_preserves noApprovals_sound requests ran
  refine ⟨sound.shared.once, sound.shared.released, sound.shared.late, ?_⟩
  intro index task poll next approvalId chosen late stepped
  obtain ⟨other, shared, rest, same, advanced, rfl⟩ := TaskSystem.step_advance stepped
  obtain rfl := Option.some.inj (chosen.symm.trans same)
  exact late_leaves sound.shared (sound.fits task (List.mem_of_getElem? chosen)) late advanced

def approvedThenRefused : List (PoolInput ApprovalCall ApprovalPoll) :=
  [.start (.request "approval_1"), .advance 0 .ready,
    .start (.resolve "approval_1" true), .advance 1 .ready, .advance 1 .ready, .advance 1 .ready,
    -- The tool picks the answer up and goes on before the call has recorded it.
    .advance 0 .ready, .advance 1 .ready,
    .start (.resolve "approval_1" false), .advance 1 .ready, .advance 1 .ready]

instance (pool : ApprovalPool) : (input : PoolInput ApprovalCall ApprovalPoll) →
    Decidable (NewRequests pool input)
  | .start (.request approvalId) => inferInstanceAs (Decidable (approvalId ∉ pool.shared.requested))
  | .start (.resolve ..) => inferInstanceAs (Decidable True)
  | .advance .. => inferInstanceAs (Decidable True)

theorem approved_then_refused :
    ∃ pool, run approvals.step noApprovals approvedThenRefused = some pool ∧
      pool.shared.released = [("approval_1", .answered true)] ∧
      pool.shared.answers = [⟨"approval_1", true, false, .resolved⟩,
        ⟨"approval_1", false, true, .notFound⟩] ∧ AnsweredOnce pool := by
  have ends : (run approvals.step noApprovals approvedThenRefused).any fun pool =>
      decide (pool.shared.released = [("approval_1", .answered true)] ∧
        pool.shared.answers = [⟨"approval_1", true, false, .resolved⟩,
          ⟨"approval_1", false, true, .notFound⟩]) := by
    decide +kernel
  have requests : Meets approvals.step NewRequests noApprovals approvedThenRefused := by
    decide +kernel
  cases ran : run approvals.step noApprovals approvedThenRefused with
  | none => simp [ran] at ends
  | some pool =>
    simp only [ran, Option.any_some, decide_eq_true_eq] at ends
    exact ⟨pool, rfl, ends.1, ends.2, approvals_answered_once requests ran⟩

def abortedAfterAnswer : List (PoolInput ApprovalCall ApprovalPoll) :=
  [.start (.request "approval_1"), .advance 0 .ready,
    .start (.resolve "approval_1" true), .advance 1 .ready, .advance 1 .ready, .advance 1 .ready,
    .advance 1 .ready, .advance 0 .dropped,
    .start (.resolve "approval_1" false), .advance 0 .ready]

theorem late_answer_conflicts :
    ¬ ∀ inputs pool, Meets approvals.step NewRequests noApprovals inputs →
      run approvals.step noApprovals inputs = some pool →
        ∀ answer ∈ pool.shared.answers, answer.late = true → answer.outcome = .notFound := by
  intro always
  have ends : (run approvals.step noApprovals abortedAfterAnswer).any fun pool =>
      decide (⟨"approval_1", false, true, .alreadyResolved⟩ ∈ pool.shared.answers) := by
    decide +kernel
  have requests : Meets approvals.step NewRequests noApprovals abortedAfterAnswer := by
    decide +kernel
  cases ran : run approvals.step noApprovals abortedAfterAnswer with
  | none => simp [ran] at ends
  | some pool =>
    simp only [ran, Option.any_some, decide_eq_true_eq] at ends
    cases always _ pool requests ran _ ends rfl

end OpenJax.Gateway
