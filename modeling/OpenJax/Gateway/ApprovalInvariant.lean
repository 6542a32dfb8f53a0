import OpenJax.Gateway.Approvals

set_option autoImplicit false

namespace OpenJax.Gateway

open Shared Tools

namespace ApprovalState

variable {state : ApprovalState} {approvalId other : String}

/-- A call of `resolve_approval` for the id succeeded with that answer. -/
def Succeeded (state : ApprovalState) (approvalId : String) (approved : Bool) : Prop :=
  ∃ answer ∈ state.answers, answer.approvalId = approvalId ∧ answer.approved = approved ∧
    answer.outcome = .resolved

def succeededIds (state : ApprovalState) : List String :=
  (state.answers.filter fun answer => answer.outcome = .resolved).map ResolveAnswer.approvalId

theorem mem_succeededIds :
    approvalId ∈ state.succeededIds ↔ ∃ approved, state.Succeeded approvalId approved := by
  simp only [succeededIds, Succeeded, List.mem_map, List.mem_filter, decide_eq_true_eq]
  constructor
  · rintro ⟨answer, ⟨member, resolved⟩, rfl⟩
    exact ⟨answer.approved, answer, member, rfl, rfl, resolved⟩
  · rintro ⟨_, answer, member, rfl, -, resolved⟩
    exact ⟨answer, ⟨member, resolved⟩, rfl⟩

theorem lookup_changeChannel (state : ApprovalState) (approvalId other : String)
    (change : Oneshot → Oneshot) :
    (state.changeChannel approvalId change).channels.lookup other =
      if other = approvalId then (state.channels.lookup approvalId).map change
      else state.channels.lookup other := by
  unfold changeChannel
  split
  · rename_i channel found
    exact found ▸ Table.lookup_insert_eq state.channels approvalId other (change channel)
  · rename_i found
    split
    · rename_i same
      rw [same, found]
      rfl
    · rfl

theorem changeChannel_frame (state : ApprovalState) (approvalId : String)
    (change : Oneshot → Oneshot) :
    state.changeChannel approvalId change =
      { state with channels := (state.changeChannel approvalId change).channels } := by
  unfold changeChannel
  split <;> rfl

end ApprovalState

open ApprovalState

def ApprovalTask.token : ApprovalTask → Option (Bool × String)
  | .tool approvalId _ => some (false, approvalId)
  | .resolve approvalId _ _ .sending => some (true, approvalId)
  | .resolve .. => none

def TaskFits (state : ApprovalState) : ApprovalTask → Prop
  | .tool approvalId phase =>
      approvalId ∈ state.requested ∧
        match phase with
        | .asking => state.channels.lookup approvalId = none ∧ approvalId ∉ state.finished
        | .waiting => True
        | .leaving outcome =>
            (∀ channel, state.channels.lookup approvalId = some channel →
              channel.receiver = false) ∧
              ∀ approved, outcome = .answered approved → state.Succeeded approvalId approved
  | .resolve approvalId _ late phase =>
      match phase with
      | .checking => late = false
      | .taking => late = true → approvalId ∈ state.finished
      | .sending =>
          (late = true → approvalId ∈ state.finished) ∧ approvalId ∉ state.pending ∧
            ∃ channel, state.channels.lookup approvalId = some channel ∧ channel.sender = true
      | .recording => late = false ∧ ∃ approved, state.Succeeded approvalId approved

structure SharedSound (state : ApprovalState) : Prop where
  known : ∀ approvalId channel, state.channels.lookup approvalId = some channel →
    approvalId ∈ state.requested
  finishedKnown : ∀ approvalId ∈ state.finished, approvalId ∈ state.requested
  pending : ∀ approvalId ∈ state.pending, ∃ channel,
    state.channels.lookup approvalId = some channel ∧ channel.sender = true
  values : ∀ approvalId channel approved, state.channels.lookup approvalId = some channel →
    channel.value = some approved → state.Succeeded approvalId approved
  sent : ∀ approvalId approved, state.Succeeded approvalId approved → ∃ channel,
    state.channels.lookup approvalId = some channel ∧ channel.sender = false
  once : state.succeededIds.Nodup
  finished : ∀ approvalId ∈ state.finished, ∀ channel,
    state.channels.lookup approvalId = some channel → channel.receiver = false
  resolved : ∀ approvalId ∈ state.resolvedApprovals, ∃ approved,
    state.Succeeded approvalId approved
  released : ∀ approvalId, (approvalId, .answered true) ∈ state.released →
    state.Succeeded approvalId true
  late : ∀ answer ∈ state.answers, answer.late = true →
    answer.outcome = .notFound ∨
      answer.outcome = .alreadyResolved ∧
        ∃ approved, state.Succeeded answer.approvalId approved

section Updates

variable {state : ApprovalState} {approvalId : String} {task : ApprovalTask}

theorem SharedSound.withChannels (sound : SharedSound state) {channels : Table String Oneshot}
    (before : ∀ other channel, channels.lookup other = some channel → ∃ old,
      state.channels.lookup other = some old ∧ channel.value = old.value ∧
        (old.receiver = false → channel.receiver = false))
    (after : ∀ other old, state.channels.lookup other = some old → ∃ channel,
      channels.lookup other = some channel ∧ (old.sender = false → channel.sender = false) ∧
        (other ∈ state.pending → channel.sender = old.sender)) :
    SharedSound { state with channels := channels } where
  known other channel found := by
    obtain ⟨old, there, -⟩ := before other channel found
    exact sound.known other old there
  finishedKnown := sound.finishedKnown
  pending other member := by
    obtain ⟨old, there, sender⟩ := sound.pending other member
    obtain ⟨channel, found, -, same⟩ := after other old there
    exact ⟨channel, found, (same member).trans sender⟩
  values other channel approved found sent := by
    obtain ⟨old, there, value, -⟩ := before other channel found
    exact sound.values other old approved there (value ▸ sent)
  sent other approved succeeded := by
    obtain ⟨old, there, sender⟩ := sound.sent other approved succeeded
    obtain ⟨channel, found, gone, -⟩ := after other old there
    exact ⟨channel, found, gone sender⟩
  once := sound.once
  finished other member channel found := by
    obtain ⟨old, there, -, gone⟩ := before other channel found
    exact gone (sound.finished other member old there)
  resolved := sound.resolved
  released := sound.released
  late := sound.late

structure Lessens (state : ApprovalState) (approvalId : String) (change : Oneshot → Oneshot) :
    Prop where
  value : ∀ channel, (change channel).value = channel.value
  receiver : ∀ channel, channel.receiver = false → (change channel).receiver = false
  sender : ∀ channel, channel.sender = false → (change channel).sender = false
  pending : approvalId ∈ state.pending → ∀ channel, (change channel).sender = channel.sender

theorem SharedSound.change (sound : SharedSound state) {change : Oneshot → Oneshot}
    (lessens : Lessens state approvalId change) :
    SharedSound (state.changeChannel approvalId change) := by
  rw [changeChannel_frame]
  apply sound.withChannels
  · intro other channel found
    rw [lookup_changeChannel] at found
    split at found
    · rename_i same
      subst same
      obtain ⟨old, there, rfl⟩ := Option.map_eq_some_iff.mp found
      exact ⟨old, there, lessens.value old, lessens.receiver old⟩
    · exact ⟨channel, found, rfl, id⟩
  · intro other old found
    rw [lookup_changeChannel]
    split
    · rename_i same
      subst same
      exact ⟨change old, by rw [found]; rfl, lessens.sender old, (lessens.pending · old)⟩
    · exact ⟨old, found, id, fun _ => rfl⟩

theorem lessens_receiver (state : ApprovalState) (approvalId : String) :
    Lessens state approvalId fun channel => { channel with receiver := false } :=
  ⟨fun _ => rfl, fun _ _ => rfl, fun _ => id, fun _ _ => rfl⟩

theorem lessens_sender (unpending : approvalId ∉ state.pending) :
    Lessens state approvalId fun channel => { channel with sender := false } :=
  ⟨fun _ => rfl, fun _ => id, fun _ _ => rfl, fun pending => absurd pending unpending⟩

theorem SharedSound.dropReceiver (sound : SharedSound state) (approvalId : String) :
    SharedSound (state.dropReceiver approvalId) :=
  sound.change (lessens_receiver state approvalId)

theorem receiver_dropped {channel : Oneshot}
    (found : (state.dropReceiver approvalId).channels.lookup approvalId = some channel) :
    channel.receiver = false := by
  rw [ApprovalState.dropReceiver, lookup_changeChannel, if_pos rfl] at found
  obtain ⟨old, -, rfl⟩ := Option.map_eq_some_iff.mp found
  rfl

theorem SharedSound.erasePending (sound : SharedSound state) (approvalId : String) :
    SharedSound { state with pending := state.pending.erase approvalId } :=
  { sound with pending := fun other member => sound.pending other (Finset.mem_of_mem_erase member) }

theorem SharedSound.removePending (sound : SharedSound state) (approvalId : String) :
    SharedSound (state.removePending approvalId) := by
  unfold ApprovalState.removePending
  split
  · have erased := sound.erasePending approvalId
    have changed := erased.change (lessens_sender (Finset.notMem_erase approvalId state.pending))
    rw [changeChannel_frame] at changed ⊢
    have same : (ApprovalState.changeChannel { state with pending := state.pending.erase approvalId }
        approvalId fun channel => { channel with sender := false }).channels =
        (state.changeChannel approvalId fun channel => { channel with sender := false }).channels := by
      unfold changeChannel
      dsimp only
      split <;> rfl
    exact same ▸ changed
  · exact sound

theorem SharedSound.finish (sound : SharedSound state) (requested : approvalId ∈ state.requested)
    (dropped : ∀ channel, state.channels.lookup approvalId = some channel →
      channel.receiver = false) : SharedSound (state.finish approvalId) :=
  { sound with
    finishedKnown := fun other member => by
      rcases List.mem_append.mp member with before | new
      · exact sound.finishedKnown other before
      · exact List.mem_singleton.mp new ▸ requested
    finished := fun other member => by
      rcases List.mem_append.mp member with before | new
      · exact sound.finished other before
      · exact List.mem_singleton.mp new ▸ dropped }

theorem SharedSound.release (sound : SharedSound state) {outcome : ApprovalOutcome}
    (approved : outcome = .answered true → state.Succeeded approvalId true) :
    SharedSound (state.release approvalId outcome) :=
  { sound with
    released := fun other member => by
      rcases List.mem_append.mp member with before | new
      · exact sound.released other before
      · obtain ⟨rfl, same⟩ := Prod.mk.inj (List.mem_singleton.mp new)
        exact approved same.symm }

theorem SharedSound.openChannel (sound : SharedSound state) (requested : approvalId ∈ state.requested)
    (unopened : state.channels.lookup approvalId = none) (fresh : approvalId ∉ state.finished) :
    SharedSound { state.setChannel approvalId ⟨none, true, true⟩ with
      pending := insert approvalId state.pending } where
  known other channel found := by
    simp only [setChannel, Table.lookup_insert_eq] at found
    split at found
    · rename_i same
      exact same ▸ requested
    · exact sound.known other channel found
  finishedKnown := sound.finishedKnown
  pending other member := by
    simp only [setChannel, Table.lookup_insert_eq]
    rcases Finset.mem_insert.mp member with rfl | before
    · exact ⟨_, if_pos rfl, rfl⟩
    · obtain ⟨channel, found, sender⟩ := sound.pending other before
      have apart : other ≠ approvalId := by
        rintro rfl
        cases unopened.symm.trans found
      exact ⟨channel, (if_neg apart).trans found, sender⟩
  values other channel approved found sent := by
    simp only [setChannel, Table.lookup_insert_eq] at found
    split at found
    · cases found
      cases sent
    · exact sound.values other channel approved found sent
  sent other approved succeeded := by
    obtain ⟨channel, found, gone⟩ := sound.sent other approved succeeded
    simp only [setChannel, Table.lookup_insert_eq]
    have apart : other ≠ approvalId := by
      rintro rfl
      cases unopened.symm.trans found
    exact ⟨channel, (if_neg apart).trans found, gone⟩
  once := sound.once
  finished other member channel found := by
    simp only [setChannel, Table.lookup_insert_eq] at found
    split at found
    · rename_i same
      exact absurd (same ▸ member) fresh
    · exact sound.finished other member channel found
  resolved := sound.resolved
  released := sound.released
  late := sound.late

theorem SharedSound.request (sound : SharedSound state) (approvalId : String) :
    SharedSound { state with requested := state.requested ++ [approvalId] } :=
  { sound with
    known := fun other channel found =>
      List.mem_append_left _ (sound.known other channel found)
    finishedKnown := fun other member =>
      List.mem_append_left _ (sound.finishedKnown other member) }

theorem SharedSound.record (sound : SharedSound state)
    (succeeded : ∃ approved, state.Succeeded approvalId approved) :
    SharedSound { state with resolvedApprovals := insert approvalId state.resolvedApprovals } :=
  { sound with
    resolved := fun other member => by
      rcases Finset.mem_insert.mp member with rfl | before
      · exact succeeded
      · exact sound.resolved other before }

theorem succeeded_answer (state : ApprovalState) (approvalId : String) (approved late : Bool)
    (outcome : ResolveOutcome) (other : String) (given : Bool) :
    (state.answer approvalId approved late outcome).Succeeded other given ↔
      state.Succeeded other given ∨
        approvalId = other ∧ approved = given ∧ outcome = .resolved := by
  simp [Succeeded, ApprovalState.answer, or_and_right, exists_or]

theorem SharedSound.answer (sound : SharedSound state) {approved late : Bool}
    {outcome : ResolveOutcome} (failed : outcome ≠ .resolved)
    (fits : late = true → outcome = .notFound ∨
      outcome = .alreadyResolved ∧ ∃ given, state.Succeeded approvalId given) :
    SharedSound (state.answer approvalId approved late outcome) := by
  have same (other : String) (given : Bool) :
      (state.answer approvalId approved late outcome).Succeeded other given ↔
        state.Succeeded other given := by
    rw [succeeded_answer]
    exact or_iff_left fun new => failed new.2.2
  have ids : (state.answer approvalId approved late outcome).succeededIds = state.succeededIds := by
    simp [succeededIds, ApprovalState.answer, List.filter_append, failed]
  exact
    { known := sound.known
      finishedKnown := sound.finishedKnown
      pending := sound.pending
      values := fun other channel given found sent =>
        (same other given).mpr (sound.values other channel given found sent)
      sent := fun other given succeeded => sound.sent other given ((same other given).mp succeeded)
      once := ids ▸ sound.once
      finished := sound.finished
      resolved := fun other member => by
        obtain ⟨given, succeeded⟩ := sound.resolved other member
        exact ⟨given, (same other given).mpr succeeded⟩
      released := fun other member => (same other true).mpr (sound.released other member)
      late := fun answer member isLate => by
        simp only [same]
        rcases List.mem_append.mp member with before | new
        · exact sound.late answer before isLate
        · obtain rfl := List.mem_singleton.mp new
          exact fits isLate }

theorem SharedSound.send (sound : SharedSound state) {approved : Bool} {channel : Oneshot}
    (found : state.channels.lookup approvalId = some channel) (sender : channel.sender = true)
    (receiver : channel.receiver = true) (unpending : approvalId ∉ state.pending) :
    SharedSound ((state.setChannel approvalId ⟨some approved, false, true⟩).answer approvalId
      approved false .resolved) := by
  have first (given : Bool) : ¬ state.Succeeded approvalId given := by
    intro succeeded
    obtain ⟨sent, there, gone⟩ := sound.sent approvalId given succeeded
    cases found.symm.trans there
    cases sender.symm.trans gone
  have grown (other : String) (given : Bool) :
      ((state.setChannel approvalId ⟨some approved, false, true⟩).answer approvalId approved false
        .resolved).Succeeded other given ↔
        state.Succeeded other given ∨ approvalId = other ∧ approved = given := by
    rw [succeeded_answer]
    simp only [and_true]
    exact Iff.rfl
  have lookup (other : String) :
      ((state.setChannel approvalId ⟨some approved, false, true⟩).answer approvalId approved false
        .resolved).channels.lookup other =
        if other = approvalId then some ⟨some approved, false, true⟩
        else state.channels.lookup other :=
    Table.lookup_insert_eq state.channels approvalId other _
  exact
    { known := fun other now there => by
        rw [lookup] at there
        split at there
        · rename_i same
          exact same ▸ sound.known approvalId channel found
        · exact sound.known other now there
      finishedKnown := sound.finishedKnown
      pending := fun other member => by
        have apart : other ≠ approvalId := fun same => unpending (same ▸ member)
        rw [lookup, if_neg apart]
        exact sound.pending other member
      values := fun other now given there sent => by
        rw [lookup] at there
        rw [grown]
        split at there
        · rename_i same
          cases there
          exact .inr ⟨same.symm, Option.some.inj sent⟩
        · exact .inl (sound.values other now given there sent)
      sent := fun other given succeeded => by
        rw [lookup]
        split
        · exact ⟨_, rfl, rfl⟩
        · rename_i apart
          rcases (grown other given).mp succeeded with before | new
          · exact sound.sent other given before
          · exact absurd new.1.symm apart
      once := by
        have appended : ((state.setChannel approvalId ⟨some approved, false, true⟩).answer
            approvalId approved false .resolved).succeededIds =
              state.succeededIds ++ [approvalId] := by
          simp [succeededIds, ApprovalState.answer, setChannel, List.filter_append]
        rw [appended, ← List.concat_eq_append]
        apply sound.once.concat
        intro member
        obtain ⟨given, succeeded⟩ := mem_succeededIds.mp member
        exact first given succeeded
      finished := fun other member now there => by
        rw [lookup] at there
        split at there
        · rename_i same
          have gone := sound.finished approvalId (same ▸ member) channel found
          cases receiver.symm.trans gone
        · exact sound.finished other member now there
      resolved := fun other member => by
        obtain ⟨given, succeeded⟩ := sound.resolved other member
        exact ⟨given, (grown other given).mpr (.inl succeeded)⟩
      released := fun other member => (grown other true).mpr (.inl (sound.released other member))
      late := fun answer member isLate => by
        rcases List.mem_append.mp member with before | new
        · rcases sound.late answer before isLate with absent | ⟨already, given, succeeded⟩
          · exact .inl absent
          · exact .inr ⟨already, given, (grown _ _).mpr (.inl succeeded)⟩
        · obtain rfl := List.mem_singleton.mp new
          cases isLate }

end Updates

structure Grows (state next : ApprovalState) (token : Option (Bool × String)) : Prop where
  requested : state.requested ⊆ next.requested
  finished : state.finished ⊆ next.finished
  answers : state.answers ⊆ next.answers
  opened : ∀ approvalId, token ≠ some (false, approvalId) →
    state.channels.lookup approvalId = none → approvalId ∉ state.finished →
      next.channels.lookup approvalId = none ∧ approvalId ∉ next.finished
  dropped : ∀ approvalId, token ≠ some (false, approvalId) →
    (∀ channel, state.channels.lookup approvalId = some channel → channel.receiver = false) →
      ∀ channel, next.channels.lookup approvalId = some channel → channel.receiver = false
  taken : ∀ approvalId, token ≠ some (true, approvalId) → approvalId ∉ state.pending →
    (∃ channel, state.channels.lookup approvalId = some channel ∧ channel.sender = true) →
      approvalId ∉ next.pending ∧
        ∃ channel, next.channels.lookup approvalId = some channel ∧ channel.sender = true

section Others

variable {state next : ApprovalState} {approvalId : String} {token : Option (Bool × String)}

theorem Grows.refl (state : ApprovalState) (token : Option (Bool × String)) :
    Grows state state token :=
  ⟨fun _ => id, fun _ => id, fun _ => id, fun _ _ unopened fresh => ⟨unopened, fresh⟩,
    fun _ _ gone => gone, fun _ _ unpending holding => ⟨unpending, holding⟩⟩

theorem Grows.trans {middle : ApprovalState} (first : Grows state middle token)
    (second : Grows middle next token) : Grows state next token where
  requested := List.Subset.trans first.requested second.requested
  finished := List.Subset.trans first.finished second.finished
  answers := List.Subset.trans first.answers second.answers
  opened other apart unopened fresh :=
    have still := first.opened other apart unopened fresh
    second.opened other apart still.1 still.2
  dropped other apart gone := second.dropped other apart (first.dropped other apart gone)
  taken other apart unpending holding :=
    have still := first.taken other apart unpending holding
    second.taken other apart still.1 still.2

theorem Grows.succeeded (grows : Grows state next token) {other : String} {given : Bool}
    (succeeded : state.Succeeded other given) : next.Succeeded other given := by
  obtain ⟨answer, member, rest⟩ := succeeded
  exact ⟨answer, grows.answers member, rest⟩

theorem Grows.fits (grows : Grows state next token) {other : ApprovalTask}
    (apart : ∀ key, token = some key → other.token ≠ some key) (fits : TaskFits state other) :
    TaskFits next other := by
  cases other with
  | tool approvalId phase =>
    have own : token ≠ some (false, approvalId) := fun same => apart _ same rfl
    refine ⟨grows.requested fits.1, ?_⟩
    cases phase with
    | asking => exact grows.opened approvalId own fits.2.1 fits.2.2
    | waiting => trivial
    | leaving outcome =>
      exact ⟨grows.dropped approvalId own fits.2.1,
        fun approved given => grows.succeeded (fits.2.2 approved given)⟩
  | resolve approvalId approved late phase =>
    cases phase with
    | checking => exact fits
    | taking => exact fun isLate => grows.finished (fits isLate)
    | sending =>
      have own : token ≠ some (true, approvalId) := fun same => apart _ same rfl
      exact ⟨fun isLate => grows.finished (fits.1 isLate),
        grows.taken approvalId own fits.2.1 fits.2.2⟩
    | recording =>
      obtain ⟨timely, given, succeeded⟩ := fits
      exact ⟨timely, given, grows.succeeded succeeded⟩

theorem grows_changeChannel {change : Oneshot → Oneshot}
    (receiver : ∀ channel, channel.receiver = false → (change channel).receiver = false)
    (sender : token ≠ some (true, approvalId) → approvalId ∉ state.pending →
      ∀ channel, (change channel).sender = channel.sender) :
    Grows state (state.changeChannel approvalId change) token := by
  rw [changeChannel_frame]
  refine ⟨fun _ => id, fun _ => id, fun _ => id, ?_, ?_, ?_⟩
  · intro other _ unopened fresh
    refine ⟨?_, fresh⟩
    rw [lookup_changeChannel]
    split
    · rename_i same
      rw [← same, unopened]
      rfl
    · exact unopened
  · intro other _ gone channel found
    rw [lookup_changeChannel] at found
    split at found
    · rename_i same
      obtain ⟨old, there, rfl⟩ := Option.map_eq_some_iff.mp found
      exact receiver old (gone old (same ▸ there))
    · exact gone channel found
  · rintro other apart unpending ⟨channel, found, holding⟩
    refine ⟨unpending, ?_⟩
    rw [lookup_changeChannel]
    split
    · rename_i same
      subst same
      exact ⟨change channel, by rw [found]; rfl, (sender apart unpending channel).trans holding⟩
    · exact ⟨channel, found, holding⟩

theorem grows_dropReceiver (state : ApprovalState) (approvalId : String)
    (token : Option (Bool × String)) : Grows state (state.dropReceiver approvalId) token :=
  grows_changeChannel (fun _ _ => rfl) fun _ _ _ => rfl

theorem grows_erase (state : ApprovalState) (approvalId : String)
    (token : Option (Bool × String)) :
    Grows state { state with pending := state.pending.erase approvalId } token :=
  { Grows.refl state token with
    taken := fun _ _ unpending holding =>
      ⟨fun member => unpending (Finset.mem_of_mem_erase member), holding⟩ }

theorem grows_removePending (state : ApprovalState) (approvalId : String)
    (token : Option (Bool × String)) : Grows state (state.removePending approvalId) token := by
  unfold removePending
  split
  · rename_i member
    have changed : Grows state (state.changeChannel approvalId fun channel =>
        { channel with sender := false }) token :=
      grows_changeChannel (fun _ => id) fun _ absent => absurd member absent
    rw [changeChannel_frame] at changed ⊢
    exact changed.trans (grows_erase _ approvalId token)
  · exact Grows.refl state token

theorem grows_finish (state : ApprovalState) (approvalId : String) :
    Grows state (state.finish approvalId) (some (false, approvalId)) :=
  { Grows.refl state (some (false, approvalId)) with
    finished := List.subset_append_left _ _
    opened := fun other apart unopened fresh => by
      refine ⟨unopened, fun member => ?_⟩
      rcases List.mem_append.mp member with before | new
      · exact fresh before
      · exact apart (List.mem_singleton.mp new ▸ rfl) }

theorem grows_release (state : ApprovalState) (approvalId : String) (outcome : ApprovalOutcome)
    (token : Option (Bool × String)) : Grows state (state.release approvalId outcome) token :=
  { Grows.refl state token with }

theorem grows_answer (state : ApprovalState) (approvalId : String) (approved late : Bool)
    (outcome : ResolveOutcome) (token : Option (Bool × String)) :
    Grows state (state.answer approvalId approved late outcome) token :=
  { Grows.refl state token with answers := List.subset_append_left _ _ }

theorem grows_open (unopened : state.channels.lookup approvalId = none) :
    Grows state { state.setChannel approvalId ⟨none, true, true⟩ with
      pending := insert approvalId state.pending } (some (false, approvalId)) where
  requested := fun _ => id
  finished := fun _ => id
  answers := fun _ => id
  opened other apart absent fresh := by
    have other_ne : other ≠ approvalId := fun same => apart (same ▸ rfl)
    exact ⟨(Table.lookup_insert_eq _ _ _ _).trans ((if_neg other_ne).trans absent), fresh⟩
  dropped other apart gone channel found := by
    have other_ne : other ≠ approvalId := fun same => apart (same ▸ rfl)
    exact gone channel
      ((if_neg other_ne).symm.trans ((Table.lookup_insert_eq _ _ _ _).symm.trans found))
  taken other _ unpending holding := by
    obtain ⟨channel, found, sender⟩ := holding
    have other_ne : other ≠ approvalId := by
      rintro rfl
      cases unopened.symm.trans found
    refine ⟨fun member => ?_, channel,
      (Table.lookup_insert_eq _ _ _ _).trans ((if_neg other_ne).trans found), sender⟩
    rcases Finset.mem_insert.mp member with same | before
    · exact other_ne same
    · exact unpending before

theorem grows_send {approved : Bool} {channel : Oneshot}
    (found : state.channels.lookup approvalId = some channel) (receiver : channel.receiver = true) :
    Grows state (state.setChannel approvalId ⟨some approved, false, true⟩)
      (some (true, approvalId)) where
  requested := fun _ => id
  finished := fun _ => id
  answers := fun _ => id
  opened other _ absent fresh := by
    have other_ne : other ≠ approvalId := by
      rintro rfl
      cases absent.symm.trans found
    exact ⟨(Table.lookup_insert_eq _ _ _ _).trans ((if_neg other_ne).trans absent), fresh⟩
  dropped other _ gone now there := by
    have other_ne : other ≠ approvalId := by
      rintro rfl
      cases receiver.symm.trans (gone channel found)
    exact gone now
      ((if_neg other_ne).symm.trans ((Table.lookup_insert_eq _ _ _ _).symm.trans there))
  taken other apart unpending holding := by
    have other_ne : other ≠ approvalId := fun same => apart (same ▸ rfl)
    obtain ⟨now, there, sender⟩ := holding
    exact ⟨unpending, now,
      (Table.lookup_insert_eq _ _ _ _).trans ((if_neg other_ne).trans there), sender⟩

end Others

end OpenJax.Gateway
