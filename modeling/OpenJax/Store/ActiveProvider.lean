import OpenJax.Store.Providers

set_option autoImplicit false

/-! The settings hold a copy of what the active provider's row says. Calls carry such copies from
one statement to the next, and one that is written late stays behind the row. -/

namespace OpenJax.Store

open Shared

abbrev ModelCopy := String × UInt32

def ProviderRecord.copy (provider : ProviderRecord) : ModelCopy :=
  (provider.modelName, provider.contextWindowSize)

def UpdateProviderParams.copy (params : UpdateProviderParams) : ModelCopy :=
  (params.modelName, params.contextWindowSize)

def RuntimeSetting.Copies (setting : RuntimeSetting) (copy : ModelCopy) : Prop :=
  setting.modelName = some copy.1 ∧ setting.contextWindowSize = copy.2

instance (setting : RuntimeSetting) : DecidablePred setting.Copies :=
  fun copy => inferInstanceAs (Decidable
    (setting.modelName = some copy.1 ∧ setting.contextWindowSize = copy.2))

def CallProgress.carries : CallProgress → Option (String × ModelCopy)
  | .updated params => some (params.providerId, params.copy)
  | .selected provider => some (provider.providerId, provider.copy)
  | _ => none

namespace ProviderStore

def current (store : ProviderStore) (providerId : String) : Option ModelCopy :=
  (store.getProvider providerId).map ProviderRecord.copy

def Consistent (store : ProviderStore) : Prop :=
  ∀ record ∈ store.getActiveProvider, ∃ provider ∈ store.getProvider record.providerId,
    provider.modelName = record.modelName ∧
      provider.contextWindowSize = record.contextWindowSize

instance (store : ProviderStore) : Decidable store.Consistent :=
  inferInstanceAs (Decidable (∀ record ∈ store.getActiveProvider,
    ∃ provider ∈ store.getProvider record.providerId,
      provider.modelName = record.modelName ∧
        provider.contextWindowSize = record.contextWindowSize))

/-- The provider has no row, the row says what is wanted, or a call carries what it says. -/
def Settles (store : ProviderStore) (calls : List CallProgress) (providerId : String)
    (wanted : ModelCopy → Prop) : Prop :=
  ∀ copy ∈ store.current providerId,
    wanted copy ∨ ∃ call ∈ calls, call.carries = some (providerId, copy)

instance (store : ProviderStore) (calls : List CallProgress) (providerId : String)
    (wanted : ModelCopy → Prop) [DecidablePred wanted] :
    Decidable (store.Settles calls providerId wanted) :=
  inferInstanceAs (Decidable (∀ copy ∈ store.current providerId,
    wanted copy ∨ ∃ call ∈ calls, call.carries = some (providerId, copy)))

/-- The foreign key: the provider that the settings name has a row, and its model a name. -/
def Named (store : ProviderStore) : Prop :=
  ∀ setting ∈ store.activeProvider, ∀ providerId, setting.providerId = some providerId →
    (store.current providerId).isSome = true ∧ setting.modelName.isSome = true

/-- What the settings say of the provider they name is current, or a call in progress carries
what is. -/
def Covered (store : ProviderStore) (calls : List CallProgress) : Prop :=
  ∀ setting ∈ store.activeProvider, ∀ providerId, setting.providerId = some providerId →
    store.Settles calls providerId setting.Copies

end ProviderStore

/-- No copy that is behind its row is written, and none that the settings need is lost, unless
another call carries one that is current. -/
def OnTime (store : ProviderStore) (others : List CallProgress) (statement : StatementRun) :
    CallProgress → Prop
  | .updated params =>
      ∀ setting ∈ store.activeProvider, setting.providerId = some params.providerId →
        if statement.fails then store.Settles others params.providerId setting.Copies
        else store.Settles others params.providerId fun copy => copy = params.copy
  | .selected provider =>
      if statement.fails then
        ∀ setting ∈ store.activeProvider, setting.providerId = some provider.providerId →
          store.Settles others provider.providerId setting.Copies
      else store.Settles others provider.providerId fun copy => copy = provider.copy
  | _ => True

instance (store : ProviderStore) (others : List CallProgress) (statement : StatementRun) :
    DecidablePred (OnTime store others statement)
  | .updated params => inferInstanceAs (Decidable
      (∀ setting ∈ store.activeProvider, setting.providerId = some params.providerId →
        if statement.fails then store.Settles others params.providerId setting.Copies
        else store.Settles others params.providerId fun copy => copy = params.copy))
  | .selected provider => inferInstanceAs (Decidable
      (if statement.fails then
        ∀ setting ∈ store.activeProvider, setting.providerId = some provider.providerId →
          store.Settles others provider.providerId setting.Copies
      else store.Settles others provider.providerId fun copy => copy = provider.copy))
  | .requested _ | .created _ | .synced _ | .activated => isTrue trivial

def StepOnTime (pool : Pool ProviderStore CallProgress) :
    PoolInput ProviderCall StatementRun → Prop
  | .start _ => True
  | .advance index statement =>
      ∀ progress ∈ pool.tasks[index]?,
        OnTime pool.shared (pool.tasks.eraseIdx index) statement progress

instance (pool : Pool ProviderStore CallProgress) : DecidablePred (StepOnTime pool)
  | .start _ => isTrue trivial
  | .advance index statement => inferInstanceAs (Decidable (∀ progress ∈ pool.tasks[index]?,
      OnTime pool.shared (pool.tasks.eraseIdx index) statement progress))

section Statements

variable {store next : ProviderStore} {calls others : List CallProgress} {providerId : String}
  {copy : ModelCopy}

theorem current_insertProvider {row : ProviderRecord}
    (inserted : store.insertProvider row = some next)
    (found : store.current providerId = some copy) : next.current providerId = some copy := by
  unfold ProviderStore.insertProvider at inserted
  split at inserted
  · cases inserted
  · obtain ⟨rows, added, rfl⟩ := Option.map_eq_some_iff.mp inserted
    obtain ⟨provider, there, rfl⟩ := Option.map_eq_some_iff.mp found
    exact Option.map_eq_some_iff.mpr ⟨provider, find_insertRow added there, rfl⟩

theorem active_insertProvider {row : ProviderRecord}
    (inserted : store.insertProvider row = some next) :
    next.activeProvider = store.activeProvider := by
  unfold ProviderStore.insertProvider at inserted
  split at inserted
  · cases inserted
  · obtain ⟨rows, -, rfl⟩ := Option.map_eq_some_iff.mp inserted
    rfl

theorem updateRow_some {params : UpdateProviderParams} {now : String} {count : Nat}
    (updated : store.updateRow params now = some (count, next)) :
    next = { store with
      providers := updateWhere (fun row => row.providerId == params.providerId)
        (ProviderStore.changed params now) store.providers } := by
  simp only [ProviderStore.updateRow] at updated
  split at updated
  · cases updated
  · exact (Prod.mk.inj (Option.some.inj updated)).2.symm

theorem current_updateRow {params : UpdateProviderParams} {now : String} {count : Nat}
    (updated : store.updateRow params now = some (count, next)) (providerId : String) :
    next.current providerId =
      (store.current providerId).map fun copy =>
        if providerId = params.providerId then params.copy else copy := by
  obtain rfl := updateRow_some updated
  simp only [ProviderStore.current, ProviderStore.getProvider]
  rw [find_updateWhere, Option.map_map, Option.map_map]
  · cases found : store.providers.find? fun row => row.providerId == providerId with
    | none => rfl
    | some provider =>
      have same : provider.providerId = providerId := by
        simpa using List.find?_some found
      subst same
      simp only [Option.map_some, Function.comp_apply, beq_iff_eq]
      split <;> rfl
  · exact fun _ => rfl

theorem current_deleteRow {deleted : String} (other : providerId ≠ deleted) :
    (store.deleteRow deleted).2.current providerId = store.current providerId := by
  simp only [ProviderStore.current, ProviderStore.getProvider, ProviderStore.deleteRow]
  rw [find_deleteWhere]
  intro row named
  rw [beq_iff_eq] at named
  rw [named]
  exact beq_false_of_ne other

theorem upsertActive_some {provider : ProviderRecord} {now : String}
    (written : store.upsertActive provider now = some next) :
    (store.current provider.providerId).isSome = true ∧
      next = { store with
        activeProvider := some
          ⟨some provider.providerId, some provider.modelName, provider.contextWindowSize,
            now⟩ } := by
  unfold ProviderStore.upsertActive at written
  split at written
  · rename_i found
    exact ⟨by simpa [ProviderStore.current] using found, (Option.some.inj written).symm⟩
  · cases written

/-- What one statement of a call does to the row of settings and to the rows of providers. -/
inductive Effect (store : ProviderStore) (statement : StatementRun) :
    CallProgress → ProviderStore → List CallProgress → Prop where
  | kept {progress rest next} (active : next.activeProvider = store.activeProvider)
      (rows : ∀ providerId copy, store.current providerId = some copy →
        next.current providerId = some copy)
      (uncarried : progress.carries = none ∨ statement.fails = true ∨
        ∃ provider, progress = .selected provider ∧ store.current provider.providerId = none) :
      Effect store statement progress next rest
  | rowUpdated {params next} (active : next.activeProvider = store.activeProvider)
      (rows : ∀ providerId, next.current providerId =
        (store.current providerId).map fun copy =>
          if providerId = params.providerId then params.copy else copy) :
      Effect store statement (.requested (.updateProvider params)) next [.updated params]
  | rowDeleted {deleted next} (active : next.activeProvider =
        store.activeProvider.map fun setting =>
          if setting.providerId = some deleted then { setting with providerId := none }
          else setting)
      (rows : ∀ providerId, providerId ≠ deleted →
        next.current providerId = store.current providerId) :
      Effect store statement (.requested (.deleteProvider deleted)) next []
  | synced {params} (succeeds : statement.fails = false) :
      Effect store statement (.updated params) (store.syncActive params statement.now)
        [.synced params.providerId]
  | activated {provider} (succeeds : statement.fails = false)
      (named : (store.current provider.providerId).isSome = true) :
      Effect store statement (.selected provider)
        { store with
          activeProvider := some
            ⟨some provider.providerId, some provider.modelName, provider.contextWindowSize,
              statement.now⟩ }
        [.activated]

variable {statement : StatementRun} {after : CallResult ⊕ CallProgress}

theorem effect_begin {call : ProviderCall}
    (began : CallProgress.begin store statement call = (next, after)) :
    Effect store statement (.requested call) next after.getRight?.toList := by
  cases call with
  | createProvider params =>
    simp only [CallProgress.begin] at began
    split at began
    · rename_i inserted
      cases began
      exact .kept (active_insertProvider inserted)
        (fun _ _ => current_insertProvider inserted) (.inl rfl)
    · cases began
      exact .kept rfl (fun _ _ found => found) (.inl rfl)
  | updateProvider params =>
    simp only [CallProgress.begin] at began
    split at began
    · cases began
      exact .kept rfl (fun _ _ found => found) (.inl rfl)
    · rename_i updated
      cases began
      have active := congrArg ProviderStore.activeProvider (updateRow_some updated)
      exact .rowUpdated active (current_updateRow updated)
    · cases began
      exact .kept rfl (fun _ _ found => found) (.inl rfl)
  | deleteProvider deleted =>
    cases began
    exact .rowDeleted rfl fun _ other => current_deleteRow other
  | setActiveProvider providerId =>
    simp only [CallProgress.begin] at began
    split at began <;>
    · cases began
      exact .kept rfl (fun _ _ found => found) (.inl rfl)

variable {progress : CallProgress}

theorem effect_execute (succeeds : statement.fails = false)
    (executed : progress.execute store statement = (next, after)) :
    Effect store statement progress next after.getRight?.toList := by
  cases progress with
  | requested call => exact effect_begin executed
  | created providerId =>
    simp only [CallProgress.execute] at executed
    split at executed <;>
    · cases executed
      exact .kept rfl (fun _ _ found => found) (.inl rfl)
  | updated params =>
    cases executed
    exact .synced succeeds
  | synced providerId | activated =>
    cases executed
    exact .kept rfl (fun _ _ found => found) (.inl rfl)
  | selected provider =>
    simp only [CallProgress.execute] at executed
    split at executed
    · rename_i written
      cases executed
      obtain ⟨named, rfl⟩ := upsertActive_some written
      exact .activated succeeds named
    · rename_i refused
      cases executed
      refine .kept rfl (fun _ _ found => found) (.inr (.inr ⟨provider, rfl, ?_⟩))
      simpa [ProviderStore.upsertActive, ProviderStore.current] using refused

theorem effect_advance (advanced : progress.advance store statement = (next, after)) :
    Effect store statement progress next after.getRight?.toList := by
  unfold CallProgress.advance at advanced
  split at advanced
  · rename_i fails
    cases advanced
    exact .kept rfl (fun _ _ found => found) (.inr (.inl fails))
  · rename_i succeeds
    exact effect_execute (by simpa using succeeds) advanced

theorem named_effect {rest : List CallProgress} (effect : Effect store statement progress next rest)
    (named : store.Named) : next.Named := by
  cases effect with
  | kept active rows =>
    intro setting member providerId names
    rw [active] at member
    obtain ⟨found, model⟩ := named setting member providerId names
    obtain ⟨copy, found⟩ := Option.isSome_iff_exists.mp found
    exact ⟨by rw [rows providerId copy found]; rfl, model⟩
  | rowUpdated active rows =>
    intro setting member providerId names
    rw [active] at member
    obtain ⟨found, model⟩ := named setting member providerId names
    exact ⟨by rw [rows, Option.isSome_map, found], model⟩
  | @rowDeleted deleted _ active rows =>
    intro setting member providerId names
    rw [active] at member
    obtain ⟨old, before, rfl⟩ := Option.map_eq_some_iff.mp member
    split at names
    · cases names
    · rename_i other
      have apart : providerId ≠ deleted := by
        rintro rfl
        exact other names
      rw [rows providerId apart, if_neg other]
      exact named old before providerId names
  | synced succeeds =>
    intro setting member providerId names
    obtain ⟨old, before, rfl⟩ := Option.map_eq_some_iff.mp member
    split at names
    · rename_i own
      rw [if_pos own]
      exact ⟨(named old before providerId names).1, rfl⟩
    · rename_i other
      rw [if_neg other]
      exact named old before providerId names
  | activated succeeds found =>
    intro setting member providerId names
    cases member
    cases names
    exact ⟨found, rfl⟩

theorem settles_append {wanted : ModelCopy → Prop}
    (settled : store.Settles others providerId wanted) (rest : List CallProgress) :
    store.Settles (others ++ rest) providerId wanted := by
  intro copy found
  apply (settled copy found).imp_right
  rintro ⟨call, member, carried⟩
  exact ⟨call, List.mem_append_left rest member, carried⟩

theorem settles_others {index : Nat} {wanted : ModelCopy → Prop}
    (chosen : calls[index]? = some progress) (settled : store.Settles calls providerId wanted)
    (uncarried : ∀ copy, store.current providerId = some copy →
      progress.carries ≠ some (providerId, copy)) :
    store.Settles (calls.eraseIdx index) providerId wanted := by
  intro copy found
  apply (settled copy found).imp_right
  rintro ⟨call, member, carried⟩
  rcases TaskSystem.mem_tasks chosen member with rfl | other
  · exact absurd carried (uncarried copy found)
  · exact ⟨call, other, carried⟩

theorem settles_failing {setting : RuntimeSetting} (fails : statement.fails = true)
    (onTime : OnTime store others statement progress) (member : setting ∈ store.activeProvider)
    (names : setting.providerId = some providerId)
    (carried : progress.carries = some (providerId, copy)) :
    store.Settles others providerId setting.Copies := by
  cases progress with
  | updated params =>
    cases Option.some.inj carried
    simpa [fails] using onTime setting member names
  | selected provider =>
    cases Option.some.inj carried
    rw [OnTime, if_pos fails] at onTime
    exact onTime setting member names
  | requested | created | synced | activated => cases carried

theorem covered_effect {index : Nat} {rest : List CallProgress}
    (chosen : calls[index]? = some progress) (effect : Effect store statement progress next rest)
    (named : store.Named) (covered : store.Covered calls)
    (onTime : OnTime store (calls.eraseIdx index) statement progress) :
    next.Covered (calls.eraseIdx index ++ rest) := by
  cases effect with
  | kept active rows uncarried =>
    intro setting member providerId names
    rw [active] at member
    have before : store.Settles (calls.eraseIdx index) providerId setting.Copies := by
      rcases uncarried with none | fails | ⟨provider, rfl, gone⟩
      · exact settles_others chosen (covered setting member providerId names) fun _ _ => by
          simp [none]
      · intro copy found
        rcases covered setting member providerId names copy found with copies | carried
        · exact .inl copies
        · obtain ⟨call, among, carried⟩ := carried
          rcases TaskSystem.mem_tasks chosen among with rfl | other
          · exact settles_failing fails onTime member names carried copy found
          · exact .inr ⟨call, other, carried⟩
      · apply settles_others chosen (covered setting member providerId names)
        intro copy found carried
        cases Option.some.inj carried
        rw [gone] at found
        cases found
    intro copy found
    -- The row that the settings name is one that the statement kept.
    obtain ⟨old, there⟩ := Option.isSome_iff_exists.mp (named setting member providerId names).1
    obtain rfl := Option.some.inj ((rows providerId old there).symm.trans found)
    exact settles_append before rest old there
  | rowUpdated active rows =>
    rename_i params
    intro setting member providerId names
    rw [active] at member
    have before := settles_others chosen (covered setting member providerId names)
      (fun _ _ => nofun)
    intro copy found
    obtain ⟨old, there, rfl⟩ := Option.map_eq_some_iff.mp (rows providerId ▸ found)
    split
    · rename_i own
      subst own
      exact .inr ⟨_, List.mem_append_right _ (List.mem_singleton_self _), rfl⟩
    · exact settles_append before _ old there
  | @rowDeleted deleted _ active rows =>
    intro setting member providerId names
    rw [active] at member
    obtain ⟨old, before, rfl⟩ := Option.map_eq_some_iff.mp member
    split at names
    · cases names
    · rename_i other
      have apart : providerId ≠ deleted := by
        rintro rfl
        exact other names
      have kept := settles_others chosen (covered old before providerId names) (fun _ _ => nofun)
      rw [if_neg other, List.append_nil]
      intro copy found
      rw [rows providerId apart] at found
      exact kept copy found
  | synced succeeds =>
    intro setting member providerId names
    obtain ⟨old, before, rfl⟩ := Option.map_eq_some_iff.mp member
    split at names
    · rename_i own
      cases own.symm.trans names
      have settled := onTime old before own
      simp only [succeeds, Bool.false_eq_true, if_false] at settled
      rw [if_pos own]
      apply settles_append
      intro copy found
      refine (settled copy found).imp_left ?_
      rintro rfl
      exact ⟨rfl, rfl⟩
    · rename_i other
      rw [if_neg other]
      apply settles_append
      apply settles_others chosen (covered old before providerId names)
      intro copy _ carried
      cases Option.some.inj carried
      exact other names
  | activated succeeds found =>
    intro setting member providerId names
    cases member
    cases names
    simp only [OnTime, succeeds, Bool.false_eq_true, if_false] at onTime
    apply settles_append
    intro copy found
    refine (onTime copy found).imp_left ?_
    rintro rfl
    exact ⟨rfl, rfl⟩

end Statements

abbrev ProviderPool := Pool ProviderStore CallProgress

def idle : ProviderPool := ⟨.empty, []⟩

theorem advance_calls {pool next : ProviderPool} {index : Nat} {statement : StatementRun}
    (stepped : providerCalls.step pool (.advance index statement) = some next) :
    ∃ progress rest, pool.tasks[index]? = some progress ∧
      Effect pool.shared statement progress next.shared rest ∧
      next.tasks = pool.tasks.eraseIdx index ++ rest := by
  obtain ⟨progress, shared, rest, chosen, advanced, rfl⟩ := TaskSystem.step_advance stepped
  cases Option.some.inj advanced
  exact ⟨progress, _, chosen, effect_advance rfl, rfl⟩

theorem named_preserved : Preserves providerCalls.step (fun _ _ => True)
    fun pool => pool.shared.Named := by
  intro pool input next named _ stepped
  cases input with
  | start call =>
    cases stepped
    exact named
  | advance index statement =>
    obtain ⟨progress, rest, -, effect, -⟩ := advance_calls stepped
    exact named_effect effect named

theorem covered_preserved : Preserves providerCalls.step StepOnTime
    fun pool => pool.shared.Named ∧ pool.shared.Covered pool.tasks := by
  apply (named_preserved.mono_condition fun _ _ _ => trivial).and
  intro pool input next named covered onTime stepped
  cases input with
  | start call =>
    cases stepped
    intro setting member providerId names
    exact settles_append (covered setting member providerId names) _
  | advance index statement =>
    obtain ⟨progress, rest, chosen, effect, same⟩ := advance_calls stepped
    rw [same]
    exact covered_effect chosen effect named covered (onTime progress chosen)

theorem initial_keeps : idle.shared.Named ∧ idle.shared.Covered idle.tasks := by
  constructor <;>
  · intro setting member
    cases member

variable {inputs : List (PoolInput ProviderCall StatementRun)}

theorem named_run {pool : ProviderPool} (ran : run providerCalls.step idle inputs = some pool) :
    pool.shared.Named := by
  have always : Meets providerCalls.step (fun _ _ => True) idle inputs :=
    Meets.of_inputs fun _ _ => trivial
  exact run_invariant named_preserved initial_keeps.1 always ran

variable {store : ProviderStore}

theorem ProviderStore.Covered.consistent (named : store.Named) (covered : store.Covered []) :
    store.Consistent := by
  intro record active
  obtain ⟨setting, member, active⟩ := Option.bind_eq_some_iff.mp active
  obtain ⟨providerId, names, active⟩ := Option.bind_eq_some_iff.mp active
  obtain ⟨modelName, model, active⟩ := Option.bind_eq_some_iff.mp active
  cases active
  obtain ⟨copy, found⟩ := Option.isSome_iff_exists.mp (named setting member providerId names).1
  have copies : setting.Copies copy := by
    simpa using covered setting member providerId names copy found
  obtain ⟨provider, there, rfl⟩ := Option.map_eq_some_iff.mp found
  exact ⟨provider, there, Option.some.inj (copies.1.symm.trans model), copies.2.symm⟩

/-- Where no copy is late, the active-provider record is right whenever no call is in progress. -/
theorem active_provider_consistent {inputs : List (PoolInput ProviderCall StatementRun)}
    {pool : ProviderPool} (onTime : Meets providerCalls.step StepOnTime idle inputs)
    (ran : run providerCalls.step idle inputs = some pool) (ended : pool.tasks = []) :
    pool.shared.Consistent := by
  obtain ⟨named, covered⟩ := run_invariant covered_preserved initial_keeps onTime ran
  rw [ended] at covered
  exact covered.consistent named

theorem active_provider_exists {pool : ProviderPool}
    (ran : run providerCalls.step idle inputs = some pool) :
    ∀ record ∈ pool.shared.getActiveProvider,
      (pool.shared.getProvider record.providerId).isSome = true := by
  intro record active
  obtain ⟨setting, member, active⟩ := Option.bind_eq_some_iff.mp active
  obtain ⟨providerId, names, active⟩ := Option.bind_eq_some_iff.mp active
  obtain ⟨modelName, -, active⟩ := Option.bind_eq_some_iff.mp active
  cases active
  simpa [ProviderStore.current] using (named_run ran setting member providerId names).1

theorem inconsistent_of_behind {setting : RuntimeSetting} {providerId : String} {copy : ModelCopy}
    (member : setting ∈ store.activeProvider) (names : setting.providerId = some providerId)
    (model : setting.modelName.isSome = true) (found : store.current providerId = some copy)
    (behind : ¬ setting.Copies copy) : ¬ store.Consistent := by
  intro consistent
  obtain ⟨modelName, model⟩ := Option.isSome_iff_exists.mp model
  have active : store.getActiveProvider =
      some ⟨providerId, modelName, setting.contextWindowSize, setting.updatedAt⟩ := by
    simp [ProviderStore.getActiveProvider, Option.mem_def.mp member, names, model]
  obtain ⟨provider, there, sameModel, sameSize⟩ := consistent _ active
  obtain ⟨row, among, rfl⟩ := Option.map_eq_some_iff.mp found
  cases among.symm.trans there
  exact behind ⟨model.trans (congrArg some sameModel.symm), sameSize.symm⟩

theorem active_syncActive {setting : RuntimeSetting} {params : UpdateProviderParams}
    (member : setting ∈ store.activeProvider) (names : setting.providerId = some params.providerId)
    (now : String) :
    (store.syncActive params now).activeProvider =
      some ⟨some params.providerId, some params.modelName, params.contextWindowSize, now⟩ := by
  simp [ProviderStore.syncActive, Option.mem_def.mp member, names]

theorem late_advance {store next : ProviderStore} {others rest : List CallProgress}
    {progress : CallProgress} {statement : StatementRun} (named : store.Named)
    (advanced : providerCalls.advance store progress statement = some (next, rest))
    (late : ¬ OnTime store others statement progress) : ¬ next.Consistent := by
  cases Option.some.inj advanced
  cases progress with
  | requested | created | synced | activated => exact absurd trivial late
  | updated params =>
    simp only [OnTime, not_forall] at late
    obtain ⟨setting, member, names, late⟩ := late
    cases fails : statement.fails with
    | true =>
      have model := (named setting member _ names).2
      simp only [fails, if_true, ProviderStore.Settles, not_forall, not_or] at late
      obtain ⟨copy, found, behind, -⟩ := late
      simp only
      exact inconsistent_of_behind member names model found behind
    | false =>
      simp only [fails, Bool.false_eq_true, if_false, ProviderStore.Settles, not_forall, not_or]
        at late
      obtain ⟨copy, found, behind, -⟩ := late
      simp only [CallProgress.execute]
      have written := active_syncActive member names statement.now
      exact inconsistent_of_behind written rfl rfl found fun copies =>
        behind (Prod.ext (Option.some.inj copies.1.symm) copies.2.symm)
  | selected provider =>
    cases fails : statement.fails with
    | true =>
      simp only [OnTime, fails, if_true, not_forall, ProviderStore.Settles, not_or] at late
      obtain ⟨setting, member, names, copy, found, behind, -⟩ := late
      have model := (named setting member _ names).2
      simp only
      exact inconsistent_of_behind member names model found behind
    | false =>
      simp only [OnTime, fails, Bool.false_eq_true, if_false, not_forall, ProviderStore.Settles,
        not_or] at late
      obtain ⟨copy, found, behind, -⟩ := late
      have there : (store.getProvider provider.providerId).isSome = true := by
        obtain ⟨provider, there, -⟩ := Option.map_eq_some_iff.mp found
        exact Option.isSome_iff_exists.mpr ⟨provider, there⟩
      simp only [CallProgress.execute, ProviderStore.upsertActive, there, if_true]
      exact inconsistent_of_behind rfl rfl rfl found fun copies =>
        behind (Prod.ext (Option.some.inj copies.1.symm) copies.2.symm)

theorem late_step_stays {pool next : ProviderPool} {input : PoolInput ProviderCall StatementRun}
    (ran : run providerCalls.step idle inputs = some pool)
    (stepped : providerCalls.step pool input = some next) (late : ¬ StepOnTime pool input) :
    ∃ rest final, run providerCalls.step next rest = some final ∧ final.tasks = [] ∧
      ¬ final.shared.Consistent := by
  cases input with
  | start call => exact absurd trivial late
  | advance index statement =>
    obtain ⟨progress, shared, rest, chosen, advanced, rfl⟩ := TaskSystem.step_advance stepped
    have behind := late_advance (named_run ran) advanced fun onTime => late fun other member => by
      cases chosen.symm.trans member
      exact onTime
    -- Every statement that is still to come fails.
    have drained : run providerCalls.step ⟨shared, pool.tasks.eraseIdx index ++ rest⟩
        (List.replicate _ (.advance 0 ⟨true, "", ""⟩)) = some ⟨shared, []⟩ :=
      TaskSystem.drain (fun _ => rfl) _
    exact ⟨_, _, drained, rfl, behind⟩

def goes : StatementRun := ⟨false, "2025-06-01T12:00:00Z", "7d1e"⟩

def switchedModel : UpdateProviderParams :=
  ⟨"provider_7d1e", "OpenAI", "https://api.openai.com/v1", "gpt-5.3-codex", none,
    "chat_completions", 200000⟩

def switchWhileSelected : List (PoolInput ProviderCall StatementRun) :=
  [.start (.createProvider
      ⟨"OpenAI", "https://api.openai.com/v1", "gpt-4o", "key", "built_in", "chat_completions",
        128000⟩),
    .advance 0 goes, .advance 0 goes,
    -- The old model is read before the switch, and written after it.
    .start (.setActiveProvider "provider_7d1e"), .advance 0 goes,
    .start (.updateProvider switchedModel), .advance 1 goes, .advance 1 goes, .advance 1 goes,
    .advance 0 goes, .advance 0 goes]

theorem active_provider_falls_behind :
    ¬ ∀ inputs pool, run providerCalls.step idle inputs = some pool → pool.tasks = [] →
      pool.shared.Consistent := by
  intro always
  have ends : (run providerCalls.step idle switchWhileSelected).any fun pool =>
      pool.tasks.isEmpty && !decide pool.shared.Consistent := by
    decide +kernel
  cases ran : run providerCalls.step idle switchWhileSelected with
  | none => simp [ran] at ends
  | some pool =>
    simp only [ran, Option.any_some, Bool.and_eq_true, List.isEmpty_iff, Bool.not_eq_true',
      decide_eq_false_iff_not] at ends
    exact ends.2 (always _ pool ran ends.1)

theorem switched_provider_exists :
    ∃ pool, run providerCalls.step idle switchWhileSelected = some pool ∧
      ∀ record ∈ pool.shared.getActiveProvider,
        (pool.shared.getProvider record.providerId).isSome = true := by
  have ends : (run providerCalls.step idle switchWhileSelected).isSome = true := by decide +kernel
  obtain ⟨pool, ran⟩ := Option.isSome_iff_exists.mp ends
  exact ⟨pool, ran, active_provider_exists ran⟩

theorem late_selection_stays :
    ∃ next rest final, run providerCalls.step next rest = some final ∧ final.tasks = [] ∧
      ¬ final.shared.Consistent := by
  have late : (run providerCalls.step idle (switchWhileSelected.take 9)).any fun pool =>
      (providerCalls.step pool (.advance 0 goes)).isSome &&
        !decide (StepOnTime pool (.advance 0 goes)) := by
    decide +kernel
  obtain ⟨pool, ran, late⟩ := (Option.any_eq_true _ _).mp late
  rw [Bool.and_eq_true, Bool.not_eq_true', decide_eq_false_iff_not] at late
  obtain ⟨next, stepped⟩ := Option.isSome_iff_exists.mp late.1
  exact ⟨next, late_step_stays ran stepped late.2⟩

def switchBeforeSync : List (PoolInput ProviderCall StatementRun) :=
  [.start (.createProvider
      ⟨"OpenAI", "https://api.openai.com/v1", "gpt-4o", "key", "built_in", "chat_completions",
        128000⟩),
    .advance 0 goes, .advance 0 goes,
    .start (.setActiveProvider "provider_7d1e"), .advance 0 goes,
    .start (.updateProvider switchedModel), .advance 1 goes,
    .advance 0 goes, .advance 0 goes, .advance 0 goes, .advance 0 goes]

theorem switched_before_sync :
    ∃ pool, run providerCalls.step idle switchBeforeSync = some pool ∧
      pool.shared.getActiveProvider.isSome = true ∧ pool.shared.Consistent := by
  have ends : (run providerCalls.step idle switchBeforeSync).any fun pool =>
      pool.tasks.isEmpty && pool.shared.getActiveProvider.isSome := by
    decide +kernel
  have onTime : Meets providerCalls.step StepOnTime idle switchBeforeSync := by
    decide +kernel
  cases ran : run providerCalls.step idle switchBeforeSync with
  | none => simp [ran] at ends
  | some pool =>
    simp only [ran, Option.any_some, Bool.and_eq_true, List.isEmpty_iff] at ends
    exact ⟨pool, rfl, ends.2, active_provider_consistent onTime ran ends.1⟩

end OpenJax.Store
