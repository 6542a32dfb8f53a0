import OpenJax.Shared.Text
import OpenJax.Store.Providers
import Mathlib.Logic.Relation

set_option autoImplicit false

namespace OpenJax.Model

open OpenJax.Shared
open OpenJax.Store (ProviderRecord)

structure ProviderModelConfig where
  provider : Option String
  protocol : Option String
  model : Option String
  baseUrl : Option String
  apiKey : Option String
  apiKeyEnv : Option String
  requestProfile : Option String
  anthropicVersion : Option String
  thinkingBudgetTokens : Option UInt32
  supportsStream : Option Bool
  supportsReasoning : Option Bool
  supportsToolCall : Option Bool
  supportsJsonMode : Option Bool
  contextWindowSize : Option UInt32
  deriving DecidableEq

structure ModelRoutingConfig where
  planner : Option String
  finalWriter : Option String
  toolReasoning : Option String
  fallbacks : Table String (List String)

structure ModelConfig where
  backend : Option String
  apiKey : Option String
  baseUrl : Option String
  model : Option String
  models : Table String ProviderModelConfig
  routing : Option ModelRoutingConfig

/-- The configuration of the file, of which only the part about models is replaced. -/
structure Config (Other : Type) where
  other : Other
  model : Option ModelConfig

def normalizeModelId (raw : String) : String :=
  let chars := raw.toList.map fun c => if c.isAlphanum then c.toLower else '_'
  String.ofList (((chars.dropWhile (· = '_')).reverse.dropWhile (· = '_')).reverse)

def providerVendor (baseUrl providerName : String) : String :=
  let marker := (baseUrl ++ " " ++ providerName).toLower
  if containsText marker "anthropic" || containsText marker "claude" then "anthropic"
  else if containsText marker "kimi" then "kimi"
  else if containsText marker "glm" || containsText marker "bigmodel" then "glm"
  else "openai"

def providerRequestProfile (provider : ProviderRecord) : Option String :=
  if provider.protocol = "anthropic_messages" then some "anthropic_default" else none

def providerModelConfig (provider : ProviderRecord) : ProviderModelConfig where
  provider := some (providerVendor provider.baseUrl provider.providerName)
  protocol := some provider.protocol
  model := some provider.modelName
  baseUrl := some provider.baseUrl
  apiKey := some provider.apiKey
  apiKeyEnv := none
  requestProfile := providerRequestProfile provider
  anthropicVersion := none
  thinkingBudgetTokens := some 2000
  supportsStream := some true
  supportsReasoning := some true
  supportsToolCall := some true
  supportsJsonMode := some false
  contextWindowSize := some provider.contextWindowSize

def orderProviders (providers : List ProviderRecord) (activeProviderId : Option String) :
    List ProviderRecord :=
  match activeProviderId with
  | none => providers
  | some activeId =>
      match providers.findIdx? fun provider => provider.providerId == activeId with
      | none => providers
      | some index => providers[index]?.toList ++ providers.eraseIdx index

def suffixed (base : String) (dedup : Nat) : String := base ++ "_" ++ toString dedup

/-- The loop that counts suffixes up while the id is taken; nothing when the fuel is used up. -/
def dedupModelId (models : Table String ProviderModelConfig) (base : String) :
    Nat → Nat → String → Option String
  | 0, _, _ => none
  | fuel + 1, dedup, modelId =>
      if (models.lookup modelId).isSome then
        dedupModelId models base fuel (dedup + 1) (suffixed base (dedup + 1))
      else some modelId

structure RouteState where
  models : Table String ProviderModelConfig
  routeOrder : List String

def addProvider (fuel : Nat) (state : RouteState) (provider : ProviderRecord) : Option RouteState :=
  let normalized := normalizeModelId provider.providerName
  let modelId := if normalized = "" then "provider_" ++ provider.providerId else normalized
  (dedupModelId state.models normalized fuel 1 modelId).map fun modelId =>
    { models := state.models.insert modelId (providerModelConfig provider)
      routeOrder := state.routeOrder ++ [modelId] }

def addFallbacks (fallbacks : Table String (List String)) :
    List String → Table String (List String)
  | [] => fallbacks
  | modelId :: tail =>
      addFallbacks (if tail.isEmpty then fallbacks else fallbacks.insert modelId tail) tail

def buildConfigFromProviders {Other : Type} (fuel : Nat) (file : Config Other)
    (providers : List ProviderRecord) (activeProviderId : Option String) :
    Option (Config Other) :=
  if providers.isEmpty then some { file with model := none }
  else do
    let state ← (orderProviders providers activeProviderId).foldlM (addProvider fuel) ⟨∅, []⟩
    -- The index of the first route, which panics where there is none.
    let planner ← state.routeOrder.head?
    return { file with
      model := some
        { backend := none
          apiKey := none
          baseUrl := none
          model := none
          models := state.models
          routing := some
            { planner := some planner
              finalWriter := some planner
              toolReasoning := some planner
              fallbacks := addFallbacks ∅ state.routeOrder } } }

structure CapabilityFlags where
  stream : Bool
  reasoning : Bool
  toolCall : Bool
  jsonMode : Bool
  deriving DecidableEq

structure RegisteredModel where
  id : String
  provider : String
  protocol : String
  model : String
  requestProfile : Option String
  baseUrl : Option String
  apiKey : Option String
  anthropicVersion : Option String
  thinkingBudgetTokens : Option UInt32
  capabilities : CapabilityFlags
  deriving DecidableEq

structure RoutingPlan where
  planner : String
  finalWriter : String
  toolReasoning : String
  fallbacks : Table String (List String)
  maxFallbackChain : Nat

structure ModelRegistry where
  models : Table String RegisteredModel
  routing : RoutingPlan
  usedLegacyBridge : Bool
  hasLegacyFields : Bool

def defaultModelId : String := "default"

def maxFallbackChain : Nat := 2

def inferProtocol (provider : String) : String :=
  if provider ∈ ["anthropic", "glm", "kimi", "minimax"] then "anthropic_messages"
  else "chat_completions"

def defaultModelName (provider : String) : String :=
  if provider = "glm" then "GLM-4.7"
  else if provider = "anthropic" then "claude-sonnet-4-5"
  else if provider = "minimax" then "MiniMax-M2.7"
  else "gpt-4.1-mini"

def defaultCapabilities (protocol : String) : CapabilityFlags where
  stream := true
  reasoning := protocol = "anthropic_messages"
  toolCall := false
  jsonMode := false

def inferRequestProfile (provider protocol : String) : Option String :=
  if protocol = "anthropic_messages" || containsText provider "anthropic" then
    some "anthropic_default"
  else none

-- The variables of the environment.
variable (env : String → Option String)

def normalizeModelEntry (id : String) (entry : ProviderModelConfig)
    (inheritedApiKey : Option String) : RegisteredModel :=
  let provider := (entry.provider.getD "openai").toLower
  let protocol := (entry.protocol.getD (inferProtocol provider)).toLower
  let envApiKey := (entry.apiKeyEnv.bind env).filter fun value => trim value ≠ ""
  { id
    provider
    protocol
    model := entry.model.getD (defaultModelName provider)
    requestProfile := entry.requestProfile.or (inferRequestProfile provider protocol)
    baseUrl := entry.baseUrl
    apiKey := (envApiKey.or entry.apiKey).or inheritedApiKey
    anthropicVersion := entry.anthropicVersion
    thinkingBudgetTokens := entry.thinkingBudgetTokens
    capabilities :=
      { stream := entry.supportsStream.getD (defaultCapabilities protocol).stream
        reasoning := entry.supportsReasoning.getD (defaultCapabilities protocol).reasoning
        toolCall := entry.supportsToolCall.getD (defaultCapabilities protocol).toolCall
        jsonMode := entry.supportsJsonMode.getD (defaultCapabilities protocol).jsonMode } }

def RoutingPlan.to (modelId : String) (fallbacks : Table String (List String)) : RoutingPlan :=
  ⟨modelId, modelId, modelId, fallbacks, OpenJax.Model.maxFallbackChain⟩

def ModelRegistry.empty : ModelRegistry := ⟨∅, .to defaultModelId ∅, false, false⟩

def legacyModel (config : ModelConfig) : RegisteredModel :=
  let backend := (config.backend.map String.toLower).getD "openai"
  let protocol := inferProtocol backend
  { id := defaultModelId
    provider := backend
    protocol
    model := config.model.getD (defaultModelName backend)
    requestProfile := none
    baseUrl := config.baseUrl
    apiKey := config.apiKey
    anthropicVersion := none
    thinkingBudgetTokens := none
    capabilities := defaultCapabilities protocol }

def ModelConfig.hasLegacyFields (config : ModelConfig) : Bool :=
  config.backend.isSome || config.apiKey.isSome || config.baseUrl.isSome || config.model.isSome

def ModelRegistry.fromConfig : Option ModelConfig → ModelRegistry
  | none => .empty
  | some config =>
      if !config.models.entries.isEmpty then
        let models := config.models.mapValues fun id entry =>
          normalizeModelEntry env id entry config.apiKey
        let routing := config.routing.getD ⟨none, none, none, ∅⟩
        let planner := routing.planner.getD (models.keys.head?.getD defaultModelId)
        { models
          routing :=
            { planner
              finalWriter := routing.finalWriter.getD planner
              toolReasoning := routing.toolReasoning.getD planner
              fallbacks := routing.fallbacks
              maxFallbackChain }
          usedLegacyBridge := config.hasLegacyFields
          hasLegacyFields := config.hasLegacyFields }
      else if config.hasLegacyFields then
        ⟨(∅ : Table String RegisteredModel).insert defaultModelId (legacyModel config),
          .to defaultModelId ∅, true, true⟩
      else .empty

def RoutingPlan.FallsBack (plan : RoutingPlan) (route other : String) : Prop :=
  ∃ tail, plan.fallbacks.lookup route = some tail ∧ other ∈ tail

/-- Every provider has a route of its own, in an order that starts with the active one, and each
route falls back to those after it. -/
structure Routed (providers : List ProviderRecord) (activeProviderId : Option String)
    (model : ModelConfig) (ordered : List ProviderRecord) (routes : List String) : Prop where
  whole : ordered.Perm providers
  first : ordered.head? = (activeProviderId.bind fun activeId =>
    providers.find? fun provider => provider.providerId == activeId).or providers.head?
  distinct : routes.Nodup
  configured : List.Forall₂ (fun provider route =>
    model.models.lookup route = some (providerModelConfig provider)) ordered routes
  registered : List.Forall₂ (fun provider route =>
    (ModelRegistry.fromConfig env (some model)).models.lookup route =
      some (normalizeModelEntry env route (providerModelConfig provider) none)) ordered routes
  only : ∀ route, ((ModelRegistry.fromConfig env (some model)).models.lookup route).isSome →
    route ∈ routes
  planner : routes.head? = some (ModelRegistry.fromConfig env (some model)).routing.planner
  fallbacks : ∀ before route after, routes = before ++ route :: after →
    (ModelRegistry.fromConfig env (some model)).routing.fallbacks.lookup route =
      if after.isEmpty then none else some after
  acyclic : ∀ route,
    ¬Relation.TransGen (ModelRegistry.fromConfig env (some model)).routing.FallsBack route route

section

variable {models : Table String ProviderModelConfig} {routes taken : List String}
  {providers : List ProviderRecord} {fuel : Nat}

theorem suffixed_injective (base : String) : Function.Injective (suffixed base) := by
  intro first second same
  have digits : first.repr.toList = second.repr.toList := by
    have chars := congrArg String.toList same
    simpa [suffixed] using chars
  have read := congrArg readDigits digits
  rw [readDigits_repr, readDigits_repr] at read
  exact Option.some.inj read

theorem dedupModelId_none {base modelId : String} {dedup : Nat}
    (failed : dedupModelId models base fuel dedup modelId = none) :
    (0 < fuel → (models.lookup modelId).isSome) ∧
      ∀ count, 0 < count → count < fuel →
        (models.lookup (suffixed base (dedup + count))).isSome := by
  induction fuel generalizing dedup modelId with
  | zero => exact ⟨fun never => absurd never (Nat.lt_irrefl 0), fun count _ never => by omega⟩
  | succ fuel ih =>
    rw [dedupModelId] at failed
    split at failed
    next taken =>
      obtain ⟨first, later⟩ := ih failed
      refine ⟨fun _ => taken, fun count positive within => ?_⟩
      obtain ⟨count, rfl⟩ := Nat.exists_eq_succ_of_ne_zero (Nat.ne_of_gt positive)
      cases count with
      | zero => exact first (by omega)
      | succ count =>
        rw [show dedup + (count + 1).succ = dedup + 1 + (count + 1) by omega]
        exact later (count + 1) (Nat.succ_pos _) (by omega)
    · cases failed

theorem dedupModelId_free {base modelId route : String} {dedup : Nat}
    (found : dedupModelId models base fuel dedup modelId = some route) :
    models.lookup route = none := by
  induction fuel generalizing dedup modelId with
  | zero => cases found
  | succ fuel ih =>
    rw [dedupModelId] at found
    split at found
    · exact ih found
    next free =>
      cases found
      simpa using free

theorem dedupModelId_some (keys : ∀ id, (models.lookup id).isSome ↔ id ∈ taken)
    (enough : taken.length + 1 < fuel) (base modelId : String) :
    ∃ route, dedupModelId models base fuel 1 modelId = some route ∧
      models.lookup route = none := by
  cases found : dedupModelId models base fuel 1 modelId with
  | some route => exact ⟨route, rfl, dedupModelId_free found⟩
  | none =>
    let tried := (List.range (fuel - 1)).map fun count => suffixed base (count + 2)
    have distinct : tried.Nodup := List.nodup_range.map fun first second same => by
      have next := suffixed_injective base same
      omega
    have inside : tried ⊆ taken := by
      intro route member
      obtain ⟨count, within, rfl⟩ := List.mem_map.mp member
      have below := List.mem_range.mp within
      have held := (dedupModelId_none found).2 (count + 1) (Nat.succ_pos _) (by omega)
      rw [Nat.add_comm 1] at held
      exact (keys _).mp held
    have short := (List.subperm_of_subset distinct inside).length_le
    rw [List.length_map, List.length_range] at short
    omega

structure RouteState.Holds (done : List ProviderRecord) (state : RouteState) : Prop where
  routed : List.Forall₂ (fun provider route =>
    state.models.lookup route = some (providerModelConfig provider)) done state.routeOrder
  keys : ∀ route, (state.models.lookup route).isSome ↔ route ∈ state.routeOrder
  distinct : state.routeOrder.Nodup

theorem holds_start : RouteState.Holds [] ⟨∅, []⟩ where
  routed := .nil
  keys route := by simp
  distinct := List.nodup_nil

variable {state : RouteState}

theorem RouteState.Holds.add {done : List ProviderRecord} (holds : state.Holds done)
    (enough : done.length + 1 < fuel) (provider : ProviderRecord) :
    ∃ next, addProvider fuel state provider = some next ∧ next.Holds (done ++ [provider]) := by
  have size : done.length = state.routeOrder.length := holds.routed.length_eq
  obtain ⟨route, found, free⟩ := dedupModelId_some holds.keys (size ▸ enough)
    (normalizeModelId provider.providerName)
    (if normalizeModelId provider.providerName = "" then "provider_" ++ provider.providerId
      else normalizeModelId provider.providerName)
  have fresh : route ∉ state.routeOrder := fun member => by
    have taken := (holds.keys route).mpr member
    rw [free] at taken
    cases taken
  refine ⟨⟨state.models.insert route (providerModelConfig provider), state.routeOrder ++ [route]⟩,
    by rw [addProvider, found, Option.map_some], ?_, fun other => ?_, ?_⟩
  · -- An id that had an entry is not the new one, so its entry is not overwritten.
    have earlier := holds.routed.imp fun first other held =>
      show (state.models.insert route (providerModelConfig provider)).lookup other =
          some (providerModelConfig first) by
        have apart : other ≠ route := fun same => by
          rw [same, free] at held
          cases held
        rw [Table.lookup_insert_eq, if_neg apart, held]
    exact List.rel_append earlier (.cons (AList.lookup_insert _) .nil)
  · rw [Table.lookup_insert_eq, List.mem_append, List.mem_singleton, ← holds.keys]
    split
    next same => simp [same]
    next apart => simp [apart]
  · refine List.nodup_append.mpr ⟨holds.distinct, List.nodup_singleton _, ?_⟩
    intro member inside last single same
    rw [same, List.mem_singleton.mp single] at inside
    exact fresh inside

theorem foldlM_addProvider {done : List ProviderRecord} (holds : state.Holds done)
    (enough : (done ++ providers).length < fuel) :
    ∃ final, providers.foldlM (addProvider fuel) state = some final ∧
      final.Holds (done ++ providers) := by
  induction providers generalizing done state with
  | nil => exact ⟨state, rfl, by rwa [List.append_nil]⟩
  | cons provider rest ih =>
    have room : done.length + 1 < fuel := by
      rw [List.length_append, List.length_cons] at enough
      omega
    obtain ⟨next, added, kept⟩ := holds.add room provider
    rw [List.append_cons] at enough ⊢
    obtain ⟨final, ran, all⟩ := ih kept enough
    exact ⟨final, by rw [List.foldlM_cons, added, Option.bind_eq_bind, Option.bind_some, ran], all⟩

theorem orderProviders_perm (providers : List ProviderRecord) (activeProviderId : Option String) :
    (orderProviders providers activeProviderId).Perm providers := by
  unfold orderProviders
  split
  · exact .refl _
  next activeId =>
    split
    · exact .refl _
    next index found =>
      obtain ⟨within, -⟩ := List.findIdx?_eq_some_iff_getElem.mp found
      rw [List.getElem?_eq_getElem within]
      exact List.getElem_cons_eraseIdx_perm within

theorem orderProviders_head (providers : List ProviderRecord) (activeProviderId : Option String) :
    (orderProviders providers activeProviderId).head? = (activeProviderId.bind fun activeId =>
      providers.find? fun provider => provider.providerId == activeId).or providers.head? := by
  unfold orderProviders
  split
  · rfl
  next activeId =>
    rw [Option.bind_some]
    split
    next absent =>
      rw [List.find?_eq_none.mpr (by simpa using absent), Option.none_or]
    next index found =>
      obtain ⟨within, active, before⟩ := List.findIdx?_eq_some_iff_getElem.mp found
      have selected : providers.find? (fun provider => provider.providerId == activeId) =
          some providers[index] :=
        List.find?_eq_some_iff_getElem.mpr ⟨active, index, within, rfl, fun earlier below => by
          simpa using before earlier below⟩
      rw [selected, List.getElem?_eq_getElem within]
      rfl

variable {fallbacks : Table String (List String)}

theorem addFallbacks_other {route : String} (absent : route ∉ routes) :
    (addFallbacks fallbacks routes).lookup route = fallbacks.lookup route := by
  induction routes generalizing fallbacks with
  | nil => rfl
  | cons first rest ih =>
    rw [List.mem_cons, not_or] at absent
    rw [addFallbacks, ih absent.2]
    split
    · rfl
    · rw [Table.lookup_insert_eq, if_neg absent.1]

theorem addFallbacks_lookup (distinct : routes.Nodup) {before after : List String} {route : String}
    (split : routes = before ++ route :: after) :
    (addFallbacks fallbacks routes).lookup route =
      if after.isEmpty then fallbacks.lookup route else some after := by
  induction before generalizing routes fallbacks with
  | nil =>
    subst split
    have absent := (List.nodup_cons.mp distinct).1
    rw [List.nil_append, addFallbacks, addFallbacks_other absent]
    split
    · rfl
    · rw [Table.lookup_insert_eq, if_pos rfl]
  | cons first before ih =>
    subst split
    obtain ⟨absent, later⟩ := List.nodup_cons.mp distinct
    have apart : route ≠ first := fun same => absent (same ▸ by simp)
    rw [List.cons_append, addFallbacks]
    refine (ih later rfl).trans ?_
    split
    · split
      · rfl
      · rw [Table.lookup_insert_eq, if_neg apart]
    · rfl

theorem fallbacks_acyclic {plan : RoutingPlan} (distinct : routes.Nodup)
    (fallbacks : plan.fallbacks = addFallbacks ∅ routes) (route : String) :
    ¬Relation.TransGen plan.FallsBack route route := by
  have behind {first other : String} (falls : plan.FallsBack first other) :
      routes.idxOf first < routes.idxOf other := by
    obtain ⟨tail, found, inside⟩ := falls
    rw [fallbacks] at found
    by_cases member : first ∈ routes
    · obtain ⟨before, after, split⟩ := List.append_of_mem member
      rw [addFallbacks_lookup distinct split] at found
      subst split
      split at found
      · cases found
      · cases found
        have parts := List.nodup_append.mp distinct
        have apart : other ≠ first := fun same =>
          (List.nodup_cons.mp parts.2.1).1 (same ▸ inside)
        have notBefore (route : String) (later : route ∈ first :: tail) : route ∉ before :=
          fun earlier => parts.2.2 route earlier route later rfl
        rw [List.idxOf_append_of_notMem (notBefore first List.mem_cons_self),
          List.idxOf_append_of_notMem (notBefore other (List.mem_cons_of_mem _ inside)),
          List.idxOf_cons_self, List.idxOf_cons_ne _ (Ne.symm apart)]
        omega
    · rw [addFallbacks_other member] at found
      cases found
  have order {first other : String} (chain : Relation.TransGen plan.FallsBack first other) :
      routes.idxOf first < routes.idxOf other := by
    induction chain with
    | single falls => exact behind falls
    | tail _ falls ih => exact Nat.lt_trans ih (behind falls)
  exact fun chain => Nat.lt_irrefl _ (order chain)

def routedModel (state : RouteState) (planner : String) : ModelConfig where
  backend := none
  apiKey := none
  baseUrl := none
  model := none
  models := state.models
  routing := some ⟨some planner, some planner, some planner, addFallbacks ∅ state.routeOrder⟩

theorem fromConfig_routedModel (filled : state.models.entries ≠ []) (planner : String) :
    ModelRegistry.fromConfig env (some (routedModel state planner)) =
      { models := state.models.mapValues fun id entry => normalizeModelEntry env id entry none
        routing := .to planner (addFallbacks ∅ state.routeOrder)
        usedLegacyBridge := false
        hasLegacyFields := false } :=
  if_pos (by simpa [routedModel] using filled)

/-- With fuel for more suffixes than there are providers the loops end, and all are routed. -/
theorem providers_routed {Other : Type} (file : Config Other) (stored : providers ≠ [])
    (activeProviderId : Option String) (enough : providers.length < fuel) :
    ∃ model ordered routes,
      buildConfigFromProviders fuel file providers activeProviderId =
        some { file with model := some model } ∧
      Routed env providers activeProviderId model ordered routes := by
  have whole := orderProviders_perm providers activeProviderId
  obtain ⟨final, ran, holds⟩ := foldlM_addProvider holds_start
    (show ([] ++ orderProviders providers activeProviderId).length < fuel by
      rwa [List.nil_append, whole.length_eq])
  rw [List.nil_append] at holds
  obtain ⟨planner, tail, order⟩ : ∃ planner tail, final.routeOrder = planner :: tail := by
    refine List.exists_cons_of_ne_nil fun none => stored ?_
    have size := holds.routed.length_eq
    rw [none, whole.length_eq] at size
    exact List.length_eq_zero_iff.mp size
  have filled : final.models.entries ≠ [] := fun none => by
    have found := (holds.keys planner).mpr (order ▸ List.mem_cons_self)
    rw [AList.lookup, none] at found
    cases found
  have registry := fromConfig_routedModel env filled planner
  refine ⟨routedModel final planner, orderProviders providers activeProviderId, final.routeOrder,
    ?_, whole, orderProviders_head providers activeProviderId, holds.distinct, holds.routed,
    ?_, fun route known => ?_, ?_, fun before route after split => ?_, ?_⟩
  · rw [buildConfigFromProviders, if_neg (by simpa using stored), ran]
    simp only [Option.bind_eq_bind, Option.bind_some, order]
    rw [List.head?_cons, Option.bind_some, routedModel, order]
    rfl
  · rw [registry]
    exact holds.routed.imp fun provider route held => by
      rw [Table.lookup_mapValues, held, Option.map_some]
  · rw [registry, Table.lookup_mapValues, Option.isSome_map] at known
    exact (holds.keys route).mp known
  · rw [registry, order]
    rfl
  · rw [registry]
    exact addFallbacks_lookup holds.distinct split
  · rw [registry]
    exact fallbacks_acyclic holds.distinct rfl

end

def namedProvider (providerId providerName : String) : ProviderRecord :=
  ⟨providerId, providerName, "https://api", "model", "key of " ++ providerId, "custom",
    "chat_completions", 128000, "", ""⟩

def collidingProviders : List ProviderRecord :=
  [namedProvider "p1" "a", namedProvider "p2" "A!", namedProvider "p3" "a_2", namedProvider "p4" "",
    namedProvider "p5" "你好"]

theorem providers_routed_colliding :
    ∃ model ordered routes,
      buildConfigFromProviders 6 (⟨(), none⟩ : Config Unit) collidingProviders (some "p3") =
        some ⟨(), some model⟩ ∧
      Routed (fun _ => none) collidingProviders (some "p3") model ordered routes :=
  providers_routed _ _ (by decide) _ (by decide)

example :
    ((orderProviders collidingProviders (some "p3")).foldlM (addProvider 6) ⟨∅, []⟩).map
      RouteState.routeOrder = some ["a_2", "a", "a_3", "provider_p4", "provider_p5"] := by
  decide +kernel

end OpenJax.Model
