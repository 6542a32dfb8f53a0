import OpenJax.Shared.Machine
import OpenJax.Shared.Rows

set_option autoImplicit false

/-! The table of providers and the row of settings that names the active one. Each statement takes
the lock of the connection for itself. -/

namespace OpenJax.Store

open Shared

structure ProviderRecord where
  providerId : String
  providerName : String
  baseUrl : String
  modelName : String
  apiKey : String
  providerType : String
  protocol : String
  contextWindowSize : UInt32
  createdAt : String
  updatedAt : String
  deriving DecidableEq

structure ActiveProviderRecord where
  providerId : String
  modelName : String
  contextWindowSize : UInt32
  updatedAt : String
  deriving DecidableEq

/-- A row of `llm_runtime_settings`. -/
structure RuntimeSetting where
  providerId : Option String
  modelName : Option String
  contextWindowSize : UInt32
  updatedAt : String
  deriving DecidableEq

structure ProviderStore where
  providers : List ProviderRecord
  -- The row of the key active_provider.
  activeProvider : Option RuntimeSetting
  deriving DecidableEq

structure CreateProviderParams where
  providerName : String
  baseUrl : String
  modelName : String
  apiKey : String
  providerType : String
  protocol : String
  contextWindowSize : UInt32

structure UpdateProviderParams where
  providerId : String
  providerName : String
  baseUrl : String
  modelName : String
  apiKey : Option String
  protocol : String
  contextWindowSize : UInt32

namespace ProviderStore

def empty : ProviderStore := ⟨[], none⟩

def getProvider (store : ProviderStore) (providerId : String) : Option ProviderRecord :=
  store.providers.find? fun row => row.providerId == providerId

def getActiveProvider (store : ProviderStore) : Option ActiveProviderRecord := do
  let setting ← store.activeProvider
  let providerId ← setting.providerId
  let modelName ← setting.modelName
  pure
    { providerId := providerId
      modelName := modelName
      contextWindowSize := setting.contextWindowSize
      updatedAt := setting.updatedAt }

def insertProvider (row : ProviderRecord) (store : ProviderStore) : Option ProviderStore :=
  if row.providerName ∈ store.providers.map ProviderRecord.providerName then none
  else
    (insertRow ProviderRecord.providerId row store.providers).map fun rows =>
      { store with providers := rows }

def changed (params : UpdateProviderParams) (now : String) (row : ProviderRecord) :
    ProviderRecord :=
  { row with
    providerName := params.providerName
    baseUrl := params.baseUrl
    modelName := params.modelName
    apiKey := params.apiKey.getD row.apiKey
    protocol := params.protocol
    contextWindowSize := params.contextWindowSize
    updatedAt := now }

def updateRow (params : UpdateProviderParams) (now : String) (store : ProviderStore) :
    Option (Nat × ProviderStore) :=
  let selects := fun row : ProviderRecord => row.providerId == params.providerId
  let taken := store.providers.any fun row =>
    !selects row && row.providerName == params.providerName
  if store.providers.any selects && taken then none
  else
    some (store.providers.countP selects,
      { store with providers := updateWhere selects (changed params now) store.providers })

def syncActive (params : UpdateProviderParams) (now : String) (store : ProviderStore) :
    ProviderStore :=
  { store with
    activeProvider := store.activeProvider.map fun setting =>
      if setting.providerId = some params.providerId then
        { setting with
          modelName := some params.modelName
          contextWindowSize := params.contextWindowSize
          updatedAt := now }
      else setting }

def deleteRow (providerId : String) (store : ProviderStore) : Nat × ProviderStore :=
  let selects := fun row : ProviderRecord => row.providerId == providerId
  (store.providers.countP selects,
    { providers := deleteWhere selects store.providers
      activeProvider := store.activeProvider.map fun setting =>
        if setting.providerId = some providerId then { setting with providerId := none }
        else setting })

def upsertActive (provider : ProviderRecord) (now : String) (store : ProviderStore) :
    Option ProviderStore :=
  if (store.getProvider provider.providerId).isSome then
    some { store with
      activeProvider := some
        { providerId := some provider.providerId
          modelName := some provider.modelName
          contextWindowSize := provider.contextWindowSize
          updatedAt := now } }
  else none

end ProviderStore

inductive ProviderCall where
  | createProvider (params : CreateProviderParams)
  | updateProvider (params : UpdateProviderParams)
  | deleteProvider (providerId : String)
  | setActiveProvider (providerId : String)

inductive CallProgress where
  | requested (call : ProviderCall)
  | created (providerId : String)
  | updated (params : UpdateProviderParams)
  | synced (providerId : String)
  | selected (provider : ProviderRecord)
  | activated

inductive CallResult where
  | failed
  | created (provider : ProviderRecord)
  | updated (provider : Option ProviderRecord)
  | deleted (found : Bool)
  | active (record : Option ActiveProviderRecord)

structure StatementRun where
  fails : Bool
  now : String
  uuid : String

namespace CallProgress

open ProviderStore

def newProvider (params : CreateProviderParams) (statement : StatementRun) : ProviderRecord :=
  { providerId := s!"provider_{statement.uuid}"
    providerName := params.providerName
    baseUrl := params.baseUrl
    modelName := params.modelName
    apiKey := params.apiKey
    providerType := params.providerType
    protocol := params.protocol
    contextWindowSize := params.contextWindowSize
    createdAt := statement.now
    updatedAt := statement.now }

def begin (store : ProviderStore) (statement : StatementRun) :
    ProviderCall → ProviderStore × (CallResult ⊕ CallProgress)
  | .createProvider params =>
      match store.insertProvider (newProvider params statement) with
      | some inserted => (inserted, .inr (.created (newProvider params statement).providerId))
      | none => (store, .inl .failed)
  | .updateProvider params =>
      match store.updateRow params statement.now with
      | some (0, _) => (store, .inl (.updated none))
      | some (_, next) => (next, .inr (.updated params))
      | none => (store, .inl .failed)
  | .deleteProvider providerId =>
      let (count, next) := store.deleteRow providerId
      (next, .inl (.deleted (decide (0 < count))))
  | .setActiveProvider providerId =>
      match store.getProvider providerId with
      | some provider => (store, .inr (.selected provider))
      | none => (store, .inl (.active none))

def execute (store : ProviderStore) (statement : StatementRun) :
    CallProgress → ProviderStore × (CallResult ⊕ CallProgress)
  | .requested call => begin store statement call
  | .created providerId =>
      match store.getProvider providerId with
      | some provider => (store, .inl (.created provider))
      | none => (store, .inl .failed)
  | .updated params =>
      (store.syncActive params statement.now, .inr (.synced params.providerId))
  | .synced providerId => (store, .inl (.updated (store.getProvider providerId)))
  | .selected provider =>
      match store.upsertActive provider statement.now with
      | some next => (next, .inr .activated)
      | none => (store, .inl .failed)
  | .activated => (store, .inl (.active store.getActiveProvider))

def advance (store : ProviderStore) (progress : CallProgress) (statement : StatementRun) :
    ProviderStore × (CallResult ⊕ CallProgress) :=
  if statement.fails then (store, .inl .failed) else execute store statement progress

end CallProgress

def providerCalls : TaskSystem ProviderStore CallProgress ProviderCall StatementRun where
  launch store call := (store, .requested call)
  advance store progress statement :=
    let (next, after) := progress.advance store statement
    some (next, after.getRight?.toList)

end OpenJax.Store
