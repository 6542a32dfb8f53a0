import Mathlib.Data.List.Induction
import OpenJax.Policy.Runtime

set_option autoImplicit false

/-! Histories of calls to one policy runtime. Every call holds the lock for its whole effect, so
an interleaving of callers is a list of calls. -/

namespace OpenJax.Policy

open Shared

inductive PolicyCall where
  | publish (store : PolicyStore)
  | setSessionOverlay (sessionId : String) (overlay : SessionOverlay)
  | clearSessionOverlay (sessionId : String)
  | handle
  | decide (holder : Nat) (input : PolicyInput)

inductive PolicyAnswer where
  | version (number : Nat)
  | handle (handle : PolicyHandle)
  | decision (decision : PolicyDecision)

structure PolicyWorld where
  runtime : PolicyRuntime
  handles : List PolicyHandle

namespace PolicyWorld

def new (initialStore : PolicyStore) : PolicyWorld := ⟨.new initialStore, []⟩

def perform (world : PolicyWorld) : PolicyCall → PolicyWorld
  | .publish store => { world with runtime := world.runtime.publish store }
  | .setSessionOverlay sessionId overlay =>
      { world with runtime := world.runtime.setSessionOverlay sessionId overlay }
  | .clearSessionOverlay sessionId =>
      { world with runtime := world.runtime.clearSessionOverlay sessionId }
  | .handle => { world with handles := world.handles ++ [⟨world.runtime⟩] }
  | .decide _ _ => world

def answer (world : PolicyWorld) : PolicyCall → Option PolicyAnswer
  | .handle => some (.handle ⟨world.runtime⟩)
  | .decide holder input =>
      world.handles[holder]?.map fun handle => .decision (handle.decide input)
  | update => some (.version (world.perform update).runtime.version)

def performAll (world : PolicyWorld) (calls : List PolicyCall) : PolicyWorld :=
  calls.foldl perform world

@[simp] theorem performAll_concat (world : PolicyWorld) (calls : List PolicyCall)
    (call : PolicyCall) :
    world.performAll (calls ++ [call]) = (world.performAll calls).perform call := by
  simp [performAll]

end PolicyWorld

def PolicyDecision.agrees (decision other : PolicyDecision) : Prop :=
  decision.kind = other.kind ∧ decision.matchedRuleId = other.matchedRuleId ∧
    decision.reason = other.reason

def PolicyRuntime.judge (runtime : PolicyRuntime) (input : PolicyInput) : PolicyDecision :=
  PolicyHandle.decide ⟨runtime⟩ input

def overlaidDecision (store : PolicyStore) (overlay : Option SessionOverlay)
    (input : PolicyInput) : PolicyDecision :=
  match overlay with
  | none => Policy.decide input store.rules store.defaultDecision
  | some overlay =>
      let decision := Policy.decide input overlay.rules store.defaultDecision
      if decision.matchedRuleId.isSome then decision
      else Policy.decide input store.rules store.defaultDecision

theorem PolicyHandle.decide_eq (handle : PolicyHandle) (input : PolicyInput) :
    handle.decide input =
      overlaidDecision handle.snapshot.store (handle.overlayFor input)
        (handle.withSnapshotVersion input) := by
  have overlay : handle.overlayFor (handle.withSnapshotVersion input) =
      handle.overlayFor input := rfl
  cases found : handle.overlayFor input with
  | none => simp only [PolicyHandle.decide, overlaidDecision, overlay, found]
  | some session => simp only [PolicyHandle.decide, overlaidDecision, overlay, found]

theorem decide_of_match {input : PolicyInput} {rules : List PolicyRule}
    (fits : ∃ rule ∈ rules, rule.matchesInput input = true) (default other : DecisionKind) :
    Policy.decide input rules default = Policy.decide input rules other ∧
      (Policy.decide input rules default).matchedRuleId.isSome = true := by
  unfold Policy.decide
  cases chosen : maxBy compareRulePrecedence
      (rules.filter fun rule => rule.matchesInput input) with
  | none =>
    obtain ⟨rule, member, matching⟩ := fits
    rw [maxBy_none, List.filter_eq_nil_iff] at chosen
    exact absurd matching (chosen rule member)
  | some rule => exact ⟨rfl, rfl⟩

section Version

variable (input : PolicyInput) (version : Nat)

theorem decide_version (rules : List PolicyRule) (default : DecisionKind) :
    Policy.decide { input with policyVersion := version } rules default =
      { Policy.decide input rules default with policyVersion := version } := by
  have same (rule : PolicyRule) :
      rule.matchesInput { input with policyVersion := version } = rule.matchesInput input := rfl
  simp only [Policy.decide, same]
  split <;> rfl

theorem overlaidDecision_version (store : PolicyStore) (overlay : Option SessionOverlay) :
    overlaidDecision store overlay { input with policyVersion := version } =
      { overlaidDecision store overlay input with policyVersion := version } := by
  cases overlay with
  | none => exact decide_version input version _ _
  | some overlay =>
    simp only [overlaidDecision, decide_version]
    split <;> rfl

end Version

theorem PolicyHandle.decide_agrees (handle : PolicyHandle) (input : PolicyInput) :
    (handle.decide input).agrees
      (overlaidDecision handle.snapshot.store (handle.overlayFor input) input) := by
  rw [PolicyHandle.decide_eq, PolicyHandle.withSnapshotVersion, overlaidDecision_version]
  exact ⟨rfl, rfl, rfl⟩

theorem PolicyHandle.decide_policyVersion (handle : PolicyHandle) (input : PolicyInput) :
    (handle.decide input).policyVersion = handle.policyVersion := by
  rw [PolicyHandle.decide_eq, PolicyHandle.withSnapshotVersion, overlaidDecision_version]
  rfl

theorem judge_agrees {runtime other : PolicyRuntime} {input : PolicyInput}
    (store : runtime.store = other.store)
    (overlay : PolicyHandle.overlayFor ⟨runtime⟩ input = PolicyHandle.overlayFor ⟨other⟩ input) :
    (runtime.judge input).agrees (other.judge input) := by
  have first := PolicyHandle.decide_agrees ⟨runtime⟩ input
  have second := PolicyHandle.decide_agrees ⟨other⟩ input
  rw [overlay] at first
  dsimp only at first second
  rw [store] at first
  exact ⟨first.1.trans second.1.symm, first.2.1.trans second.2.1.symm,
    first.2.2.trans second.2.2.symm⟩

def PolicyCall.updates : PolicyCall → Bool
  | .publish _ | .setSessionOverlay _ _ | .clearSessionOverlay _ => true
  | .handle | .decide _ _ => false

def publishedStore (initial : PolicyStore) (history : List PolicyCall) : PolicyStore :=
  history.foldl (fun store call =>
    match call with
    | .publish next => next
    | _ => store) initial

def sessionOverlay (sessionId : String) (history : List PolicyCall) : Option SessionOverlay :=
  history.foldl (fun kept call =>
    match call with
    | .setSessionOverlay other overlay => if other = sessionId then some overlay else kept
    | .clearSessionOverlay other => if other = sessionId then none else kept
    | _ => kept) none

structure Reflects (initial : PolicyStore) (history : List PolicyCall)
    (runtime : PolicyRuntime) : Prop where
  version : runtime.version = 1 + history.countP PolicyCall.updates
  store : runtime.store = publishedStore initial history
  overlays : ∀ sessionId, runtime.overlays.lookup sessionId = sessionOverlay sessionId history

variable (initial : PolicyStore) (history : List PolicyCall)

theorem runtime_reflects :
    Reflects initial history ((PolicyWorld.new initial).performAll history).runtime := by
  induction history using List.reverseRecOn with
  | nil => exact ⟨rfl, rfl, fun _ => rfl⟩
  | append_singleton earlier call ih =>
    obtain ⟨version, store, overlays⟩ := ih
    rw [PolicyWorld.performAll_concat]
    constructor
    · rw [List.countP_append]
      cases call <;>
        simp [PolicyWorld.perform, PolicyRuntime.publish, PolicyRuntime.setSessionOverlay,
          PolicyRuntime.clearSessionOverlay, PolicyCall.updates, version] <;> omega
    · rw [publishedStore, List.foldl_concat, ← publishedStore, ← store]
      cases call <;> rfl
    · intro sessionId
      rw [sessionOverlay, List.foldl_concat, ← sessionOverlay, ← overlays sessionId]
      cases call with
      | setSessionOverlay other overlay =>
        simp [PolicyWorld.perform, PolicyRuntime.setSessionOverlay, Table.lookup_insert_eq, eq_comm]
      | clearSessionOverlay other =>
        simp [PolicyWorld.perform, PolicyRuntime.clearSessionOverlay, Table.lookup_erase_eq,
          eq_comm]
      | _ => rfl

theorem handles_grow (world : PolicyWorld) (later : List PolicyCall) :
    world.handles <+: (world.performAll later).handles := by
  induction later using List.reverseRecOn with
  | nil => exact List.prefix_rfl
  | append_singleton earlier call ih =>
    rw [PolicyWorld.performAll_concat]
    apply ih.trans
    cases call <;> simp [PolicyWorld.perform]

theorem handle_taken (handle : PolicyHandle)
    (held : handle ∈ ((PolicyWorld.new initial).performAll history).handles) :
    ∃ before after, history = before ++ .handle :: after ∧
      handle.snapshot = ((PolicyWorld.new initial).performAll before).runtime := by
  induction history using List.reverseRecOn with
  | nil => exact absurd held List.not_mem_nil
  | append_singleton earlier call ih =>
    rw [PolicyWorld.performAll_concat] at held
    have old (kept : handle ∈ ((PolicyWorld.new initial).performAll earlier).handles) :
        ∃ before after, earlier ++ [call] = before ++ .handle :: after ∧
          handle.snapshot = ((PolicyWorld.new initial).performAll before).runtime := by
      obtain ⟨before, after, split, taken⟩ := ih kept
      exact ⟨before, after ++ [call], by simp [split], taken⟩
    cases call with
    | handle =>
      rcases List.mem_append.mp held with kept | fresh
      · exact old kept
      · obtain rfl := List.mem_singleton.mp fresh
        exact ⟨earlier, [], rfl, rfl⟩
    | _ => exact old held

theorem handle_version_le (handle : PolicyHandle)
    (held : handle ∈ ((PolicyWorld.new initial).performAll history).handles) :
    handle.policyVersion ≤ ((PolicyWorld.new initial).performAll history).runtime.version := by
  obtain ⟨before, after, split, taken⟩ := handle_taken initial history handle held
  have earlier := (runtime_reflects initial before).version
  have now := (runtime_reflects initial history).version
  rw [split, List.countP_append] at now
  rw [PolicyHandle.policyVersion, taken, earlier, split, now]
  omega

section Contract

variable (world : PolicyWorld)

def PublishRaises : Prop :=
  ∀ store, world.answer (.publish store) =
      some (.version (world.perform (.publish store)).runtime.version) ∧
    world.runtime.version < (world.perform (.publish store)).runtime.version ∧
    ∀ handle ∈ world.handles,
      handle.policyVersion < (world.perform (.publish store)).runtime.version

def HandlesKeep (later : List PolicyCall) : Prop :=
  ∀ holder handle input, world.handles[holder]? = some handle →
    (world.performAll later).answer (.decide holder input) =
        some (.decision (handle.decide input)) ∧
      (handle.decide input).policyVersion = handle.policyVersion

def OverlaysStayApart : Prop :=
  ∀ sessionId input, input.sessionId ≠ some sessionId →
    (∀ overlay, ((world.perform (.setSessionOverlay sessionId overlay)).runtime.judge input).agrees
      (world.runtime.judge input)) ∧
    ((world.perform (.clearSessionOverlay sessionId)).runtime.judge input).agrees
      (world.runtime.judge input)

def PublishKeepsOverlays : Prop :=
  ∀ store, (∀ sessionId, (world.perform (.publish store)).runtime.overlays.lookup sessionId =
      world.runtime.overlays.lookup sessionId) ∧
    -- Also in effect: what the overlay decided before, it decides after.
    ∀ input overlay, PolicyHandle.overlayFor ⟨world.runtime⟩ input = some overlay →
      (∃ rule ∈ overlay.rules, rule.matchesInput input = true) →
      ((world.perform (.publish store)).runtime.judge input).agrees (world.runtime.judge input)

def ClearRestores (published : PolicyStore) : Prop :=
  ∀ sessionId input, input.sessionId = some sessionId →
    ((world.perform (.clearSessionOverlay sessionId)).runtime.judge input).agrees
      (Policy.decide input published.rules published.defaultDecision)

theorem handles_keep (later : List PolicyCall) : HandlesKeep world later := by
  intro holder handle input held
  constructor
  · obtain ⟨taken, grown⟩ := handles_grow world later
    have bound : holder < world.handles.length := (List.getElem?_eq_some_iff.mp held).1
    simp [PolicyWorld.answer, ← grown, List.getElem?_append_left bound, held]
  · exact handle.decide_policyVersion input

theorem overlays_stay_apart : OverlaysStayApart world := by
  intro sessionId input other
  have apart : ∀ own, input.sessionId = some own → own ≠ sessionId := by
    rintro own found rfl
    exact other found
  have set (overlay : SessionOverlay) :
      PolicyHandle.overlayFor ⟨world.runtime.setSessionOverlay sessionId overlay⟩ input =
        PolicyHandle.overlayFor ⟨world.runtime⟩ input := by
    cases found : input.sessionId with
    | none => simp [PolicyHandle.overlayFor, found]
    | some own =>
      simp [PolicyHandle.overlayFor, found, PolicyRuntime.setSessionOverlay,
        Table.lookup_insert_eq, apart own found]
  have cleared : PolicyHandle.overlayFor ⟨world.runtime.clearSessionOverlay sessionId⟩ input =
      PolicyHandle.overlayFor ⟨world.runtime⟩ input := by
    cases found : input.sessionId with
    | none => simp [PolicyHandle.overlayFor, found]
    | some own =>
      simp [PolicyHandle.overlayFor, found, PolicyRuntime.clearSessionOverlay,
        Table.lookup_erase_eq, apart own found]
  exact ⟨fun overlay => judge_agrees rfl (set overlay), judge_agrees rfl cleared⟩

theorem publish_keeps_overlays : PublishKeepsOverlays world := by
  intro store
  refine ⟨fun _ => rfl, ?_⟩
  intro input overlay found fits
  have before := PolicyHandle.decide_agrees ⟨world.runtime⟩ input
  have after := PolicyHandle.decide_agrees ⟨world.runtime.publish store⟩ input
  have kept : PolicyHandle.overlayFor ⟨world.runtime.publish store⟩ input = some overlay := found
  have same : overlaidDecision store (some overlay) input =
      overlaidDecision world.runtime.store (some overlay) input := by
    have first := decide_of_match fits store.defaultDecision world.runtime.store.defaultDecision
    have second := first.1 ▸ first.2
    simp only [overlaidDecision, first.1, second, if_true]
  rw [found] at before
  rw [kept] at after
  dsimp only [PolicyRuntime.publish] at after
  rw [same] at after
  exact ⟨after.1.trans before.1.symm, after.2.1.trans before.2.1.symm,
    after.2.2.trans before.2.2.symm⟩

theorem clear_restores (published : PolicyStore) (current : world.runtime.store = published) :
    ClearRestores world published := by
  intro sessionId input own
  have gone : PolicyHandle.overlayFor ⟨world.runtime.clearSessionOverlay sessionId⟩ input =
      none := by
    simp [PolicyHandle.overlayFor, own, PolicyRuntime.clearSessionOverlay, Table.lookup_erase_eq]
  have decided := PolicyHandle.decide_agrees ⟨world.runtime.clearSessionOverlay sessionId⟩ input
  rw [gone] at decided
  rw [← current]
  exact decided

end Contract

theorem publish_raises : PublishRaises ((PolicyWorld.new initial).performAll history) := by
  intro store
  refine ⟨rfl, Nat.lt_succ_self _, ?_⟩
  intro handle held
  exact Nat.lt_succ_of_le (handle_version_le initial history handle held)

theorem policyRuntime_contract (initial : PolicyStore) (history later : List PolicyCall) :
    PublishRaises ((PolicyWorld.new initial).performAll history) ∧
      HandlesKeep ((PolicyWorld.new initial).performAll history) later ∧
      (∀ handle ∈ ((PolicyWorld.new initial).performAll history).handles,
        ∃ before after, history = before ++ .handle :: after ∧
          Reflects initial before handle.snapshot) ∧
      OverlaysStayApart ((PolicyWorld.new initial).performAll history) ∧
      PublishKeepsOverlays ((PolicyWorld.new initial).performAll history) ∧
      ClearRestores ((PolicyWorld.new initial).performAll history)
        (publishedStore initial history) := by
  refine ⟨publish_raises initial history, handles_keep _ later, ?_, overlays_stay_apart _,
    publish_keeps_overlays _, ?_⟩
  · intro handle held
    obtain ⟨before, after, split, taken⟩ := handle_taken initial history handle held
    exact ⟨before, after, split, taken ▸ runtime_reflects initial before⟩
  · exact clear_restores _ _ (runtime_reflects initial history).store

end OpenJax.Policy
