import OpenJax.Web.LiveView

set_option autoImplicit false

namespace OpenJax.Web

open Shared

inductive StreamCall where
  | start (messageId : Option MessageId) (seq : Nat) (initialContent : String)
  | append (delta : String) (seq : Nat)
  | complete (finalContent : String) (seq : Nat)
  | fail (seq : Nat)

inductive RenderStep where
  | call (call : StreamCall)
  | frame

namespace StreamCall

def seq : StreamCall → Nat
  | .start _ seq _ | .append _ seq | .complete _ seq | .fail seq => seq

def ends : StreamCall → Bool
  | .complete .. | .fail _ => true
  | .start .. | .append .. => false

def text : StreamCall → String
  | .start _ _ initialContent => initialContent
  | .append delta _ => delta
  | .complete .. | .fail _ => ""

def Appends : List StreamCall → Prop
  | [] => True
  | .append .. :: rest => Appends rest
  | [.complete ..] | [.fail _] => True
  | _ => False

def Sequence : List StreamCall → Prop
  | .start .. :: rest => Appends rest
  | calls => Appends calls

def Increasing (calls : List StreamCall) : Prop := (calls.map seq).Pairwise (· < ·)

def Opened : List StreamCall → Prop
  | [] | .start .. :: _ | .fail _ :: _ => True
  | .append delta _ :: _ => delta = ""
  | .complete .. :: _ => False

end StreamCall

def callsOf (steps : List RenderStep) : List StreamCall :=
  steps.filterMap fun step =>
    match step with
    | .call call => some call
    | .frame => none

def textOf (steps : List RenderStep) : String :=
  (callsOf steps).foldl (fun text call => text ++ call.text) ""

section Runs

variable (sessionId turnId : String) (streamKey : Option String) (store : StreamRenderStore)

def renderStep : RenderStep → StreamRenderStore
  | .call (.start messageId seq initialContent) =>
      store.start sessionId (some turnId) messageId seq initialContent streamKey
  | .call (.append delta seq) => store.append sessionId (some turnId) delta seq streamKey
  | .call (.complete finalContent seq) =>
      store.complete sessionId (some turnId) finalContent seq streamKey
  | .call (.fail seq) => store.fail sessionId (some turnId) seq streamKey
  | .frame => store.commit (composeKey sessionId turnId streamKey)

def rendered (steps : List RenderStep) : StreamRenderStore :=
  steps.foldl (renderStep sessionId turnId streamKey) store

def shownAfter (steps : List RenderStep) : StreamRenderSnapshot :=
  (rendered sessionId turnId streamKey store steps).getSnapshot sessionId (some turnId) streamKey

structure ShownRight (steps : List RenderStep) : Prop where
  frames : ∀ part, part ++ [.frame] <+: steps → (∀ call ∈ callsOf part, call.ends = false) →
    (shownAfter sessionId turnId streamKey store (part ++ [.frame])).content = textOf part
  completed : ∀ part seq, part <+: steps → .complete "" seq ∈ callsOf part →
    (shownAfter sessionId turnId streamKey store part).content = textOf part
  final : ∀ part finalContent seq, part <+: steps → finalContent ≠ "" →
    .complete finalContent seq ∈ callsOf part →
    (shownAfter sessionId turnId streamKey store part).content = finalContent
  inactive : ∀ part call, part <+: steps → call ∈ callsOf part → call.ends = true →
    (shownAfter sessionId turnId streamKey store part).isActive = false
  versions : ∀ part step, part ++ [step] <+: steps →
    (shownAfter sessionId turnId streamKey store (part ++ [step])).content ≠
      (shownAfter sessionId turnId streamKey store part).content →
    (shownAfter sessionId turnId streamKey store part).version <
      (shownAfter sessionId turnId streamKey store (part ++ [step])).version

end Runs

def snapshotOf (entry : Option StreamRenderEntry) : StreamRenderSnapshot :=
  (entry.map (·.snapshot)).getD {}

def startEntry (turnId : String) (messageId : Option MessageId) (seq : Nat)
    (initialContent : String) : StreamRenderEntry :=
  { snapshot := ⟨some turnId, messageId, initialContent, seq, 1, true⟩
    pendingBuffer := "", scheduled := false }

def restartEntry (turnId : String) (entry : StreamRenderEntry) (messageId : Option MessageId)
    (seq : Nat) (initialContent : String) : StreamRenderEntry :=
  if seq ≤ entry.snapshot.lastEventSeq then entry
  else
    { snapshot :=
        { turnId := some turnId
          messageId := messageId.or entry.snapshot.messageId
          content :=
            if messageId.isSome && entry.snapshot.messageId = messageId then entry.snapshot.content
            else initialContent
          lastEventSeq := max entry.snapshot.lastEventSeq seq
          version := entry.snapshot.version + 1
          isActive := true }
      pendingBuffer := "", scheduled := entry.scheduled }

def appendEntry (entry : StreamRenderEntry) (delta : String) (seq : Nat) : StreamRenderEntry :=
  if seq ≤ entry.snapshot.lastEventSeq then entry
  else
    { snapshot := { entry.snapshot with lastEventSeq := seq }
      pendingBuffer := entry.pendingBuffer ++ delta
      scheduled := true }

def completeEntry (entry : StreamRenderEntry) (finalContent : String) (seq : Nat) :
    StreamRenderEntry :=
  if seq ≤ entry.snapshot.lastEventSeq then entry
  else
    { snapshot :=
        { entry.snapshot with
          content :=
            if finalContent = "" then entry.snapshot.content ++ entry.pendingBuffer
            else finalContent
          lastEventSeq := seq
          version := entry.snapshot.version + 1
          isActive := false }
      pendingBuffer := "", scheduled := false }

def failEntry (entry : StreamRenderEntry) (seq : Nat) : StreamRenderEntry :=
  { snapshot :=
      { entry.snapshot with
        lastEventSeq := max entry.snapshot.lastEventSeq seq
        version := entry.snapshot.version + 1
        isActive := false }
    pendingBuffer := "", scheduled := false }

def commitEntry (entry : StreamRenderEntry) : StreamRenderEntry :=
  if !entry.scheduled then entry
  else if entry.pendingBuffer = "" then { entry with scheduled := false }
  else
    { snapshot :=
        { entry.snapshot with
          content := entry.snapshot.content ++ entry.pendingBuffer
          version := entry.snapshot.version + 1 }
      pendingBuffer := "", scheduled := false }

def entryStep (turnId : String) : Option StreamRenderEntry → RenderStep → Option StreamRenderEntry
  | none, .call (.start messageId seq initialContent) =>
      some (startEntry turnId messageId seq initialContent)
  -- The entry that a delta makes for itself turns the delta down.
  | none, .call (.append _ seq) => some (startEntry turnId none seq "")
  -- An entry that is only made for its completion stays active.
  | none, .call (.complete finalContent seq) => some (startEntry turnId none seq finalContent)
  | none, .call (.fail _) | none, .frame => none
  | some entry, .call (.start messageId seq initialContent) =>
      some (restartEntry turnId entry messageId seq initialContent)
  | some entry, .call (.append delta seq) => some (appendEntry entry delta seq)
  | some entry, .call (.complete finalContent seq) => some (completeEntry entry finalContent seq)
  | some entry, .call (.fail seq) => some (failEntry entry seq)
  | some entry, .frame => some (commitEntry entry)

section Entries

variable {sessionId turnId : String} {streamKey : Option String} {store : StreamRenderStore}
  {entry : StreamRenderEntry}

theorem truthy_of_ne (filled : turnId ≠ "") : truthy (some turnId) = some turnId := by
  simp [truthy, filled]

theorem put_self (key : String) : (store.put key entry) key = some entry := if_pos rfl

theorem start_fresh (filled : turnId ≠ "")
    (fresh : store (composeKey sessionId turnId streamKey) = none) (messageId : Option MessageId)
    (seq : Nat) (initialContent : String) :
    (store.start sessionId (some turnId) messageId seq initialContent streamKey)
        (composeKey sessionId turnId streamKey) =
      some (startEntry turnId messageId seq initialContent) := by
  simp only [StreamRenderStore.start, truthy_of_ne filled, fresh]
  exact put_self _

theorem start_known (filled : turnId ≠ "")
    (there : store (composeKey sessionId turnId streamKey) = some entry)
    (messageId : Option MessageId) (seq : Nat) (initialContent : String) :
    (store.start sessionId (some turnId) messageId seq initialContent streamKey)
        (composeKey sessionId turnId streamKey) =
      some (restartEntry turnId entry messageId seq initialContent) := by
  simp only [StreamRenderStore.start, truthy_of_ne filled, there, restartEntry]
  split
  · exact there
  · exact put_self _

theorem append_known (filled : turnId ≠ "")
    (there : store (composeKey sessionId turnId streamKey) = some entry) (delta : String)
    (seq : Nat) :
    (store.append sessionId (some turnId) delta seq streamKey)
        (composeKey sessionId turnId streamKey) = some (appendEntry entry delta seq) := by
  simp only [StreamRenderStore.append, truthy_of_ne filled, there, Option.isSome_some, if_true,
    appendEntry]
  split
  · exact there
  · exact put_self _

theorem append_fresh (filled : turnId ≠ "")
    (fresh : store (composeKey sessionId turnId streamKey) = none) (delta : String) (seq : Nat) :
    (store.append sessionId (some turnId) delta seq streamKey)
        (composeKey sessionId turnId streamKey) = some (startEntry turnId none seq "") := by
  have made := start_fresh filled fresh none seq ""
  simp only [StreamRenderStore.append, truthy_of_ne filled, fresh, Option.isSome_none,
    Bool.false_eq_true, if_false, made]
  exact (congrFun (if_pos (Nat.le_refl seq)) _).trans made

theorem complete_known (filled : turnId ≠ "")
    (there : store (composeKey sessionId turnId streamKey) = some entry) (finalContent : String)
    (seq : Nat) :
    (store.complete sessionId (some turnId) finalContent seq streamKey)
        (composeKey sessionId turnId streamKey) = some (completeEntry entry finalContent seq) := by
  simp only [StreamRenderStore.complete, truthy_of_ne filled, there, Option.isSome_some, if_true,
    completeEntry]
  split
  · exact there
  · exact put_self _

theorem complete_fresh (filled : turnId ≠ "")
    (fresh : store (composeKey sessionId turnId streamKey) = none) (finalContent : String)
    (seq : Nat) :
    (store.complete sessionId (some turnId) finalContent seq streamKey)
        (composeKey sessionId turnId streamKey) =
      some (startEntry turnId none seq finalContent) := by
  have made := start_fresh filled fresh none seq finalContent
  simp only [StreamRenderStore.complete, truthy_of_ne filled, fresh, Option.isSome_none,
    Bool.false_eq_true, if_false, made]
  exact (congrFun (if_pos (Nat.le_refl seq)) _).trans made

theorem fail_at (filled : turnId ≠ "") (seq : Nat) :
    (store.fail sessionId (some turnId) seq streamKey) (composeKey sessionId turnId streamKey) =
      (store (composeKey sessionId turnId streamKey)).map (failEntry · seq) := by
  simp only [StreamRenderStore.fail, truthy_of_ne filled]
  cases there : store (composeKey sessionId turnId streamKey) with
  | none => exact there
  | some entry => exact put_self _

theorem commit_at (key : String) : (store.commit key) key = (store key).map commitEntry := by
  unfold StreamRenderStore.commit commitEntry
  cases there : store key with
  | none => exact there
  | some entry =>
    dsimp only [Option.map_some]
    split
    · exact there
    · split
      · exact put_self key
      · exact put_self key

theorem renderStep_at (filled : turnId ≠ "") (step : RenderStep) :
    (renderStep sessionId turnId streamKey store step) (composeKey sessionId turnId streamKey) =
      entryStep turnId (store (composeKey sessionId turnId streamKey)) step := by
  cases there : store (composeKey sessionId turnId streamKey) with
  | none =>
    cases step with
    | frame => exact (commit_at _).trans (by rw [there]; rfl)
    | call call =>
      cases call with
      | start messageId seq initialContent =>
        exact start_fresh filled there messageId seq initialContent
      | append delta seq => exact append_fresh filled there delta seq
      | complete finalContent seq => exact complete_fresh filled there finalContent seq
      | fail seq => exact (fail_at filled seq).trans (by rw [there]; rfl)
  | some entry =>
    cases step with
    | frame => exact (commit_at _).trans (by rw [there]; rfl)
    | call call =>
      cases call with
      | start messageId seq initialContent =>
        exact start_known filled there messageId seq initialContent
      | append delta seq => exact append_known filled there delta seq
      | complete finalContent seq => exact complete_known filled there finalContent seq
      | fail seq => exact (fail_at filled seq).trans (by rw [there]; rfl)

def entryAfter (turnId : String) (steps : List RenderStep) : Option StreamRenderEntry :=
  steps.foldl (entryStep turnId) none

theorem entryAfter_snoc (part : List RenderStep) (step : RenderStep) :
    entryAfter turnId (part ++ [step]) = entryStep turnId (entryAfter turnId part) step :=
  List.foldl_concat _ _ _ _

theorem rendered_at (filled : turnId ≠ "")
    (fresh : store (composeKey sessionId turnId streamKey) = none) (steps : List RenderStep) :
    (rendered sessionId turnId streamKey store steps) (composeKey sessionId turnId streamKey) =
      entryAfter turnId steps := by
  have general (steps : List RenderStep) (store : StreamRenderStore) :
      (steps.foldl (renderStep sessionId turnId streamKey) store)
          (composeKey sessionId turnId streamKey) =
        steps.foldl (entryStep turnId) (store (composeKey sessionId turnId streamKey)) := by
    induction steps generalizing store with
    | nil => rfl
    | cons step rest ih => rw [List.foldl_cons, List.foldl_cons, ih, renderStep_at filled]
  rw [entryAfter, ← fresh]
  exact general steps store

theorem shownAfter_eq (filled : turnId ≠ "")
    (fresh : store (composeKey sessionId turnId streamKey) = none) (steps : List RenderStep) :
    shownAfter sessionId turnId streamKey store steps = snapshotOf (entryAfter turnId steps) := by
  rw [← rendered_at filled fresh]
  simp only [shownAfter, StreamRenderStore.getSnapshot, truthy_of_ne filled, snapshotOf]

end Entries

theorem version_tells_change (turnId : String) (entry : Option StreamRenderEntry)
    (step : RenderStep)
    (changed : (snapshotOf (entryStep turnId entry step)).content ≠ (snapshotOf entry).content) :
    (snapshotOf entry).version < (snapshotOf (entryStep turnId entry step)).version := by
  cases entry with
  | none =>
    cases step with
    | frame => exact absurd rfl changed
    | call call =>
      cases call with
      | fail seq => exact absurd rfl changed
      | start | append | complete => exact Nat.zero_lt_one
  | some entry =>
    have later : entry.snapshot.version < entry.snapshot.version + 1 := Nat.lt_succ_self _
    cases step with
    | frame =>
      simp only [entryStep, snapshotOf, Option.map_some, Option.getD_some, commitEntry] at changed ⊢
      split at changed
      · exact absurd rfl changed
      next due =>
        split at changed
        · exact absurd rfl changed
        next filled => rwa [if_neg due, if_neg filled]
    | call call =>
      cases call with
      | fail seq => exact later
      | append delta seq =>
        simp only [entryStep, snapshotOf, Option.map_some, Option.getD_some, appendEntry] at changed
        split at changed
        · exact absurd rfl changed
        · exact absurd rfl changed
      | start messageId seq initialContent =>
        simp only [entryStep, snapshotOf, Option.map_some, Option.getD_some,
          restartEntry] at changed ⊢
        split at changed
        · exact absurd rfl changed
        next fresh => rwa [if_neg fresh]
      | complete finalContent seq =>
        simp only [entryStep, snapshotOf, Option.map_some, Option.getD_some,
          completeEntry] at changed ⊢
        split at changed
        · exact absurd rfl changed
        next fresh => rwa [if_neg fresh]

section Calls

variable {steps part before : List RenderStep} {step : RenderStep} {call : StreamCall}
  {calls done rest : List StreamCall}

theorem callsOf_append (first second : List RenderStep) :
    callsOf (first ++ second) = callsOf first ++ callsOf second :=
  List.filterMap_append

theorem textOf_call : textOf (part ++ [.call call]) = textOf part ++ call.text := by
  rw [textOf, callsOf_append, List.foldl_append]
  rfl

theorem textOf_frame : textOf (part ++ [.frame]) = textOf part := by
  rw [textOf, callsOf_append, List.foldl_append]
  rfl

namespace StreamCall

theorem Appends.split (appends : Appends calls) (whole : calls = done ++ call :: rest) :
    (∀ earlier ∈ done, earlier.ends = false) ∧ (call.ends = true → rest = []) ∧
      ∀ messageId seq content, call ≠ .start messageId seq content := by
  induction done generalizing calls with
  | nil =>
    subst whole
    refine ⟨nofun, fun ends => ?_, ?_⟩
    · cases call with
      | start | append => cases ends
      | complete | fail =>
        cases rest with
        | nil => rfl
        | cons next others => exact appends.elim
    · rintro messageId seq content rfl
      exact appends.elim
  | cons first others ih =>
    subst whole
    cases first with
    | start => exact appends.elim
    | append delta seq =>
      obtain ⟨open', last, plain⟩ := ih (show Appends (others ++ call :: rest) from appends) rfl
      refine ⟨fun earlier member => ?_, last, plain⟩
      rcases List.mem_cons.mp member with rfl | later
      · rfl
      · exact open' earlier later
    | complete | fail =>
      cases others with
      | nil => exact appends.elim
      | cons next others => exact appends.elim

theorem Sequence.split (sequence : Sequence calls) (whole : calls = done ++ call :: rest) :
    (∀ earlier ∈ done, earlier.ends = false) ∧ (call.ends = true → rest = []) ∧
      ∀ messageId seq content, call = .start messageId seq content → done = [] := by
  cases calls with
  | nil => simp at whole
  | cons first others =>
    cases first with
    | start messageId seq content =>
      cases done with
      | nil =>
        obtain ⟨rfl, -⟩ := List.cons.inj whole
        exact ⟨nofun, (fun ends => by cases ends), fun _ _ _ _ => rfl⟩
      | cons head tail =>
        obtain ⟨rfl, same⟩ := List.cons.inj whole
        obtain ⟨open', last, plain⟩ := Appends.split sequence same
        refine ⟨fun earlier member => ?_, last, fun m n c starts => absurd starts (plain m n c)⟩
        rcases List.mem_cons.mp member with rfl | later
        · rfl
        · exact open' earlier later
    | append | complete | fail =>
      obtain ⟨open', last, plain⟩ := Appends.split sequence whole
      exact ⟨open', last, fun m n c starts => absurd starts (plain m n c)⟩

theorem Increasing.split (increasing : Increasing calls) (whole : calls = done ++ call :: rest) :
    ∀ earlier ∈ done, earlier.seq < call.seq := by
  subst whole
  rw [Increasing, List.map_append, List.pairwise_append] at increasing
  exact fun earlier member => increasing.2.2 _ (List.mem_map_of_mem member) _ List.mem_cons_self

end StreamCall

structure Streaming (part : List RenderStep) (entry : StreamRenderEntry) : Prop where
  whole : entry.snapshot.content ++ entry.pendingBuffer = textOf part
  last : ∃ call ∈ callsOf part, entry.snapshot.lastEventSeq = call.seq
  due : entry.pendingBuffer ≠ "" → entry.scheduled = true

structure Ended (entry : StreamRenderEntry) : Prop where
  inactive : entry.snapshot.isActive = false
  settled : entry.scheduled = false

inductive Stage (part : List RenderStep) : Option StreamRenderEntry → Prop
  | fresh : callsOf part = [] → Stage part none
  | streaming {entry : StreamRenderEntry} : (∀ call ∈ callsOf part, call.ends = false) →
      Streaming part entry → Stage part (some entry)
  | completed {entry : StreamRenderEntry} (finalContent : String) (seq : Nat) :
      .complete finalContent seq ∈ callsOf part →
      (∀ call ∈ callsOf part, call.ends = true → call = .complete finalContent seq) →
      entry.snapshot.content = (if finalContent = "" then textOf part else finalContent) →
      Ended entry → Stage part (some entry)
  | failed {entry : Option StreamRenderEntry} (seq : Nat) : .fail seq ∈ callsOf part →
      (∀ call ∈ callsOf part, call.ends = true → call = .fail seq) →
      (∀ left, entry = some left → Ended left) → Stage part entry

theorem Streaming.commit {entry : StreamRenderEntry} (streaming : Streaming part entry) :
    Streaming (part ++ [.frame]) (commitEntry entry) ∧
      (commitEntry entry).snapshot.content = textOf (part ++ [.frame]) := by
  have calls : callsOf (part ++ [.frame]) = callsOf part := by
    rw [callsOf_append]
    exact List.append_nil _
  obtain ⟨whole, last, due⟩ := streaming
  unfold commitEntry
  rw [← textOf_frame] at whole
  split
  next idle =>
    have empty : entry.pendingBuffer = "" := by
      by_contra filled
      rw [due filled] at idle
      cases idle
    refine ⟨⟨whole, calls ▸ last, due⟩, ?_⟩
    rwa [empty, String.append_empty] at whole
  · split
    next empty =>
      refine ⟨⟨whole, calls ▸ last, fun filled => absurd empty filled⟩, ?_⟩
      rwa [empty, String.append_empty] at whole
    · refine ⟨⟨?_, calls ▸ last, fun filled => absurd rfl filled⟩, whole⟩
      rw [String.append_empty]
      exact whole

theorem Ended.commit {entry : StreamRenderEntry} (ended : Ended entry) :
    commitEntry entry = entry := by
  rw [commitEntry, ended.settled]
  rfl

variable {entry : Option StreamRenderEntry} (turnId : String)

theorem Stage.frame (stage : Stage part entry) :
    Stage (part ++ [.frame]) (entryStep turnId entry .frame) := by
  have calls : callsOf (part ++ [.frame]) = callsOf part := by
    rw [callsOf_append]
    exact List.append_nil _
  cases stage with
  | fresh none => exact .fresh (calls.trans none)
  | streaming going streaming => exact .streaming (calls ▸ going) streaming.commit.1
  | completed finalContent seq member only content ended =>
    rw [entryStep, ended.commit]
    refine .completed finalContent seq (calls ▸ member) (calls ▸ only) ?_ ended
    rw [textOf_frame]
    exact content
  | failed seq member only ended =>
    refine .failed seq (calls ▸ member) (calls ▸ only) fun left shown => ?_
    cases entry with
    | none => cases shown
    | some entry =>
      cases shown
      rw [(ended entry rfl).commit]
      exact ended entry rfl

theorem Stage.going (stage : Stage part entry) (going : ∀ call ∈ callsOf part, call.ends = false) :
    (callsOf part = [] ∧ entry = none) ∨ ∃ there, entry = some there ∧ Streaming part there := by
  cases stage with
  | fresh none => exact .inl ⟨none, rfl⟩
  | streaming _ streaming => exact .inr ⟨_, rfl, streaming⟩
  | completed _ _ member => cases going _ member
  | failed _ member => cases going _ member

theorem Stage.content {finalContent : String} {seq : Nat} (stage : Stage part entry)
    (member : .complete finalContent seq ∈ callsOf part) :
    (snapshotOf entry).content = if finalContent = "" then textOf part else finalContent := by
  cases stage with
  | fresh none =>
    rw [none] at member
    cases member
  | streaming going => cases going _ member
  | completed _ _ _ only content =>
    cases only _ member rfl
    exact content
  | failed _ _ only => cases only _ member rfl

theorem Stage.inactive (stage : Stage part entry) (member : call ∈ callsOf part)
    (ends : call.ends = true) : (snapshotOf entry).isActive = false := by
  cases stage with
  | fresh none => rfl
  | streaming going =>
    rw [going call member] at ends
    cases ends
  | completed _ _ _ _ _ ended => exact ended.inactive
  | failed _ _ _ ended =>
    cases entry with
    | none => rfl
    | some entry => exact (ended entry rfl).inactive

theorem callsOf_call : callsOf (part ++ [.call call]) = callsOf part ++ [call] :=
  callsOf_append part [.call call]

theorem only_last (going : ∀ call ∈ callsOf part, call.ends = false) :
    ∀ other ∈ callsOf (part ++ [.call call]), other.ends = true → other = call := by
  intro other member ends
  rw [callsOf_call, List.mem_append, List.mem_singleton] at member
  rcases member with earlier | same
  · rw [going other earlier] at ends
    cases ends
  · exact same

theorem textOf_fresh (none : callsOf part = []) : textOf part = "" := by
  rw [textOf, none]
  rfl

theorem Stage.first (none : callsOf part = []) (opened : StreamCall.Opened [call]) :
    Stage (part ++ [.call call]) (entryStep turnId Option.none (.call call)) := by
  have made : call ∈ callsOf (part ++ [.call call]) := by simp [callsOf_call]
  have alone : ∀ other ∈ callsOf (part ++ [.call call]), other = call := by
    simp [callsOf_call, none]
  cases call with
  | start messageId seq content =>
    refine .streaming (fun other member => alone other member ▸ rfl) ⟨?_, ⟨_, made, rfl⟩, ?_⟩
    · rw [textOf_call, textOf_fresh none, String.empty_append]
      exact String.append_empty
    · exact fun filled => absurd rfl filled
  | append delta seq =>
    obtain rfl : delta = "" := opened
    refine .streaming (fun other member => alone other member ▸ rfl) ⟨?_, ⟨_, made, rfl⟩, ?_⟩
    · rw [textOf_call, textOf_fresh none]
      rfl
    · exact fun filled => absurd rfl filled
  | complete => exact opened.elim
  | fail seq => exact .failed seq made (fun other member _ => alone other member) nofun

theorem Stage.next {entry : StreamRenderEntry} (streaming : Streaming part entry)
    (going : ∀ other ∈ callsOf part, other.ends = false)
    (later : ∀ other ∈ callsOf part, other.seq < call.seq)
    (noStart : ∀ messageId seq content, call ≠ .start messageId seq content) :
    Stage (part ++ [.call call]) (entryStep turnId (some entry) (.call call)) := by
  have made : call ∈ callsOf (part ++ [.call call]) := by simp [callsOf_call]
  obtain ⟨whole, ⟨last, known, same⟩, due⟩ := streaming
  have gate : ¬ call.seq ≤ entry.snapshot.lastEventSeq := by
    have before := later last known
    omega
  cases call with
  | start messageId seq content => exact absurd rfl (noStart messageId seq content)
  | append delta seq =>
    rw [entryStep, appendEntry, if_neg (show ¬ seq ≤ _ from gate)]
    refine .streaming ?_ ⟨?_, ⟨_, made, rfl⟩, fun _ => rfl⟩
    · intro other member
      rw [callsOf_call, List.mem_append, List.mem_singleton] at member
      rcases member with earlier | rfl
      · exact going other earlier
      · rfl
    · rw [textOf_call, ← whole]
      exact (String.append_assoc).symm
  | complete finalContent seq =>
    rw [entryStep, completeEntry, if_neg (show ¬ seq ≤ _ from gate)]
    refine .completed finalContent seq made (only_last going) ?_ ⟨rfl, rfl⟩
    rw [textOf_call, ← whole]
    simp [StreamCall.text]
  | fail seq =>
    refine .failed seq made (only_last going) fun left shown => ?_
    cases shown
    exact ⟨rfl, rfl⟩

theorem stage_of_run (sequence : StreamCall.Sequence (callsOf steps))
    (increasing : StreamCall.Increasing (callsOf steps)) (opened : StreamCall.Opened (callsOf steps))
    (part : List RenderStep) (begins : part <+: steps) : Stage part (entryAfter turnId part) := by
  induction part using List.reverseRecOn with
  | nil => exact .fresh rfl
  | append_singleton before step ih =>
    have stage := ih ((List.prefix_append before [step]).trans begins)
    rw [entryAfter_snoc]
    cases step with
    | frame => exact stage.frame turnId
    | call call =>
      obtain ⟨after, whole⟩ := begins
      have calls : callsOf steps = callsOf before ++ call :: callsOf after := by
        rw [← whole, callsOf_append, callsOf_call, List.append_assoc]
        rfl
      obtain ⟨going, -, starts⟩ := sequence.split calls
      rcases stage.going going with ⟨none, fresh⟩ | ⟨there, shown, streaming⟩
      · rw [fresh]
        rw [calls, none] at opened
        exact .first turnId none (by cases call <;> exact opened)
      · rw [shown]
        refine .next turnId streaming going (increasing.split calls) fun m n c same => ?_
        obtain ⟨last, known, -⟩ := streaming.last
        rw [starts m n c same] at known
        cases known

end Calls

section Results

variable {sessionId turnId : String} {streamKey : Option String} {store : StreamRenderStore}
  {steps : List RenderStep} {calls : List StreamCall}

theorem shownRight_of_opened (filled : turnId ≠ "")
    (fresh : store (composeKey sessionId turnId streamKey) = none)
    (sequence : StreamCall.Sequence (callsOf steps))
    (increasing : StreamCall.Increasing (callsOf steps))
    (opened : StreamCall.Opened (callsOf steps)) :
    ShownRight sessionId turnId streamKey store steps := by
  have stages := stage_of_run turnId sequence increasing opened
  refine ⟨?_, ?_, ?_, ?_, ?_⟩
  · intro part begins going
    have stage := stages part ((List.prefix_append part [.frame]).trans begins)
    rw [shownAfter_eq filled fresh, entryAfter_snoc]
    rcases stage.going going with ⟨none, absent⟩ | ⟨there, shown, streaming⟩
    · rw [absent, textOf_fresh none]
      rfl
    · rw [shown, ← textOf_frame]
      exact streaming.commit.2
  · intro part seq begins member
    rw [shownAfter_eq filled fresh, (stages part begins).content member]
    rfl
  · intro part finalContent seq begins inked member
    rw [shownAfter_eq filled fresh, (stages part begins).content member, if_neg inked]
  · intro part call begins member ends
    rw [shownAfter_eq filled fresh]
    exact (stages part begins).inactive member ends
  · intro part step begins changed
    rw [shownAfter_eq filled fresh, shownAfter_eq filled fresh, entryAfter_snoc] at changed ⊢
    exact version_tells_change turnId _ step changed

theorem callsOf_calls (calls : List StreamCall) : callsOf (calls.map .call) = calls := by
  induction calls with
  | nil => rfl
  | cons call rest ih => exact congrArg (call :: ·) ih

theorem first_delta_lost (filled : turnId ≠ "")
    (fresh : store (composeKey sessionId turnId streamKey) = none) {delta : String}
    (inked : delta ≠ "") (seq : Nat) (rest : List StreamCall) :
    ¬ ShownRight sessionId turnId streamKey store
      (.call (.append delta seq) :: .frame :: rest.map .call) := by
  intro right
  have shown := right.frames [.call (.append delta seq)] ⟨rest.map .call, rfl⟩
    (by simp [callsOf, StreamCall.ends])
  rw [shownAfter_eq filled fresh] at shown
  have whole : textOf ([.call (.append delta seq)] ++ [.frame]) = delta := by
    simp [textOf, callsOf, StreamCall.text]
  rw [← textOf_frame, whole] at shown
  exact inked shown.symm

theorem only_completion_active (filled : turnId ≠ "")
    (fresh : store (composeKey sessionId turnId streamKey) = none) (finalContent : String)
    (seq : Nat) (rest : List StreamCall) :
    ¬ ShownRight sessionId turnId streamKey store
      (.call (.complete finalContent seq) :: rest.map .call) := by
  intro right
  have shown := right.inactive [.call (.complete finalContent seq)] (.complete finalContent seq)
    ⟨rest.map .call, rfl⟩ (by simp [callsOf]) rfl
  rw [shownAfter_eq filled fresh] at shown
  cases shown

/-- Whatever the frames, the right text is shown exactly where the first call makes the entry
itself or has nothing to put into it. -/
theorem shown_right_iff_opened (filled : turnId ≠ "")
    (fresh : store (composeKey sessionId turnId streamKey) = none)
    (sequence : StreamCall.Sequence calls) (increasing : StreamCall.Increasing calls) :
    (∀ steps, callsOf steps = calls → ShownRight sessionId turnId streamKey store steps) ↔
      StreamCall.Opened calls := by
  constructor
  · intro right
    cases calls with
    | nil => trivial
    | cons first rest =>
      cases first with
      | start | fail => trivial
      | append delta seq =>
        by_contra inked
        refine first_delta_lost filled fresh inked seq rest (right _ ?_)
        exact congrArg (StreamCall.append delta seq :: ·) (callsOf_calls rest)
      | complete finalContent seq =>
        refine only_completion_active filled fresh finalContent seq rest (right _ ?_)
        exact congrArg (StreamCall.complete finalContent seq :: ·) (callsOf_calls rest)
  · rintro opened steps rfl
    exact shownRight_of_opened filled fresh sequence increasing opened

theorem shown_right_iff_opened_of_two :
    (∀ steps, callsOf steps = [.start none 1 "A", .append "B" 2] →
        ShownRight "s" "t" none (fun _ => none) steps) ↔
      StreamCall.Opened [.start none 1 "A", .append "B" 2] :=
  shown_right_iff_opened (by decide) rfl trivial (by simp [StreamCall.Increasing, StreamCall.seq])

def lateSteps : List RenderStep := [.call (.append "A" 5), .call (.append "B" 6), .frame]

theorem late_delta_missing :
    (shownAfter "s" "t" none (fun _ => none) lateSteps).content = "B" ∧ textOf lateSteps = "AB" ∧
      ¬ ∀ steps, callsOf steps = [.append "A" 5, .append "B" 6] →
        ShownRight "s" "t" none (fun _ => none) steps := by
  refine ⟨by decide +kernel, by decide +kernel, fun right => ?_⟩
  have shown := (right lateSteps rfl).frames
    [.call (.append "A" 5), .call (.append "B" 6)] (List.prefix_refl _)
    (by simp [callsOf, StreamCall.ends])
  revert shown
  decide +kernel

end Results

end OpenJax.Web
