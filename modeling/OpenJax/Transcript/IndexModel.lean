import OpenJax.Transcript.IndexReplay

set_option autoImplicit false

namespace OpenJax.Transcript

open Shared FaultProgram SessionIndexStore

inductive IndexOperation where
  | create (entry : IndexSessionEntry)
  | upsert (entry : IndexSessionEntry)
  | touch (sessionId updatedAt : String) (lastEventSeq : Nat) (lastPreview : String)
  | setTitle (sessionId : String) (title : Option String)
  | setTitleIfEmpty (sessionId title : String)
  | setTags (sessionId : String) (tags : List String)
  | delete (sessionId : String)

namespace IndexOperation

variable (json : IndexJson) (parse : String → Option UtcTime) (now : UtcTime)

def perform : IndexOperation → IndexProgram Unit
  | create entry => createSessionIndexEntry json parse now entry
  | upsert entry => upsertSessionIndexEntry json parse now entry
  | touch sessionId updatedAt lastEventSeq lastPreview =>
      touchSessionIndexEntry json parse now sessionId updatedAt lastEventSeq lastPreview
  | setTitle sessionId title => updateSessionTitle json now sessionId title
  | setTitleIfEmpty sessionId title => do
      let _ ← updateSessionTitleIfEmpty json now sessionId title
  | setTags sessionId tags => updateSessionTags json now sessionId tags
  | delete sessionId => deleteSessionIndexEntry json now sessionId

def body : IndexOperation → IndexProgram Bool
  | create entry => do
      createEntry json parse now entry
      pure true
  | upsert entry => do
      upsertSessionEntry json parse now entry
      pure true
  | touch sessionId updatedAt lastEventSeq lastPreview => do
      touchEntry json parse now sessionId updatedAt lastEventSeq lastPreview
      pure true
  | setTitle sessionId title => do
      SessionIndexStore.setTitle json now sessionId title
      pure true
  | setTitleIfEmpty sessionId title => SessionIndexStore.setTitleIfEmpty json now sessionId title
  | setTags sessionId tags => do
      SessionIndexStore.setTags json now sessionId tags
      pure true
  | delete sessionId => do
      deleteEntry json now sessionId
      pure true

theorem perform_eq (operation : IndexOperation) :
    operation.perform json parse now = (do
      if ← operation.body json parse now then maybeCompact json now) := by
  have compacts (program : IndexProgram Unit) :
      (do program; maybeCompact json now) = (do
        if ← (do program; pure true) then maybeCompact json now) := by
    simp only [bind, pure]
    congr
    funext answers store
    cases ran : program.run answers store with
    | mk ending next => cases ending <;> simp
  cases operation with
  | setTitleIfEmpty sessionId title =>
    simp only [perform, body, updateSessionTitleIfEmpty, bind, pure]
    congr
    funext answers store
    cases ran : (SessionIndexStore.setTitleIfEmpty json now sessionId title).run answers store with
    | mk ending next =>
      cases ending with
      | value updated =>
        cases updated with
        | true =>
          cases compacted : (maybeCompact json now).run answers next with
          | mk ended last => cases ended <;> simp [compacted]
        | false => simp
      | failed error => simp
      | stopped => simp
  | _ => exact compacts _

def updates : IndexOperation → Bool
  | create _ | delete _ => false
  | _ => true

def stamp : IndexOperation → Option String
  | create entry | upsert entry => normalizeRfc3339UtcMillis parse entry.updatedAt
  | touch _ updatedAt _ _ => normalizeRfc3339UtcMillis parse updatedAt
  | delete _ => none
  | _ => some (formatUtcMillis now)

def next (known : String → Option IndexSessionEntry) :
    IndexOperation → Option IndexSessionEntry
  | create entry | upsert entry =>
      (normalizeRfc3339UtcMillis parse entry.updatedAt).map fun normal =>
        { entry with updatedAt := normal }
  | touch sessionId updatedAt lastEventSeq lastPreview =>
      (normalizeRfc3339UtcMillis parse updatedAt).bind fun normal =>
        (known sessionId).map fun base =>
          { base with updatedAt := normal, lastEventSeq := lastEventSeq, lastPreview := lastPreview }
  | setTitle sessionId title =>
      (known sessionId).map fun base =>
        { base with title := title, updatedAt := formatUtcMillis now }
  | setTitleIfEmpty sessionId title =>
      (known sessionId).bind fun base =>
        if base.title.any (fun value => !(trim value).isEmpty) || (trim title).isEmpty then none
        else some { base with title := some (trim title), updatedAt := formatUtcMillis now }
  | setTags sessionId _ =>
      (known sessionId).map fun base => { base with updatedAt := formatUtcMillis now }
  | delete _ => none

def stores (known : String → Option IndexSessionEntry) (operation : IndexOperation) :
    String → Option IndexSessionEntry :=
  match operation with
  | delete sessionId => Function.update known sessionId none
  | operation =>
      match operation.next parse now known with
      | some entry => Function.update known entry.sessionId (some entry)
      | none => known

def applied (entries : List IndexSessionEntry) (operation : IndexOperation) :
    List IndexSessionEntry :=
  match operation with
  | delete sessionId => sortEntriesDesc (removeEntry sessionId entries)
  | operation =>
      match operation.next parse now fun sessionId => findEntry sessionId entries with
      | some entry => sortEntriesDesc (upsertEntry entry entries)
      | none => entries

section Applied

variable {parse now} {entries : List IndexSessionEntry}

theorem applied_of_next {operation : IndexOperation} {entry : IndexSessionEntry}
    (chosen : operation.next parse now (fun sessionId => findEntry sessionId entries) =
      some entry) :
    operation.applied parse now entries = sortEntriesDesc (upsertEntry entry entries) := by
  cases operation with
  | delete sessionId => cases chosen
  | _ => simp only [applied, chosen]

theorem applied_of_none {operation : IndexOperation}
    (nothing : operation.next parse now (fun sessionId => findEntry sessionId entries) = none)
    (updating : operation.updates) : operation.applied parse now entries = entries := by
  cases operation with
  | delete sessionId => cases updating
  | _ => simp only [applied, nothing]

theorem applied_cases (entries : List IndexSessionEntry) (operation : IndexOperation) :
    operation.applied parse now entries = entries ∨
      ∃ changed, operation.applied parse now entries = sortEntriesDesc changed ∧
        (UniqueIds entries → UniqueIds changed) := by
  cases operation with
  | delete sessionId => exact .inr ⟨_, rfl, fun unique => unique.remove sessionId⟩
  | _ =>
    simp only [applied]
    split
    · exact .inr ⟨_, rfl, fun unique => unique.upsert _⟩
    · exact .inl rfl

theorem unique_applied (unique : UniqueIds entries) (operation : IndexOperation) :
    UniqueIds (operation.applied parse now entries) := by
  rcases applied_cases entries operation with same | ⟨changed, sorted, kept⟩
  · rwa [same]
  · rw [sorted]
    exact (kept unique).perm (sortEntriesDesc_perm changed).symm

theorem descending_applied (unique : UniqueIds entries) (descending : Descending entries)
    (operation : IndexOperation) : Descending (operation.applied parse now entries) := by
  rcases applied_cases entries operation with same | ⟨changed, sorted, kept⟩
  · rwa [same]
  · rw [sorted]
    exact descending_sortEntriesDesc (kept unique)

theorem findEntry_applied (unique : UniqueIds entries) (operation : IndexOperation)
    (sessionId : String) :
    findEntry sessionId (operation.applied parse now entries) =
      operation.stores parse now (fun known => findEntry known entries) sessionId := by
  have sorted {changed : List IndexSessionEntry} (kept : UniqueIds changed) :
      findEntry sessionId (sortEntriesDesc changed) = findEntry sessionId changed :=
    (findEntry_perm kept (sortEntriesDesc_perm changed).symm sessionId).symm
  cases operation with
  | delete removed =>
    simp only [applied, stores]
    rw [sorted (unique.remove removed), findEntry_removeEntry, Function.update_apply]
  | _ =>
    simp only [applied, stores]
    generalize next parse now (fun known => findEntry known entries) _ = chosen
    cases chosen with
    | some entry => simp [sorted (unique.upsert entry), findEntry_upsertEntry, Function.update_apply]
    | none => rfl

end Applied

section Course

variable {json parse now} {answers : CallSite → CallAnswer} {entries : List IndexSessionEntry}
  {pre : SessionIndexStore → Prop} {ends : Ends SessionIndexStore IndexError Bool}

/-- The change of the metadata keeps the session and writes a fitting time. -/
structure Redates (fit : String → Prop) (mutate : SessionMetadata → SessionMetadata) : Prop where
  sessionId : ∀ metadata, (mutate metadata).sessionId = metadata.sessionId
  updatedAt : ∀ metadata, fit (mutate metadata).updatedAt

theorem triple_ensureWritable {α : Type} {rest : IndexProgram α}
    {ends : Ends SessionIndexStore IndexError α}
    (refused : ∀ error store, pre store → ends.failed error store)
    (continued : Triple answers pre rest ends) :
    Triple answers pre (do ensureWritable; rest) ends := by
  apply Triple.bind fun _ => pre
  · apply Triple.look
    intro health
    apply triple_ite
    · exact fun _ => triple_fail fun store holds => refused _ store holds.1
    · exact fun _ => triple_pure fun _ => And.left
  · exact fun _ => continued

theorem triple_normalizedTime {α : Type} {rest : String → IndexProgram α}
    {ends : Ends SessionIndexStore IndexError α} {input : String}
    (refused : ∀ error store, pre store → ends.failed error store)
    (continued : ∀ normal, normalizeRfc3339UtcMillis parse input = some normal →
      Triple answers pre (rest normal) ends) :
    Triple answers pre (do let normal ← normalizedTime parse input; rest normal) ends := by
  apply Triple.bind fun normal store =>
    normalizeRfc3339UtcMillis parse input = some normal ∧ pre store
  · apply triple_ofExcept
    · intro store normal outcome holds
      cases normalized : normalizeRfc3339UtcMillis parse input with
      | none => simp [normalized] at outcome
      | some found =>
        simp only [normalized, Except.ok.injEq] at outcome
        exact ⟨congrArg some outcome, holds⟩
    · exact fun store _ _ holds => refused _ store holds
  · exact fun normal => Triple.given (continued normal)

theorem triple_baseEntry {α : Type} {rest : IndexSessionEntry → IndexProgram α}
    {ends : Ends SessionIndexStore IndexError α} {purpose sessionId : String}
    (held : ∀ store, pre store → store.entries = entries)
    (refused : ∀ error store, pre store → ends.failed error store)
    (continued : ∀ base, findEntry sessionId entries = some base →
      Triple answers pre (rest base) ends) :
    Triple answers pre (do let base ← baseEntry purpose sessionId; rest base) ends := by
  apply Triple.bind fun base store => findEntry sessionId entries = some base ∧ pre store
  · apply Triple.look
    intro found
    cases found with
    | some entry =>
      apply triple_pure
      intro store holds
      exact ⟨held store holds.1 ▸ holds.2, holds.1⟩
    | none => exact triple_fail fun store holds => refused _ store holds.1
  · exact fun base => Triple.given (continued base)

theorem triple_answered {program : IndexProgram Unit} {done : Bool}
    (triple : Triple answers pre program ⟨fun _ => ends.value done, ends.failed, ends.stopped⟩) :
    Triple answers pre (do program; pure done) ends :=
  Triple.bind (fun _ => ends.value done) triple fun _ => triple_pure fun _ => id

theorem body_course (operation : IndexOperation)
    (held : ∀ store, pre store → store.entries = entries)
    (refused : ∀ error store, pre store → ends.failed error store)
    (idle : operation.next parse now (fun sessionId => findEntry sessionId entries) = none →
      operation.updates → ∀ store, pre store → ends.value false store)
    (creates : ∀ entry normal, operation = create entry →
      normalizeRfc3339UtcMillis parse entry.updatedAt = some normal →
      Triple answers pre (createNormalized json now { entry with updatedAt := normal })
        ⟨fun _ => ends.value true, ends.failed, ends.stopped⟩)
    (stores : ∀ context next mutate, Redates (· = next.updatedAt) mutate →
      operation.updates →
      operation.next parse now (fun sessionId => findEntry sessionId entries) = some next →
      operation.stamp parse now = some next.updatedAt →
      Triple answers pre (storeEntry json now context next mutate)
        ⟨fun _ => ends.value true, ends.failed, ends.stopped⟩)
    (deletes : ∀ sessionId, operation = delete sessionId →
      Triple answers pre (deleteKnown json now sessionId (findEntry sessionId entries))
        ⟨fun _ => ends.value true, ends.failed, ends.stopped⟩) :
    Triple answers pre (operation.body json parse now) ends := by
  cases operation with
  | create entry =>
    apply triple_answered
    apply triple_ensureWritable
    · exact refused
    apply triple_normalizedTime
    · exact refused
    exact fun normal => creates entry normal rfl
  | upsert entry =>
    apply triple_answered
    apply triple_ensureWritable
    · exact refused
    apply triple_normalizedTime
    · exact refused
    intro normal normalized
    apply stores
    · exact ⟨fun _ => rfl, fun _ => rfl⟩
    · rfl
    · simp [next, normalized]
    · exact normalized
  | touch sessionId updatedAt lastEventSeq lastPreview =>
    apply triple_answered
    apply triple_ensureWritable
    · exact refused
    apply triple_normalizedTime
    · exact refused
    intro normal normalized
    apply triple_baseEntry held
    · exact refused
    intro base found
    apply stores
    · exact ⟨fun _ => rfl, fun _ => rfl⟩
    · rfl
    · simp [next, normalized, found]
    · exact normalized
  | setTitle sessionId title =>
    apply triple_answered
    apply triple_ensureWritable
    · exact refused
    apply triple_baseEntry held
    · exact refused
    intro base found
    apply stores
    · exact ⟨fun _ => rfl, fun _ => rfl⟩
    · rfl
    · simp [next, found]
    · rfl
  | setTitleIfEmpty sessionId title =>
    apply triple_ensureWritable
    · exact refused
    apply triple_baseEntry held
    · exact refused
    intro base found
    apply triple_ite
    · intro stays
      apply triple_pure
      apply idle _ rfl
      simp only [next, found, Option.bind_some, if_pos stays]
    · intro empty
      apply triple_answered
      apply stores
      · exact ⟨fun _ => rfl, fun _ => rfl⟩
      · rfl
      · simp only [next, found, Option.bind_some, if_neg empty]
      · rfl
  | setTags sessionId tags =>
    apply triple_answered
    apply triple_ensureWritable
    · exact refused
    apply triple_baseEntry held
    · exact refused
    intro base found
    apply stores
    · exact ⟨fun _ => rfl, fun _ => rfl⟩
    · rfl
    · simp [next, found]
    · rfl
  | delete sessionId =>
    apply triple_answered
    apply triple_ensureWritable
    · exact refused
    apply Triple.look
    intro original store holds
    obtain ⟨before, seen⟩ := holds
    rw [held store before] at seen
    exact seen ▸ deletes sessionId rfl store before

end Course

end IndexOperation

end OpenJax.Transcript
