import Mathlib.Logic.Function.Basic
import OpenJax.Shared.Redelivery
import OpenJax.Store.Providers

set_option autoImplicit false

namespace OpenJax.Store

open Shared

structure SessionRecord where
  sessionId : String
  title : Option String
  createdAt : String
  updatedAt : String
  deriving DecidableEq

structure MessageRecord where
  messageId : String
  sessionId : String
  turnId : Option String
  role : String
  content : String
  sequence : Nat
  createdAt : String
  deriving DecidableEq

structure SessionStore where
  sessions : List SessionRecord
  messages : List MessageRecord
  deriving DecidableEq

inductive SessionCall where
  | createSession (sessionId : String) (title : Option String)
  | touchSession (sessionId : String)
  | deleteSession (sessionId : String)
  | appendMessage (sessionId : String) (turnId : Option String) (role content : String)

inductive SessionAnswer where
  | failed
  | created (sessionId : String)
  | touched (found : Bool)
  | deleted (sessionId : String) (found : Bool)
  | appended (record : MessageRecord)
  deriving DecidableEq

namespace SessionStore

def empty : SessionStore := ⟨[], []⟩

def getSession (store : SessionStore) (sessionId : String) : Option SessionRecord :=
  store.sessions.find? fun row => row.sessionId == sessionId

def ofSession (store : SessionStore) (sessionId : String) : List MessageRecord :=
  store.messages.filter fun row => row.sessionId == sessionId

def listMessages (store : SessionStore) (sessionId : String) : List MessageRecord :=
  (store.ofSession sessionId).mergeSort fun left right => decide (left.sequence ≤ right.sequence)

def nextMessageSequence (store : SessionStore) (sessionId : String) : Nat :=
  ((store.ofSession sessionId).map MessageRecord.sequence).max?.getD 0 + 1

def touch (sessionId now : String) (store : SessionStore) : SessionStore :=
  { store with
    sessions := updateWhere (fun row => row.sessionId == sessionId)
      (fun row => { row with updatedAt := now }) store.sessions }

-- The messages of a session go with it, as the foreign key says.
def delete (sessionId : String) (store : SessionStore) : SessionStore :=
  { sessions := deleteWhere (fun row => row.sessionId == sessionId) store.sessions
    messages := deleteWhere (fun row => row.sessionId == sessionId) store.messages }

def insertMessage (record : MessageRecord) (store : SessionStore) : Option SessionStore :=
  if (store.getSession record.sessionId).isNone then none
  else if store.messages.any fun row =>
      row.sessionId == record.sessionId && row.sequence == record.sequence then none
  else
    (insertRow MessageRecord.messageId record store.messages).map fun rows =>
      { store with messages := rows }

def execute (store : SessionStore) (statement : StatementRun) :
    SessionCall → SessionStore × SessionAnswer
  | .createSession sessionId title =>
      match insertRow SessionRecord.sessionId ⟨sessionId, title, statement.now, statement.now⟩
          store.sessions with
      | some rows => ({ store with sessions := rows }, .created sessionId)
      | none => (store, .failed)
  | .touchSession sessionId =>
      (store.touch sessionId statement.now, .touched (store.getSession sessionId).isSome)
  | .deleteSession sessionId =>
      (store.delete sessionId, .deleted sessionId (store.getSession sessionId).isSome)
  | .appendMessage sessionId turnId role content =>
      let record : MessageRecord :=
        { messageId := s!"msg_{statement.uuid}"
          sessionId := sessionId
          turnId := turnId
          role := role
          content := content
          sequence := store.nextMessageSequence sessionId
          createdAt := statement.now }
      match store.insertMessage record with
      | some next => (next.touch sessionId statement.now, .appended record)
      | none => (store, .failed)

/-- A call in its transaction; a statement that fails undoes those before it. -/
def perform (store : SessionStore) (statement : StatementRun) (call : SessionCall) :
    SessionStore × SessionAnswer :=
  if statement.fails then (store, .failed) else store.execute statement call

def serve (store : SessionStore) : List (StatementRun × SessionCall) →
    SessionStore × List SessionAnswer
  | [] => (store, [])
  | (statement, call) :: rest =>
      let (next, answer) := store.perform statement call
      let (final, answers) := next.serve rest
      (final, answer :: answers)

end SessionStore

abbrev Chats := String → Option (List MessageRecord)

/-- What an answer tells of the sessions: each with the messages that were acknowledged since its
creation. -/
def Chats.after (chats : Chats) : SessionAnswer → Chats
  | .created sessionId => Function.update chats sessionId (some [])
  | .deleted sessionId _ => Function.update chats sessionId none
  | .appended record =>
      Function.update chats record.sessionId
        ((chats record.sessionId).map fun messages => messages ++ [record])
  | .touched _ | .failed => chats

namespace SessionStore

def chats (store : SessionStore) : Chats := fun sessionId =>
  if (store.getSession sessionId).isSome then some (store.listMessages sessionId) else none

structure Kept (store : SessionStore) : Prop where
  owned : ∀ record ∈ store.messages, (store.getSession record.sessionId).isSome = true
  numbered : ∀ sessionId, NumberedBy MessageRecord.sequence (store.ofSession sessionId)

theorem kept_empty : Kept .empty :=
  ⟨nofun, fun _ => nofun⟩

variable {store : SessionStore}

theorem mem_ofSession {sessionId : String} {record : MessageRecord} :
    record ∈ store.ofSession sessionId ↔
      record ∈ store.messages ∧ record.sessionId = sessionId := by
  simp [ofSession]

@[simp] theorem ofSession_touch (sessionId now other : String) :
    (store.touch sessionId now).ofSession other = store.ofSession other := rfl

@[simp] theorem isSome_touch (sessionId now other : String) :
    ((store.touch sessionId now).getSession other).isSome = (store.getSession other).isSome := by
  unfold getSession touch
  rw [find_updateWhere, Option.isSome_map]
  exact fun _ => rfl

theorem getSession_delete (sessionId other : String) :
    (store.delete sessionId).getSession other =
      if other = sessionId then none else store.getSession other := by
  unfold getSession delete deleteWhere
  rw [List.find?_filter]
  split
  · apply List.find?_eq_none.mpr
    grind
  · congr 1
    grind

theorem ofSession_delete (sessionId other : String) :
    (store.delete sessionId).ofSession other =
      if other = sessionId then [] else store.ofSession other := by
  unfold ofSession delete deleteWhere
  rw [List.filter_filter]
  split
  · apply List.filter_eq_nil_iff.mpr
    grind
  · congr 1
    grind

theorem Kept.listMessages_eq (kept : store.Kept) (sessionId : String) :
    store.listMessages sessionId = store.ofSession sessionId := by
  apply List.mergeSort_of_pairwise
  exact (kept.numbered sessionId).pairwise.imp fun before => decide_eq_true (Nat.le_of_lt before)

theorem Kept.next_eq (kept : store.Kept) (sessionId : String) :
    store.nextMessageSequence sessionId = (store.ofSession sessionId).length + 1 := by
  rw [nextMessageSequence, (kept.numbered sessionId).max_eq]

theorem Kept.chats_eq (kept : store.Kept) (sessionId : String) :
    store.chats sessionId =
      if (store.getSession sessionId).isSome then some (store.ofSession sessionId) else none := by
  rw [chats, kept.listMessages_eq]

theorem Kept.absent (kept : store.Kept) {sessionId : String}
    (absent : (store.getSession sessionId).isSome = false) : store.ofSession sessionId = [] := by
  apply List.eq_nil_iff_forall_not_mem.mpr
  intro record member
  obtain ⟨among, rfl⟩ := mem_ofSession.mp member
  exact absurd (kept.owned record among) (by simp [absent])

theorem perform_create (kept : store.Kept) {sessionId : String} {title : Option String}
    {now : String} {rows : List SessionRecord}
    (inserted : insertRow SessionRecord.sessionId ⟨sessionId, title, now, now⟩ store.sessions =
      some rows) :
    Kept { store with sessions := rows } ∧
      chats { store with sessions := rows } = Function.update store.chats sessionId (some []) := by
  obtain ⟨fresh, rfl⟩ := insertRow_some inserted
  have absent : (store.getSession sessionId).isSome = false := by
    rw [Option.isSome_eq_false_iff, Option.isNone_iff_eq_none]
    apply List.find?_eq_none.mpr
    intro row member same
    exact fresh (List.mem_map.mpr ⟨row, member, beq_iff_eq.mp same⟩)
  have found (other : String) : (getSession ⟨store.sessions ++ [⟨sessionId, title, now, now⟩],
      store.messages⟩ other).isSome = ((store.getSession other).isSome || sessionId == other) := by
    rw [getSession, List.find?_append, List.find?_singleton, Option.isSome_or]
    cases sessionId == other <;> rfl
  have keeps : Kept ⟨store.sessions ++ [⟨sessionId, title, now, now⟩], store.messages⟩ :=
    ⟨fun record member => by rw [found, kept.owned record member, Bool.true_or], kept.numbered⟩
  refine ⟨keeps, ?_⟩
  funext other
  rw [keeps.chats_eq, found]
  by_cases own : other = sessionId
  · subst own
    simpa [ofSession] using kept.absent absent
  · simp [own, Ne.symm own, kept.chats_eq, ofSession]

theorem perform_delete (kept : store.Kept) (sessionId : String) :
    (store.delete sessionId).Kept ∧
      (store.delete sessionId).chats = Function.update store.chats sessionId none := by
  have keeps : (store.delete sessionId).Kept := by
    constructor
    · intro record member
      obtain ⟨among, apart⟩ := List.mem_filter.mp member
      rw [getSession_delete, if_neg (by simpa using apart)]
      exact kept.owned record among
    · intro other
      rw [ofSession_delete]
      split
      · exact nofun
      · exact kept.numbered other
  refine ⟨keeps, ?_⟩
  funext other
  rw [keeps.chats_eq, getSession_delete, ofSession_delete]
  by_cases own : other = sessionId
  · simp [own]
  · simp [own, kept.chats_eq]

theorem perform_touch (kept : store.Kept) (sessionId now : String) :
    (store.touch sessionId now).Kept ∧ (store.touch sessionId now).chats = store.chats := by
  have keeps : (store.touch sessionId now).Kept :=
    ⟨fun record member => (isSome_touch ..).trans (kept.owned record member), kept.numbered⟩
  refine ⟨keeps, ?_⟩
  funext other
  rw [keeps.chats_eq, kept.chats_eq, isSome_touch, ofSession_touch]

theorem insertMessage_eq (kept : store.Kept) {record : MessageRecord}
    (numbered : record.sequence = store.nextMessageSequence record.sessionId) :
    store.insertMessage record =
      if (store.getSession record.sessionId).isSome ∧
          record.messageId ∉ store.messages.map MessageRecord.messageId then
        some { store with messages := store.messages ++ [record] }
      else none := by
  have free : ¬ (store.messages.any fun row =>
      row.sessionId == record.sessionId && row.sequence == record.sequence) = true := by
    intro taken
    obtain ⟨row, member, same⟩ := List.any_eq_true.mp taken
    simp only [Bool.and_eq_true, beq_iff_eq] at same
    obtain ⟨index, there⟩ := List.getElem?_of_mem (mem_ofSession.mpr ⟨member, same.1⟩)
    have number := kept.numbered _ index row there
    have inside := (List.getElem?_eq_some_iff.mp there).1
    rw [kept.next_eq] at numbered
    omega
  rw [insertMessage, if_neg free, insertRow]
  cases store.getSession record.sessionId with
  | none => rfl
  | some session =>
    by_cases drawn : record.messageId ∈ store.messages.map MessageRecord.messageId <;>
      simp only [drawn, Option.isNone_some, Bool.false_eq_true, if_false, if_true, not_true,
        not_false_eq_true, and_false, Option.isSome_some, and_self, Option.map_none,
        Option.map_some]

theorem perform_append (kept : store.Kept) {record : MessageRecord}
    (numbered : record.sequence = store.nextMessageSequence record.sessionId)
    (known : (store.getSession record.sessionId).isSome = true) :
    Kept { store with messages := store.messages ++ [record] } ∧
      chats { store with messages := store.messages ++ [record] } =
        store.chats.after (.appended record) := by
  have rows (other : String) : ofSession ⟨store.sessions, store.messages ++ [record]⟩ other =
      if other = record.sessionId then store.ofSession other ++ [record]
      else store.ofSession other := by
    rw [ofSession, List.filter_append]
    split
    next own => simp [own, ofSession]
    next apart => simp [Ne.symm apart, ofSession]
  have keeps : Kept ⟨store.sessions, store.messages ++ [record]⟩ := by
    constructor
    · intro other member
      rcases List.mem_append.mp member with old | new
      · exact kept.owned other old
      · exact List.mem_singleton.mp new ▸ known
    · intro other
      rw [rows]
      split
      next own =>
        apply (kept.numbered other).append
        rw [numbered, kept.next_eq, own]
      · exact kept.numbered other
  refine ⟨keeps, ?_⟩
  funext other
  rw [keeps.chats_eq, rows, Chats.after, kept.chats_eq, if_pos known]
  by_cases own : other = record.sessionId
  · subst own
    rw [Function.update_self, if_pos rfl]
    exact if_pos known
  · rw [Function.update_of_ne own, if_neg own, kept.chats_eq]
    rfl

theorem perform_kept (kept : store.Kept) (statement : StatementRun) (call : SessionCall) :
    (store.perform statement call).1.Kept ∧
      (store.perform statement call).1.chats =
        store.chats.after (store.perform statement call).2 := by
  unfold perform
  split
  · exact ⟨kept, rfl⟩
  cases call with
  | createSession sessionId title =>
    cases inserted : insertRow SessionRecord.sessionId
        ⟨sessionId, title, statement.now, statement.now⟩ store.sessions with
    | none => simpa only [execute, inserted] using ⟨kept, rfl⟩
    | some rows => simpa only [execute, inserted, Chats.after] using perform_create kept inserted
  | touchSession sessionId => exact perform_touch kept sessionId statement.now
  | deleteSession sessionId => exact perform_delete kept sessionId
  | appendMessage sessionId turnId role content =>
    simp only [execute]
    generalize made : MessageRecord.mk _ sessionId turnId role content _ statement.now = record
    have numbered : record.sequence = store.nextMessageSequence record.sessionId := by
      rw [← made]
    rw [insertMessage_eq kept numbered]
    split_ifs with taken
    · obtain ⟨keeps, told⟩ := perform_append kept numbered taken.1
      obtain ⟨touched, same⟩ := perform_touch keeps sessionId statement.now
      exact ⟨touched, same.trans told⟩
    · exact ⟨kept, rfl⟩

theorem serve_kept (kept : store.Kept) (calls : List (StatementRun × SessionCall)) :
    (store.serve calls).1.Kept ∧
      (store.serve calls).1.chats = (store.serve calls).2.foldl Chats.after store.chats := by
  induction calls generalizing store with
  | nil => exact ⟨kept, rfl⟩
  | cons call rest ih =>
    obtain ⟨keeps, told⟩ := perform_kept kept call.1 call.2
    obtain ⟨final, chats⟩ := ih keeps
    rw [told] at chats
    exact ⟨final, chats⟩

theorem append_failed (kept : store.Kept) (sessionId : String) (statement : StatementRun)
    (turnId : Option String) (role content : String) :
    (store.perform statement (.appendMessage sessionId turnId role content)).2 = .failed ↔
      statement.fails ∨ store.chats sessionId = none ∨
        s!"msg_{statement.uuid}" ∈ store.messages.map MessageRecord.messageId := by
  unfold perform
  by_cases fails : statement.fails = true
  · simp [fails]
  rw [if_neg fails]
  simp only [execute]
  rw [insertMessage_eq kept rfl, chats]
  split_ifs with taken known known <;> simp_all

end SessionStore

end OpenJax.Store
