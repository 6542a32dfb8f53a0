import OpenJax.Web.LiveView

set_option autoImplicit false

namespace OpenJax.Web

open Shared

def trimText (text : String) : String := String.ofList (trimmedText text.toList)

/-- `replace(/\s+/g, " ")`; the flag says that a run of white space has been replaced already. -/
def collapsed : Bool → List Char → List Char
  | _, [] => []
  | replaced, c :: rest =>
      if isWhiteSpace c then if replaced then collapsed true rest else ' ' :: collapsed true rest
      else c :: collapsed false rest

def SESSION_TITLE_MAX_CODE_POINTS : Nat := 24

def summarizeTitle (input : String) : String :=
  let plain := trimmedText (collapsed false input.toList)
  if SESSION_TITLE_MAX_CODE_POINTS < plain.length then
    String.ofList (plain.take SESSION_TITLE_MAX_CODE_POINTS) ++ "..."
  else String.ofList plain

section

variable {text : List Char} {c : Char}

theorem mem_collapsed (black : isWhiteSpace c = false) (member : c ∈ text) (replaced : Bool) :
    c ∈ collapsed replaced text := by
  induction text generalizing replaced with
  | nil => cases member
  | cons first rest ih =>
    rw [collapsed]
    rcases List.mem_cons.mp member with rfl | later
    · rw [black]
      exact List.mem_cons_self
    · split
      · split
        · exact ih later true
        · exact List.mem_cons_of_mem _ (ih later true)
      · exact List.mem_cons_of_mem _ (ih later false)

theorem summarizeTitle_filled {content : String} (filled : trimText content ≠ "") :
    summarizeTitle (trimText content) ≠ "" := by
  have text : trimmedText content.toList ≠ [] := by
    intro nothing
    exact filled (by rw [trimText, nothing])
  obtain ⟨c, member, black⟩ := black_of_trimmedText text
  have plain : trimmedText (collapsed false (trimText content).toList) ≠ [] := by
    apply List.ne_nil_of_mem
    apply mem_trimmedText black
    apply mem_collapsed black
    rw [trimText, String.toList_ofList]
    exact member
  unfold summarizeTitle
  simp only
  intro same
  have nothing := congrArg String.toList same
  split at nothing
  · rw [String.toList_append] at nothing
    have ending := (List.append_eq_nil_iff.mp nothing).2
    cases ending
  · rw [String.toList_ofList] at nothing
    exact plain nothing

end

structure TitledSession where
  view : LiveView
  title : String
  isPlaceholderTitle : Bool

def isBusyTurnPhase (phase : TurnPhase) : Bool := phase = .submitting || phase = .streaming

structure Submission where
  message : String
  optimisticMessageId : MessageId
  priorTurnPhase : TurnPhase
  priorTitle : String
  priorIsPlaceholderTitle : Bool
  priorMessageCount : Nat
  optimisticTitle : Option String

/-- Nothing is sent when the text is blank, another submission of the session is on its way, or a
turn is running. -/
def beginSubmission (content : String) (optimisticMessageId : MessageId) (gateAccepted : Bool)
    (current : TitledSession) : Option Submission :=
  let message := trimText content
  let session := current.view.session
  if message = "" then none
  else if !gateAccepted then none
  else if isBusyTurnPhase session.turnPhase then none
  else
    some
      { message := message
        optimisticMessageId := optimisticMessageId
        priorTurnPhase := session.turnPhase
        priorTitle := current.title
        priorIsPlaceholderTitle := current.isPlaceholderTitle
        priorMessageCount := session.messages.length
        optimisticTitle :=
          if session.messages.length = 0 then some (summarizeTitle message) else none }

def Submission.optimisticMessage (submission : Submission) (timestamp : String)
    (session : ChatSession) : ChatMessage :=
  { id := submission.optimisticMessageId, kind := .text, role := .user
    content := submission.message, timestamp := timestamp
    startEventSeq := some (session.lastEventSeq + 1)
    lastEventSeq := some (session.lastEventSeq + 1) }

def Submission.optimisticUpdate (submission : Submission) (timestamp : String) (current : TitledSession) :
    TitledSession :=
  let session := current.view.session
  let first := session.messages.length = 0
  { view :=
      { current.view with
        session :=
          { session with
            turnPhase := .submitting
            messages := session.messages ++ [submission.optimisticMessage timestamp session] } }
    title := if first then submission.optimisticTitle.getD current.title else current.title
    isPlaceholderTitle := if first then false else current.isPlaceholderTitle }

def Submission.ownsTitle (submission : Submission) (current : TitledSession) : Bool :=
  submission.priorMessageCount = 0 &&
    (truthy submission.optimisticTitle).any fun title => current.title = title

def Submission.rollback (submission : Submission) (current : TitledSession) : TitledSession :=
  let session := current.view.session
  { view :=
      { current.view with
        session :=
          { session with
            turnPhase :=
              if session.turnPhase = .submitting then submission.priorTurnPhase
              else session.turnPhase
            messages :=
              session.messages.filter fun item => item.id ≠ submission.optimisticMessageId } }
    title := if submission.ownsTitle current then submission.priorTitle else current.title
    isPlaceholderTitle :=
      if submission.ownsTitle current then submission.priorIsPlaceholderTitle
      else current.isPlaceholderTitle }

inductive PendingStep where
  | live (step : LiveStep)
  -- An event that is applied to the session alone, as those of a timeline are.
  | replayed (event : StreamEvent)

variable (host : Host) (sessionId : String)

def pendingStep (view : LiveView) : PendingStep → LiveView
  | .live step => liveStep host sessionId view step
  | .replayed event => { view with session := applySingleSessionEvent host view.session event }

def runPending (view : LiveView) (steps : List PendingStep) : LiveView :=
  steps.foldl (pendingStep host sessionId) view

def TitledSession.wait (steps : List PendingStep) (current : TitledSession) : TitledSession :=
  { current with view := runPending host sessionId current.view steps }

def sendMessageAction (content uuid timestamp : String) (gateAccepted : Bool)
    (steps : List PendingStep) (current : TitledSession) : TitledSession :=
  match beginSubmission content (.named uuid) gateAccepted current with
  | none => current.wait host sessionId steps
  | some submission =>
      submission.rollback ((submission.optimisticUpdate timestamp current).wait host sessionId steps)

end OpenJax.Web
