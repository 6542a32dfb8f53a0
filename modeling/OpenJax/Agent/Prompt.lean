import OpenJax.Model.Types

set_option autoImplicit false

namespace OpenJax.Agent

open Model

structure TurnRecord where
  userInput : String
  toolTraces : List String
  assistantOutput : String
  deriving DecidableEq, Repr

inductive HistoryItem where
  | turn (record : TurnRecord)
  | summary (text : String)
  deriving DecidableEq, Repr

def turnText (number : Nat) (record : TurnRecord) : String :=
  let toolsSection :=
    if record.toolTraces.isEmpty then ""
    else "\nTools:\n  " ++ String.intercalate "\n  " record.toolTraces
  s!"[Turn {number}]\nUser: {record.userInput}{toolsSection}\nAssistant: {record.assistantOutput}"

def historyTexts (number : Nat) : List HistoryItem → List String
  | [] => []
  | .turn record :: rest => turnText (number + 1) record :: historyTexts (number + 1) rest
  | .summary text :: rest => text :: historyTexts number rest

def inputText (userInput : String) (loopRecovery : Option String) : String :=
  match loopRecovery with
  | some recovery => userInput ++ "\n\n" ++ recovery
  | none => userInput

def buildTurnMessages (userInput : String) (history : List HistoryItem)
    (loopRecovery : Option String) : List ConversationMessage :=
  let prior :=
    if history.isEmpty then []
    else
      let summary := String.intercalate "\n\n" (historyTexts 0 history)
      [.user [.text s!"<prior_conversation>\n{summary}\n</prior_conversation>"]]
  prior ++ [.user [.text (inputText userInput loopRecovery)]]

def refreshBlocks (text : String) : List UserContentBlock → Option (List UserContentBlock)
  | [] => none
  | .text _ :: rest => some (.text text :: rest)
  | block :: rest => (refreshBlocks text rest).map (block :: ·)

def refreshLast (text : String) : List ConversationMessage → Option (List ConversationMessage)
  | [] => none
  | message :: rest =>
      match refreshLast text rest, message with
      | some refreshed, _ => some (message :: refreshed)
      | none, .user blocks => (refreshBlocks text blocks).map fun changed => .user changed :: rest
      | none, .assistant _ => none

def refreshLoopRecoveryInMessages (messages : List ConversationMessage) (userInput : String)
    (loopRecovery : Option String) : List ConversationMessage :=
  (refreshLast (inputText userInput loopRecovery) messages).getD messages

end OpenJax.Agent
