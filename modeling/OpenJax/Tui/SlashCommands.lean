import OpenJax.Shared.Text
import Mathlib.Data.List.Sort

set_option autoImplicit false

namespace OpenJax.Tui

open Shared

inductive SlashCommandKind where
  | builtin (message : String) (replacesInput : Bool)
  | sessionAction (action : String)
  | skill (skillName : String)
  | localPicker (name : String)

def SlashCommandKind.sessionActionName : SlashCommandKind → Option String
  | .sessionAction action => some action
  | _ => none

structure SlashCommand where
  name : String
  aliases : List String
  description : String
  kind : SlashCommandKind

structure SlashMatch where
  commandName : String
  kind : SlashCommandKind

def SlashCommand.toMatch (command : SlashCommand) : SlashMatch := ⟨command.name, command.kind⟩

/-- `format!("/\x7b:<8\x7d \x7b\x7d", name, description)` -/
def helpLine (command : SlashCommand) : String :=
  "/" ++ command.name ++ String.ofList (List.replicate (8 - command.name.length) ' ') ++ " " ++
    command.description

def builtinHelpHandler (commands : List SlashCommand) : String :=
  "\n".intercalate (commands.map helpLine)

def clearCommand : SlashCommand :=
  ⟨"clear", ["cls"], "Clear current session context", .sessionAction "clear"⟩

def compactCommand : SlashCommand :=
  ⟨"compact", [], "Compact conversation history", .sessionAction "compact"⟩

def policyCommand : SlashCommand :=
  ⟨"policy", [], "Switch policy level (permissive / standard / strict)", .localPicker "policy"⟩

def helpCommand (message : String) : SlashCommand :=
  ⟨"help", ["?"], "Show available commands", .builtin message false⟩

def allCommands (skills : List SlashCommand) : List SlashCommand :=
  let others := [clearCommand, compactCommand, policyCommand] ++ skills
  helpCommand (builtinHelpHandler (helpCommand "" :: others)) :: others

/-- `name.trim().strip_prefix('/').unwrap_or(name)` -/
def normalizeName (name : String) : String :=
  match trimChars name.toList with
  | '/' :: rest => String.ofList rest
  | _ => name

def findExact (skills : List SlashCommand) (query : String) : Option SlashMatch :=
  let normalized := normalizeName query
  ((allCommands skills).find? fun command =>
    command.name = normalized || normalized ∈ command.aliases).map SlashCommand.toMatch

def charsBefore : List Char → List Char → Bool
  | [], _ => true
  | _ :: _, [] => false
  | first :: rest, other :: others =>
      first.toNat < other.toNat || (first = other && charsBefore rest others)

def matchBefore (normalized : String) (first second : SlashMatch) : Prop :=
  (first.commandName = normalized ∧ second.commandName ≠ normalized) ∨
    (¬ (second.commandName = normalized ∧ first.commandName ≠ normalized) ∧
      charsBefore first.commandName.toList second.commandName.toList = true)

instance (normalized : String) : DecidableRel (matchBefore normalized) :=
  fun _ _ => inferInstanceAs (Decidable (_ ∨ _))

def matchCommands (skills : List SlashCommand) (query : String) (limit : Nat) : List SlashMatch :=
  let normalized := normalizeName query
  let found := (allCommands skills).filter fun command =>
    startsWith command.name normalized || command.aliases.any (startsWith · normalized)
  ((found.map SlashCommand.toMatch).insertionSort (matchBefore normalized)).take limit

end OpenJax.Tui
