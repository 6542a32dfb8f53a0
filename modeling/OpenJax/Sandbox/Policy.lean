import OpenJax.Shared.Json
import OpenJax.Shared.Text
import OpenJax.Tools.Context

set_option autoImplicit false

namespace OpenJax.Sandbox

open Shared Tools

inductive SandboxCapability where
  | fsRead
  | fsWrite
  | processExec
  | network
  | envRead
  | envWrite
  deriving DecidableEq, Repr

def writeTokens : List String :=
  [">", ">>", "tee ", "touch ", "mkdir ", "rmdir ", "rm ", "mv ", "cp ", "chmod ", "chown ",
    "sed -i", "perl -i", "truncate ", "git add ", "git commit", "git merge", "git rebase",
    "git cherry-pick", "git tag -a", "git reset --hard", "git clean -fd"]

def networkTokens : List String :=
  ["curl ", "wget ", "ssh ", "scp ", "nc ", "nmap ", "ping ", "dig ", "nslookup "]

def readTokens : List String :=
  ["cat ", "ls ", "rg ", "grep ", "find ", "head ", "tail ", "wc ", "sed ", "awk ", "stat ",
    "uname ", "which ", "printf "]

def destructivePatterns : List String := ["rm -rf /", "mkfs", "dd if=", ":()\x7b:|:&\x7d;:"]

def startsWithEnvAssignment (command : String) : Bool :=
  let text := command.toList
  let left := text.takeWhile (· != ' ')
  text.contains ' ' && left.contains '=' && !startsWith command "./" && !startsWith command "/"

def detectCapabilities (command : String) : List SandboxCapability :=
  let lower := command.toLower
  [(.fsRead, readTokens.any (containsText lower)),
    (.fsWrite, writeTokens.any (containsText lower)),
    (.processExec, true),
    (.network, networkTokens.any (containsText lower)),
    (.envRead, lower.toList.contains '$' || containsText lower " env" || startsWith lower "env "),
    (.envWrite, containsText lower "export " || startsWithEnvAssignment command)].filterMap
      fun (capability, found) => if found then some capability else none

def extractShellRiskTags (command : String) (requireEscalated : Bool) : List String :=
  let lower := command.toLower
  let capabilities := detectCapabilities command
  [("destructive", destructivePatterns.any (containsText lower)),
    ("network", capabilities.contains .network),
    ("privilege_escalation", containsText lower "sudo "),
    ("require_escalated", requireEscalated),
    ("write", capabilities.contains .fsWrite || capabilities.contains .envWrite)].filterMap
      fun (tag, found) => if found then some tag else none

def parseBoolish (value : Json) : Option Bool :=
  match value.asBool? with
  | some flag => some flag
  | none =>
      match value.asStr?.map String.toLower with
      | some "true" | some "1" | some "yes" => some true
      | some "false" | some "0" | some "no" => some false
      | _ => none

/-- `parseJson` is the JSON reader of the third-party package. -/
def extractShellCommand (parseJson : String → Option Json) (invocation : ToolInvocation) :
    Option (String × Bool) :=
  match invocation.payload with
  | .function arguments => do
      let json ← parseJson arguments
      let command ← (← json.get? "cmd").asStr?
      let requireEscalated := ((json.get? "require_escalated").bind parseBoolish).getD false
      return (command, requireEscalated)
  | _ => none

end OpenJax.Sandbox
