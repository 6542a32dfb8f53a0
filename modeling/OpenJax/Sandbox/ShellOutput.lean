import OpenJax.Sandbox.Execution
import OpenJax.Shared.TextLines

set_option autoImplicit false

namespace OpenJax.Sandbox

open Shared Tools

def parseI32 (text : List Char) : Option ExitCode := readSigned (-2147483648) 2147483647 text

def parseBool (text : List Char) : Option Bool :=
  if text = "true".toList then some true
  else if text = "false".toList then some false
  else none

def optionalShellField (value : List Char) : Option String :=
  if value.isEmpty || value == "none".toList then none else some (String.ofList value)

@[ext] structure ShellFields where
  resultClass : Option String
  backend : Option String
  exitCode : Option ExitCode
  policyDecision : Option String
  runtimeAllowed : Option Bool
  degradeReason : Option String
  runtimeDenyReason : Option String

def ShellFields.empty : ShellFields := ⟨none, none, none, none, none, none, none⟩

def readShellField (fields : ShellFields) (line : List Char) : ShellFields :=
  if let some v := stripPrefix? "result_class=" line then
    { fields with resultClass := some (String.ofList v) }
  else if let some v := stripPrefix? "backend=" line then
    { fields with backend := some (String.ofList v) }
  else if let some v := stripPrefix? "exit_code=" line then
    { fields with exitCode := parseI32 v }
  else if let some v := stripPrefix? "policy_decision=" line then
    { fields with policyDecision := some (String.ofList v) }
  else if let some v := stripPrefix? "runtime_allowed=" line then
    { fields with runtimeAllowed := parseBool v }
  else if let some v := stripPrefix? "degrade_reason=" line then
    { fields with degradeReason := optionalShellField v }
  else if let some v := stripPrefix? "runtime_deny_reason=" line then
    { fields with runtimeDenyReason := optionalShellField v }
  else fields

def ShellFields.metadata (fields : ShellFields) : Option ShellExecutionMetadata :=
  fields.exitCode.bind fun exitCode =>
    fields.resultClass.bind fun resultClass =>
      fields.backend.bind fun backend =>
        fields.policyDecision.bind fun policyDecision =>
          fields.runtimeAllowed.map fun runtimeAllowed =>
            { resultClass := resultClass
              backend := backend
              exitCode := exitCode
              policyDecision := policyDecision
              runtimeAllowed := runtimeAllowed
              degradeReason := fields.degradeReason
              runtimeDenyReason := fields.runtimeDenyReason }

structure ShellSections where
  header : List Char
  stdout : List Char
  stderr : List Char

def shellSections (displayOutput : List Char) : Option ShellSections :=
  (splitOnce "\nstdout:\n".toList displayOutput).bind fun (header, body) =>
    (splitOnce "\nstderr:\n".toList body).map fun (stdout, stderr) => ⟨header, stdout, stderr⟩

def buildShellModelContent (exitCode : ExitCode) (stdout stderr : String) : String :=
  let modelContent := s!"exit_code={exitCode.val}\nstdout:\n{stdout}"
  if stderr.isEmpty then modelContent else modelContent ++ "\nstderr:\n" ++ stderr

def parseShellDisplayOutput (displayOutput : String) : Option (String × ShellExecutionMetadata) :=
  (shellSections displayOutput.toList).bind fun sections =>
    ((textLines sections.header).foldl readShellField .empty).metadata.map fun metadata =>
      (buildShellModelContent metadata.exitCode (String.ofList sections.stdout)
        (String.ofList sections.stderr), metadata)

def isShellTool (toolName : String) : Bool := toolName == "shell" || toolName == "exec_command"

def normalizeToolOutput (toolName displayOutput : String) :
    String × String × Option ShellExecutionMetadata :=
  if isShellTool toolName then
    match parseShellDisplayOutput displayOutput with
    | some (modelContent, metadata) => (modelContent, displayOutput, some metadata)
    | none => (displayOutput, displayOutput, none)
  else (displayOutput, displayOutput, none)

theorem readShellField_eq (fields : ShellFields) (line : List Char) :
    readShellField fields line =
      { resultClass := ((stripPrefix? "result_class=" line).map (some <| String.ofList ·)).getD
          fields.resultClass
        backend := ((stripPrefix? "backend=" line).map (some <| String.ofList ·)).getD
          fields.backend
        exitCode := ((stripPrefix? "exit_code=" line).map parseI32).getD fields.exitCode
        policyDecision :=
          ((stripPrefix? "policy_decision=" line).map (some <| String.ofList ·)).getD
            fields.policyDecision
        runtimeAllowed := ((stripPrefix? "runtime_allowed=" line).map parseBool).getD
          fields.runtimeAllowed
        degradeReason :=
          ((stripPrefix? "degrade_reason=" line).map optionalShellField).getD
            fields.degradeReason
        runtimeDenyReason :=
          ((stripPrefix? "runtime_deny_reason=" line).map optionalShellField).getD
            fields.runtimeDenyReason } := by
  have alone {name : String} {v : List Char} (found : stripPrefix? name line = some v)
      (other : String) (longer : ¬name.toList <+: other.toList)
      (shorter : ¬other.toList <+: name.toList) : stripPrefix? other line = none :=
    stripPrefix_of_other found longer shorter
  unfold readShellField
  cases resultClass : stripPrefix? "result_class=" line
  case some v =>
    simp (disch := decide) only [alone resultClass, Option.map_some, Option.map_none,
      Option.getD_some, Option.getD_none]
  cases backend : stripPrefix? "backend=" line
  case some v =>
    simp (disch := decide) only [alone backend, Option.map_some, Option.map_none,
      Option.getD_some, Option.getD_none]
  cases exitCode : stripPrefix? "exit_code=" line
  case some v =>
    simp (disch := decide) only [alone exitCode, Option.map_some, Option.map_none,
      Option.getD_some, Option.getD_none]
  cases policyDecision : stripPrefix? "policy_decision=" line
  case some v =>
    simp (disch := decide) only [alone policyDecision, Option.map_some, Option.map_none,
      Option.getD_some, Option.getD_none]
  cases runtimeAllowed : stripPrefix? "runtime_allowed=" line
  case some v =>
    simp (disch := decide) only [alone runtimeAllowed, Option.map_some, Option.map_none,
      Option.getD_some, Option.getD_none]
  cases degradeReason : stripPrefix? "degrade_reason=" line
  case some v =>
    simp (disch := decide) only [alone degradeReason, Option.map_some, Option.map_none,
      Option.getD_some, Option.getD_none]
  cases runtimeDenyReason : stripPrefix? "runtime_deny_reason=" line
  case some v =>
    simp (disch := decide) only [Option.map_some, Option.map_none,
      Option.getD_some, Option.getD_none]
  simp only [Option.map_none, Option.getD_none]

structure ShellReport where
  command : String
  resultClass : SandboxResultClass
  backend : SandboxBackend
  exitCode : ExitCode
  policyDecision : TraceDecision
  runtimeAllowed : Bool
  degradeReason : Option String
  runtimeDenyReason : Option String
  stdout : String
  stderr : String

namespace ShellReport

def metadata (report : ShellReport) : ShellExecutionMetadata :=
  { resultClass := report.resultClass.asStr
    backend := report.backend.asStr
    exitCode := report.exitCode
    policyDecision := report.policyDecision.debugText
    runtimeAllowed := report.runtimeAllowed
    degradeReason := report.degradeReason
    runtimeDenyReason := report.runtimeDenyReason }

def display (report : ShellReport) : String :=
  displayOutput report.command report.metadata report.stdout report.stderr

def degradeText (report : ShellReport) : List Char := (report.degradeReason.getD "none").toList

def denyText (report : ShellReport) : List Char := (report.runtimeDenyReason.getD "none").toList

def fields (report : ShellReport) : List (String × List Char) :=
  [("result_class=", report.resultClass.asStr.toList),
    ("command=", report.command.toList),
    ("backend=", report.backend.asStr.toList),
    ("policy_decision=", report.policyDecision.debugText.toList),
    ("runtime_allowed=", (toString report.runtimeAllowed).toList),
    ("degrade_reason=", report.degradeText),
    ("runtime_deny_reason=", report.denyText)]

def exitText (report : ShellReport) : List Char :=
  "exit_code=".toList ++ (toString report.exitCode.val).toList

def header (report : ShellReport) : List Char := fieldsText report.fields report.exitText

variable (report : ShellReport)

theorem display_sections :
    report.display.toList =
      report.header ++ ("\nstdout:\n".toList ++
        (report.stdout.toList ++ ("\nstderr:\n".toList ++ report.stderr.toList))) := by
  unfold display displayOutput shellModelContent header fields exitText degradeText denyText
  have shown (text : String) : toString text = text := rfl
  simp only [fieldsText]
  simp only [metadata, shown, String.toList_append, String.reduceToList, List.append_assoc,
    List.cons_append, List.nil_append]

theorem exitText_plain : '\n' ∉ report.exitText := by
  intro member
  rcases List.mem_append.mp member with named | shown
  · exact absurd named (by decide)
  · exact notMem_toString (by decide) (by decide) _ shown

theorem textLines_header :
    textLines report.header = fieldsLines report.fields ++ [report.exitText] := by
  have exitLine : textLines report.exitText = [report.exitText] :=
    textLines_single report.exitText_plain (List.append_ne_nil_of_left_ne_nil (by decide) _)
  rw [header, textLines_fieldsText _ _, exitLine]
  simp only [fields, List.forall_mem_cons]
  decide

theorem marker_in_header :
    "stdout:".toList ∈ (splitBy '\n' report.header).tail ↔
      "stdout:".toList ∈ (splitBy '\n' report.command.toList).tail ∨
        "stdout:".toList ∈ (splitBy '\n' report.degradeText).tail ∨
          "stdout:".toList ∈ (splitBy '\n' report.denyText).tail := by
  have resultClass : (splitBy '\n' report.resultClass.asStr.toList).tail = [] := by
    cases report.resultClass <;> rfl
  have backend : (splitBy '\n' report.backend.asStr.toList).tail = [] := by
    cases report.backend <;> rfl
  have decision : (splitBy '\n' report.policyDecision.debugText.toList).tail = [] := by
    cases report.policyDecision <;> rfl
  have allowed : (splitBy '\n' (toString report.runtimeAllowed).toList).tail = [] := by
    cases report.runtimeAllowed <;> rfl
  have exitLine : "stdout:".toList ∉ splitBy '\n' report.exitText := by
    rw [splitBy_plain report.exitText_plain, List.mem_singleton]
    intro same
    have named : "exit_code=".toList <+: "stdout:".toList := same ▸ List.prefix_append _ _
    exact absurd named (by decide)
  have names : ∀ field ∈ report.fields, '\n' ∉ field.1.toList ∧ ¬field.1.toList <+: "stdout:".toList := by
    simp only [fields, List.forall_mem_cons]
    decide
  have filled : report.fields ≠ [] := List.cons_ne_nil _ _
  rw [header, mem_fieldsText_tail filled (fun field member => (names field member).1)
    (fun field member => (names field member).2) exitLine]
  simp only [fields, List.mem_cons, List.not_mem_nil, or_false, exists_eq_or_imp, exists_eq_left,
    resultClass, backend, decision, allowed, false_or]

def lastClaim (name : String) (lines : List (List Char)) : Option (List Char) :=
  (claims name lines).getLast?

def reasonLines (report : ShellReport) : List (List Char) :=
  laterLines report.degradeText ++ laterLines report.denyText

theorem claims_header {name : String}
    (apart : ∀ other ∈ ["result_class=", "command=", "backend=", "policy_decision=",
      "runtime_allowed=", "degrade_reason=", "runtime_deny_reason=", "exit_code="],
      other = name ∨ ¬other.toList <+: name.toList ∧ ¬name.toList <+: other.toList) :
    claims name (textLines report.header) =
      (if "result_class=" = name then [report.resultClass.asStr.toList] else []) ++
      (fieldClaims name ("command=", report.command.toList) ++
      ((if "backend=" = name then [report.backend.asStr.toList] else []) ++
      ((if "policy_decision=" = name then [report.policyDecision.debugText.toList] else []) ++
      ((if "runtime_allowed=" = name then [(toString report.runtimeAllowed).toList] else []) ++
      (fieldClaims name ("degrade_reason=", report.degradeText) ++
      (fieldClaims name ("runtime_deny_reason=", report.denyText) ++
      (if "exit_code=" = name then [(toString report.exitCode.val).toList] else []))))))) := by
  have resultClass : '\n' ∉ report.resultClass.asStr.toList ∧
      report.resultClass.asStr.toList.getLast? ≠ some '\r' := by
    cases report.resultClass <;> decide
  have backend : '\n' ∉ report.backend.asStr.toList ∧
      report.backend.asStr.toList.getLast? ≠ some '\r' := by
    cases report.backend <;> decide
  have decision : '\n' ∉ report.policyDecision.debugText.toList ∧
      report.policyDecision.debugText.toList.getLast? ≠ some '\r' := by
    cases report.policyDecision <;> decide
  have allowed : '\n' ∉ (toString report.runtimeAllowed).toList ∧
      (toString report.runtimeAllowed).toList.getLast? ≠ some '\r' := by
    cases report.runtimeAllowed <;> decide
  have exitCode : claims name [report.exitText] =
      if "exit_code=" = name then [(toString report.exitCode.val).toList] else [] :=
    claims_single (apart "exit_code=" (by simp)) _
  have own : ∀ field ∈ report.fields, field.1 = name ∨
      ¬field.1.toList <+: name.toList ∧ ¬name.toList <+: field.1.toList := by
    intro field member
    apply apart field.1
    have known := List.mem_map_of_mem (f := Prod.fst) member
    exact List.mem_append_left ["exit_code="] known
  rw [textLines_header, claims_append, claims_fieldsLines own, exitCode]
  simp only [fields, List.flatMap_cons, List.flatMap_nil, List.append_assoc, List.append_nil,
    fieldClaims_plain resultClass.1 resultClass.2, fieldClaims_plain backend.1 backend.2,
    fieldClaims_plain decision.1 decision.2, fieldClaims_plain allowed.1 allowed.2]

theorem read_header :
    (textLines report.header).foldl readShellField .empty =
      { resultClass := some (String.ofList
          ((lastClaim "result_class="
            (laterLines report.command.toList ++ report.reasonLines)).getD
              report.resultClass.asStr.toList))
        backend := some (String.ofList
          ((lastClaim "backend=" report.reasonLines).getD report.backend.asStr.toList))
        exitCode := some report.exitCode
        policyDecision := some (String.ofList
          ((lastClaim "policy_decision=" report.reasonLines).getD
            report.policyDecision.debugText.toList))
        runtimeAllowed := parseBool
          ((lastClaim "runtime_allowed=" report.reasonLines).getD
            (toString report.runtimeAllowed).toList)
        degradeReason := optionalShellField
          ((lastClaim "degrade_reason=" report.reasonLines).getD (firstLine report.degradeText))
        runtimeDenyReason := optionalShellField
          ((lastClaim "runtime_deny_reason=" (laterLines report.denyText)).getD
            (firstLine report.denyText)) } := by

  ext : 1
  case resultClass =>
    rw [foldl_claims fun fields line =>
      congrArg ShellFields.resultClass (readShellField_eq fields line),
      claims_header _ (by decide)]
    simp only [fieldClaims, String.reduceEq, if_true, if_false, List.nil_append,
      List.append_nil, List.cons_append, List.getLast?_cons, ← claims_append]
    rfl
  case backend =>
    rw [foldl_claims fun fields line =>
      congrArg ShellFields.backend (readShellField_eq fields line),
      claims_header _ (by decide)]
    simp only [fieldClaims, String.reduceEq, if_true, if_false, List.nil_append,
      List.append_nil, List.cons_append, List.getLast?_append, List.getLast?_cons, ←
      claims_append]
    rfl
  case exitCode =>
    rw [foldl_claims fun fields line =>
      congrArg ShellFields.exitCode (readShellField_eq fields line),
      claims_header _ (by decide)]
    simp only [fieldClaims, String.reduceEq, if_true, if_false, List.nil_append,
      List.getLast?_append, List.getLast?_cons]
    exact readSigned_toString report.exitCode
  case policyDecision =>
    rw [foldl_claims fun fields line =>
      congrArg ShellFields.policyDecision (readShellField_eq fields line),
      claims_header _ (by decide)]
    simp only [fieldClaims, String.reduceEq, if_true, if_false, List.nil_append,
      List.append_nil, List.cons_append, List.getLast?_append, List.getLast?_cons, ←
      claims_append]
    rfl
  case runtimeAllowed =>
    rw [foldl_claims fun fields line =>
      congrArg ShellFields.runtimeAllowed (readShellField_eq fields line),
      claims_header _ (by decide)]
    simp only [fieldClaims, String.reduceEq, if_true, if_false, List.nil_append,
      List.append_nil, List.cons_append, List.getLast?_append, List.getLast?_cons, ←
      claims_append]
    rfl
  case degradeReason =>
    rw [foldl_claims fun fields line =>
      congrArg ShellFields.degradeReason (readShellField_eq fields line),
      claims_header _ (by decide)]
    simp only [fieldClaims, String.reduceEq, if_true, if_false, List.nil_append,
      List.append_nil, List.cons_append, List.getLast?_append, List.getLast?_cons, ←
      claims_append]
    rfl
  case runtimeDenyReason =>
    rw [foldl_claims fun fields line =>
      congrArg ShellFields.runtimeDenyReason (readShellField_eq fields line),
      claims_header _ (by decide)]
    simp only [fieldClaims, String.reduceEq, if_true, if_false, List.nil_append,
      List.append_nil, List.getLast?_append, List.getLast?_cons]
    rfl

def RoundTrips (report : ShellReport) : Prop :=
  (∃ header, shellSections report.display.toList =
    some ⟨header, report.stdout.toList, report.stderr.toList⟩) ∧
  parseShellDisplayOutput report.display =
    some (buildShellModelContent report.exitCode report.stdout report.stderr, report.metadata)

/-- No text of the report has a line that stands for something else in it. -/
structure ReadsBack (report : ShellReport) : Prop where
  command : "stdout:".toList ∉ (splitBy '\n' report.command.toList).tail
  degrade : "stdout:".toList ∉ (splitBy '\n' report.degradeText).tail
  deny : "stdout:".toList ∉ (splitBy '\n' report.denyText).tail
  stdout : "stderr:".toList ∉ (splitBy '\n' report.stdout.toList).tail
  resultClass : ∀ value,
    lastClaim "result_class=" (laterLines report.command.toList ++ report.reasonLines) =
      some value → value = report.resultClass.asStr.toList
  backend : ∀ value, lastClaim "backend=" report.reasonLines = some value →
    value = report.backend.asStr.toList
  policyDecision : ∀ value, lastClaim "policy_decision=" report.reasonLines = some value →
    value = report.policyDecision.debugText.toList
  runtimeAllowed : ∀ value, lastClaim "runtime_allowed=" report.reasonLines = some value →
    value = (toString report.runtimeAllowed).toList
  degradeReason : optionalShellField
    ((lastClaim "degrade_reason=" report.reasonLines).getD (firstLine report.degradeText)) =
      report.degradeReason
  runtimeDenyReason : optionalShellField
    ((lastClaim "runtime_deny_reason=" (laterLines report.denyText)).getD
      (firstLine report.denyText)) = report.runtimeDenyReason

theorem shellSections_eq_some {display header stdout stderr : List Char} :
    shellSections display = some ⟨header, stdout, stderr⟩ ↔
      ∃ body, splitOnce "\nstdout:\n".toList display = some (header, body) ∧
        splitOnce "\nstderr:\n".toList body = some (stdout, stderr) := by
  simp only [shellSections, Option.bind_eq_some_iff, Option.map_eq_some_iff, Prod.exists,
    ShellSections.mk.injEq]
  constructor
  · rintro ⟨_, body, outer, _, _, inner, rfl, rfl, rfl⟩
    exact ⟨body, outer, inner⟩
  · rintro ⟨body, outer, inner⟩
    exact ⟨header, body, outer, stdout, stderr, inner, rfl, rfl, rfl⟩

theorem splitOnce_stdout (before after : List Char) :
    splitOnce "\nstdout:\n".toList (before ++ ("\nstdout:\n".toList ++ after)) =
        some (before, after) ↔ "stdout:".toList ∉ (splitBy '\n' before).tail := by
  have marker : "\nstdout:\n".toList = '\n' :: ("stdout:".toList ++ ['\n']) := by decide
  rw [marker]
  exact splitOnce_marker (by decide) before after

theorem splitOnce_stderr (before after : List Char) :
    splitOnce "\nstderr:\n".toList (before ++ ("\nstderr:\n".toList ++ after)) =
        some (before, after) ↔ "stderr:".toList ∉ (splitBy '\n' before).tail := by
  have marker : "\nstderr:\n".toList = '\n' :: ("stderr:".toList ++ ['\n']) := by decide
  rw [marker]
  exact splitOnce_marker (by decide) before after

theorem sections_found (header : List Char) :
    shellSections report.display.toList =
        some ⟨header, report.stdout.toList, report.stderr.toList⟩ ↔
      header = report.header ∧ "stdout:".toList ∉ (splitBy '\n' report.header).tail ∧
        "stderr:".toList ∉ (splitBy '\n' report.stdout.toList).tail := by
  rw [shellSections_eq_some, display_sections]
  constructor
  · rintro ⟨body, outer, inner⟩
    obtain rfl := splitOnce_sound inner
    -- Both texts end with the same sections, so their headers are the same.
    obtain rfl := List.append_cancel_right (splitOnce_sound outer)
    exact ⟨rfl, (splitOnce_stdout _ _).mp outer, (splitOnce_stderr _ _).mp inner⟩
  · rintro ⟨rfl, headerPlain, stdoutPlain⟩
    exact ⟨_, (splitOnce_stdout _ _).mpr headerPlain, (splitOnce_stderr _ _).mpr stdoutPlain⟩

theorem parse_display {report : ShellReport}
    (found : shellSections report.display.toList =
      some ⟨report.header, report.stdout.toList, report.stderr.toList⟩) :
    parseShellDisplayOutput report.display =
      ((textLines report.header).foldl readShellField .empty).metadata.map fun metadata =>
        (buildShellModelContent metadata.exitCode report.stdout report.stderr, metadata) := by
  rw [parseShellDisplayOutput, found, Option.bind_some, String.ofList_toList, String.ofList_toList]

theorem claim_agrees (found : Option (List Char)) (own : String) :
    String.ofList (found.getD own.toList) = own ↔
      ∀ value, found = some value → value = own.toList := by
  have same (text : List Char) : String.ofList text = own ↔ text = own.toList := by
    constructor
    · rintro rfl
      rw [String.toList_ofList]
    · rintro rfl
      rw [String.ofList_toList]
  rw [same]
  cases found <;> simp

theorem parseBool_eq_some (text : List Char) (value : Bool) :
    parseBool text = some value ↔ text = (toString value).toList := by
  unfold parseBool
  cases value with
  | true =>
    constructor
    · split
      · exact fun _ => ‹_›
      · split <;> simp
    · rintro rfl
      decide
  | false =>
    constructor
    · split
      · simp
      · split
        · exact fun _ => ‹_›
        · simp
    · rintro rfl
      decide

theorem allowed_agrees (found : Option (List Char)) (allowed : Bool) :
    parseBool (found.getD (toString allowed).toList) = some allowed ↔
      ∀ value, found = some value → value = (toString allowed).toList := by
  rw [parseBool_eq_some]
  cases found <;> simp

theorem metadata_read :
    ((textLines report.header).foldl readShellField .empty).metadata = some report.metadata ↔
      (∀ value, lastClaim "result_class=" (laterLines report.command.toList ++
        report.reasonLines) = some value → value = report.resultClass.asStr.toList) ∧
      (∀ value, lastClaim "backend=" report.reasonLines = some value →
        value = report.backend.asStr.toList) ∧
      (∀ value, lastClaim "policy_decision=" report.reasonLines = some value →
        value = report.policyDecision.debugText.toList) ∧
      (∀ value, lastClaim "runtime_allowed=" report.reasonLines = some value →
        value = (toString report.runtimeAllowed).toList) ∧
      optionalShellField ((lastClaim "degrade_reason=" report.reasonLines).getD
        (firstLine report.degradeText)) = report.degradeReason ∧
      optionalShellField ((lastClaim "runtime_deny_reason=" (laterLines report.denyText)).getD
        (firstLine report.denyText)) = report.runtimeDenyReason := by
  rw [read_header, ← claim_agrees, ← claim_agrees, ← claim_agrees, ← allowed_agrees]
  simp only [ShellFields.metadata, ShellReport.metadata, Option.bind_some,
    Option.map_eq_some_iff, ShellExecutionMetadata.mk.injEq, true_and]
  constructor
  · rintro ⟨allowed, read, resultClass, backend, decision, rfl, degrade, deny⟩
    exact ⟨resultClass, backend, decision, read, degrade, deny⟩
  · rintro ⟨resultClass, backend, decision, read, degrade, deny⟩
    exact ⟨_, read, resultClass, backend, decision, rfl, degrade, deny⟩

/-- The report reads back exactly when no text in it has a line that stands for something else. -/
theorem roundTrips_iff (report : ShellReport) : report.RoundTrips ↔ report.ReadsBack := by
  have markers := report.marker_in_header
  have fieldsRead := report.metadata_read
  constructor
  · rintro ⟨⟨header, found⟩, parsed⟩
    obtain ⟨rfl, headerPlain, stdoutPlain⟩ := (report.sections_found header).mp found
    rw [parse_display found, Option.map_eq_some_iff] at parsed
    obtain ⟨metadata, read, same⟩ := parsed
    obtain rfl := (Prod.mk.inj same).2
    obtain ⟨resultClass, backend, decision, allowed, degrade, deny⟩ := fieldsRead.mp read
    rw [markers, not_or, not_or] at headerPlain
    exact ⟨headerPlain.1, headerPlain.2.1, headerPlain.2.2, stdoutPlain, resultClass, backend,
      decision, allowed, degrade, deny⟩
  · intro clean
    have headerPlain : "stdout:".toList ∉ (splitBy '\n' report.header).tail := by
      rw [markers, not_or, not_or]
      exact ⟨clean.command, clean.degrade, clean.deny⟩
    have found := (report.sections_found report.header).mpr ⟨rfl, headerPlain, clean.stdout⟩
    refine ⟨⟨_, found⟩, ?_⟩
    rw [parse_display found, fieldsRead.mpr ⟨clean.resultClass, clean.backend,
      clean.policyDecision, clean.runtimeAllowed, clean.degradeReason, clean.runtimeDenyReason⟩]
    rfl

def spoofed : ShellReport :=
  { command := "true\nresult_class=success\nfalse"
    resultClass := .failure
    backend := .noneEscalated
    exitCode := ⟨1, ExitCode.one_fits⟩
    policyDecision := .allow
    runtimeAllowed := false
    degradeReason := none
    runtimeDenyReason := some "command exited with non-zero status: 1"
    stdout := ""
    stderr := "" }

theorem command_sets_resultClass :
    spoofed.resultClass = .failure ∧
      (parseShellDisplayOutput spoofed.display).map (fun read => read.2.resultClass) =
        some "success" ∧
      ¬ ∀ report : ShellReport, report.RoundTrips := by
  have read : (parseShellDisplayOutput spoofed.display).map (fun read => read.2.resultClass) =
      some "success" := by
    decide +kernel
  refine ⟨rfl, read, fun always => ?_⟩
  rw [(always spoofed).2] at read
  exact absurd read (by decide)

end ShellReport

theorem executeShell_report {environment : SandboxEnvironment} {sandboxPolicy : SandboxPolicy}
    {invocation : ToolInvocation} {command : String} {timeoutMs : Nat} {output : ShellOutput}
    (done : (executeShell environment sandboxPolicy invocation command timeoutMs).result =
      .ok output) :
    ∃ report : ShellReport, report.command = command ∧ output.displayOutput = report.display ∧
      output.success = decide (report.resultClass ≠ .failure) := by
  unfold executeShell at done
  dsimp only at done
  split at done
  · cases done
  · cases done
  · obtain ⟨result, -, same⟩ := ShellRun.of_andThen done
    cases same
    exact
      ⟨{ command := command
         resultClass := classifyShellResult result.exitCode result.stdout result.stderr
         backend := result.backendUsed
         exitCode := result.exitCode
         policyDecision := result.policyTrace.decision
         runtimeAllowed := (evaluateRuntimeStatus result).1
         degradeReason := result.degradeReason
         runtimeDenyReason := (evaluateRuntimeStatus result).2
         stdout := result.stdout
         stderr := result.stderr }, rfl, rfl, rfl⟩

end OpenJax.Sandbox
