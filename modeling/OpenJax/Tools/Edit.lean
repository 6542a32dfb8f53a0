import OpenJax.Shared.LineEndings
import OpenJax.Tools.HandlerArgs
import OpenJax.Tools.Router
import OpenJax.Tools.WorkspacePath

set_option autoImplicit false

namespace OpenJax.Tools

open Shared

def replaceCrlf : List Char → List Char
  | [] => []
  | '\r' :: '\n' :: rest => '\n' :: replaceCrlf rest
  | c :: rest => c :: replaceCrlf rest

def normalizeNewlines (input : List Char) : List Char :=
  (replaceCrlf input).map fun c => if c = '\r' then '\n' else c

/-- `str::find`, the place counted in characters. -/
def findText (needle : List Char) : List Char → Option Nat
  | [] => if needle.isEmpty then some 0 else none
  | c :: rest =>
      if needle.isPrefixOf (c :: rest) then some 0 else (findText needle rest).map (· + 1)

def matchRangesFrom (haystack needle : List Char) (searchStart : Nat) : List (Nat × Nat) :=
  if searchStart ≤ haystack.length then
    match findText needle (haystack.drop searchStart) with
    | none => []
    | some relativeStart =>
        let start := searchStart + relativeStart
        -- The search goes on one character after the match began: matches may overlap.
        (start, start + needle.length) :: matchRangesFrom haystack needle (start + 1)
  else []
termination_by haystack.length + 1 - searchStart

def findMatchRanges (haystack needle : List Char) : List (Nat × Nat) :=
  if needle.isEmpty then [] else matchRangesFrom haystack needle 0

def usesCrlf (original : List Char) : Bool := decide (['\r', '\n'] <:+: original)

def replaceLf (text : List Char) : List Char :=
  text.flatMap fun c => if c = '\n' then ['\r', '\n'] else [c]

def finalOutput (original newString : List Char) (range : Nat × Nat) : List Char :=
  let normalizedFile := normalizeNewlines original
  let updatedNormalized :=
    normalizedFile.take range.1 ++ normalizeNewlines newString ++ normalizedFile.drop range.2
  if usesCrlf original then replaceLf updatedNormalized else updatedNormalized

inductive ReadError where
  | notFound
  | other (text : String)

abbrev FileTexts := OsPath → Except ReadError String

structure EditCall where
  -- `serde_json::from_str`.
  parseArgs : String → Option EditArgs
  tree : LinkedTree
  cwd : String
  files : FileTexts
  -- Why the write fails, if it does; it then changes nothing.
  writeError : Option String
  payload : ToolPayload

def failedResult (failure details : String) : ToolOutput :=
  .function s!"Edit failed [{failure}]: {details}" (some false)

namespace EditCall

variable (call : EditCall)

def replace (args : EditArgs) (path : OsPath) (original : String) :
    Except FunctionCallError ToolOutput × FileTexts :=
  let normalizedFile := normalizeNewlines original.toList
  let normalizedOld := normalizeNewlines args.oldString.toList
  match findMatchRanges normalizedFile normalizedOld with
  | [] =>
      (.ok (failedResult "not_found"
        s!"old_string was not found in {args.filePath}. Call Read before retrying."), call.files)
  | [range] =>
      match call.writeError with
      | some text => (.error (.internal s!"failed to write file: {text}"), call.files)
      | none =>
          let output := String.ofList (finalOutput original.toList args.newString.toList range)
          (.ok (.function s!"The file {args.filePath} has been updated successfully." (some true)),
            Function.update call.files path (.ok output))
  | _ :: _ :: _ =>
      (.ok (failedResult "not_unique"
        (s!"old_string matched multiple locations in {args.filePath}. " ++
          "Call Read and provide a more specific old_string.")), call.files)

def handleArgs (args : EditArgs) : Except FunctionCallError ToolOutput × FileTexts :=
  if (trim args.filePath).isEmpty then
    (.ok (failedResult "invalid_args"
      "file_path must be non-empty. Call Read before retrying."), call.files)
  else if args.oldString.isEmpty then
    (.ok (failedResult "invalid_args"
      "old_string must be non-empty. Call Read before retrying."), call.files)
  else
    match resolveWorkspacePathForWrite call.tree call.cwd args.filePath with
    | .error text => (.error (.internal text), call.files)
    | .ok path =>
        match call.files path with
        | .ok original => call.replace args path original
        | .error .notFound =>
            (.ok (failedResult "file_missing"
              s!"file was not found: {args.filePath}. Call Read before retrying."), call.files)
        | .error (.other text) =>
            (.error (.internal s!"failed to read file: {text}"), call.files)

def handle : Except FunctionCallError ToolOutput × FileTexts :=
  match call.payload with
  | .function arguments =>
      match call.parseArgs arguments with
      | none =>
          (.ok (failedResult "invalid_args"
            "failed to parse arguments for Edit. Call Read before retrying."), call.files)
      | some args => call.handleArgs args
  | _ => (.error (.respondToModel "Edit handler received unsupported payload"), call.files)

end EditCall

theorem normalizeNewlines_eq (text : List Char) :
    normalizeNewlines text = uniformText (units text) := by
  induction text using replaceCrlf.induct with
  | case1 => rfl
  | case2 rest ih => simpa [normalizeNewlines, replaceCrlf, uniformText, TextUnit.uniform] using ih
  | case3 c rest single ih =>
    have apart : ¬(c = '\r' ∧ rest.head? = some '\n') := by
      rintro ⟨rfl, next⟩
      cases rest <;> simp_all
    have step : replaceCrlf (c :: rest) = c :: replaceCrlf rest := by
      rw [replaceCrlf]
      exact single
    rw [units_char apart]
    simpa [normalizeNewlines, step, uniformText, TextUnit.uniform] using ih

theorem findText_some {needle text : List Char} {start : Nat}
    (found : findText needle text = some start) :
    start ≤ text.length ∧ needle <+: text.drop start ∧
      ∀ earlier < start, ¬needle <+: text.drop earlier := by
  induction text generalizing start with
  | nil =>
    cases needle with
    | nil =>
      obtain rfl : 0 = start := by simpa [findText] using found
      simp
    | cons c needle => simp [findText] at found
  | cons c rest ih =>
    rw [findText] at found
    split at found
    next starts =>
      cases found
      refine ⟨Nat.zero_le _, List.isPrefixOf_iff_prefix.mp starts, fun earlier smaller => ?_⟩
      omega
    next other =>
      obtain ⟨before, later, rfl⟩ := Option.map_eq_some_iff.mp found
      have ⟨within, starts, first⟩ := ih later
      refine ⟨by simpa using within, starts, fun earlier smaller => ?_⟩
      cases earlier with
      | zero => exact fun prefixed => other (List.isPrefixOf_iff_prefix.mpr prefixed)
      | succ earlier => exact first earlier (by omega)

theorem findText_none {needle text : List Char} (missed : findText needle text = none)
    (start : Nat) : ¬(start ≤ text.length ∧ needle <+: text.drop start) := by
  induction text generalizing start with
  | nil =>
    cases needle with
    | nil => simp [findText] at missed
    | cons c needle => simp
  | cons c rest ih =>
    rw [findText] at missed
    split at missed
    · cases missed
    next other =>
      have later := ih (Option.map_eq_none_iff.mp missed)
      cases start with
      | zero => exact fun found => other (List.isPrefixOf_iff_prefix.mpr found.2)
      | succ start => simpa using later start

theorem mem_matchRangesFrom (haystack needle : List Char) (searchStart : Nat) (range : Nat × Nat) :
    range ∈ matchRangesFrom haystack needle searchStart ↔
      searchStart ≤ range.1 ∧ range.1 ≤ haystack.length ∧ needle <+: haystack.drop range.1 ∧
        range.2 = range.1 + needle.length := by
  induction searchStart using matchRangesFrom.induct haystack needle with
  | case1 searchStart within missed =>
    rw [matchRangesFrom, if_pos within, missed]
    simp only [List.not_mem_nil, false_iff]
    intro found
    apply findText_none missed (range.1 - searchStart)
    rw [List.length_drop, List.drop_drop, Nat.add_sub_cancel' found.1]
    exact ⟨by omega, found.2.2.1⟩
  | case2 searchStart within relativeStart found start ih =>
    obtain ⟨inside, starts, first⟩ := findText_some found
    rw [List.length_drop] at inside
    rw [List.drop_drop] at starts
    rw [matchRangesFrom, if_pos within, found]
    simp only [List.mem_cons]
    rw [ih]
    constructor
    · rintro (rfl | later)
      · exact ⟨Nat.le_add_right _ _, by simp only; omega, starts, rfl⟩
      · exact ⟨by omega, later.2⟩
    · intro placed
      by_cases at_ : range.1 = start
      · exact .inl (Prod.ext at_ (by rw [placed.2.2.2, at_]))
      · refine .inr ⟨?_, placed.2⟩
        -- Nothing is found before the first match.
        by_contra before
        apply first (range.1 - searchStart) (by omega)
        rw [List.drop_drop, Nat.add_sub_cancel' placed.1]
        exact placed.2.2.1
  | case3 searchStart beyond =>
    rw [matchRangesFrom, if_neg beyond]
    simp only [List.not_mem_nil, false_iff]
    intro placed
    omega

theorem matchRangesFrom_sorted (haystack needle : List Char) (searchStart : Nat) :
    (matchRangesFrom haystack needle searchStart).Pairwise fun first second =>
      first.1 < second.1 := by
  induction searchStart using matchRangesFrom.induct haystack needle with
  | case1 searchStart within missed =>
    rw [matchRangesFrom, if_pos within, missed]
    exact List.Pairwise.nil
  | case2 searchStart within relativeStart found start ih =>
    rw [matchRangesFrom, if_pos within, found]
    refine List.Pairwise.cons (fun range later => ?_) ih
    exact ((mem_matchRangesFrom haystack needle _ range).mp later).1
  | case3 searchStart beyond =>
    rw [matchRangesFrom, if_neg beyond]
    exact List.Pairwise.nil

theorem findMatchRanges_single_iff {haystack needle : List Char} (filled : needle ≠ [])
    (range : Nat × Nat) :
    findMatchRanges haystack needle = [range] ↔
      range.2 = range.1 + needle.length ∧
        ∀ place, place ≤ haystack.length ∧ needle <+: haystack.drop place ↔ place = range.1 := by
  have found := mem_matchRangesFrom haystack needle 0
  have sorted := matchRangesFrom_sorted haystack needle 0
  rw [findMatchRanges, if_neg (by simpa using filled)]
  constructor
  · intro single
    rw [single] at found
    have own := (found range).mp List.mem_cons_self
    refine ⟨own.2.2.2, fun place => ⟨fun stands => ?_, ?_⟩⟩
    · have among := (found (place, place + needle.length)).mpr
        ⟨Nat.zero_le _, stands.1, stands.2, rfl⟩
      exact congrArg Prod.fst (List.mem_singleton.mp among)
    · rintro rfl
      exact ⟨own.2.1, own.2.2.1⟩
  · rintro ⟨length, only⟩
    have own := (found range).mpr
      ⟨Nat.zero_le _, ((only range.1).mpr rfl).1, ((only range.1).mpr rfl).2, length⟩
    have all : ∀ other ∈ matchRangesFrom haystack needle 0, other = range := by
      intro other among
      have placed := (found other).mp among
      have same := (only other.1).mp ⟨placed.2.1, placed.2.2.1⟩
      exact Prod.ext same (by rw [placed.2.2.2, length, same])
    match matchRangesFrom haystack needle 0, own, all, sorted with
    | [first], _, all, _ => rw [all first List.mem_cons_self]
    | first :: second :: rest, _, all, sorted =>
      have increasing := (List.pairwise_cons.mp sorted).1 second List.mem_cons_self
      rw [all first List.mem_cons_self, all second (by simp)] at increasing
      omega

/-- What the file holds before and after a range, as it stands there: the n-th character of the
normalised file stands for the n-th unit of the file. -/
def unitsBefore (original : List Char) (range : Nat × Nat) : List TextUnit :=
  (units original).take range.1

def unitsAfter (original : List Char) (range : Nat × Nat) : List TextUnit :=
  (units original).drop range.2

/-- The tool finds one match in the file, and the file can be written. -/
structure EditCall.Applies (call : EditCall) (args : EditArgs) (path : OsPath) (original : String)
    (range : Nat × Nat) : Prop where
  asked : ∃ arguments, call.payload = .function arguments ∧ call.parseArgs arguments = some args
  named : (trim args.filePath).isEmpty = false
  resolved : resolveWorkspacePathForWrite call.tree call.cwd args.filePath = .ok path
  read : call.files path = .ok original
  single : findMatchRanges (normalizeNewlines original.toList)
    (normalizeNewlines args.oldString.toList) = [range]
  writable : call.writeError = none

def reportsFailure : Except FunctionCallError ToolOutput → Bool
  | .ok (.function _ success) => success != some true
  | .ok (.mcp _) => false
  | .error _ => true

/-- Only the match is replaced, by the new text up to its line endings; a failure changes
nothing. -/
structure EditCall.KeepsRest (call : EditCall) : Prop where
  replaced : ∀ args path original range, call.Applies args path original range →
    ∃ inserted, normalizeNewlines inserted = normalizeNewlines args.newString.toList ∧
      call.handle.2 = Function.update call.files path (.ok (String.ofList
        (rawText (unitsBefore original.toList range) ++ inserted ++
          rawText (unitsAfter original.toList range))))
  failed : reportsFailure call.handle.1 = true → call.handle.2 = call.files

theorem finalOutput_eq (original newString : List Char) (range : Nat × Nat) :
    finalOutput original newString range =
      restoredText (usesCrlf original) (uniformText (unitsBefore original range) ++
        normalizeNewlines newString ++ uniformText (unitsAfter original range)) := by
  have parts : (normalizeNewlines original).take range.1 ++ normalizeNewlines newString ++
      (normalizeNewlines original).drop range.2 = uniformText (unitsBefore original range) ++
        normalizeNewlines newString ++ uniformText (unitsAfter original range) := by
    rw [normalizeNewlines_eq original, uniformText, uniformText, uniformText, unitsBefore,
      unitsAfter, List.map_take, List.map_drop]
  rw [finalOutput, parts]
  split
  next crlf =>
    rw [crlf, replaceLf, restoredText]
    exact List.flatMap_congr fun c _ => by simp [restored]
  next plain =>
    rw [Bool.not_eq_true] at plain
    have same : restored false = fun c => [c] := by
      funext c
      simp [restored]
    rw [plain, restoredText, same, List.flatMap_singleton']

namespace EditCall

variable {call : EditCall} {args : EditArgs} {path : OsPath} {original : String}
  {range : Nat × Nat}

theorem Applies.handle_eq (applies : call.Applies args path original range) :
    call.handle.2 = Function.update call.files path
      (.ok (String.ofList (finalOutput original.toList args.newString.toList range))) := by
  obtain ⟨arguments, payload, parsed⟩ := applies.asked
  have filled : args.oldString.isEmpty = false := by
    by_contra empty
    rw [Bool.not_eq_false, String.isEmpty_iff] at empty
    have single := applies.single
    rw [empty] at single
    exact absurd single (by simp [findMatchRanges, normalizeNewlines, replaceCrlf])
  simp [handle, payload, parsed, handleArgs, applies.named, filled, applies.resolved, applies.read,
    replace, applies.single, applies.writable]

theorem replace_failed (args : EditArgs) (path : OsPath) (original : String)
    (failed : reportsFailure (call.replace args path original).1 = true) :
    (call.replace args path original).2 = call.files := by
  rw [replace] at failed ⊢
  split at failed
  · rfl
  next range single =>
    cases written : call.writeError with
    | none => simp [written, reportsFailure] at failed
    | some text => rfl
  · rfl

theorem handle_failed (failed : reportsFailure call.handle.1 = true) :
    call.handle.2 = call.files := by
  rw [handle] at failed ⊢
  cases payload : call.payload with
  | function arguments =>
    simp only [payload] at failed ⊢
    cases parsed : call.parseArgs arguments with
    | none => rfl
    | some args =>
      simp only [parsed, handleArgs] at failed ⊢
      split
      · rfl
      next named =>
        split
        · rfl
        next filled =>
          rw [if_neg named, if_neg filled] at failed
          split
          · rfl
          next path resolved =>
            simp only [resolved] at failed
            split
            next original read =>
              simp only [read] at failed
              exact replace_failed args path original failed
            · rfl
            · rfl
  | _ => rfl

theorem written_around_iff (applies : call.Applies args path original range) :
    (∃ inserted, normalizeNewlines inserted = normalizeNewlines args.newString.toList ∧
      call.handle.2 = Function.update call.files path (.ok (String.ofList
        (rawText (unitsBefore original.toList range) ++ inserted ++
          rawText (unitsAfter original.toList range))))) ↔
      ∀ unit ∈ unitsBefore original.toList range ++ unitsAfter original.toList range,
        unit.EndsWith (usesCrlf original.toList) := by
  have plain : '\r' ∉ normalizeNewlines args.newString.toList := by
    rw [normalizeNewlines_eq]
    exact uniformText_plain _
  rw [← restored_around_iff (usesCrlf original.toList) _ _ plain, applies.handle_eq, finalOutput_eq]
  refine exists_congr fun inserted => and_congr (by rw [normalizeNewlines_eq inserted]) ?_
  constructor
  · intro same
    have written := congrFun same path
    rw [Function.update_self, Function.update_self] at written
    exact String.ofList_injective (Except.ok.inj written)
  · intro same
    rw [same]

/-- An edit leaves the rest of the file alone exactly when the line endings of the rest are the ones
that the tool writes: CRLF where the file has a CRLF, LF where it has none. -/
theorem edit_keeps_rest_iff (call : EditCall) :
    call.KeepsRest ↔ ∀ args path original range, call.Applies args path original range →
      ∀ unit ∈ unitsBefore original.toList range ++ unitsAfter original.toList range,
        unit.EndsWith (usesCrlf original.toList) := by
  constructor
  next =>
    intro keeps args path original range applies
    exact (written_around_iff applies).mp (keeps.replaced args path original range applies)
  next =>
    intro ends
    refine ⟨fun args path original range applies => ?_, handle_failed⟩
    exact (written_around_iff applies).mpr (ends args path original range applies)

end EditCall

section Example

def mixedCall : EditCall :=
  { parseArgs := fun _ => some ⟨"f.txt", "b", "x"⟩
    tree := .ofEntries [([], .directory), (["ws"], .directory), (["ws", "f.txt"], .file)]
      40 [] rfl rfl (by decide)
    cwd := "/ws"
    files := fun _ => .ok "a\nb\r\nc"
    writeError := none
    payload := .function ("\x7b\"file_path\":\"f.txt\"," ++
      "\"old_string\":\"b\",\"new_string\":\"x\"\x7d") }

theorem mixedCall_applies :
    mixedCall.Applies ⟨"f.txt", "b", "x"⟩ ⟨.root, [.name "ws", .name "f.txt"]⟩ "a\nb\r\nc"
      (2, 3) where
  asked := ⟨_, rfl, rfl⟩
  named := by decide
  resolved := by decide +kernel
  read := rfl
  single := by
    rw [findMatchRanges_single_iff (by decide)]
    refine ⟨rfl, fun place => ⟨fun stands => ?_, ?_⟩⟩
    · have within : place < 6 := Nat.lt_succ_of_le stands.1
      have prefixed := stands.2
      clear stands
      revert place
      decide
    · rintro rfl
      decide
  writable := rfl

theorem mixed_endings_rewritten : ¬∀ call : EditCall, call.KeepsRest := by
  intro always
  have kept := (EditCall.written_around_iff mixedCall_applies).mp
    ((always mixedCall).replaced _ _ _ _ mixedCall_applies)
  revert kept
  decide

end Example

end OpenJax.Tools
