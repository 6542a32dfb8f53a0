import OpenJax.Shared.Text
import OpenJax.Tools.Schema

set_option autoImplicit false

namespace OpenJax.Tools

open Shared

def valueToU64 (value : Json) : Except String Nat :=
  match value.asU64? with
  | some number => .ok number
  | none =>
      match value.asStr? with
      | some text =>
          match parseU64 text with
          | some number => .ok number
          | none => .error "expected non-negative integer"
      | none => .error "expected integer"

def deU64 (value : Json) : Except String Nat := valueToU64 value

def deUsize (value : Json) : Except String Nat := valueToU64 value

def deOptUsize : Json → Except String (Option Nat)
  | .null => .ok none
  | value => (valueToU64 value).map some

def deBool : Json → Bool
  | .bool flag => flag
  | .int number => number != 0
  | .str text => ["1", "true", "yes"].contains (text.map Char.toLower)
  | _ => false

abbrev Fields := List (String × Json)

def entryValue {α : Type} (read : Json → Option α) (missing : Option α) : Fields → Option α
  | [] => missing
  | [(_, value)] => read value
  -- A field that is given twice, be it under two of its names, is an error.
  | _ => none

def fieldValue {α : Type} (names : List String) (read : Json → Option α) (missing : Option α)
    (fields : Fields) : Option α :=
  entryValue read missing (fields.filter fun field => names.contains field.1)

section FieldValue

variable {α : Type} (names : List String) (read : Json → Option α) (missing : Option α)

theorem entryValue_perm {entries others : Fields} (order : entries.Perm others) :
    entryValue read missing entries = entryValue read missing others := by
  match entries, others, order.length_eq with
  | [], [], _ => rfl
  | [entry], [other], _ => rw [List.perm_singleton.mp order.symm]
  | _ :: _ :: _, _ :: _ :: _, _ => rfl

theorem filter_name {fields : Fields} (unique : (fields.map Prod.fst).Nodup) (name : String) :
    (∀ value, (name, value) ∉ fields) ∧ (fields.filter fun field => [name].contains field.1) = [] ∨
      ∃ value, (name, value) ∈ fields ∧
        (fields.filter fun field => [name].contains field.1) = [(name, value)] := by
  induction fields with
  | nil => exact .inl ⟨fun _ given => (List.not_mem_nil given).elim, rfl⟩
  | cons field fields ih =>
    rw [List.map_cons, List.nodup_cons] at unique
    by_cases same : field.1 = name
    · subst same
      refine .inr ⟨field.2, List.mem_cons_self, ?_⟩
      have rest : (fields.filter fun other => [field.1].contains other.1) = [] := by
        rw [List.filter_eq_nil_iff]
        intro other given named
        apply unique.1
        rw [List.contains_iff_mem, List.mem_singleton] at named
        exact named ▸ List.mem_map_of_mem given
      rw [List.filter_cons_of_pos (by simp), rest]
    · have skipped : (fields.filter fun other => [name].contains other.1) =
          (field :: fields).filter fun other => [name].contains other.1 := by
        rw [List.filter_cons_of_neg (by simpa using same)]
      rcases ih unique.2 with ⟨none, found⟩ | ⟨value, given, found⟩
      · refine .inl ⟨fun value given => ?_, skipped ▸ found⟩
        rcases List.mem_cons.mp given with rfl | later
        · exact same rfl
        · exact none value later
      · exact .inr ⟨value, List.mem_cons_of_mem _ given, skipped ▸ found⟩

theorem fieldValue_isSome {fields : Fields} (unique : (fields.map Prod.fst).Nodup)
    (name : String) (optional : missing.isSome) :
    (fieldValue [name] read missing fields).isSome ↔
      ∀ value, (name, value) ∈ fields → (read value).isSome := by
  rw [fieldValue]
  rcases filter_name unique name with ⟨none, found⟩ | ⟨value, given, found⟩
  · rw [found]
    exact ⟨fun _ value given => absurd given (none value), fun _ => optional⟩
  · rw [found]
    constructor
    · intro present other otherGiven
      have among : (name, other) ∈ fields.filter fun field => [name].contains field.1 :=
        List.mem_filter.mpr ⟨otherGiven, by simp⟩
      rw [found, List.mem_singleton] at among
      rw [(Prod.mk.inj among).2]
      exact present
    · exact fun all => all value given

end FieldValue

theorem entryValue_single {α : Type} {read : Json → Option α} {missing : Option α}
    {entries : Fields} (value : (entryValue read missing entries).isSome)
    {first second : String × Json} (one : first ∈ entries) (other : second ∈ entries) :
    first = second := by
  match entries with
  | [] => cases one
  | [entry] => exact (List.mem_singleton.mp one).trans (List.mem_singleton.mp other).symm
  | _ :: _ :: _ => exact absurd value Bool.false_ne_true

def readString : Json → Option String := Json.asStr?

def readBool : Json → Option Bool := Json.asBool?

def readOption {α : Type} (read : Json → Option α) : Json → Option (Option α)
  | .null => some none
  | value => (read value).map some

theorem readOption_isSome {α : Type} {read : Json → Option α} {value : Json} (filled : value ≠ .null) :
    (readOption read value).isSome = (read value).isSome := by
  cases value with
  | null => exact absurd rfl filled
  | _ => simp [readOption]

def lenient {α : Type} (read : Json → Except String α) (value : Json) : Option α :=
  (read value).toOption

structure GlobFilesArgs where
  pattern : String
  basePath : Option String
  limit : Nat
  deriving DecidableEq

structure GrepFilesArgs where
  pattern : String
  «include» : Option String
  path : Option String
  limit : Nat
  deriving DecidableEq

inductive ReadMode where
  | slice
  | indentation
  deriving DecidableEq

structure IndentationArgs where
  anchorLine : Option Nat
  maxLevels : Nat
  includeSiblings : Bool
  includeHeader : Bool
  maxLines : Option Nat
  deriving DecidableEq

structure ReadFileArgs where
  filePath : String
  offset : Nat
  limit : Nat
  mode : ReadMode
  indentation : Option IndentationArgs
  deriving DecidableEq

structure ListDirArgs where
  dirPath : String
  offset : Nat
  limit : Nat
  depth : Nat
  deriving DecidableEq

inductive ProcessSortBy where
  | cpu
  | memory
  deriving DecidableEq

structure ProcessSnapshotArgs where
  sortBy : ProcessSortBy
  limit : Nat
  user : Option String
  deriving DecidableEq

structure SystemLoadArgs where
  includeCpu : Bool
  includeMemory : Bool
  deriving DecidableEq

structure DiskUsageArgs where
  path : Option String
  includeAllMounts : Bool
  deriving DecidableEq

structure EditArgs where
  filePath : String
  oldString : String
  newString : String
  deriving DecidableEq

structure WriteFileArgs where
  filePath : String
  content : String
  deriving DecidableEq

structure ShellCommandArgs where
  cmd : String
  timeoutMs : Nat
  deriving DecidableEq

def readMode : Json → Option ReadMode
  | .str "slice" => some .slice
  | .str "indentation" => some .indentation
  | _ => none

def processSortBy : Json → Option ProcessSortBy
  | .str "cpu" => some .cpu
  | .str "memory" => some .memory
  | _ => none

def globFilesArgs (fields : Fields) : Option GlobFilesArgs := do
  let pattern ← fieldValue ["pattern"] readString none fields
  let basePath ← fieldValue ["base_path"] (readOption readString) (some none) fields
  let limit ← fieldValue ["limit"] (lenient deUsize) (some 100) fields
  return ⟨pattern, basePath, limit⟩

def grepFilesArgs (fields : Fields) : Option GrepFilesArgs := do
  let pattern ← fieldValue ["pattern"] readString none fields
  let included ← fieldValue ["include"] (readOption readString) (some none) fields
  let path ← fieldValue ["path"] (readOption readString) (some none) fields
  let limit ← fieldValue ["limit"] (lenient deUsize) (some 100) fields
  return ⟨pattern, included, path, limit⟩

def indentationArgs (fields : Fields) : Option IndentationArgs := do
  let anchorLine ← fieldValue ["anchor_line"] (lenient deOptUsize) (some none) fields
  let maxLevels ← fieldValue ["max_levels"] (lenient deUsize) (some 0) fields
  let includeSiblings ← fieldValue ["include_siblings"] readBool (some false) fields
  let includeHeader ← fieldValue ["include_header"] readBool (some true) fields
  let maxLines ← fieldValue ["max_lines"] (lenient deOptUsize) (some none) fields
  return ⟨anchorLine, maxLevels, includeSiblings, includeHeader, maxLines⟩

def readIndentation : Json → Option IndentationArgs
  | .obj fields => indentationArgs fields
  | _ => none

def readFileArgs (fields : Fields) : Option ReadFileArgs := do
  let filePath ← fieldValue ["file_path", "path", "filepath"] readString none fields
  let offset ← fieldValue ["offset"] (lenient deUsize) (some 1) fields
  let limit ← fieldValue ["limit"] (lenient deUsize) (some 2000) fields
  let mode ← fieldValue ["mode"] readMode (some .slice) fields
  let indentation ← fieldValue ["indentation"] (readOption readIndentation) (some none) fields
  return ⟨filePath, offset, limit, mode, indentation⟩

def listDirArgs (fields : Fields) : Option ListDirArgs := do
  let dirPath ← fieldValue ["dir_path"] readString none fields
  let offset ← fieldValue ["offset"] (lenient deUsize) (some 1) fields
  let limit ← fieldValue ["limit"] (lenient deUsize) (some 25) fields
  let depth ← fieldValue ["depth"] (lenient deUsize) (some 2) fields
  return ⟨dirPath, offset, limit, depth⟩

def processSnapshotArgs (fields : Fields) : Option ProcessSnapshotArgs := do
  let sortBy ← fieldValue ["sort_by"] processSortBy (some .cpu) fields
  let limit ← fieldValue ["limit"] (lenient deUsize) (some 10) fields
  let user ← fieldValue ["user"] (readOption readString) (some none) fields
  return ⟨sortBy, limit, user⟩

def systemLoadArgs (fields : Fields) : Option SystemLoadArgs := do
  let includeCpu ← fieldValue ["include_cpu"] (some <| deBool ·) (some true) fields
  let includeMemory ← fieldValue ["include_memory"] (some <| deBool ·) (some true) fields
  return ⟨includeCpu, includeMemory⟩

def diskUsageArgs (fields : Fields) : Option DiskUsageArgs := do
  let path ← fieldValue ["path"] (readOption readString) (some none) fields
  let includeAllMounts ← fieldValue ["include_all_mounts"] (some <| deBool ·) (some false) fields
  return ⟨path, includeAllMounts⟩

def editArgs (fields : Fields) : Option EditArgs := do
  let filePath ← fieldValue ["file_path", "path", "filepath"] readString none fields
  let oldString ← fieldValue ["old_string"] readString none fields
  let newString ← fieldValue ["new_string", "new_text"] readString none fields
  return ⟨filePath, oldString, newString⟩

def writeFileArgs (fields : Fields) : Option WriteFileArgs := do
  let filePath ← fieldValue ["file_path"] readString none fields
  let content ← fieldValue ["content"] readString none fields
  return ⟨filePath, content⟩

def shellCommandArgs (fields : Fields) : Option ShellCommandArgs := do
  let cmd ← fieldValue ["cmd"] readString none fields
  let timeoutMs ← fieldValue ["timeout_ms"] (lenient deU64) (some 30000) fields
  return ⟨cmd, timeoutMs⟩

inductive HandlerArgs where
  | globFiles (args : GlobFilesArgs)
  | grepFiles (args : GrepFilesArgs)
  | read (args : ReadFileArgs)
  | listDir (args : ListDirArgs)
  | processSnapshot (args : ProcessSnapshotArgs)
  | systemLoad (args : SystemLoadArgs)
  | diskUsage (args : DiskUsageArgs)
  | edit (args : EditArgs)
  | writeFile (args : WriteFileArgs)
  | shell (args : ShellCommandArgs)
  deriving DecidableEq

namespace BuiltinTool

def handlerArgs (tool : BuiltinTool) (fields : Fields) : Option HandlerArgs :=
  match tool with
  | .globFiles => (globFilesArgs fields).map .globFiles
  | .grepFiles => (grepFilesArgs fields).map .grepFiles
  | .read => (readFileArgs fields).map .read
  | .listDir => (listDirArgs fields).map .listDir
  | .processSnapshot => (processSnapshotArgs fields).map .processSnapshot
  | .systemLoad => (systemLoadArgs fields).map .systemLoad
  | .diskUsage => (diskUsageArgs fields).map .diskUsage
  | .edit => (editArgs fields).map .edit
  | .writeFile => (writeFileArgs fields).map .writeFile
  | .shell | .execCommand => (shellCommandArgs fields).map .shell

def fromJson (tool : BuiltinTool) : Json → Option HandlerArgs
  | .obj fields => tool.handlerArgs fields
  | _ => none

end BuiltinTool

end OpenJax.Tools
