import OpenJax.Shared.Foremost
import OpenJax.Shared.Lines
import OpenJax.Tools.Context
import OpenJax.Tools.HandlerArgs
import OpenJax.Tools.WorkspacePath
import Mathlib.Data.List.Lex
import Mathlib.Algebra.Order.Ring.Int

set_option autoImplicit false

namespace OpenJax.Tools.GlobFiles

open Shared

abbrev Place := List Bytes

structure FileMetadata where
  isFile : Bool
  modified : Option Int
  deriving DecidableEq

structure GlobWorld where
  canonicalize : Bytes → Except String Place
  metadata : Place → Except String FileMetadata
  /-- The crate's search: the paths that it finds for a pattern, or the error it meets. -/
  glob : String → Except String (List (Except String Bytes))
  /-- A path matches a pattern relative to a directory. -/
  matchesBelow : Place → String → Bytes → Prop

def globDefaultLimit : Nat := 100

def globMaxLimit : Nat := 2000

def separator : UInt8 := 0x2F

structure GlobMatch where
  relativePath : Bytes
  modified : Int
  deriving DecidableEq

def placeText (place : Place) : Bytes := separator :: [separator].intercalate place

/-- `Path::join` with a relative path. -/
def joinBytes (base relative : Bytes) : Bytes :=
  if base = [] ∨ base.getLast? = some separator then base ++ relative
  else base ++ separator :: relative

def replaceBackslash (text : String) : String := text.map fun c => if c = '\\' then '/' else c

def bytesLe (first second : Bytes) : Bool :=
  decide (first.map UInt8.toNat ≤ second.map UInt8.toNat)

def listedBefore (first second : GlobMatch) : Bool :=
  second.modified < first.modified ||
    (first.modified == second.modified && bytesLe first.relativePath second.relativePath)

section Handler

variable (world : GlobWorld) (cwd : Bytes)

def resolveWorkspacePath (relPath : String) : Except String Place :=
  let input := OsPath.parse relPath
  if input.isAbsolute then
    .error s!"path escapes workspace: absolute paths are not allowed ({relPath})"
  else if containsParentDir input then
    .error s!"path escapes workspace: parent traversal is not allowed ({relPath})"
  else
    match world.canonicalize cwd with
    | .error _ => .error s!"failed to canonicalize workspace root: {fromUtf8Lossy cwd}"
    | .ok workspaceRoot =>
        let joined := joinBytes cwd (utf8 relPath)
        match world.canonicalize joined with
        | .error _ => .error s!"failed to canonicalize path: {fromUtf8Lossy joined}"
        | .ok resolved =>
            if workspaceRoot.isPrefixOf resolved then .ok resolved
            else .error s!"path escapes workspace: {fromUtf8Lossy joined}"

def globMatch (workspaceRoot resolved : Place) (metadata : FileMetadata) : GlobMatch :=
  { relativePath := utf8 (replaceBackslash
      (fromUtf8Lossy ([separator].intercalate (resolved.drop workspaceRoot.length))))
    modified := metadata.modified.getD 0 }

def matchEntry (workspaceRoot : Place) :
    Except String Bytes → Except FunctionCallError (Option GlobMatch)
  | .error e => .error (.internal s!"failed to evaluate glob pattern: {e}")
  | .ok found =>
      match world.canonicalize found with
      | .error e =>
          .error (.internal s!"failed to canonicalize matched path `{fromUtf8Lossy found}`: {e}")
      | .ok resolved =>
          if workspaceRoot.isPrefixOf resolved then
            match world.metadata resolved with
            | .error e =>
                let display := fromUtf8Lossy (placeText resolved)
                .error (.internal s!"failed to read metadata for `{display}`: {e}")
            | .ok metadata =>
                .ok (if metadata.isFile then some (globMatch workspaceRoot resolved metadata) else none)
          else
            .error (.internal s!"path escapes workspace: {fromUtf8Lossy (placeText resolved)}")

def collectMatches (workspaceRoot : Place) :
    List (Except String Bytes) → Except FunctionCallError (List GlobMatch)
  | [] => .ok []
  | entry :: rest => do
      let found ← matchEntry world workspaceRoot entry
      let others ← collectMatches workspaceRoot rest
      return found.toList ++ others

/-- The pattern that is searched for: the base directory is put before the given one as it is. -/
def joinedPattern (baseDir : Place) (pattern : String) : String :=
  replaceBackslash (fromUtf8Lossy (joinBytes (placeText baseDir) (utf8 pattern)))

def effectiveLimit (args : GlobFilesArgs) : Nat := min args.limit globMaxLimit

def globFiles (args : GlobFilesArgs) : Except FunctionCallError (List GlobMatch) :=
  let pattern := trim args.pattern
  if pattern = "" then .error (.respondToModel "pattern must not be empty")
  else if (OsPath.parse pattern).isAbsolute then
    .error (.respondToModel "pattern must be a relative glob")
  else if containsParentDir (.parse pattern) then
    .error (.respondToModel
      s!"path escapes workspace: parent traversal is not allowed ({pattern})")
  else if args.limit = 0 then .error (.respondToModel "limit must be greater than zero")
  else
    match resolveWorkspacePath world cwd (args.basePath.getD ".") with
    | .error message => .error (.internal message)
    | .ok baseDir =>
        match world.canonicalize cwd with
        | .error e => .error (.internal s!"failed to canonicalize workspace root: {e}")
        | .ok workspaceRoot =>
            match world.glob (joinedPattern baseDir pattern) with
            | .error e => .error (.internal s!"failed to parse glob pattern: {e}")
            | .ok entries =>
                (collectMatches world workspaceRoot entries).map fun found =>
                  (found.mergeSort listedBefore).take (effectiveLimit args)

def handle (args : GlobFilesArgs) : Except FunctionCallError Bytes :=
  (globFiles world cwd args).map fun listed => [lineFeed].intercalate (listed.map GlobMatch.relativePath)

end Handler

theorem bytesLe_order : TotalOrder bytesLe where
  trans first second third := by
    simpa [bytesLe] using fun one two => le_trans one two
  total first second := by
    simpa [bytesLe] using le_total _ _
  antisymm first second := by
    simp only [bytesLe, decide_eq_true_eq]
    intro one two
    have same := le_antisymm one two
    exact List.map_injective_iff.mpr (fun _ _ => UInt8.toNat_inj.mp) same

theorem listedBefore_order : TotalOrder listedBefore where
  trans first second third := by
    simp only [listedBefore, Bool.or_eq_true, Bool.and_eq_true, decide_eq_true_eq, beq_iff_eq]
    rintro (one | ⟨same, one⟩) (two | ⟨equal, two⟩)
    · exact .inl (by omega)
    · exact .inl (by omega)
    · exact .inl (by omega)
    · exact .inr ⟨same.trans equal, bytesLe_order.trans _ _ _ one two⟩
  total first second := by
    simp only [listedBefore, Bool.or_eq_true, Bool.and_eq_true, decide_eq_true_eq, beq_iff_eq]
    rcases Int.lt_trichotomy first.modified second.modified with earlier | same | later
    · exact .inr (.inl earlier)
    · rcases Bool.or_eq_true _ _ ▸ bytesLe_order.total first.relativePath second.relativePath with
        one | other
      · exact .inl (.inr ⟨same, one⟩)
      · exact .inr (.inr ⟨same.symm, other⟩)
    · exact .inl (.inl later)
  antisymm first second := by
    simp only [listedBefore, Bool.or_eq_true, Bool.and_eq_true, decide_eq_true_eq, beq_iff_eq]
    rintro (one | ⟨same, one⟩) (two | ⟨equal, two⟩)
    · omega
    · omega
    · omega
    · obtain ⟨path, modified⟩ := first
      obtain ⟨other, time⟩ := second
      obtain rfl : modified = time := same
      obtain rfl : path = other := bytesLe_order.antisymm _ _ one two
      rfl

section Listing

variable (world : GlobWorld)

def Matching (baseDir : Place) (pattern : String) (file : Place) : Prop :=
  ∃ path metadata, world.matchesBelow baseDir pattern path ∧
    world.canonicalize (joinBytes (placeText baseDir) path) = .ok file ∧
    world.metadata file = .ok metadata ∧ metadata.isFile

structure MatchingFiles (baseDir : Place) (pattern : String) where
  files : List Place
  distinct : files.Nodup
  complete : ∀ file, file ∈ files ↔ Matching world baseDir pattern file

/-- The line that stands for a file: its path from the workspace root, with its time. -/
def fileLine (workspaceRoot file : Place) : GlobMatch :=
  { relativePath := [separator].intercalate (file.drop workspaceRoot.length)
    modified :=
      match world.metadata file with
      | .ok metadata => metadata.modified.getD 0
      | .error _ => 0 }

def foundLine (workspaceRoot : Place) (entry : Except String Bytes) : Option GlobMatch :=
  match matchEntry world workspaceRoot entry with
  | .ok found => found
  | .error _ => none

/-- The paths that are found for the rewritten pattern lead to the matching files, to each as
often as it is to be listed, as far as the limit reaches. -/
def FindsMatching (workspaceRoot : Place) (entries : List (Except String Bytes))
    (files : List Place) (limit : Nat) : Prop :=
  ∀ line,
    min ((entries.filterMap (foundLine world workspaceRoot)).count line)
        (limit - countBefore listedBefore (files.map (fileLine world workspaceRoot)) line) =
      min ((files.map (fileLine world workspaceRoot)).count line)
        (limit - countBefore listedBefore (files.map (fileLine world workspaceRoot)) line)

variable {entries : List (Except String Bytes)}

theorem collectMatches_ok {workspaceRoot : Place} {found : List GlobMatch}
    (collected : collectMatches world workspaceRoot entries = .ok found) :
    found = entries.filterMap (foundLine world workspaceRoot) := by
  induction entries generalizing found with
  | nil =>
    cases collected
    rfl
  | cons entry rest ih =>
    rw [collectMatches] at collected
    cases here : matchEntry world workspaceRoot entry with
    | error e =>
      rw [here] at collected
      cases collected
    | ok own =>
      rw [here] at collected
      cases later : collectMatches world workspaceRoot rest with
      | error e =>
        simp only [later, bind, Except.bind] at collected
        cases collected
      | ok others =>
        simp only [later, bind, Except.bind] at collected
        cases collected
        have line : foundLine world workspaceRoot entry = own := by
          rw [foundLine, here]
        rw [List.filterMap_cons, line, ih later]
        cases own <;> rfl

theorem globFiles_listing {cwd : Bytes} {args : GlobFilesArgs} {workspaceRoot baseDir : Place}
    {listing : List GlobMatch} (rooted : world.canonicalize cwd = .ok workspaceRoot)
    (based : resolveWorkspacePath world cwd (args.basePath.getD ".") = .ok baseDir)
    (searched : world.glob (joinedPattern baseDir (trim args.pattern)) = .ok entries)
    (listed : globFiles world cwd args = .ok listing) :
    listing = ((entries.filterMap (foundLine world workspaceRoot)).mergeSort listedBefore).take
      (effectiveLimit args) := by
  simp only [globFiles, based, rooted, searched] at listed
  split_ifs at listed
  cases collected : collectMatches world workspaceRoot entries with
  | error e =>
    rw [collected] at listed
    cases listed
  | ok found =>
    rw [collected] at listed
    cases listed
    rw [collectMatches_ok world collected]

def PlainPath (path : Bytes) : Prop :=
  isUtf8 path ∧ ∀ c ∈ (fromUtf8Lossy path).toList, c ∉ ['?', '*', '[', ']', '\\']

/-- What the crate documents: a character that is no metacharacter matches itself, so that below a
plain directory the search finds what matches relative to it, each path once. -/
def SearchesLiterally : Prop :=
  ∀ baseDir pattern entries, PlainPath (placeText baseDir) → '\\' ∉ pattern.toList →
    world.glob (joinedPattern baseDir pattern) = .ok entries →
      ∃ paths : List Bytes, paths.Nodup ∧ (∀ path, path ∈ paths ↔ world.matchesBelow baseDir pattern path) ∧
        entries.filterMap Except.toOption = paths.map (joinBytes (placeText baseDir))

def regularFile (path : Bytes) : Option Place :=
  match world.canonicalize path with
  | .error _ => none
  | .ok file =>
      match world.metadata file with
      | .error _ => none
      | .ok metadata => if metadata.isFile then some file else none

variable {world}

theorem regularFile_iff {path : Bytes} {file : Place} :
    regularFile world path = some file ↔
      world.canonicalize path = .ok file ∧
        ∃ metadata, world.metadata file = .ok metadata ∧ metadata.isFile := by
  rw [regularFile]
  cases world.canonicalize path with
  | error e => simp
  | ok place =>
    dsimp only
    cases there : world.metadata place with
    | error e =>
      simp only [reduceCtorEq, Except.ok.injEq, false_iff, not_and, not_exists]
      rintro rfl metadata known
      rw [there] at known
      cases known
    | ok metadata =>
      dsimp only
      by_cases regular : metadata.isFile
      · simp only [if_pos regular, Option.some.injEq, Except.ok.injEq]
        constructor
        · rintro rfl
          exact ⟨rfl, metadata, there, regular⟩
        · exact fun both => both.1
      · simp only [if_neg regular, reduceCtorEq, Except.ok.injEq, false_iff, not_and, not_exists]
        rintro rfl other known
        rw [there] at known
        cases known
        exact regular

def PrintsExactly (workspaceRoot file : Place) : Prop :=
  utf8 (replaceBackslash (fromUtf8Lossy
    ([separator].intercalate (file.drop workspaceRoot.length)))) =
      [separator].intercalate (file.drop workspaceRoot.length)

theorem foundLine_of_regular {workspaceRoot : Place} {path : Bytes}
    (inside : ∀ file, regularFile world path = some file →
      workspaceRoot <+: file ∧ PrintsExactly workspaceRoot file) :
    foundLine world workspaceRoot (.ok path) =
      (regularFile world path).map (fileLine world workspaceRoot) := by
  cases read : world.canonicalize path with
  | error e => simp only [foundLine, matchEntry, regularFile, read, Option.map_none]
  | ok place =>
    cases there : world.metadata place with
    | error e =>
      simp only [foundLine, matchEntry, regularFile, read, there]
      by_cases under : workspaceRoot.isPrefixOf place <;> simp [under]
    | ok metadata =>
      simp only [foundLine, matchEntry, regularFile, read, there]
      by_cases regular : metadata.isFile
      · have exact := inside place (regularFile_iff.mpr ⟨read, metadata, there, regular⟩)
        have printed := exact.2
        rw [PrintsExactly] at printed
        rw [if_pos (List.isPrefixOf_iff_prefix.mpr exact.1), if_pos regular]
        simp only [globMatch, printed, Option.map_some, if_pos regular, fileLine, there]
      · by_cases under : workspaceRoot.isPrefixOf place <;> simp [under, regular]

theorem filterMap_ok {found : Except String Bytes → Option GlobMatch}
    (nothing : ∀ e, found (.error e) = none) (entries : List (Except String Bytes)) :
    entries.filterMap found =
      (entries.filterMap Except.toOption).filterMap fun path => found (.ok path) := by
  induction entries with
  | nil => rfl
  | cons entry rest ih =>
    cases entry with
    | error e => simp [List.filterMap_cons, nothing, Except.toOption, ih]
    | ok path => simp [List.filterMap_cons, Except.toOption, ih]

end Listing

def smallPlaces : List Place :=
  [["w"], ["w", "[a]"], ["w", "[a]", "f"], ["w", "a"], ["w", "a", "g"]].map (List.map utf8)

def bracketWorld : GlobWorld where
  canonicalize path :=
    match smallPlaces.find? fun place => placeText place == path with
    | some place => .ok place
    | none => .error "No such file or directory"
  metadata place := .ok ⟨place.length == 3, some 5⟩
  glob pattern := .ok (if pattern = "/w/[a]/*" then [.ok (utf8 "/w/a/g")] else [])
  matchesBelow _ pattern path := pattern = "*" ∧ path ≠ [] ∧ separator ∉ path

def bracketFiles : MatchingFiles bracketWorld (["w", "[a]"].map utf8) "*" where
  files := [["w", "[a]", "f"].map utf8]
  distinct := List.nodup_singleton _
  complete file := by
    rw [List.mem_singleton]
    constructor
    · rintro rfl
      exact ⟨utf8 "f", ⟨true, some 5⟩, ⟨rfl, by decide, by decide⟩, by decide +kernel,
        by decide +kernel, rfl⟩
    · rintro ⟨path, metadata, -, leads, known, regular⟩
      have start : joinBytes (placeText (["w", "[a]"].map utf8)) path = utf8 "/w/[a]/" ++ path := by
        rw [joinBytes, if_neg (by decide +kernel)]
        rfl
      simp only [bracketWorld] at leads known
      split at leads
      next place found =>
        cases leads
        have among := List.mem_of_find?_eq_some found
        have text : placeText file = joinBytes (placeText (["w", "[a]"].map utf8)) path := by
          simpa using List.find?_some found
        have early := congrArg (List.take 4) text
        rw [start, List.take_append_of_le_length (by decide)] at early
        cases known
        simp only [smallPlaces, List.map_cons, List.map_nil, List.mem_cons, List.not_mem_nil,
          or_false] at among
        -- Only two of the places are files, and one of them is not below the base directory.
        rcases among with rfl | rfl | rfl | rfl | rfl
        · cases regular
        · cases regular
        · rfl
        · cases regular
        · exact absurd early (by decide +kernel)
      next => cases leads

/-- Nothing is below any directory. -/
def emptyWorld : GlobWorld :=
  { bracketWorld with
    glob := fun _ => .ok []
    matchesBelow := fun _ _ _ => False }

end OpenJax.Tools.GlobFiles
