import Mathlib.Data.List.Dedup
import OpenJax.Shared.Lines
import OpenJax.Shared.Program

set_option autoImplicit false

/-! A tree of files, the operations on it as programs a crash may stop, and what each of them
does. Writes reach the file byte by byte; every other step is taken whole. -/

namespace OpenJax.Shared

abbrev Path := List String

def display (path : Path) : String := "/" ++ "/".intercalate path

inductive Node where
  | file (bytes : Bytes)
  | directory
  deriving DecidableEq

inductive IoErrorKind where
  | notFound
  | isADirectory
  | notADirectory
  | directoryNotEmpty
  | invalidData
  deriving DecidableEq

inductive Failure where
  | io (kind : IoErrorKind)
  | parse
  | message (text : String)
  | context (text : String) (cause : Failure)
  deriving DecidableEq

inductive FileStep where
  | createDirectory (path : Path)
  | createFile (path : Path)
  /-- The first `count` of the bytes stand at the end of the file. -/
  | extend (path : Path) (bytes : Bytes) (count : Nat)
  /-- The file was emptied and holds the first `count` of the bytes. -/
  | rewrite (path : Path) (bytes : Bytes) (count : Nat)
  deriving DecidableEq

structure FileTree where
  -- The first node listed for a path is the one that stands there.
  nodes : List (Path × Node)

namespace FileTree

def empty : FileTree := ⟨[]⟩

def lookup (tree : FileTree) (path : Path) : Option Node := tree.nodes.lookup path

def insert (tree : FileTree) (path : Path) (node : Node) : FileTree :=
  ⟨(path, node) :: tree.nodes⟩

def isDirectory (tree : FileTree) (path : Path) : Bool :=
  path.isEmpty || tree.lookup path == some .directory

def children (tree : FileTree) (path : Path) : List String :=
  (tree.nodes.filterMap fun entry =>
    if entry.1.dropLast = path then entry.1.getLast? else none).dedup

@[simp] theorem lookup_empty (path : Path) : empty.lookup path = none := rfl

variable (tree : FileTree)

theorem lookup_insert (path other : Path) (node : Node) :
    (tree.insert path node).lookup other =
      if other = path then some node else tree.lookup other := by
  by_cases same : other = path
  · simp [lookup, insert, same]
  · have differs : (other == path) = false := beq_false_of_ne same
    simp [lookup, insert, List.lookup_cons, same, differs]

@[simp] theorem lookup_insert_self (path : Path) (node : Node) :
    (tree.insert path node).lookup path = some node := by
  simp [lookup_insert]

theorem mem_children (path : Path) (name : String) :
    name ∈ tree.children path ↔ (tree.lookup (path ++ [name])).isSome := by
  have named (key : Path) : (if key.dropLast = path then key.getLast? else none) = some name ↔
      key = path ++ [name] := by
    rcases key.eq_nil_or_concat with empty | ⟨front, last, whole⟩
    · simp [empty]
    · subst whole
      by_cases same : front = path <;> simp [same]
  simp only [children, List.mem_dedup, List.mem_filterMap, named, lookup, List.lookup_isSome_iff,
    beq_iff_eq]
  constructor
  · rintro ⟨entry, listed, key⟩
    exact ⟨entry, listed, key.symm⟩
  · rintro ⟨entry, listed, key⟩
    exact ⟨entry, listed, key.symm⟩

theorem nodup_children (path : Path) : (tree.children path).Nodup :=
  List.nodup_dedup _

end FileTree

abbrev FileProgram (α : Type) := Program FileTree FileStep Failure α

section Operations

def withContext {α : Type} (text : String) (program : FileProgram α) : FileProgram α :=
  program.mapError (.context text)

def pathExists (path : Path) : FileProgram Bool :=
  .inspect fun tree => .ok (path.isEmpty || (tree.lookup path).isSome)

def isDir (path : Path) : FileProgram Bool := .inspect fun tree => .ok (tree.isDirectory path)

def readFile (path : Path) : FileProgram Bytes :=
  .inspect fun tree =>
    match tree.lookup path with
    | some (.file bytes) => .ok bytes
    | some .directory => .error (.io .isADirectory)
    | none => .error (.io .notFound)

def fileLength (path : Path) : FileProgram Nat := do
  let bytes ← readFile path
  pure bytes.length

def readToString (path : Path) : FileProgram Bytes := do
  let bytes ← readFile path
  if isUtf8 bytes then pure bytes else .fail (.io .invalidData)

def readDir (path : Path) : FileProgram (List String) :=
  .inspect fun tree =>
    if tree.isDirectory path then .ok (tree.children path)
    else if (tree.lookup path).isSome then .error (.io .notADirectory)
    else .error (.io .notFound)

def createDir (path : Path) : FileProgram Unit :=
  .perform fun tree =>
    match tree.lookup path with
    | some .directory => (.ok (), [])
    | some (.file _) => (.error (.io .notADirectory), [])
    | none => (.ok (), [(.createDirectory path, tree.insert path .directory)])

def createDirs : List Path → FileProgram Unit
  | [] => pure ()
  | path :: rest => do
      createDir path
      createDirs rest

def createDirAll (path : Path) : FileProgram Unit := createDirs path.inits.tail

def openAppend (path : Path) : FileProgram Unit :=
  .perform fun tree =>
    match tree.lookup path with
    | some (.file _) => (.ok (), [])
    | some .directory => (.error (.io .isADirectory), [])
    | none =>
        if tree.isDirectory path.dropLast then
          (.ok (), [(.createFile path, tree.insert path (.file []))])
        else (.error (.io .notFound), [])

def extended (tree : FileTree) (path : Path) (old bytes : Bytes) (count : Nat) :
    FileStep × FileTree :=
  (.extend path bytes count, tree.insert path (.file (old ++ bytes.take count)))

def writeAll (path : Path) (bytes : Bytes) : FileProgram Unit :=
  .perform fun tree =>
    match tree.lookup path with
    | some (.file old) =>
        (.ok (), (List.range' 1 bytes.length).map (extended tree path old bytes))
    | some .directory => (.error (.io .isADirectory), [])
    | none => (.error (.io .notFound), [])

def rewritten (tree : FileTree) (path : Path) (bytes : Bytes) (count : Nat) :
    FileStep × FileTree :=
  (.rewrite path bytes count, tree.insert path (.file (bytes.take count)))

def writeFile (path : Path) (bytes : Bytes) : FileProgram Unit :=
  .perform fun tree =>
    if tree.lookup path = some .directory then (.error (.io .isADirectory), [])
    else if tree.isDirectory path.dropLast then
      (.ok (), (List.range (bytes.length + 1)).map (rewritten tree path bytes))
    else (.error (.io .notFound), [])

end Operations

namespace FileTree

def Clear (tree : FileTree) (path : Path) : Prop :=
  ∀ other, other <+: path → ∀ bytes, tree.lookup other ≠ some (.file bytes)

def Opened (paths : List Path) (tree next : FileTree) : Prop :=
  ∀ other, next.lookup other = tree.lookup other ∨
    other ∈ paths ∧ tree.lookup other = none ∧ next.lookup other = some .directory

theorem Opened.refl (paths : List Path) (tree : FileTree) : Opened paths tree tree :=
  fun _ => .inl rfl

variable {paths : List Path}

theorem Opened.create {tree : FileTree} {path : Path} (listed : path ∈ paths)
    (missing : tree.lookup path = none) : Opened paths tree (tree.insert path .directory) := by
  intro other
  by_cases same : other = path
  · subst same
    exact .inr ⟨listed, missing, by simp⟩
  · exact .inl (by simp [lookup_insert, same])

theorem Opened.trans {tree middle next : FileTree} (first : Opened paths tree middle)
    (second : Opened paths middle next) : Opened paths tree next := by
  intro other
  rcases first other with same | ⟨listed, missing, made⟩
  · rw [← same]
    exact second other
  · rcases second other with later | ⟨_, taken, _⟩
    · exact .inr ⟨listed, missing, later.trans made⟩
    · simp [made] at taken

theorem Opened.mono {paths wider : List Path} {tree next : FileTree}
    (opened : Opened paths tree next) (covers : ∀ path ∈ paths, path ∈ wider) :
    Opened wider tree next := by
  intro other
  rcases opened other with same | ⟨listed, made⟩
  · exact .inl same
  · exact .inr ⟨covers other listed, made⟩

theorem Opened.of_directory {tree next : FileTree} (opened : Opened paths tree next) {path : Path}
    (there : tree.lookup path = some .directory) : next.lookup path = some .directory := by
  rcases opened path with same | ⟨_, missing, _⟩
  · exact same.trans there
  · simp [there] at missing

theorem Opened.of_file {tree next : FileTree} (opened : Opened paths tree next) {path : Path}
    {bytes : Bytes} :
    next.lookup path = some (.file bytes) ↔ tree.lookup path = some (.file bytes) := by
  rcases opened path with same | ⟨_, missing, made⟩
  · rw [same]
  · simp [missing, made]

end FileTree

section Specifications

open FileTree

variable {tree : FileTree}

theorem withContext_run_of_value {α : Type} {text : String} {program : FileProgram α} {value : α}
    (known : program.run tree = ⟨.ok value, tree, []⟩) :
    (withContext text program).run tree = ⟨.ok value, tree, []⟩ := by
  simp [withContext, Program.mapError, known, Except.mapError]

theorem withContext_run_of_error {α : Type} {text : String} {program : FileProgram α}
    {error : Failure} (known : program.run tree = ⟨.error error, tree, []⟩) :
    (withContext text program).run tree = ⟨.error (.context text error), tree, []⟩ := by
  simp [withContext, Program.mapError, known, Except.mapError]

theorem pathExists_run (path : Path) :
    (pathExists path).run tree =
      ⟨.ok (path.isEmpty || (tree.lookup path).isSome), tree, []⟩ := rfl

theorem isDir_run (path : Path) :
    (isDir path).run tree = ⟨.ok (tree.isDirectory path), tree, []⟩ := rfl

variable {path : Path} {bytes : Bytes}

theorem readFile_run (found : tree.lookup path = some (.file bytes)) :
    (readFile path).run tree = ⟨.ok bytes, tree, []⟩ := by
  simp [readFile, Program.inspect, found]

theorem fileLength_run (found : tree.lookup path = some (.file bytes)) :
    (fileLength path).run tree = ⟨.ok bytes.length, tree, []⟩ := by
  simp [fileLength, Bind.bind, readFile_run found, pure]

theorem readToString_run (found : tree.lookup path = some (.file bytes)) :
    (readToString path).run tree =
      ⟨if isUtf8 bytes then .ok bytes else .error (.io .invalidData), tree, []⟩ := by
  by_cases text : isUtf8 bytes <;>
    simp [readToString, Bind.bind, readFile_run found, text, pure, Program.fail]

theorem readDir_run (there : tree.isDirectory path) :
    (readDir path).run tree = ⟨.ok (tree.children path), tree, []⟩ := by
  simp [readDir, Program.inspect, there]

theorem returns_createDirs {paths : List Path}
    (clear : ∀ path ∈ paths, ∀ bytes, tree.lookup path ≠ some (.file bytes)) :
    (createDirs paths).Returns tree
      (fun _ next => Opened paths tree next ∧ ∀ path ∈ paths, next.lookup path = some .directory)
      (fun _ next => Opened paths tree next) := by
  induction paths generalizing tree with
  | nil => exact Program.establishes_pure ⟨(), rfl, Opened.refl _ _, by simp⟩
  | cons path rest ih =>
    have first : (createDir path).Returns tree
        (fun _ next => Opened (path :: rest) tree next ∧ next.lookup path = some .directory)
        (fun _ next => Opened (path :: rest) tree next) := by
      cases found : tree.lookup path with
      | none =>
        have made : Opened (path :: rest) tree (tree.insert path .directory) :=
          Opened.create (by simp) found
        apply Program.establishes_perform <;> simp [found, Program.lastState, made]
      | some node =>
        cases node with
        | file bytes => exact absurd found (clear path (by simp) bytes)
        | directory =>
          apply Program.establishes_perform <;>
            simp [found, Program.lastState, Opened.refl]
    apply Program.Returns.bind first
    intro _ middle reached
    obtain ⟨opened, made⟩ := reached
    have still : ∀ other ∈ rest, ∀ bytes, middle.lookup other ≠ some (.file bytes) := by
      intro other listed bytes
      rw [ne_eq, opened.of_file]
      exact clear other (by simp [listed]) bytes
    have later := ih still
    have grown {next : FileTree} (more : Opened rest middle next) :
        Opened (path :: rest) tree next :=
      opened.trans (more.mono (by simp +contextual))
    apply later.mono
    · intro _ final reached
      refine ⟨grown reached.1, ?_⟩
      intro other listed
      rcases List.mem_cons.mp listed with same | among
      · subst same
        exact reached.1.of_directory made
      · exact reached.2 other among
    · intro _ next more
      exact grown more

theorem mem_inits_tail (path other : Path) : other ∈ path.inits.tail ↔ other ≠ [] ∧ other <+: path := by
  cases path with
  | nil => simp
  | cons name rest =>
    simp only [List.inits_cons, List.tail_cons, List.mem_map, List.mem_inits]
    constructor
    · rintro ⟨front, leads, rfl⟩
      simpa using leads
    · rintro ⟨inhabited, leads⟩
      cases other with
      | nil => exact absurd rfl inhabited
      | cons first front =>
        obtain ⟨rfl, inner⟩ := List.cons_prefix_cons.mp leads
        exact ⟨front, inner, rfl⟩

theorem returns_createDirAll (clear : tree.Clear path) :
    (createDirAll path).Returns tree
      (fun _ next => Opened path.inits.tail tree next ∧
        ∀ other, other ≠ [] → other <+: path → next.lookup other = some .directory)
      (fun _ next => Opened path.inits.tail tree next) := by
  have each : ∀ other ∈ path.inits.tail, ∀ bytes, tree.lookup other ≠ some (.file bytes) := by
    intro other listed
    exact clear other ((mem_inits_tail path other).mp listed).2
  apply (returns_createDirs each).mono
  · intro _ next reached
    refine ⟨reached.1, ?_⟩
    intro other inhabited leads
    exact reached.2 other ((mem_inits_tail path other).mpr ⟨inhabited, leads⟩)
  · exact fun _ _ opened => opened

theorem openAppend_run (found : tree.lookup path = some (.file bytes)) :
    (openAppend path).run tree = ⟨.ok (), tree, []⟩ := by
  simp [openAppend, Program.perform, found, Program.lastState]

theorem openAppend_run_of_missing (missing : tree.lookup path = none)
    (parent : tree.isDirectory path.dropLast) :
    (openAppend path).run tree =
      ⟨.ok (), tree.insert path (.file []),
        [(.createFile path, tree.insert path (.file []))]⟩ := by
  simp [openAppend, Program.perform, missing, parent, Program.lastState]

theorem returns_writeAll {old bytes : Bytes} (found : tree.lookup path = some (.file old))
    (inhabited : bytes ≠ []) :
    (writeAll path bytes).Returns tree
      (fun _ next => next = tree.insert path (.file (old ++ bytes)))
      (fun step next => ∃ count, 0 < count ∧ count ≤ bytes.length ∧
        step = .extend path bytes count ∧
        next = tree.insert path (.file (old ++ bytes.take count))) := by
  have some_bytes : bytes.length ≠ 0 := by simpa using inhabited
  apply Program.establishes_perform
  · simp [found, Program.lastState, extended, List.getLast?_range', some_bytes]
  · simp only [found, List.mem_map, List.mem_range'_1]
    rintro step ⟨count, bounds, rfl⟩
    exact ⟨count, by omega, by omega, rfl, rfl⟩

theorem reaches_writeAll {old bytes : Bytes} (found : tree.lookup path = some (.file old))
    {count : Nat} (begun : 0 < count) (bounded : count ≤ bytes.length) :
    (writeAll path bytes).Reaches tree (.extend path bytes count)
      (fun next => next = tree.insert path (.file (old ++ bytes.take count))) := by
  refine Program.reaches_perform ?_ rfl
  simp only [found]
  exact List.mem_map.mpr ⟨count, List.mem_range'_1.mpr (by omega), rfl⟩

theorem returns_writeFile (file : tree.lookup path ≠ some .directory)
    (parent : tree.isDirectory path.dropLast) :
    (writeFile path bytes).Returns tree
      (fun _ next => next = tree.insert path (.file bytes))
      (fun step next => ∃ count, count ≤ bytes.length ∧ step = .rewrite path bytes count ∧
        next = tree.insert path (.file (bytes.take count))) := by
  apply Program.establishes_perform
  · simp [file, parent, Program.lastState, rewritten, List.getLast?_range]
  · simp only [file, parent, if_false, if_true, List.mem_map, List.mem_range]
    rintro step ⟨count, bounds, rfl⟩
    exact ⟨count, by omega, rfl, rfl⟩

end Specifications

section Invariants

variable {allowed : FileStep → Prop} {invariant : FileTree → Prop}

theorem keeps_createDirs {paths : List Path}
    (created : ∀ tree path, path ∈ paths → invariant tree → tree.lookup path = none →
      invariant (tree.insert path .directory)) :
    Program.Keeps allowed invariant (createDirs paths) := by
  induction paths with
  | nil => exact Program.keeps_pure
  | cons path rest ih =>
    apply Program.Keeps.bind
    · intro tree held
      cases found : tree.lookup path with
      | none =>
        have kept := created tree path (by simp) held found
        apply Program.establishes_perform <;> simp [found, Program.lastState, kept]
      | some node =>
        cases node <;> apply Program.establishes_perform <;>
          simp [found, Program.lastState, held]
    · intro _
      exact ih fun tree other listed => created tree other (by simp [listed])

variable {path : Path}

theorem keeps_createDirAll (created : ∀ tree other, other ≠ [] → other <+: path → invariant tree →
      tree.lookup other = none → invariant (tree.insert other .directory)) :
    Program.Keeps allowed invariant (createDirAll path) := by
  apply keeps_createDirs
  intro tree other listed
  obtain ⟨named, leads⟩ := (mem_inits_tail path other).mp listed
  exact created tree other named leads

theorem keeps_openAppend (created : ∀ tree, invariant tree → tree.lookup path = none →
      tree.isDirectory path.dropLast → invariant (tree.insert path (.file []))) :
    Program.Keeps allowed invariant (openAppend path) := by
  intro tree held
  cases found : tree.lookup path with
  | none =>
    by_cases parent : tree.isDirectory path.dropLast
    · have kept := created tree held found parent
      apply Program.establishes_perform <;> simp [found, parent, Program.lastState, kept]
    · apply Program.establishes_perform <;> simp [found, parent, Program.lastState, held]
  | some node =>
    cases node <;> apply Program.establishes_perform <;> simp [found, Program.lastState, held]

theorem keeps_writeAll {bytes : Bytes}
    (written : ∀ tree old count, invariant tree → tree.lookup path = some (.file old) →
      count = bytes.length ∨ allowed (.extend path bytes count) →
      invariant (tree.insert path (.file (old ++ bytes.take count)))) :
    Program.Keeps allowed invariant (writeAll path bytes) := by
  intro tree held
  cases found : tree.lookup path with
  | none => apply Program.establishes_perform <;> simp [found, Program.lastState, held]
  | some node =>
    cases node with
    | directory => apply Program.establishes_perform <;> simp [found, Program.lastState, held]
    | file old =>
      by_cases empty : bytes = []
      · apply Program.establishes_perform <;> simp [found, empty, Program.lastState, held]
      · apply Program.Establishes.mono (returns_writeAll found empty)
        · rintro _ final ⟨_, _, rfl⟩
          simpa using written tree old bytes.length held found (.inl rfl)
        · rintro step next ⟨count, _, _, rfl, rfl⟩ permitted
          exact written tree old count held found (.inr permitted)

theorem keeps_writeFile {bytes : Bytes}
    (written : ∀ tree count, invariant tree → tree.lookup path ≠ some .directory →
      tree.isDirectory path.dropLast →
      count = bytes.length ∨ allowed (.rewrite path bytes count) →
      invariant (tree.insert path (.file (bytes.take count)))) :
    Program.Keeps allowed invariant (writeFile path bytes) := by
  intro tree held
  by_cases directory : tree.lookup path = some .directory
  · apply Program.establishes_perform <;> simp [directory, Program.lastState, held]
  · by_cases parent : tree.isDirectory path.dropLast
    · apply Program.Establishes.mono (returns_writeFile directory parent)
      · rintro _ final ⟨_, _, rfl⟩
        simpa using written tree bytes.length held directory parent (.inl rfl)
      · rintro step next ⟨count, _, rfl, rfl⟩ permitted
        exact written tree count held directory parent (.inr permitted)
    · apply Program.establishes_perform <;> simp [directory, parent, Program.lastState, held]

theorem keeps_readToString : Program.Keeps allowed invariant (readToString path) := by
  apply Program.Keeps.bind Program.keeps_inspect
  intro bytes
  split
  · exact Program.keeps_pure
  · exact Program.keeps_fail

theorem keeps_fileLength : Program.Keeps allowed invariant (fileLength path) :=
  Program.Keeps.bind Program.keeps_inspect fun _ => Program.keeps_pure

theorem keeps_withContext {α : Type} {text : String} {program : FileProgram α}
    (kept : Program.Keeps allowed invariant program) :
    Program.Keeps allowed invariant (withContext text program) :=
  kept.mapError

end Invariants

end OpenJax.Shared
