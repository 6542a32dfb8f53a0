import Mathlib.Algebra.GroupWithZero.Nat
import Mathlib.Data.String.Basic
import OpenJax.Shared.Lines
import OpenJax.Shared.SortedListing

set_option autoImplicit false

namespace OpenJax.Tools

open Shared

structure FileName where
  bytes : Bytes
  filled : bytes ≠ []
  single : (0x2F : UInt8) ∉ bytes
  proper : bytes ≠ [0x2E] ∧ bytes ≠ [0x2E, 0x2E]
  deriving DecidableEq

inductive FileType where
  | symlink
  | directory
  | file (length : Nat)
  | other
  deriving DecidableEq

/-- What reading the directories below the listed one gives, in the order the system chooses. -/
structure DirTree where
  readDir : List FileName → Except String (List (FileName × FileType))
  distinct : ∀ place found, readDir place = .ok found → (found.map Prod.fst).Nodup

inductive DirEntryKind where
  | directory
  | file
  | symlink
  | other
  deriving DecidableEq

def DirEntryKind.ofFileType : FileType → DirEntryKind
  | .symlink => .symlink
  | .directory => .directory
  | .file _ => .file
  | .other => .other

structure DirEntry where
  name : String
  displayName : String
  depth : Nat
  kind : DirEntryKind
  size : Option Nat
  deriving DecidableEq

structure LocatedEntry where
  path : List FileName
  entry : DirEntry
  deriving DecidableEq

def listDirMaxEntryLength : Nat := 500

def listDirIndentationSpaces : Nat := 2

def takeBytes : Nat → List Char → List Char
  | _, [] => []
  | maxBytes, c :: rest =>
      if c.utf8Size ≤ maxBytes then c :: takeBytes (maxBytes - c.utf8Size) rest else []

def takeBytesAtCharBoundary (text : String) (maxBytes : Nat) : String :=
  if text.utf8ByteSize ≤ maxBytes then text else String.ofList (takeBytes maxBytes text.toList)

def pathBytes (path : List FileName) : Bytes := [0x2F].intercalate (path.map FileName.bytes)

def formatDirEntryName (path : List FileName) : String :=
  let normalized := (fromUtf8Lossy (pathBytes path)).map fun c => if c = '\\' then '/' else c
  if normalized.utf8ByteSize > listDirMaxEntryLength then
    takeBytesAtCharBoundary normalized listDirMaxEntryLength
  else normalized

def formatDirEntryComponent (name : FileName) : String :=
  let normalized := fromUtf8Lossy name.bytes
  if normalized.utf8ByteSize > listDirMaxEntryLength then
    takeBytesAtCharBoundary normalized listDirMaxEntryLength
  else normalized

def locatedEntry (place : List FileName) (item : FileName × FileType) : LocatedEntry :=
  { path := place ++ [item.1]
    entry :=
      { name := formatDirEntryName (place ++ [item.1])
        displayName := formatDirEntryComponent item.1
        depth := place.length
        kind := .ofFileType item.2
        size :=
          match item.2 with
          | .file length => some length
          | _ => none } }

abbrev sortKey (line : LocatedEntry) : String := line.entry.name

def DirTree.weight (tree : DirTree) : Nat → List FileName → Nat
  | 0, _ => 1
  | remainingDepth + 1, place =>
      match tree.readDir place with
      | .error _ => 1
      | .ok found =>
          let directories := found.filter fun item => item.2 == .directory
          1 + (directories.map fun item => tree.weight remainingDepth (place ++ [item.1])).sum

namespace ListDir

variable (sortUnstable : UnstableSort sortKey) (tree : DirTree)

def pushed (remainingDepth : Nat) (dirEntries : List LocatedEntry) : List (List FileName × Nat) :=
  if remainingDepth > 1 then
    (dirEntries.filter fun line => line.entry.kind == .directory).map fun line =>
      (line.path, remainingDepth - 1)
  else []

def dirEntries (place : List FileName) (found : List (FileName × FileType)) : List LocatedEntry :=
  sortUnstable.sort (found.map (locatedEntry place))

def totalWeight (queue : List (List FileName × Nat)) : Nat :=
  (queue.map fun task => tree.weight task.2 task.1).sum

theorem ofFileType_directory (type : FileType) :
    (DirEntryKind.ofFileType type == .directory) = (type == .directory) := by
  cases type <;> rfl

theorem filter_located (place : List FileName) (found : List (FileName × FileType)) :
    (found.map (locatedEntry place)).filter (fun line => line.entry.kind == .directory) =
      (found.filter fun item => item.2 == .directory).map (locatedEntry place) := by
  rw [List.filter_map]
  congr 1
  exact List.filter_congr fun item _ => ofFileType_directory item.2

variable (remainingDepth : Nat)

theorem pushed_perm (place : List FileName) (found : List (FileName × FileType))
    (many : remainingDepth > 1) :
    (pushed remainingDepth (dirEntries sortUnstable place found)).Perm
      ((found.filter fun item => item.2 == .directory).map fun item =>
        (place ++ [item.1], remainingDepth - 1)) := by
  rw [pushed, if_pos many, dirEntries]
  have order := ((sortUnstable.perm (found.map (locatedEntry place))).filter
    fun line => line.entry.kind == .directory).map fun line => (line.path, remainingDepth - 1)
  rwa [filter_located, List.map_map] at order

theorem weight_pos (place : List FileName) : 0 < tree.weight remainingDepth place := by
  cases remainingDepth with
  | zero => exact Nat.one_pos
  | succ remainingDepth =>
    rw [DirTree.weight]
    split
    · exact Nat.one_pos
    · exact Nat.add_pos_left Nat.one_pos _

theorem weight_pushed {place : List FileName} {found : List (FileName × FileType)}
    (read : tree.readDir place = .ok found) :
    totalWeight tree (pushed remainingDepth (dirEntries sortUnstable place found)) <
      tree.weight remainingDepth place := by
  by_cases many : remainingDepth > 1
  · obtain ⟨depth, rfl⟩ : ∃ depth, remainingDepth = depth + 1 := ⟨remainingDepth - 1, by omega⟩
    have order := (pushed_perm sortUnstable (depth + 1) place found many).map
      fun task => tree.weight task.2 task.1
    rw [totalWeight, order.sum_nat, DirTree.weight, read, List.map_map, Nat.add_sub_cancel]
    exact Nat.lt_one_add_iff.mpr (Nat.le_refl _)
  · rw [pushed, if_neg many]
    exact weight_pos tree remainingDepth place

def collectFrom : List (List FileName × Nat) → Except String (List LocatedEntry)
  | [] => .ok []
  | (place, remainingDepth) :: queue =>
      match _read : tree.readDir place with
      | .error text => .error text
      | .ok found =>
          let entries := dirEntries sortUnstable place found
          match collectFrom (queue ++ pushed remainingDepth entries) with
          | .error text => .error text
          | .ok later => .ok (entries ++ later)
termination_by queue => totalWeight tree queue
decreasing_by
  have smaller := weight_pushed sortUnstable tree remainingDepth _read
  simp only [totalWeight, List.map_append, List.sum_append, List.map_cons, List.sum_cons] at smaller ⊢
  omega

def collectDirEntries (depth : Nat) : Except String (List LocatedEntry) :=
  collectFrom sortUnstable tree [([], depth)]

end ListDir

/-- How the quotient of two numbers is printed with one decimal, which is computed in floating
point. -/
abbrev OneDecimal := Nat → Nat → String

def formatFileSize (oneDecimal : OneDecimal) (bytes : Nat) : String :=
  let kb := 1024
  let mb := 1024 * kb
  let gb := 1024 * mb
  if bytes ≥ gb then s!"{oneDecimal bytes gb} GB"
  else if bytes ≥ mb then s!"{oneDecimal bytes mb} MB"
  else if bytes ≥ kb then s!"{oneDecimal bytes kb} KB"
  else s!"{bytes} B"

def formatDirEntryLine (oneDecimal : OneDecimal) (entry : DirEntry) : String :=
  let indent := "".pushn ' ' (entry.depth * listDirIndentationSpaces)
  let name :=
    match entry.kind with
    | .directory => entry.displayName ++ "/"
    | .symlink => entry.displayName ++ "@"
    | .other => entry.displayName ++ "?"
    | .file => entry.displayName
  match entry.size with
  | some bytes => s!"{indent}{name}  ({formatFileSize oneDecimal bytes})"
  | none => s!"{indent}{name}"

def listDirSlice (sortUnstable : UnstableSort sortKey) (oneDecimal : OneDecimal)
    (tree : DirTree) (offset limit depth : Nat) : Except String (List String) :=
  match ListDir.collectDirEntries sortUnstable tree depth with
  | .error text => .error text
  | .ok collected =>
      if collected.isEmpty then .ok ["(empty directory)"]
      else
        let entries := sortUnstable.sort collected
        let startIndex := offset - 1
        if startIndex ≥ entries.length then .error "offset exceeds directory entry count"
        else
          let remainingEntries := entries.length - startIndex
          let cappedLimit := min limit remainingEntries
          let endIndex := startIndex + cappedLimit
          let selectedEntries := (entries.take endIndex).drop startIndex
          let formatted := selectedEntries.map fun line =>
            formatDirEntryLine oneDecimal line.entry
          if endIndex < entries.length then
            .ok (formatted ++ [s!"More than {cappedLimit} entries found"])
          else .ok formatted

namespace DirTree

variable (tree : DirTree)

def itemsAt (place : List FileName) : List (FileName × FileType) :=
  (tree.readDir place).toOption.getD []

def directoriesAt (place : List FileName) : List FileName :=
  ((tree.itemsAt place).filter fun item => item.2 == .directory).map Prod.fst

def descendants : Nat → List FileName → List LocatedEntry
  | 0, _ => []
  | depth + 1, place =>
      (tree.itemsAt place).map (locatedEntry place) ++
        (tree.directoriesAt place).flatMap fun name => descendants depth (place ++ [name])

inductive Leads : List FileName → List FileName → Prop where
  | here (place : List FileName) : Leads place place
  | step {place below : List FileName} {name : FileName} (directory : name ∈ tree.directoriesAt place)
      (leads : Leads (place ++ [name]) below) : Leads place below

def Readable (depth : Nat) (place : List FileName) : Prop :=
  ∀ below, tree.Leads place below → below.length < place.length + depth →
    ∃ found, tree.readDir below = .ok found

variable {tree} {place : List FileName}

theorem itemsAt_eq {found : List (FileName × FileType)} (read : tree.readDir place = .ok found) :
    tree.itemsAt place = found := by
  rw [itemsAt, read]
  rfl

theorem itemsAt_distinct (place : List FileName) : ((tree.itemsAt place).map Prod.fst).Nodup := by
  cases read : tree.readDir place with
  | error text =>
    rw [itemsAt, read]
    exact List.nodup_nil
  | ok found =>
    rw [itemsAt_eq read]
    exact tree.distinct place found read

theorem directoriesAt_nodup (place : List FileName) : (tree.directoriesAt place).Nodup :=
  (itemsAt_distinct place).sublist (List.filter_sublist.map _)

theorem mem_directoriesAt {name : FileName} :
    name ∈ tree.directoriesAt place ↔ (name, .directory) ∈ tree.itemsAt place := by
  simp only [directoriesAt, List.mem_map, List.mem_filter, beq_iff_eq]
  constructor
  · rintro ⟨⟨found, type⟩, ⟨member, rfl⟩, rfl⟩
    exact member
  · exact fun member => ⟨_, ⟨member, rfl⟩, rfl⟩

theorem Leads.last {place below : List FileName} (leads : tree.Leads place below) :
    below = place ∨ ∃ front name, below = front ++ [name] ∧ tree.Leads place front ∧
      name ∈ tree.directoriesAt front := by
  induction leads with
  | here place => exact .inl rfl
  | @step place below name directory leads ih =>
    rcases ih with rfl | ⟨front, last, rfl, above, inside⟩
    · exact .inr ⟨place, name, rfl, .here place, directory⟩
    · exact .inr ⟨front, last, rfl, .step directory above, inside⟩

theorem Leads.prefixed {place below : List FileName} (leads : tree.Leads place below) :
    place <+: below := by
  induction leads with
  | here place => exact List.prefix_refl place
  | step _ _ ih => exact (List.prefix_append _ _).trans ih

theorem mem_descendants {depth : Nat} {line : LocatedEntry} :
    line ∈ tree.descendants depth place ↔ ∃ below item, tree.Leads place below ∧
      below.length < place.length + depth ∧ item ∈ tree.itemsAt below ∧
      line = locatedEntry below item := by
  induction depth generalizing place with
  | zero =>
    simp only [descendants, List.not_mem_nil, false_iff]
    rintro ⟨below, item, leads, short, -⟩
    have := leads.prefixed.length_le
    omega
  | succ depth ih =>
    rw [descendants, List.mem_append, List.mem_map, List.mem_flatMap]
    constructor
    · rintro (⟨item, member, rfl⟩ | ⟨name, directory, later⟩)
      · exact ⟨place, item, .here place, by omega, member, rfl⟩
      · obtain ⟨below, item, leads, short, found⟩ := ih.mp later
        rw [List.length_append, List.length_singleton] at short
        exact ⟨below, item, .step directory leads, by omega, found⟩
    · rintro ⟨below, item, leads, short, member, rfl⟩
      cases leads with
      | here => exact .inl ⟨item, member, rfl⟩
      | @step _ _ name directory leads =>
        refine .inr ⟨name, directory, ih.mpr ⟨below, item, leads, ?_, member, rfl⟩⟩
        rw [List.length_append, List.length_singleton]
        omega

theorem descendants_below {depth : Nat} {line : LocatedEntry}
    (member : line ∈ tree.descendants depth place) :
    place <+: line.path ∧ place.length < line.path.length := by
  obtain ⟨below, item, leads, -, -, rfl⟩ := mem_descendants.mp member
  have longer := leads.prefixed.length_le
  refine ⟨leads.prefixed.trans (List.prefix_append below [item.1]), ?_⟩
  rw [locatedEntry, List.length_append, List.length_singleton]
  omega

theorem descendants_nodup (depth : Nat) (place : List FileName) :
    ((tree.descendants depth place).map LocatedEntry.path).Nodup := by
  induction depth generalizing place with
  | zero => exact List.nodup_nil
  | succ depth ih =>
    have own : ((tree.itemsAt place).map fun item => place ++ [item.1]).Nodup := by
      have names := @itemsAt_distinct tree place
      rw [show (fun item : FileName × FileType => place ++ [item.1]) =
        (fun name => place ++ [name]) ∘ Prod.fst from rfl, ← List.map_map]
      exact names.map fun first second same => by simpa using same
    have deeper : ((tree.directoriesAt place).flatMap fun name =>
        (tree.descendants depth (place ++ [name])).map LocatedEntry.path).Nodup := by
      rw [List.nodup_flatMap]
      refine ⟨fun name _ => ih (place ++ [name]), ?_⟩
      refine (directoriesAt_nodup place).imp fun {first second} differs path left right => ?_
      obtain ⟨one, among, rfl⟩ := List.mem_map.mp left
      obtain ⟨other, inside, same⟩ := List.mem_map.mp right
      have lower := (descendants_below among).1
      have upper := (descendants_below inside).1
      rw [same] at upper
      have equal := List.prefix_of_prefix_length_le lower upper (by simp)
      exact differs (by simpa using equal.eq_of_length (by simp))
    rw [descendants, List.map_append, List.map_map, List.map_flatMap]
    refine List.nodup_append.mpr ⟨own, deeper, fun path left other right => ?_⟩
    obtain ⟨item, -, rfl⟩ := List.mem_map.mp left
    obtain ⟨name, -, inside⟩ := List.mem_flatMap.mp right
    obtain ⟨line, member, rfl⟩ := List.mem_map.mp inside
    have longer := (descendants_below member).2
    intro same
    rw [← same] at longer
    simp [locatedEntry] at longer

end DirTree

namespace ListDir

variable {sortUnstable : UnstableSort sortKey} {tree : DirTree} {remainingDepth : Nat}

variable {place : List FileName} {found : List (FileName × FileType)}

theorem pushed_descendants (read : tree.readDir place = .ok found) (positive : 0 < remainingDepth) :
    (dirEntries sortUnstable place found ++
      (pushed remainingDepth (dirEntries sortUnstable place found)).flatMap
        fun task => tree.descendants task.2 task.1).Perm (tree.descendants remainingDepth place) := by
  obtain ⟨depth, rfl⟩ : ∃ depth, remainingDepth = depth + 1 := ⟨remainingDepth - 1, by omega⟩
  rw [DirTree.descendants, DirTree.directoriesAt, DirTree.itemsAt_eq read]
  refine (sortUnstable.perm _).append ?_
  by_cases many : depth + 1 > 1
  · have order := (pushed_perm sortUnstable (depth + 1) place found many).flatMap_right
      fun task => tree.descendants task.2 task.1
    rw [List.flatMap_map]
    rwa [List.flatMap_map] at order
  · obtain rfl : depth = 0 := by omega
    simp [pushed, DirTree.descendants]

theorem readable_iff_pushed
    (read : tree.readDir place = .ok found) (positive : 0 < remainingDepth) :
    tree.Readable remainingDepth place ↔
      ∀ task ∈ pushed remainingDepth (dirEntries sortUnstable place found),
        tree.Readable task.2 task.1 := by
  obtain ⟨depth, rfl⟩ : ∃ depth, remainingDepth = depth + 1 := ⟨remainingDepth - 1, by omega⟩
  by_cases many : depth + 1 > 1
  · have order := pushed_perm sortUnstable (depth + 1) place found many
    constructor
    · intro readable task member below leads short
      obtain ⟨item, directory, rfl⟩ := List.mem_map.mp (order.mem_iff.mp member)
      have among : item.1 ∈ tree.directoriesAt place := by
        rw [DirTree.directoriesAt, DirTree.itemsAt_eq read]
        exact List.mem_map_of_mem directory
      refine readable below (.step among leads) ?_
      simp only [List.length_append, List.length_singleton] at short
      omega
    · intro each below leads short
      cases leads with
      | here => exact ⟨found, read⟩
      | @step _ _ name among leads =>
        rw [DirTree.directoriesAt, DirTree.itemsAt_eq read] at among
        obtain ⟨item, directory, rfl⟩ := List.mem_map.mp among
        refine each _ (order.mem_iff.mpr (List.mem_map_of_mem directory)) below leads ?_
        simp only [List.length_append, List.length_singleton]
        omega
  · obtain rfl : depth = 0 := by omega
    have none : pushed 1 (dirEntries sortUnstable place found) = [] := if_neg (Nat.lt_irrefl 1)
    simp only [none, List.not_mem_nil, false_imp_iff, implies_true, iff_true]
    intro below leads short
    have same := leads.prefixed.eq_of_length (by have := leads.prefixed.length_le; omega)
    exact same ▸ ⟨found, read⟩

theorem collectFrom_unread {text : String} (read : tree.readDir place = .error text)
    (queue : List (List FileName × Nat)) :
    collectFrom sortUnstable tree ((place, remainingDepth) :: queue) = .error text := by
  rw [collectFrom]
  split
  next other found => rw [Except.error.inj (read.symm.trans found)]
  next found other => cases read.symm.trans other

theorem collectFrom_read (read : tree.readDir place = .ok found)
    (queue : List (List FileName × Nat)) :
    collectFrom sortUnstable tree ((place, remainingDepth) :: queue) =
      (collectFrom sortUnstable tree
        (queue ++ pushed remainingDepth (dirEntries sortUnstable place found))).map
          (dirEntries sortUnstable place found ++ ·) := by
  rw [collectFrom]
  split
  next text other => cases read.symm.trans other
  next items other =>
    obtain rfl := Except.ok.inj (read.symm.trans other)
    simp only
    split
    next text failed => rw [failed, Except.map]
    next later collected => rw [collected, Except.map]

theorem pushed_positive {entries : List LocatedEntry} {task : List FileName × Nat}
    (member : task ∈ pushed remainingDepth entries) : 0 < task.2 := by
  rw [pushed] at member
  split at member
  · obtain ⟨line, -, rfl⟩ := List.mem_map.mp member
    simp only
    omega
  · cases member

theorem queue_induction {motive : List (List FileName × Nat) → Prop} (empty : motive [])
    (unread : ∀ place remainingDepth queue text, tree.readDir place = .error text →
      motive ((place, remainingDepth) :: queue))
    (read : ∀ place remainingDepth queue found, tree.readDir place = .ok found →
      motive (queue ++ pushed remainingDepth (dirEntries sortUnstable place found)) →
      motive ((place, remainingDepth) :: queue))
    (queue : List (List FileName × Nat)) : motive queue := by
  induction queue using collectFrom.induct sortUnstable tree with
  | case1 => exact empty
  | case2 place remainingDepth queue text failed => exact unread _ _ _ text failed
  | case3 place remainingDepth queue found done _ _ _ ih => exact read _ _ _ found done ih
  | case4 place remainingDepth queue found done _ _ _ ih => exact read _ _ _ found done ih

theorem collectFrom_perm {queue : List (List FileName × Nat)} {entries : List LocatedEntry}
    (positive : ∀ task ∈ queue, 0 < task.2)
    (collected : collectFrom sortUnstable tree queue = .ok entries) :
    entries.Perm (queue.flatMap fun task => tree.descendants task.2 task.1) := by
  induction queue using @queue_induction sortUnstable tree generalizing entries with
  | empty =>
    rw [collectFrom] at collected
    cases collected
    exact List.Perm.refl []
  | unread place remainingDepth queue text failed =>
    rw [collectFrom_unread failed] at collected
    cases collected
  | read place remainingDepth queue found done ih =>
    rw [collectFrom_read done] at collected
    cases rest : collectFrom sortUnstable tree
        (queue ++ pushed remainingDepth (dirEntries sortUnstable place found)) with
    | error text =>
      rw [rest] at collected
      cases collected
    | ok later =>
      rw [rest] at collected
      cases collected
      have others := ih (fun task member => (List.mem_append.mp member).elim
        (fun waits => positive task (List.mem_cons_of_mem _ waits)) pushed_positive) rest
      rw [List.flatMap_append] at others
      have own := @pushed_descendants sortUnstable tree remainingDepth place found done
        (positive (place, remainingDepth) List.mem_cons_self)
      rw [List.flatMap_cons]
      have joined := (List.Perm.refl (dirEntries sortUnstable place found)).append
        (others.trans List.perm_append_comm)
      rw [← List.append_assoc] at joined
      exact joined.trans (own.append (List.Perm.refl _))

theorem collectFrom_ok_iff {queue : List (List FileName × Nat)}
    (positive : ∀ task ∈ queue, 0 < task.2) :
    (∃ entries, collectFrom sortUnstable tree queue = .ok entries) ↔
      ∀ task ∈ queue, tree.Readable task.2 task.1 := by
  induction queue using @queue_induction sortUnstable tree with
  | empty => simp [collectFrom]
  | unread place remainingDepth queue text failed =>
    rw [collectFrom_unread failed]
    constructor
    · rintro ⟨entries, collected⟩
      cases collected
    · intro readable
      have own : 0 < remainingDepth := positive (place, remainingDepth) List.mem_cons_self
      obtain ⟨found, read⟩ := readable (place, remainingDepth) List.mem_cons_self place
        (.here place) (by simpa using own)
      cases failed.symm.trans read
  | read place remainingDepth queue found done ih =>
    rw [collectFrom_read done]
    have rest := ih fun task member => (List.mem_append.mp member).elim
      (fun waits => positive task (List.mem_cons_of_mem _ waits)) pushed_positive
    rw [List.forall_mem_append, ← readable_iff_pushed done
      (positive (place, remainingDepth) List.mem_cons_self)] at rest
    rw [List.forall_mem_cons, ← and_comm, ← rest]
    constructor
    · rintro ⟨entries, collected⟩
      cases later : collectFrom sortUnstable tree
          (queue ++ pushed remainingDepth (dirEntries sortUnstable place found)) with
      | error text =>
        rw [later] at collected
        cases collected
      | ok entries => exact ⟨entries, rfl⟩
    · rintro ⟨later, collected⟩
      exact ⟨_, by rw [collected, Except.map]⟩

end ListDir

def entryDepth (line : LocatedEntry) : Nat := line.entry.depth

def ParentOf (above line : LocatedEntry) : Prop :=
  above.entry.kind = .directory ∧ above.path ≠ [] ∧ ∃ name, line.path = above.path ++ [name]

theorem descendants_depth {tree : DirTree} {depth : Nat} {place : List FileName}
    {line : LocatedEntry} (member : line ∈ tree.descendants depth place) :
    line.path.length = entryDepth line + 1 := by
  obtain ⟨below, item, -, -, -, rfl⟩ := DirTree.mem_descendants.mp member
  simp [locatedEntry, entryDepth]

theorem descendants_branches (tree : DirTree) (depth : Nat) :
    Branches entryDepth ParentOf (tree.descendants depth []) where
  nodup := (DirTree.descendants_nodup depth []).of_map _
  above := by
    intro line member nested
    obtain ⟨below, item, leads, short, -, rfl⟩ := DirTree.mem_descendants.mp member
    rcases leads.last with rfl | ⟨front, name, rfl, above, inside⟩
    · exact absurd rfl nested
    · rw [List.length_append, List.length_singleton] at short
      refine ⟨locatedEntry front (name, .directory), DirTree.mem_descendants.mpr
        ⟨front, _, above, by omega, DirTree.mem_directoriesAt.mp inside, rfl⟩, rfl, ?_, item.1, rfl⟩
      simp [locatedEntry]
  unique := by
    rintro first among second present line ⟨-, -, name, ends⟩ ⟨-, -, other, also⟩
    have same : first.path = second.path := (List.append_inj' (ends.symm.trans also) rfl).1
    exact List.inj_on_of_nodup_map (DirTree.descendants_nodup depth []) among present same
  deeper := by
    rintro above among line member ⟨-, -, name, ends⟩
    have upper := descendants_depth among
    have lower := descendants_depth member
    rw [ends, List.length_append, List.length_singleton] at lower
    omega

def pageCalls : Nat → List Nat → List (Nat × Nat)
  | _, [] => []
  | offset, limit :: limits => (offset, limit) :: pageCalls (offset + limit) limits

def moreNote (total offset limit : Nat) : List String :=
  if offset - 1 + limit < total then [s!"More than {limit} entries found"] else []

/-- The pages of consecutive calls, each less its note that there is more, are the lines. -/
def InPages (slice : Nat → Nat → Except String (List String)) (lines : List String) : Prop :=
  ∀ limits : List Nat, (∀ limit ∈ limits, 0 < limit) → limits.dropLast.sum < lines.length →
    lines.length ≤ limits.sum → ∃ pages : List (List String),
      List.Forall₂ (fun call page => slice call.1 call.2 =
        .ok (page ++ moreNote lines.length call.1 call.2)) (pageCalls 1 limits) pages ∧
      pages.flatten = lines

/-- What the tool shows of a tree, whatever order its sort gives to equal keys: the tree's entries,
each once and under its parent, and the pages together show them all. -/
structure DirTree.ListedCorrectly (tree : DirTree) (depth : Nat) (oneDecimal : OneDecimal)
    (sortUnstable : UnstableSort sortKey) (collected : List LocatedEntry) : Prop where
  complete : (sortUnstable.sort collected).Perm (tree.descendants depth [])
  distinct : ((sortUnstable.sort collected).map LocatedEntry.path).Nodup
  rendered : Rendered entryDepth ParentOf (sortUnstable.sort collected)
  pages : InPages (fun offset limit => listDirSlice sortUnstable oneDecimal tree offset limit depth)
    ((sortUnstable.sort collected).map fun line => formatDirEntryLine oneDecimal line.entry)

theorem consecutive_pages {slice : Nat → Nat → Except String (List String)} {lines : List String}
    (each : ∀ offset limit, offset - 1 < lines.length → slice offset limit =
      .ok ((lines.drop (offset - 1)).take limit ++ moreNote lines.length offset limit))
    (limits : List Nat) (offset : Nat) (first : 0 < offset)
    (before : offset - 1 + limits.dropLast.sum < lines.length)
    (enough : lines.length ≤ offset - 1 + limits.sum) :
    ∃ pages : List (List String),
      List.Forall₂ (fun call page => slice call.1 call.2 =
        .ok (page ++ moreNote lines.length call.1 call.2)) (pageCalls offset limits) pages ∧
      pages.flatten = lines.drop (offset - 1) := by
  induction limits generalizing offset with
  | nil =>
    simp only [List.dropLast_nil, List.sum_nil] at before enough
    omega
  | cons limit limits ih =>
    rw [List.sum_cons] at enough
    have page := each offset limit (by omega)
    cases limits with
    | nil =>
      refine ⟨[(lines.drop (offset - 1)).take limit], .cons page .nil, ?_⟩
      rw [List.sum_nil] at enough
      rw [List.flatten_singleton, List.take_of_length_le (by rw [List.length_drop]; omega)]
    | cons next limits =>
      rw [List.dropLast_cons_of_ne_nil (by simp), List.sum_cons] at before
      have moved : offset + limit - 1 = offset - 1 + limit := by omega
      obtain ⟨pages, called, whole⟩ := ih (offset + limit) (by omega) (by omega) (by omega)
      refine ⟨_, .cons page called, ?_⟩
      rw [List.flatten_cons, whole, moved, ← List.drop_drop, List.take_append_drop]

section Listing

variable {tree : DirTree} {depth : Nat} {sortUnstable : UnstableSort sortKey}
  {collected : List LocatedEntry} {oneDecimal : OneDecimal}

theorem listDirSlice_page
    (found : ListDir.collectDirEntries sortUnstable tree depth = .ok collected)
    {offset : Nat} (within : offset - 1 < collected.length) (limit : Nat) :
    listDirSlice sortUnstable oneDecimal tree offset limit depth =
      .ok (((((sortUnstable.sort collected).map fun line =>
          formatDirEntryLine oneDecimal line.entry).drop (offset - 1)).take limit) ++
        moreNote collected.length offset limit) := by
  have length := (sortUnstable.perm collected).length_eq
  have filled : ¬collected.isEmpty = true := by
    rw [List.isEmpty_iff_length_eq_zero]
    omega
  rw [listDirSlice, found]
  simp only [if_neg filled, length, if_neg (Nat.not_le.mpr within)]
  have selected : ((sortUnstable.sort collected).take
      (offset - 1 + min limit (collected.length - (offset - 1)))).drop (offset - 1) =
      ((sortUnstable.sort collected).drop (offset - 1)).take limit := by
    rw [List.drop_take, Nat.add_sub_cancel_left, List.take_eq_take_iff, List.length_drop, length]
    omega
  rw [selected, List.map_take, List.map_drop, moreNote]
  by_cases more : offset - 1 + limit < collected.length
  · have capped : min limit (collected.length - (offset - 1)) = limit := by omega
    rw [capped, if_pos more, if_pos more]
  · rw [if_neg more, if_neg (by omega), List.append_nil]

theorem listing_in_pages
    (found : ListDir.collectDirEntries sortUnstable tree depth = .ok collected) :
    InPages (fun offset limit => listDirSlice sortUnstable oneDecimal tree offset limit depth)
      ((sortUnstable.sort collected).map fun line =>
        formatDirEntryLine oneDecimal line.entry) := by
  intro limits _ before enough
  have length := (sortUnstable.perm collected).length_eq
  refine @consecutive_pages
    (fun offset limit => listDirSlice sortUnstable oneDecimal tree offset limit depth) _
    (fun offset limit within => ?_) limits 1 Nat.one_pos (by simpa using before)
    (by simpa using enough)
  rw [List.length_map, length] at within ⊢
  exact listDirSlice_page found within limit

theorem collected_perm (positive : 0 < depth)
    (found : ListDir.collectDirEntries sortUnstable tree depth = .ok collected) :
    (sortUnstable.sort collected).Perm (tree.descendants depth []) := by
  have order := ListDir.collectFrom_perm (by simpa using positive) found
  rw [List.flatMap_singleton] at order
  exact (sortUnstable.perm collected).trans order

theorem collect_ok_iff (positive : 0 < depth) :
    (∃ collected, ListDir.collectDirEntries sortUnstable tree depth = .ok collected) ↔
      tree.Readable depth [] := by
  rw [ListDir.collectDirEntries, ListDir.collectFrom_ok_iff (by simpa using positive)]
  simp

theorem listedCorrectly_of_apart (positive : 0 < depth)
    (apart : Apart entryDepth ParentOf sortKey (tree.descendants depth []))
    (found : ListDir.collectDirEntries sortUnstable tree depth = .ok collected) :
    tree.ListedCorrectly depth oneDecimal sortUnstable collected where
  complete := collected_perm positive found
  distinct := ((collected_perm positive found).map LocatedEntry.path).nodup_iff.mpr
    (DirTree.descendants_nodup depth [])
  rendered := rendered_of_apart (descendants_branches tree depth) apart
    (collected_perm positive found) (sortUnstable.sorted collected)
  pages := listing_in_pages found

theorem apart_of_rendered (positive : 0 < depth) (readable : tree.Readable depth [])
    (always : ∀ (sortUnstable : UnstableSort sortKey) (collected : List LocatedEntry),
      ListDir.collectDirEntries sortUnstable tree depth = .ok collected →
      Rendered entryDepth ParentOf (sortUnstable.sort collected)) :
    Apart entryDepth ParentOf sortKey (tree.descendants depth []) := by
  refine (ranked_rendered_iff_apart (descendants_branches tree depth)).mp fun rank => ?_
  obtain ⟨collected, found⟩ :=
    (@collect_ok_iff tree depth (.ranked sortKey rank) positive).mpr readable
  exact ⟨_, collected_perm positive found, sorted_rankedLe sortKey rank collected,
    always (.ranked sortKey rank) collected found⟩

/-- The listing is right for every order that the sort may give exactly when no entry of a
directory's depth has a sort key from the directory's to that of an entry in it. -/
theorem list_dir_correct_iff (tree : DirTree) {depth : Nat} (positive : 0 < depth)
    (oneDecimal : OneDecimal) :
    (∀ (sortUnstable : UnstableSort sortKey) (collected : List LocatedEntry),
      ListDir.collectDirEntries sortUnstable tree depth = .ok collected →
      tree.ListedCorrectly depth oneDecimal sortUnstable collected) ↔
      (tree.Readable depth [] →
        Apart entryDepth ParentOf sortKey (tree.descendants depth [])) := by
  constructor
  next =>
    intro always readable
    exact apart_of_rendered positive readable fun sortUnstable collected found =>
      (always sortUnstable collected found).rendered
  next =>
    intro apart sortUnstable collected found
    exact listedCorrectly_of_apart positive
      (apart ((collect_ok_iff positive).mp ⟨collected, found⟩)) found

end Listing

section Example

def nameA : FileName := ⟨[0x61], by decide, by decide, by decide⟩

def nameABang : FileName := ⟨[0x61, 0x21], by decide, by decide, by decide⟩

def nameX : FileName := ⟨[0x78], by decide, by decide, by decide⟩

def bangTree : DirTree where
  readDir := fun place =>
    if place = [] then .ok [(nameA, .directory), (nameABang, .file 0)]
    else if place = [nameA] then .ok [(nameX, .file 0)]
    else .error "failed to read directory"
  distinct := by
    intro place found read
    split at read
    next =>
      cases read
      decide
    next =>
      split at read
      next =>
        cases read
        decide
      next => cases read

theorem bangTree_directories : bangTree.directoriesAt [] = [nameA] := by decide

theorem bangTree_readable : bangTree.Readable 2 [] := by
  intro below leads short
  rcases leads.last with rfl | ⟨front, name, rfl, -, inside⟩
  · exact ⟨_, rfl⟩
  · rw [List.length_append, List.length_singleton] at short
    obtain rfl : front = [] := List.eq_nil_of_length_eq_zero (Nat.le_zero.mp (Nat.le_of_lt_succ (Nat.lt_of_succ_lt_succ short)))
    rw [bangTree_directories, List.mem_singleton] at inside
    exact ⟨_, by rw [inside]; rfl⟩

theorem bangTree_not_apart : ¬Apart entryDepth ParentOf sortKey (bangTree.descendants 2 []) := by
  intro apart
  have root := @DirTree.Leads.here bangTree []
  have inA : bangTree.Leads [] [nameA] := .step (by rw [bangTree_directories]; simp) (.here _)
  have ⟨_, clear⟩ := apart (locatedEntry [nameA] (nameX, .file 0))
    (DirTree.mem_descendants.mpr ⟨_, _, inA, by decide, by decide, rfl⟩)
    (locatedEntry [] (nameA, .directory))
    (DirTree.mem_descendants.mpr ⟨_, _, root, by decide, by decide, rfl⟩)
    ⟨rfl, by decide, nameX, rfl⟩
  have beside := clear (locatedEntry [] (nameABang, .file 0))
    (DirTree.mem_descendants.mpr ⟨_, _, root, by decide, by decide, rfl⟩) rfl
    (fun same => absurd (congrArg LocatedEntry.path same) (by decide))
  revert beside
  decide +kernel

theorem bangTree_misread :
    ¬∀ (sortUnstable : UnstableSort sortKey) (collected : List LocatedEntry),
      ListDir.collectDirEntries sortUnstable bangTree 2 = .ok collected →
      bangTree.ListedCorrectly 2 (fun _ _ => "") sortUnstable collected := by
  intro always
  exact bangTree_not_apart ((list_dir_correct_iff bangTree Nat.two_pos (fun _ _ => "")).mp always
    bangTree_readable)

theorem bang_name_misplaces : ¬∀ (tree : DirTree) (depth : Nat) (oneDecimal : OneDecimal)
    (sortUnstable : UnstableSort sortKey) (collected : List LocatedEntry), 0 < depth →
    ListDir.collectDirEntries sortUnstable tree depth = .ok collected →
    tree.ListedCorrectly depth oneDecimal sortUnstable collected := by
  intro always
  have rendered := fun sortUnstable collected found =>
    (always bangTree 2 (fun _ _ => "") sortUnstable collected Nat.two_pos found).rendered
  exact bangTree_not_apart (apart_of_rendered Nat.two_pos bangTree_readable rendered)

end Example

end OpenJax.Tools
