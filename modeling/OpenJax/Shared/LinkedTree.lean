import OpenJax.Shared.OsPath

set_option autoImplicit false

/-! Directory trees with symbolic links, and how the operating system follows a path in them. -/

namespace OpenJax.Shared

abbrev Location := List String

inductive Entry where
  | file
  | directory
  | link (target : OsPath)
  deriving DecidableEq, Repr

/-- A lookup may be refused: no permission to search, a name that no file can have. -/
structure LinkedTree where
  entry : Location → Option Entry
  refuses : Location → String → Bool
  maxLinks : Nat
  -- The working directory of the process.
  here : Location
  root : entry [] = some .directory
  working : entry here = some .directory
  closed : ∀ location name, entry (location ++ [name]) ≠ none →
    entry location = some .directory

def LinkedTree.ofEntries (entries : List (Location × Entry)) (maxLinks : Nat) (here : Location)
    (root : entries.lookup [] = some .directory) (working : entries.lookup here = some .directory)
    (parents : ∀ entry ∈ entries, entry.1 ≠ [] →
      entries.lookup entry.1.dropLast = some .directory) : LinkedTree where
  entry location := entries.lookup location
  refuses _ _ := false
  maxLinks := maxLinks
  here := here
  root := root
  working := working
  closed location name present := by
    obtain ⟨found, listed⟩ := Option.ne_none_iff_exists'.mp present
    obtain ⟨before, after, split, -⟩ := List.lookup_eq_some_iff.mp listed
    have parent := parents (location ++ [name], found) (by rw [split]; simp) (by simp)
    rwa [List.dropLast_concat] at parent

/-- Where a path leads, in a directory with the links that may still be followed. -/
inductive Walked where
  | directory (location : Location) (links : Nat)
  | file (location : Location)
  -- Only the last name is missing, in an existing directory.
  | missing (directory : Location) (name : String)
  | absent
  | refused
  deriving DecidableEq, Repr

namespace LinkedTree

def walkSteps (tree : LinkedTree) (follow : Location → List PathStep → Walked) (links : Nat) :
    Location → List PathStep → Walked
  | current, [] => .directory current links
  | current, .current :: rest => walkSteps tree follow links current rest
  | current, .parent :: rest => walkSteps tree follow links current.dropLast rest
  | current, .name name :: rest =>
      if tree.refuses current name then .refused
      else
        match tree.entry (current ++ [name]) with
        | none => if rest.isEmpty then .missing current name else .absent
        | some .file => if rest.isEmpty then .file (current ++ [name]) else .refused
        | some .directory => walkSteps tree follow links (current ++ [name]) rest
        | some (.link target) =>
            follow (if target.isAbsolute then [] else current) (target.steps ++ rest)

def walk (tree : LinkedTree) : Nat → Location → List PathStep → Walked
  | 0 => walkSteps tree (fun _ _ => .refused) 0
  | links + 1 => walkSteps tree (walk tree links) (links + 1)

def follow (tree : LinkedTree) (path : OsPath) : Walked :=
  if path = ⟨.bare, []⟩ then .absent
  else tree.walk tree.maxLinks (if path.isAbsolute then [] else tree.here) path.steps

def locate? (tree : LinkedTree) (path : OsPath) : Option Location :=
  match tree.follow path with
  | .directory location _ | .file location => some location
  | _ => none

def pathExists (tree : LinkedTree) (path : OsPath) : Bool := (tree.locate? path).isSome

def isDir (tree : LinkedTree) (path : OsPath) : Bool :=
  match tree.follow path with
  | .directory _ _ => true
  | _ => false

def canonicalize? (tree : LinkedTree) (path : OsPath) : Option OsPath :=
  (tree.locate? path).map fun location => ⟨.root, location.map .name⟩

def openForWrite? (tree : LinkedTree) (path : OsPath) : Option Location :=
  match tree.follow path with
  | .missing directory name => some (directory ++ [name])
  | .file location => some location
  | _ => none

def addDirectory (tree : LinkedTree) (directory : Location) (name : String)
    (existing : tree.entry directory = some .directory) : LinkedTree where
  entry location := if location = directory ++ [name] then some .directory else tree.entry location
  refuses := tree.refuses
  maxLinks := tree.maxLinks
  here := tree.here
  root := by rw [if_neg (by simp), tree.root]
  working := by
    split
    · rfl
    · exact tree.working
  closed location other present := by
    split
    · rfl
    · split at present
      · rename_i same
        rw [(List.append_inj' same rfl).1, existing]
      · exact tree.closed location other present

inductive Mkdir where
  | created (tree : LinkedTree)
  | alreadyThere
  | notFound
  | refused

def mkdirIn (tree : LinkedTree) (name : String) : Walked → Mkdir
  | .directory directory _ =>
      if tree.refuses directory name then .refused
      else if existing : tree.entry directory = some .directory then
        if tree.entry (directory ++ [name]) = none then
          .created (tree.addDirectory directory name existing)
        else .alreadyThere
      else .refused
  | .missing _ _ | .absent => .notFound
  | .file _ | .refused => .refused

def outer (start : PathStart) (steps : List PathStep) : OsPath :=
  ⟨if start = .bare then .dot else start, steps⟩

def mkdir (tree : LinkedTree) (path : OsPath) : Mkdir :=
  match path.steps.getLast? with
  | some (.name name) =>
      tree.mkdirIn name (tree.follow (outer path.start path.steps.dropLast))
  | _ =>
      match tree.follow path with
      | .directory _ _ => .alreadyThere
      | .missing _ _ | .absent => .notFound
      | .file _ | .refused => .refused

/-- `create_dir_all` on a path with its ancestors. -/
def createDirs (tree : LinkedTree) : List OsPath → Option LinkedTree
  | [] => none
  | path :: outer =>
      if path = ⟨.bare, []⟩ then some tree
      else
        match tree.mkdir path with
        | .created next => some next
        | .alreadyThere => if tree.isDir path then some tree else none
        | .refused => none
        | .notFound =>
            (createDirs tree outer).bind fun next =>
              match next.mkdir path with
              | .created last => some last
              | .alreadyThere => if next.isDir path then some next else none
              | _ => none

def createDirAll (tree : LinkedTree) (path : OsPath) : Option LinkedTree :=
  tree.createDirs path.ancestors

section Walking

variable (tree : LinkedTree)

/-- What a link leads to while `links` may still be followed. -/
def linked (links : Nat) (current : Location) (steps : List PathStep) : Walked :=
  match links with
  | 0 => .refused
  | remaining + 1 => tree.walk remaining current steps

variable (links : Nat) (current : Location)

@[simp] theorem walk_nil : tree.walk links current [] = .directory current links := by
  cases links <;> rfl

@[simp] theorem walk_current (rest : List PathStep) :
    tree.walk links current (.current :: rest) = tree.walk links current rest := by
  cases links <;> rfl

@[simp] theorem walk_parent (rest : List PathStep) :
    tree.walk links current (.parent :: rest) = tree.walk links current.dropLast rest := by
  cases links <;> rfl

theorem walk_name (name : String) (rest : List PathStep) :
    tree.walk links current (.name name :: rest) =
      if tree.refuses current name then .refused
      else
        match tree.entry (current ++ [name]) with
        | none => if rest.isEmpty then .missing current name else .absent
        | some .file => if rest.isEmpty then .file (current ++ [name]) else .refused
        | some .directory => tree.walk links (current ++ [name]) rest
        | some (.link target) =>
            tree.linked links (if target.isAbsolute then [] else current)
              (target.steps ++ rest) := by
  cases links <;> rfl

theorem walk_induction {motive : Nat → Location → List PathStep → Prop}
    (nil : ∀ links current, motive links current [])
    (stay : ∀ links current rest, motive links current rest →
      motive links current (.current :: rest))
    (up : ∀ links current rest, motive links current.dropLast rest →
      motive links current (.parent :: rest))
    (enter : ∀ links current name rest, motive links (current ++ [name]) rest →
      (∀ remaining (target : OsPath), links = remaining + 1 →
        motive remaining (if target.isAbsolute then [] else current) (target.steps ++ rest)) →
      motive links current (.name name :: rest))
    (links : Nat) (current : Location) (steps : List PathStep) : motive links current steps := by
  induction links generalizing current steps with
  | zero =>
    induction steps generalizing current with
    | nil => exact nil 0 current
    | cons step rest ih =>
      cases step with
      | current => exact stay 0 current rest (ih current)
      | parent => exact up 0 current rest (ih current.dropLast)
      | name name =>
        refine enter 0 current name rest (ih (current ++ [name])) ?_
        intro remaining target impossible
        cases impossible
  | succ links walked =>
    induction steps generalizing current with
    | nil => exact nil (links + 1) current
    | cons step rest ih =>
      cases step with
      | current => exact stay (links + 1) current rest (ih current)
      | parent => exact up (links + 1) current rest (ih current.dropLast)
      | name name =>
        refine enter (links + 1) current name rest (ih (current ++ [name])) ?_
        intro remaining target same
        obtain rfl := Nat.succ.inj same
        exact walked _ _

def andThen (walked : Walked) (steps : List PathStep) : Walked :=
  match walked with
  | .directory location links => tree.walk links location steps
  | .missing _ _ | .absent => .absent
  | .file _ | .refused => .refused

theorem walk_append {more : List PathStep} (inhabited : more ≠ []) (links : Nat)
    (current : Location) (steps : List PathStep) :
    tree.walk links current (steps ++ more) =
      tree.andThen (tree.walk links current steps) more := by
  induction links, current, steps using walk_induction with
  | nil links current => rw [List.nil_append, walk_nil, andThen]
  | stay links current rest ih => rw [List.cons_append, walk_current, walk_current, ih]
  | up links current rest ih => rw [List.cons_append, walk_parent, walk_parent, ih]
  | enter links current name rest ih followed =>
    rw [List.cons_append, walk_name, walk_name]
    by_cases refused : tree.refuses current name = true
    · rw [if_pos refused, if_pos refused, andThen]
    · rw [if_neg refused, if_neg refused]
      have longer : (rest ++ more).isEmpty = false := by simp [inhabited]
      cases tree.entry (current ++ [name]) with
      | none => cases empty : rest.isEmpty <;> simp [longer, andThen]
      | some entry =>
        cases entry with
        | file => cases empty : rest.isEmpty <;> simp [longer, andThen]
        | directory => exact ih
        | link target =>
          dsimp only
          rw [← List.append_assoc]
          cases links with
          | zero => rfl
          | succ remaining => exact followed remaining target rfl

def Confirms : Walked → Prop
  | .directory location _ => tree.entry location = some .directory
  | .file location => tree.entry location = some .file
  | .missing directory name => tree.entry directory = some .directory ∧
      tree.entry (directory ++ [name]) = none ∧ tree.refuses directory name = false
  | .absent | .refused => True

theorem parent_directory {location : Location}
    (present : tree.entry location = some .directory) :
    tree.entry location.dropLast = some .directory := by
  cases location using List.reverseRecOn with
  | nil => exact present
  | append_singleton outer name =>
    rw [List.dropLast_concat]
    exact tree.closed outer name (by rw [present]; simp)

theorem walk_correct (steps : List PathStep) (start : tree.entry current = some .directory) :
    tree.Confirms (tree.walk links current steps) := by
  induction links, current, steps using walk_induction with
  | nil links current => rwa [walk_nil]
  | stay links current rest ih => rw [walk_current]; exact ih start
  | up links current rest ih => rw [walk_parent]; exact ih (tree.parent_directory start)
  | enter links current name rest ih followed =>
    rw [walk_name]
    by_cases refused : tree.refuses current name = true
    · rw [if_pos refused]
      trivial
    · rw [if_neg refused]
      cases found : tree.entry (current ++ [name]) with
      | none => cases rest <;> simp [Confirms, start, found, refused]
      | some entry =>
        cases entry with
        | file => cases rest <;> simp [Confirms, found]
        | directory => exact ih found
        | link target =>
          cases links with
          | zero => trivial
          | succ remaining =>
            refine followed remaining target rfl ?_
            split
            · exact tree.root
            · exact start

theorem follow_correct (path : OsPath) : tree.Confirms (tree.follow path) := by
  unfold follow
  split
  · trivial
  · refine tree.walk_correct _ _ _ ?_
    split
    · exact tree.root
    · exact tree.working

structure Extends (small large : LinkedTree) : Prop where
  entry : ∀ location found, small.entry location = some found →
    large.entry location = some found
  refuses : large.refuses = small.refuses
  maxLinks : large.maxLinks = small.maxLinks
  here : large.here = small.here

theorem Extends.refl : Extends tree tree := ⟨fun _ _ => id, rfl, rfl, rfl⟩

variable {tree}

theorem Extends.trans {second third : LinkedTree} (first : Extends tree second)
    (next : Extends second third) : Extends tree third where
  entry location found present := next.entry location found (first.entry location found present)
  refuses := next.refuses.trans first.refuses
  maxLinks := next.maxLinks.trans first.maxLinks
  here := next.here.trans first.here

theorem Extends.walk {large : LinkedTree} (extended : Extends tree large) {links left : Nat}
    {current location : Location} {steps : List PathStep}
    (walked : tree.walk links current steps = .directory location left) :
    large.walk links current steps = .directory location left := by
  induction links, current, steps using walk_induction with
  | nil links current => rwa [walk_nil] at walked ⊢
  | stay links current rest ih =>
    rw [walk_current] at walked ⊢
    exact ih walked
  | up links current rest ih =>
    rw [walk_parent] at walked ⊢
    exact ih walked
  | enter links current name rest ih followed =>
    rw [walk_name] at walked ⊢
    rw [extended.refuses]
    by_cases refused : tree.refuses current name = true
    · rw [if_pos refused] at walked
      cases walked
    · rw [if_neg refused] at walked ⊢
      cases found : tree.entry (current ++ [name]) with
      | none => cases rest <;> simp [found] at walked
      | some entry =>
        rw [extended.entry _ _ found]
        rw [found] at walked
        cases entry with
        | file => cases rest <;> simp at walked
        | directory => exact ih walked
        | link target =>
          cases links with
          | zero => cases walked
          | succ remaining => exact followed remaining target rfl walked

end Walking

end LinkedTree

end OpenJax.Shared
