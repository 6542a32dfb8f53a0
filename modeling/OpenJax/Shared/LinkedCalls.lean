import OpenJax.Shared.LinkedTree

set_option autoImplicit false

/-! Creating directories and opening files by paths that may contain links. -/

namespace OpenJax.Shared

namespace LinkedTree

section Calls

variable {tree : LinkedTree}

theorem follow_start {start : PathStart} {steps : List PathStep} (inhabited : steps ≠ []) :
    tree.follow ⟨start, steps⟩ =
      tree.walk tree.maxLinks (if start = .root then [] else tree.here) steps := by
  simp [follow, inhabited, OsPath.isAbsolute]

variable (start : PathStart)

theorem follow_outer (steps : List PathStep) :
    tree.follow (outer start steps) =
      tree.walk tree.maxLinks (if start = .root then [] else tree.here) steps := by
  cases start <;> simp [follow, outer, OsPath.isAbsolute]

theorem follow_concat (steps : List PathStep) (name : String) :
    tree.follow ⟨start, steps ++ [.name name]⟩ =
      tree.andThen (tree.follow (outer start steps)) [.name name] := by
  rw [follow_outer, follow_start (by simp)]
  exact tree.walk_append (by simp) _ _ _

theorem mkdir_concat (steps : List PathStep) (name : String) :
    tree.mkdir ⟨start, steps ++ [.name name]⟩ =
      tree.mkdirIn name (tree.follow (outer start steps)) := by
  simp [mkdir]

variable {location : Location} {links : Nat}

theorem mkdirIn_directory (existing : tree.entry location = some .directory) (name : String) :
    tree.mkdirIn name (.directory location links) =
      if tree.refuses location name then .refused
      else if tree.entry (location ++ [name]) = none then
        .created (tree.addDirectory location name existing)
      else .alreadyThere := by
  rw [mkdirIn, dif_pos existing]

theorem walk_stays {links left count : Nat} {current location : Location}
    {steps : List PathStep} :
    tree.walk links current (steps ++ List.replicate count .current) =
        .directory location left ↔
      tree.walk links current steps = .directory location left := by
  have standing (links : Nat) (current : Location) :
      tree.walk links current (List.replicate count .current) = .directory current links := by
    induction count with
    | zero => simp
    | succ count ih => rw [List.replicate_succ, walk_current, ih]
  cases count with
  | zero => simp
  | succ count =>
    rw [tree.walk_append (by simp)]
    cases walked : tree.walk links current steps with
    | directory location left => rw [andThen, standing]
    | _ => simp [andThen]

variable {path : OsPath}

theorem mkdir_directory (inhabited : path ≠ ⟨.bare, []⟩)
    (found : tree.follow path = .directory location links) : tree.mkdir path = .alreadyThere := by
  obtain ⟨start, steps⟩ := path
  cases steps using List.reverseRecOn with
  | nil => simp [mkdir, found]
  | append_singleton steps step =>
    cases step with
    | current => simp [mkdir, found]
    | parent => simp [mkdir, found]
    | name name =>
      have right := tree.follow_correct (outer start steps)
      rw [follow_concat] at found
      rw [mkdir_concat]
      cases walked : tree.follow (outer start steps) with
      | directory location links =>
        rw [walked] at found right
        rw [andThen, walk_name] at found
        rw [mkdirIn_directory right]
        by_cases refused : tree.refuses location name = true
        · rw [if_pos refused] at found
          cases found
        · rw [if_neg refused] at found ⊢
          cases present : tree.entry (location ++ [name]) with
          | none => simp [present] at found
          | some entry => simp
      | _ => simp [walked, andThen] at found

def Blocked : Walked → Prop
  | .file _ | .refused => True
  | _ => False

theorem mkdir_blocked (blocked : Blocked (tree.follow path)) :
    tree.mkdir path = .refused ∨ tree.mkdir path = .alreadyThere := by
  obtain ⟨start, steps⟩ := path
  have last (other : ∀ name, steps.getLast? ≠ some (.name name)) :
      tree.mkdir ⟨start, steps⟩ = .refused := by
    unfold mkdir
    split
    · rename_i name found
      exact absurd found (other name)
    · split <;> simp_all [Blocked]
  cases steps using List.reverseRecOn with
  | nil => exact .inl (last (by simp))
  | append_singleton steps step =>
    cases step with
    | current => exact .inl (last (by simp))
    | parent => exact .inl (last (by simp))
    | name name =>
      have right := tree.follow_correct (outer start steps)
      rw [follow_concat] at blocked
      rw [mkdir_concat]
      cases walked : tree.follow (outer start steps) with
      | directory location links =>
        rw [walked] at blocked right
        rw [andThen, walk_name] at blocked
        rw [mkdirIn_directory right]
        by_cases refused : tree.refuses location name = true
        · exact .inl (if_pos refused)
        · rw [if_neg refused] at blocked ⊢
          cases present : tree.entry (location ++ [name]) with
          | none => simp [present, Blocked] at blocked
          | some entry => exact .inr (by simp)
      | missing => simp [walked, andThen, Blocked] at blocked
      | absent => simp [walked, andThen, Blocked] at blocked
      | file => exact .inl rfl
      | refused => exact .inl rfl

theorem createDirs_directory (found : tree.follow path = .directory location links)
    (rest : List OsPath) : tree.createDirs (path :: rest) = some tree := by
  rw [createDirs]
  by_cases empty : path = ⟨.bare, []⟩
  · rw [if_pos empty]
  · rw [if_neg empty, mkdir_directory empty found]
    simp [isDir, found]

theorem createDirs_blocked (blocked : Blocked (tree.follow path)) (rest : List OsPath) :
    tree.createDirs (path :: rest) = none := by
  have inhabited : path ≠ ⟨.bare, []⟩ := by
    rintro rfl
    simp [follow, Blocked] at blocked
  have notDirectory : tree.isDir path = false := by
    unfold isDir
    split
    · rename_i found
      rw [found] at blocked
      exact blocked.elim
    · rfl
  rw [createDirs, if_neg inhabited]
  rcases mkdir_blocked blocked with refused | there
  · rw [refused]
  · rw [there]
    simp [notDirectory]

theorem follow_names (present : tree.entry location = some .directory) :
    (∃ links, tree.follow ⟨.root, location.map .name⟩ = .directory location links) ∨
      tree.follow ⟨.root, location.map .name⟩ = .refused := by
  induction location using List.reverseRecOn with
  | nil => exact .inl ⟨tree.maxLinks, by simp [follow, OsPath.isAbsolute]⟩
  | append_singleton location name ih =>
    have existing := tree.closed location name (by simp [present])
    rw [List.map_append, List.map_singleton, follow_concat]
    rcases ih existing with ⟨links, walked⟩ | walked
    · rw [show tree.follow (outer .root (location.map .name)) = _ from walked, andThen, walk_name]
      by_cases refused : tree.refuses location name = true
      · exact .inr (if_pos refused)
      · exact .inl ⟨links, by simp [refused, present]⟩
    · rw [show tree.follow (outer .root (location.map .name)) = _ from walked]
      exact .inr rfl

theorem follow_file (present : tree.entry location = some .file) :
    tree.follow ⟨.root, location.map .name⟩ = .file location ∨
      tree.follow ⟨.root, location.map .name⟩ = .refused := by
  cases location using List.reverseRecOn with
  | nil => simp [tree.root] at present
  | append_singleton location name =>
    have existing := tree.closed location name (by simp [present])
    rw [List.map_append, List.map_singleton, follow_concat]
    rcases follow_names existing with ⟨links, walked⟩ | walked
    · rw [show tree.follow (outer .root (location.map .name)) = _ from walked, andThen, walk_name]
      by_cases refused : tree.refuses location name = true
      · exact .inr (if_pos refused)
      · exact .inl (by simp [refused, present])
    · rw [show tree.follow (outer .root (location.map .name)) = _ from walked]
      exact .inr rfl

theorem addDirectory_extends {directory : Location} {name : String}
    (existing : tree.entry directory = some .directory)
    (fresh : tree.entry (directory ++ [name]) = none) :
    Extends tree (tree.addDirectory directory name existing) := by
  refine ⟨?_, rfl, rfl, rfl⟩
  intro location found present
  have other : location ≠ directory ++ [name] := by
    rintro rfl
    rw [fresh] at present
    cases present
  exact (if_neg other).trans present

theorem Extends.follow {large : LinkedTree} (extended : Extends tree large)
    (found : tree.follow path = .directory location links) :
    large.follow path = .directory location links := by
  unfold LinkedTree.follow at found ⊢
  split
  · rename_i empty
    rw [if_pos empty] at found
    cases found
  · rename_i inhabited
    rw [if_neg inhabited] at found
    rw [extended.maxLinks, extended.here]
    exact extended.walk found

theorem openForWrite_name (opened : tree.openForWrite? path = some location) :
    ∃ name, path.steps.getLast? = some (.name name) := by
  obtain ⟨start, steps⟩ := path
  unfold openForWrite? at opened
  cases steps using List.reverseRecOn with
  | nil => cases start <;> simp [follow] at opened
  | append_singleton outer step =>
    rw [follow_start (by simp), tree.walk_append (by simp)] at opened
    cases step with
    | name name => exact ⟨name, List.getLast?_concat⟩
    | current =>
      cases walked : tree.walk tree.maxLinks (if start = .root then [] else tree.here) outer <;>
        simp [walked, andThen] at opened
    | parent =>
      cases walked : tree.walk tree.maxLinks (if start = .root then [] else tree.here) outer <;>
        simp [walked, andThen] at opened

end Calls

section Creation

variable {tree : LinkedTree} {anchor : OsPath}

def child (path : OsPath) (count : Nat) (name : String) : OsPath :=
  ⟨path.start, path.steps ++ List.replicate count .current ++ [.name name]⟩

/-- A path below an existing one by names that lead nowhere yet, with its ancestors. -/
inductive Descends (tree : LinkedTree) (anchor : OsPath) : OsPath → List OsPath → Prop where
  | anchor (rest : List OsPath) : Descends tree anchor anchor (anchor :: rest)
  | named {path : OsPath} {outer : List OsPath} (count : Nat) (name : String)
      (descends : Descends tree anchor path outer)
      (absent : tree.pathExists (child path count name) = false) :
      Descends tree anchor (child path count name) (child path count name :: outer)

variable {path : OsPath}

theorem pathExists_directory {location : Location} {links : Nat}
    (found : tree.follow path = .directory location links) : tree.pathExists path = true := by
  simp [pathExists, locate?, found]

theorem outer_stays (count : Nat) (rooted : path ≠ ⟨.bare, []⟩)
    {location : Location} {links : Nat} :
    tree.follow (outer path.start (path.steps ++ List.replicate count .current)) =
        .directory location links ↔
      tree.follow path = .directory location links := by
  obtain ⟨start, steps⟩ := path
  rw [follow_outer, walk_stays]
  cases steps with
  | nil => cases start <;> simp_all [follow, OsPath.isAbsolute]
  | cons step rest => rw [follow_start (by simp)]

variable {list : List OsPath}

theorem Descends.rooted (descends : Descends tree anchor path list)
    (exists_ : tree.pathExists anchor = true) : path ≠ ⟨.bare, []⟩ := by
  cases descends with
  | anchor rest =>
    rintro rfl
    simp [pathExists, locate?, follow] at exists_
  | named count name descends absent => simp [child]

/-- What the creation of the missing directories leaves: the path leads into the directory the
anchor names, and a new directory is empty. -/
structure Created (tree next : LinkedTree) (anchor path : OsPath) (place : Location) : Prop where
  extended : Extends tree next
  unchanged : path = anchor → next = tree
  led : ∃ location links, next.follow path = .directory location links ∧ place <+: location ∧
    (path ≠ anchor → ∀ name, next.entry (location ++ [name]) = none)

theorem Descends.of_exists (descends : Descends tree anchor path list)
    (present : tree.pathExists path = true) : path = anchor := by
  cases descends with
  | anchor rest => rfl
  | named count name descends absent => simp [present] at absent

theorem isDir_absent (absent : tree.pathExists path = false) : tree.isDir path = false := by
  unfold isDir
  split
  · rename_i found
    rw [pathExists_directory found] at absent
    cases absent
  · rfl

theorem mkdir_created {count : Nat} {name : String} (rooted : path ≠ ⟨.bare, []⟩)
    {next : LinkedTree} (created : tree.mkdir (child path count name) = .created next) :
    ∃ location links, tree.follow path = .directory location links ∧ Extends tree next ∧
      next.follow (child path count name) = .directory (location ++ [name]) links ∧
      ∀ other, next.entry (location ++ [name] ++ [other]) = none := by
  have right := tree.follow_correct (outer path.start (path.steps ++ List.replicate count .current))
  rw [child, mkdir_concat] at created
  cases walked : tree.follow (outer path.start (path.steps ++ List.replicate count .current)) with
  | directory location links =>
    rw [walked] at created right
    have existing : tree.entry location = some .directory := right
    rw [mkdirIn_directory existing] at created
    by_cases refused : tree.refuses location name = true
    · rw [if_pos refused] at created
      cases created
    rw [if_neg refused] at created
    by_cases fresh : tree.entry (location ++ [name]) = none
    · rw [if_pos fresh] at created
      obtain rfl := Mkdir.created.inj created
      have extended := addDirectory_extends existing fresh
      refine ⟨location, links, (outer_stays count rooted).mp walked, extended, ?_, ?_⟩
      · rw [child, follow_concat, extended.follow walked, andThen, walk_name]
        have allowed : (tree.addDirectory location name existing).refuses location name = false := by
          simpa [addDirectory] using refused
        have entered : (tree.addDirectory location name existing).entry (location ++ [name]) =
          some .directory := if_pos rfl
        rw [allowed, entered, walk_nil]
        rfl
      · intro other
        by_contra present
        have inside := tree.closed (location ++ [name]) other
        rw [fresh] at inside
        have longer : location ++ [name] ++ [other] ≠ location ++ [name] := by simp
        exact absurd (inside fun absent => present ((if_neg longer).trans absent)) (by simp)
    · rw [if_neg fresh] at created
      cases created
  | _ => simp [walked, mkdirIn] at created

theorem createDirs_created (descends : Descends tree anchor path list) {place : Location}
    (anchored : tree.locate? anchor = some place) {next : LinkedTree}
    (created : tree.createDirs list = some next) : Created tree next anchor path place := by
  have present : tree.pathExists anchor = true := by simp [pathExists, anchored]
  induction descends generalizing next with
  | anchor rest =>
    cases found : tree.follow anchor with
    | directory location links =>
      obtain rfl : location = place := by simpa [locate?, found] using anchored
      rw [createDirs_directory found] at created
      cases created
      exact ⟨.refl tree, fun _ => rfl, location, links, found, List.prefix_rfl, absurd rfl⟩
    | file location =>
      rw [createDirs_blocked (by rw [found]; trivial)] at created
      cases created
    | _ => simp [locate?, found] at anchored
  | @named path outer count name descends absent ih =>
    have rooted := descends.rooted present
    have moved : child path count name ≠ anchor := by
      rintro rfl
      rw [present] at absent
      cases absent
    rw [createDirs, if_neg (by simp [child])] at created
    cases made : tree.mkdir (child path count name) with
    | created last =>
      rw [made] at created
      cases created
      obtain ⟨location, links, found, extended, led, empty⟩ := mkdir_created rooted made
      have top := descends.of_exists (pathExists_directory found)
      obtain rfl : location = place := by simpa [locate?, top ▸ found] using anchored
      exact ⟨extended, fun same => absurd same moved, _, links, led, List.prefix_append _ _,
        fun _ => empty⟩
    | alreadyThere => simp [made, isDir_absent absent] at created
    | refused => simp [made] at created
    | notFound =>
      rw [made] at created
      obtain ⟨middle, outerCreated, created⟩ := Option.bind_eq_some_iff.mp created
      obtain ⟨extended, unchanged, location, links, led, inside, empty⟩ := ih outerCreated
      cases again : middle.mkdir (child path count name) with
      | created last =>
        rw [again] at created
        cases created
        obtain ⟨same, left, found, further, leads, fresh⟩ := mkdir_created rooted again
        obtain ⟨rfl, -⟩ := Walked.directory.inj (led.symm.trans found)
        exact ⟨extended.trans further, fun same => absurd same moved, _, left, leads,
          inside.trans (List.prefix_append _ _), fun _ => fresh⟩
      | alreadyThere =>
        rw [again] at created
        by_cases top : path = anchor
        · rw [unchanged top] at created
          simp [isDir_absent absent] at created
        · -- The parent is new, so nothing is there yet.
          have existing : middle.entry location = some .directory := by
            have right := middle.follow_correct path
            rwa [led] at right
          rw [child, mkdir_concat, (outer_stays count rooted).mpr led, mkdirIn_directory existing,
            if_pos (empty top name)] at again
          split at again <;> cases again
      | _ => simp [again] at created

theorem pathExists_trimmed (present : tree.pathExists path = true)
    (rooted : (⟨path.start, OsPath.trimmed path.steps⟩ : OsPath) ≠ ⟨.bare, []⟩) :
    tree.pathExists ⟨path.start, OsPath.trimmed path.steps⟩ = true := by
  obtain ⟨start, steps⟩ := path
  obtain ⟨count, split⟩ := OsPath.trimmed_split steps
  generalize OsPath.trimmed steps = short at split rooted ⊢
  subst split
  cases count with
  | zero => simpa using present
  | succ count =>
    obtain ⟨location, found⟩ := Option.isSome_iff_exists.mp present
    have inhabited : List.replicate (count + 1) PathStep.current ≠ [] := by simp
    have right := tree.walk_append inhabited tree.maxLinks
      (if start = .root then [] else tree.here) short
    rw [locate?, follow_start (by simp)] at found
    cases walked : tree.walk tree.maxLinks (if start = .root then [] else tree.here)
        (short ++ List.replicate (count + 1) .current) with
    | directory place links =>
      rw [← follow_outer] at walked
      exact pathExists_directory ((outer_stays (count + 1) rooted).mp walked)
    | file place =>
      rw [walked] at right
      cases outer : tree.walk tree.maxLinks (if start = .root then [] else tree.here) short with
      | directory place links =>
        rw [walk_stays.mpr outer] at walked
        cases walked
      | _ => simp [outer, andThen] at right
    | _ => simp [walked] at found

theorem descends_of_find {start : PathStart} {base : List PathStep}
    (short : OsPath.trimmed base = base) (present : tree.pathExists ⟨start, base⟩ = true)
    (tail : List PathStep) (down : .parent ∉ tail)
    (trimmed : OsPath.trimmed (base ++ tail) = base ++ tail)
    (found : (OsPath.ancestors ⟨start, base ++ tail⟩).find? (tree.pathExists ·) = some anchor) :
    Descends tree anchor ⟨start, base ++ tail⟩ (OsPath.ancestors ⟨start, base ++ tail⟩) := by
  induction size : tail.length using Nat.strongRecOn generalizing tail with
  | ind length ih =>
    subst size
    rw [OsPath.ancestors_eq] at found ⊢
    by_cases existing : tree.pathExists ⟨start, base ++ tail⟩ = true
    · rw [List.find?_cons_of_pos existing] at found
      cases found
      exact .anchor _
    · rw [List.find?_cons_of_neg existing] at found
      cases tail using List.reverseRecOn with
      | nil => rw [List.append_nil] at existing; exact absurd present existing
      | append_singleton init last =>
        cases last with
        | current =>
          -- A trimmed path does not end in a step that stays.
          have shorter := congrArg List.length trimmed
          rw [← List.append_assoc, OsPath.trimmed_append_current] at shorter
          have bound := (List.rdropWhile_prefix (· == PathStep.current) (base ++ init)).length_le
          simp only [OsPath.trimmed, List.length_append, List.length_singleton] at shorter bound
          omega
        | parent => simp at down
        | name name =>
          obtain ⟨count, split⟩ := OsPath.trimmed_split init
          have above : OsPath.parent? ⟨start, base ++ (init ++ [.name name])⟩ =
              some ⟨start, base ++ OsPath.trimmed init⟩ := by
            rw [← List.append_assoc, OsPath.parent_concat, OsPath.trimmed_append short]
          have named : (⟨start, base ++ (init ++ [.name name])⟩ : OsPath) =
              child ⟨start, base ++ OsPath.trimmed init⟩ count name := by
            rw [child, List.append_assoc base, ← split, List.append_assoc]
          rw [above, Option.map_some, Option.getD_some] at found ⊢
          have kept := (List.rdropWhile_prefix (· == PathStep.current) init)
          have outer := ih (OsPath.trimmed init).length
            (by
              have bound : (OsPath.trimmed init).length ≤ init.length := kept.length_le
              simp only [List.length_append, List.length_singleton]
              omega)
            (OsPath.trimmed init)
            (fun member => down (List.mem_append_left _ (kept.subset member)))
            (by rw [OsPath.trimmed_append short, OsPath.trimmed_trimmed]) found rfl
          rw [named] at existing ⊢
          exact .named count name outer (by simpa using existing)

end Creation

end LinkedTree

end OpenJax.Shared
