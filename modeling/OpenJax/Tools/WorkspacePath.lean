import OpenJax.Shared.LinkedCalls

set_option autoImplicit false

namespace OpenJax.Tools

open Shared LinkedTree

def containsParentDir (path : OsPath) : Bool := path.steps.contains .parent

/-- `Path::starts_with` on paths without links. -/
def pathStartsWith (path base : OsPath) : Bool :=
  path.start == base.start && base.steps.isPrefixOf path.steps

def resolveWorkspacePathForWrite (tree : LinkedTree) (cwd relPath : String) :
    Except String OsPath :=
  let input := OsPath.parse relPath
  let candidateText := joinPath cwd relPath
  let candidate := OsPath.parse candidateText
  if (trim relPath).isEmpty then .error "path escapes workspace: empty path is not allowed"
  else if input.isAbsolute then
    .error s!"path escapes workspace: absolute paths are not allowed ({relPath})"
  else if containsParentDir input then
    .error s!"path escapes workspace: parent traversal is not allowed ({relPath})"
  else
    match tree.canonicalize? (.parse cwd) with
    | none => .error s!"failed to canonicalize workspace root: {cwd}"
    | some workspaceRoot =>
        if tree.pathExists candidate then
          match tree.canonicalize? candidate with
          | none => .error s!"failed to canonicalize path: {candidateText}"
          | some resolved =>
              if pathStartsWith resolved workspaceRoot then .ok resolved
              else .error s!"path escapes workspace: {candidateText}"
        else
          match candidate.ancestors.find? (tree.pathExists ·) with
          | none => .error s!"path escapes workspace: {candidateText}"
          | some anchor =>
              match tree.canonicalize? anchor with
              | none => .error s!"failed to canonicalize path anchor: {anchor.display}"
              | some anchorResolved =>
                  if pathStartsWith anchorResolved workspaceRoot then .ok candidate
                  else .error s!"path escapes workspace: {candidateText}"

/-- The file that the handler's `create_dir_all` and `write` create or overwrite, if they do. -/
def writeFile (tree : LinkedTree) (path : OsPath) : Option Location :=
  match path.parent? with
  | some parent => (tree.createDirAll parent).bind fun next => next.openForWrite? path
  | none => tree.openForWrite? path

def Confined (tree : LinkedTree) (cwd relPath : String) : Prop :=
  ∀ path, resolveWorkspacePathForWrite tree cwd relPath = .ok path →
    ∀ root, tree.locate? (.parse cwd) = some root →
    ∀ location, writeFile tree path = some location → root <+: location

/-- A relative path whose last name, in a directory of the workspace, is a link to a file that
does not exist, in an existing directory outside. -/
structure DanglesOutside (tree : LinkedTree) (cwd relPath : String) : Prop where
  shown : trim relPath ≠ ""
  relative : (OsPath.parse relPath).isAbsolute = false
  down : containsParentDir (.parse relPath) = false
  leads : ∃ root directory links parent name target outside missing,
    tree.locate? (.parse cwd) = some root ∧
    (OsPath.parse (joinPath cwd relPath)).parent? = some parent ∧
    (OsPath.parse (joinPath cwd relPath)).steps.getLast? = some (.name name) ∧
    tree.follow parent = .directory directory links ∧ root <+: directory ∧
    tree.entry (directory ++ [name]) = some (.link target) ∧
    tree.follow (.parse (joinPath cwd relPath)) = .missing outside missing ∧
    ¬ root <+: outside ++ [missing]

section Resolving

variable {tree : LinkedTree} {cwd relPath : String}

theorem pathStartsWith_names (place root : Location) :
    pathStartsWith ⟨.root, place.map .name⟩ ⟨.root, root.map .name⟩ = true ↔ root <+: place := by
  have inj : Function.Injective PathStep.name := fun _ _ same => PathStep.name.inj same
  simp [pathStartsWith, List.prefix_map_iff_of_injective inj]

inductive Accepted (tree : LinkedTree) (cwd relPath : String) (root : Location) :
    OsPath → Prop where
  | existing {place : Location} (found : tree.locate? (.parse (joinPath cwd relPath)) = some place)
      (inside : root <+: place) : Accepted tree cwd relPath root ⟨.root, place.map .name⟩
  | new {anchor : OsPath} {place : Location}
      (absent : tree.pathExists (.parse (joinPath cwd relPath)) = false)
      (first : (OsPath.parse (joinPath cwd relPath)).ancestors.find? (tree.pathExists ·) =
        some anchor)
      (found : tree.locate? anchor = some place) (inside : root <+: place) :
      Accepted tree cwd relPath root (.parse (joinPath cwd relPath))

theorem resolve_ok {path : OsPath} :
    resolveWorkspacePathForWrite tree cwd relPath = .ok path ↔
      trim relPath ≠ "" ∧ (OsPath.parse relPath).isAbsolute = false ∧
        containsParentDir (.parse relPath) = false ∧
        ∃ root, tree.locate? (.parse cwd) = some root ∧ Accepted tree cwd relPath root path := by
  unfold resolveWorkspacePathForWrite
  dsimp only
  by_cases blank : trim relPath = ""
  · simp [blank]
  rw [if_neg (by simpa using blank)]
  by_cases absolute : (OsPath.parse relPath).isAbsolute = true
  · simp [absolute]
  rw [if_neg absolute]
  by_cases parents : containsParentDir (.parse relPath) = true
  · simp [parents]
  rw [if_neg parents]
  cases rooted : tree.locate? (.parse cwd) with
  | none => simp [canonicalize?, rooted]
  | some root =>
    have kept : trim relPath ≠ "" ∧ (OsPath.parse relPath).isAbsolute = false ∧
        containsParentDir (.parse relPath) = false :=
      ⟨blank, by simpa using absolute, by simpa using parents⟩
    simp only [canonicalize?, rooted, Option.map_some]
    cases present : tree.locate? (.parse (joinPath cwd relPath)) with
    | some place =>
      simp only [LinkedTree.pathExists, present, Option.isSome_some, if_true, Option.map_some]
      constructor
      · intro accepted
        split at accepted
        · rename_i inside
          cases accepted
          exact ⟨kept.1, kept.2.1, kept.2.2, root, rfl,
            .existing present ((pathStartsWith_names _ _).mp inside)⟩
        · cases accepted
      · rintro ⟨-, -, -, _, same, accepted⟩
        cases same
        cases accepted with
        | existing found inside =>
          cases present.symm.trans found
          rw [if_pos ((pathStartsWith_names _ _).mpr inside)]
        | new absent => simp [LinkedTree.pathExists, present] at absent
    | none =>
      have absent : tree.pathExists (.parse (joinPath cwd relPath)) = false := by
        simp [LinkedTree.pathExists, present]
      rw [absent, if_neg (by simp)]
      cases first : (OsPath.parse (joinPath cwd relPath)).ancestors.find?
          (tree.pathExists ·) with
      | none =>
        constructor
        · intro accepted
          cases accepted
        · rintro ⟨-, -, -, _, -, accepted⟩
          cases accepted with
          | existing found => rw [present] at found; cases found
          | new _ found => rw [first] at found; cases found
      | some anchor =>
        have known : tree.pathExists anchor = true := List.find?_some first
        obtain ⟨place, found⟩ := Option.isSome_iff_exists.mp known
        simp only [found, Option.map_some]
        constructor
        · intro accepted
          split at accepted
          · rename_i inside
            cases accepted
            exact ⟨kept.1, kept.2.1, kept.2.2, root, rfl,
              .new absent first found ((pathStartsWith_names _ _).mp inside)⟩
          · cases accepted
        · rintro ⟨-, -, -, _, same, accepted⟩
          cases same
          cases accepted with
          | existing other => rw [present] at other; cases other
          | new _ other located inside =>
            cases first.symm.trans other
            cases found.symm.trans located
            rw [if_pos ((pathStartsWith_names _ _).mpr inside)]

theorem writeFile_canonical {path : OsPath} {place location : Location}
    (found : tree.locate? path = some place)
    (written : writeFile tree ⟨.root, place.map .name⟩ = some location) : location = place := by
  have right := tree.follow_correct path
  have present : tree.entry place = some .directory ∨ tree.entry place = some .file := by
    cases walked : tree.follow path with
    | directory there links =>
      obtain rfl : there = place := by simpa [locate?, walked] using found
      rw [walked] at right
      exact .inl right
    | file there =>
      obtain rfl : there = place := by simpa [locate?, walked] using found
      rw [walked] at right
      exact .inr right
    | _ => simp [locate?, walked] at found
  have opened (written : tree.openForWrite? ⟨.root, place.map .name⟩ = some location) :
      location = place := by
    rcases present with directory | file
    · rcases follow_names directory with ⟨links, walked⟩ | walked <;>
        simp [openForWrite?, walked] at written
    · rcases follow_file file with walked | walked
      · simpa [openForWrite?, walked, eq_comm] using written
      · simp [openForWrite?, walked] at written
  unfold writeFile at written
  cases place using List.reverseRecOn with
  | nil => exact opened written
  | append_singleton outer name =>
    have existing : tree.entry outer = some .directory := by
      apply tree.closed outer name
      rcases present with present | present <;> simp [present]
    have plain : OsPath.trimmed (outer.map .name) = outer.map .name := by
      cases outer using List.reverseRecOn with
      | nil => rfl
      | append_singleton inner last =>
        rw [List.map_append, List.map_singleton]
        exact OsPath.trimmed_concat (by simp) _
    have above : OsPath.parent? ⟨.root, (outer ++ [name]).map .name⟩ =
        some ⟨.root, outer.map .name⟩ := by
      rw [List.map_append, List.map_singleton, OsPath.parent_concat, plain]
    rw [above] at written
    obtain ⟨next, made, written⟩ := Option.bind_eq_some_iff.mp written
    rw [LinkedTree.createDirAll, OsPath.ancestors_eq] at made
    rcases follow_names existing with ⟨links, walked⟩ | walked
    · rw [createDirs_directory walked] at made
      cases made
      exact opened written
    · rw [createDirs_blocked (by rw [walked]; trivial)] at made
      cases made

theorem candidate_steps {root : Location} (rooted : tree.locate? (.parse cwd) = some root)
    (down : containsParentDir (.parse relPath) = false) (shown : relPath ≠ "") :
    ∃ start base tail, OsPath.parse (joinPath cwd relPath) = ⟨start, base ++ tail⟩ ∧
      OsPath.trimmed base = base ∧ tree.pathExists ⟨start, base⟩ = true ∧
      .parent ∉ tail ∧ tail ≠ [] := by
  have inhabited : cwd ≠ "" := by
    rintro rfl
    simp [locate?, OsPath.parse, follow] at rooted
  obtain ⟨same, count, steps⟩ := OsPath.parse_joinPath relPath inhabited
  refine ⟨(OsPath.parse cwd).start, OsPath.trimmed (OsPath.parse cwd).steps,
    List.replicate count .current ++ (splitBy '/' relPath.toList).map .ofSegment, ?_,
    OsPath.trimmed_trimmed _, ?_, ?_, ?_⟩
  · rw [← same, ← steps]
  · refine pathExists_trimmed (by simp [LinkedTree.pathExists, rooted]) ?_
    rintro bare
    exact OsPath.parse_rooted inhabited (congrArg OsPath.start bare) (congrArg OsPath.steps bare)
  · intro member
    rcases List.mem_append.mp member with member | member
    · simp at member
    · simp only [containsParentDir, OsPath.parse, if_neg shown, List.contains_eq_mem,
        decide_eq_false_iff_not] at down
      exact down member
  · simp [splitBy_ne_nil]

theorem writeFile_new {root place location : Location} {anchor : OsPath}
    (rooted : tree.locate? (.parse cwd) = some root)
    (down : containsParentDir (.parse relPath) = false) (shown : relPath ≠ "")
    (absent : tree.pathExists (.parse (joinPath cwd relPath)) = false)
    (first : (OsPath.parse (joinPath cwd relPath)).ancestors.find? (tree.pathExists ·) =
      some anchor)
    (found : tree.locate? anchor = some place) (inside : root <+: place)
    (written : writeFile tree (.parse (joinPath cwd relPath)) = some location) :
    root <+: location ∨ ∃ directory links parent name target outside missing,
      (OsPath.parse (joinPath cwd relPath)).parent? = some parent ∧
      (OsPath.parse (joinPath cwd relPath)).steps.getLast? = some (.name name) ∧
      tree.follow parent = .directory directory links ∧ root <+: directory ∧
      tree.entry (directory ++ [name]) = some (.link target) ∧
      tree.follow (.parse (joinPath cwd relPath)) = .missing outside missing ∧
      location = outside ++ [missing] := by
  obtain ⟨start, base, tail, same, short, present, noParent, inhabited⟩ :=
    candidate_steps rooted down shown
  rw [same] at absent first written ⊢
  obtain ⟨init, last, rfl⟩ := List.eq_nil_or_concat' tail |>.resolve_left inhabited
  have named : ∃ name, last = .name name := by
    have ends (next : LinkedTree)
        (opened : next.openForWrite? ⟨start, base ++ (init ++ [last])⟩ = some location) :
        ∃ name, last = .name name := by
      obtain ⟨name, final⟩ := openForWrite_name opened
      rw [← List.append_assoc, List.getLast?_concat] at final
      exact ⟨name, Option.some.inj final⟩
    unfold writeFile at written
    split at written
    · obtain ⟨next, -, opened⟩ := Option.bind_eq_some_iff.mp written
      exact ends next opened
    · exact ends tree written
  obtain ⟨name, rfl⟩ := named
  obtain ⟨count, split⟩ := OsPath.trimmed_split init
  have kept := List.rdropWhile_prefix (· == PathStep.current) init
  have above : OsPath.parent? ⟨start, base ++ (init ++ [.name name])⟩ =
      some ⟨start, base ++ OsPath.trimmed init⟩ := by
    rw [← List.append_assoc, OsPath.parent_concat, OsPath.trimmed_append short]
  rw [OsPath.ancestors_eq, List.find?_cons_of_neg (by simp [absent]), above] at first
  have descends := descends_of_find short present (OsPath.trimmed init)
    (fun member => noParent (List.mem_append_left _ (kept.subset member)))
    (by rw [OsPath.trimmed_append short, OsPath.trimmed_trimmed]) first
  unfold writeFile at written
  rw [above] at written
  obtain ⟨next, made, opened⟩ := Option.bind_eq_some_iff.mp written
  obtain ⟨extended, unchanged, directory, links, led, below, empty⟩ :=
    createDirs_created descends found made
  have rootedParent := descends.rooted (by simp [LinkedTree.pathExists, found])
  -- The last name is looked up in the directory that the parent now leads to.
  have looked (tree : LinkedTree) (led : tree.follow ⟨start, base ++ OsPath.trimmed init⟩ =
      .directory directory links) : tree.follow ⟨start, base ++ (init ++ [.name name])⟩ =
        tree.walk links directory [.name name] := by
    have stays := (outer_stays count rootedParent).mpr led
    rw [List.append_assoc, ← split] at stays
    rw [← List.append_assoc, follow_concat, stays, andThen]
  have opens := opened
  rw [openForWrite?, looked next led, walk_name] at opened
  by_cases refused : next.refuses directory name = true
  · rw [if_pos refused] at opened
    cases opened
  rw [if_neg refused] at opened
  cases entry : next.entry (directory ++ [name]) with
  | none =>
    rw [entry] at opened
    cases opened
    exact .inl ((inside.trans below).trans (List.prefix_append _ _))
  | some held =>
    by_cases top : (⟨start, base ++ OsPath.trimmed init⟩ : OsPath) = anchor
    · obtain rfl := unchanged top
      cases followed : next.follow ⟨start, base ++ (init ++ [.name name])⟩ with
      | missing outside missing =>
        rw [openForWrite?, followed] at opens
        cases opens
        cases held with
        | link target =>
          exact .inr ⟨directory, links, _, name, target, outside, missing, above,
            by rw [← List.append_assoc, List.getLast?_concat], led, inside.trans below, entry,
            rfl, rfl⟩
        | file =>
          rw [looked next led, walk_name, if_neg refused, entry] at followed
          cases followed
        | directory =>
          rw [looked next led, walk_name, if_neg refused, entry, walk_nil] at followed
          cases followed
      | file there => simp [LinkedTree.pathExists, locate?, followed] at absent
      | _ => simp [openForWrite?, followed] at opens
    · rw [empty top name] at entry
      cases entry

end Resolving

/-- The tools write inside the workspace unless the last name is a link that dangles to the
outside. -/
theorem writes_confined_iff (tree : LinkedTree) (cwd relPath : String) :
    Confined tree cwd relPath ↔ ¬ DanglesOutside tree cwd relPath := by
  constructor
  · rintro confined ⟨shown, relative, down, root, directory, links, parent, name, target, outside,
      missing, rooted, above, -, led, inside, -, followed, escapes⟩
    have absent : tree.pathExists (.parse (joinPath cwd relPath)) = false := by
      simp [LinkedTree.pathExists, locate?, followed]
    have found : tree.locate? parent = some directory := by simp [locate?, led]
    have first : (OsPath.parse (joinPath cwd relPath)).ancestors.find? (tree.pathExists ·) =
        some parent := by
      rw [OsPath.ancestors_eq, List.find?_cons_of_neg (by simp [absent]), above, Option.map_some,
        Option.getD_some, OsPath.ancestors_eq,
        List.find?_cons_of_pos (by simp [LinkedTree.pathExists, found])]
    have written : writeFile tree (.parse (joinPath cwd relPath)) =
        some (outside ++ [missing]) := by
      have made : tree.createDirAll parent = some tree := by
        rw [LinkedTree.createDirAll, OsPath.ancestors_eq, createDirs_directory led]
      simp [writeFile, above, made, openForWrite?, followed]
    exact escapes (confined _ (resolve_ok.mpr ⟨shown, relative, down, root, rooted,
      .new absent first found inside⟩) root rooted _ written)
  · intro safe path resolved root rooted location written
    obtain ⟨shown, relative, down, other, otherRooted, accepted⟩ := resolve_ok.mp resolved
    obtain rfl := Option.some.inj (rooted.symm.trans otherRooted)
    cases accepted with
    | existing found inside =>
      obtain rfl := writeFile_canonical found written
      exact inside
    | new absent first found inside =>
      have inhabited : relPath ≠ "" := by
        rintro rfl
        exact shown rfl
      rcases writeFile_new rooted down inhabited absent first found inside written with
        within | ⟨directory, links, parent, name, target, outside, missing, above, last, led,
          below, entry, followed, rfl⟩
      · exact within
      · by_contra escapes
        exact safe ⟨shown, relative, down, root, directory, links, parent, name, target, outside,
          missing, rooted, above, last, led, below, entry, followed, escapes⟩

section Example

def noteTree : LinkedTree :=
  .ofEntries
    [([], .directory), (["ws"], .directory), (["out"], .directory),
      (["ws", "note"], .link (.parse "../out/new.txt"))]
    40 [] rfl rfl (by decide)

example : resolveWorkspacePathForWrite noteTree "/ws" "/out/new.txt" =
    .error "path escapes workspace: absolute paths are not allowed (/out/new.txt)" := by
  decide +kernel

theorem dangling_link_escapes : ¬ ∀ (tree : LinkedTree) (cwd relPath : String),
    Confined tree cwd relPath := by
  intro always
  have resolved : resolveWorkspacePathForWrite noteTree "/ws" "note" =
      .ok (.parse "/ws/note") := by decide +kernel
  have rooted : noteTree.locate? (.parse "/ws") = some ["ws"] := by decide +kernel
  have written : writeFile noteTree (.parse "/ws/note") = some ["out", "new.txt"] := by
    decide +kernel
  have inside := always noteTree "/ws" "note" _ resolved _ rooted _ written
  revert inside
  decide

end Example

end OpenJax.Tools
