import OpenJax.Sandbox.DegradeSafety
import OpenJax.Tools.WorkspacePath

set_option autoImplicit false

namespace OpenJax.Sandbox

open Shared LinkedTree Tools

def looksLikePathArg (arg : String) : Bool :=
  arg == "." || arg == ".." || startsWith arg "./" || startsWith arg "../" || startsWith arg "/" ||
    startsWith arg "~/" || arg.toList.contains '/'

def validateCommandPathArg (tree : LinkedTree) (cwd arg : String) : Except String Unit :=
  let path := OsPath.parse arg
  let joined := joinPath cwd arg
  if startsWith arg "~/" then .error s!"home directory paths are not allowed ({arg})"
  else if path.isAbsolute then .error s!"absolute paths are not allowed ({arg})"
  else if containsParentDir path then .error s!"parent traversal is not allowed ({arg})"
  else if tree.pathExists (.parse joined) then
    match tree.canonicalize? (.parse cwd) with
    | none => .error s!"failed to canonicalize workspace root: {cwd}"
    | some workspaceRoot =>
        match tree.canonicalize? (.parse joined) with
        | none => .error s!"failed to canonicalize command path: {joined}"
        | some resolved =>
            if pathStartsWith resolved workspaceRoot then .ok ()
            else .error s!"path escapes workspace ({arg})"
  else .ok ()

def isExplicitCwdChdirPrefix (tree : LinkedTree) (tokens : List String) (cwd : String) :
    Except String Bool :=
  match tokens with
  | first :: targetText :: third :: _ =>
      let target := OsPath.parse targetText
      if first ≠ "cd" ∨ third ≠ "&&" then .ok false
      else if !target.isAbsolute then .ok false
      else
        match tree.canonicalize? (.parse cwd) with
        | none => .error s!"failed to canonicalize workspace root: {cwd}"
        | some workspaceRoot =>
            match tree.canonicalize? target with
            | none => .error s!"failed to canonicalize chdir target: {targetText}"
            | some targetRoot => .ok (decide (targetRoot = workspaceRoot))
  | _ => .ok false

def validateArgs (tree : LinkedTree) (cwd : String) : List String → Except String Unit
  | [] => .ok ()
  | arg :: rest =>
      if startsWith arg "-" || !looksLikePathArg arg then validateArgs tree cwd rest
      else
        match validateCommandPathArg tree cwd arg with
        | .error error => .error error
        | .ok () => validateArgs tree cwd rest

def ensureWorkspaceRelativePaths (tree : LinkedTree) (shlexSplit : String → Option (List String))
    (command cwd : String) : Except String Unit :=
  match shlexSplit command with
  | none => .error "invalid shell command syntax"
  | some tokens =>
      match isExplicitCwdChdirPrefix tree tokens cwd with
      | .error error => .error error
      | .ok exempt => validateArgs tree cwd (tokens.drop (if exempt then 3 else 1))

section Accepted

variable {tree : LinkedTree} {cwd : String}

structure StaysInside (word : String) : Prop where
  relative : (OsPath.parse word).isAbsolute = false
  down : containsParentDir (.parse word) = false
  away : startsWith word "~/" = false

theorem validateCommandPathArg_ok {arg : String}
    (valid : validateCommandPathArg tree cwd arg = .ok ()) : StaysInside arg := by
  unfold validateCommandPathArg at valid
  dsimp only at valid
  split_ifs at valid with home absolute parents
  all_goals exact ⟨Bool.not_eq_true _ ▸ absolute, Bool.not_eq_true _ ▸ parents,
    Bool.not_eq_true _ ▸ home⟩

theorem staysInside_of_plain {arg : String} (plain : looksLikePathArg arg = false) :
    StaysInside arg := by
  simp only [looksLikePathArg, Bool.or_eq_false_iff, beq_eq_false_iff_ne] at plain
  obtain ⟨⟨⟨⟨⟨⟨_, parent⟩, _⟩, _⟩, _⟩, home⟩, separator⟩ := plain
  have single : splitBy '/' arg.toList = [arg.toList] :=
    splitBy_plain (by simpa using separator)
  have named : arg.toList ≠ ['.', '.'] := fun same => parent (String.toList_injective same)
  refine ⟨?_, ?_, home⟩
  · unfold OsPath.parse
    split_ifs with empty
    · rfl
    · have inhabited : arg.toList ≠ [] := fun same => empty (String.toList_injective same)
      simp only [OsPath.isAbsolute, OsPath.startOf, single, List.head?_cons]
      split <;> simp_all
  · unfold OsPath.parse
    split_ifs with empty
    · rfl
    · simp only [containsParentDir, single, List.map_singleton, PathStep.ofSegment]
      split_ifs <;> simp

theorem validateArgs_ok {args : List String} (valid : validateArgs tree cwd args = .ok ()) :
    ∀ arg ∈ args, startsWith arg "-" = false → StaysInside arg := by
  induction args with
  | nil => simp
  | cons first rest ih =>
    intro arg member named
    rw [validateArgs] at valid
    rcases List.mem_cons.mp member with rfl | later
    · rw [named, Bool.false_or] at valid
      split_ifs at valid with skipped
      · exact staysInside_of_plain (by simpa using skipped)
      · cases checked : validateCommandPathArg tree cwd arg with
        | error error =>
          rw [checked] at valid
          cases valid
        | ok => exact validateCommandPathArg_ok checked
    · split_ifs at valid
      · exact ih valid arg later named
      · split at valid
        · cases valid
        · exact ih valid arg later named

/-- The command word, or the change to the workspace root before the command. -/
inductive Exempt (tree : LinkedTree) (cwd : String) : List String → Prop where
  | command {skipped : List String} (short : skipped.length ≤ 1) : Exempt tree cwd skipped
  | chdir {target : String} {root : Location} (own : tree.locate? (.parse cwd) = some root)
      (same : tree.locate? (.parse target) = some root) : Exempt tree cwd ["cd", target, "&&"]

theorem exempt_chdir {tokens : List String}
    (exempt : isExplicitCwdChdirPrefix tree tokens cwd = .ok true) :
    Exempt tree cwd (tokens.take 3) := by
  unfold isExplicitCwdChdirPrefix at exempt
  split at exempt
  next first target third rest =>
    dsimp only at exempt
    split_ifs at exempt with other relative
    · cases exempt
    · cases exempt
    · cases own : tree.locate? (.parse cwd) with
      | none =>
        rw [canonicalize?, own] at exempt
        cases exempt
      | some root =>
        cases found : tree.locate? (.parse target) with
        | none =>
          rw [canonicalize?, own, canonicalize?, found] at exempt
          cases exempt
        | some place =>
          rw [canonicalize?, own, canonicalize?, found] at exempt
          simp only [Option.map_some, Except.ok.injEq, decide_eq_true_eq, OsPath.mk.injEq,
            true_and] at exempt
          have inj : Function.Injective PathStep.name := fun _ _ same => PathStep.name.inj same
          obtain rfl := inj.list_map exempt
          push Not at other
          obtain ⟨rfl, rfl⟩ := other
          exact .chdir own found
  · cases exempt

/-- Every other word of an accepted command that is no option is a path into the working
directory. -/
theorem accepted_words_stay {shlexSplit : String → Option (List String)} {command : String}
    {words : List String} (split : shlexSplit command = some words)
    (accepted : ensureWorkspaceRelativePaths tree shlexSplit command cwd = .ok ()) :
    ∃ skipped checked, words = skipped ++ checked ∧ Exempt tree cwd skipped ∧
      ∀ word ∈ checked, startsWith word "-" = false → StaysInside word := by
  unfold ensureWorkspaceRelativePaths at accepted
  rw [split] at accepted
  dsimp only at accepted
  cases found : isExplicitCwdChdirPrefix tree words cwd with
  | error error =>
    rw [found] at accepted
    cases accepted
  | ok exempt =>
    rw [found] at accepted
    refine ⟨_, _, (List.take_append_drop (if exempt then 3 else 1) words).symm, ?_,
      validateArgs_ok accepted⟩
    cases exempt with
    | true => exact exempt_chdir found
    | false => exact .command (List.length_take_le ..)

end Accepted

def withoutRedirection : List Char → List Char
  | '>' :: rest | '<' :: rest => withoutRedirection rest
  | '2' :: '>' :: rest | '&' :: '>' :: rest => withoutRedirection rest
  | other => other

def withoutOption : List Char → List Char
  | '-' :: '-' :: option =>
      if '=' ∈ option then (option.dropWhile (· ≠ '=')).drop 1 else '-' :: '-' :: option
  | other => other

def shownPath (word : String) : String :=
  String.ofList (withoutOption (withoutRedirection word.toList))

def emptyWorkspace : LinkedTree :=
  .ofEntries [([], .directory), (["work"], .directory)] 40 ["work"] (by decide) (by decide)
    (by decide)

def splitPlain (command : String) : Option (List String) := some (splitWhitespace command)

theorem relative_argument_stays :
    ∃ skipped checked, ["cat", "src/main.rs"] = skipped ++ checked ∧
      Exempt emptyWorkspace "/work" skipped ∧
      ∀ word ∈ checked, startsWith word "-" = false → StaysInside word :=
  @accepted_words_stay emptyWorkspace "/work" splitPlain "cat src/main.rs" _ (by rfl)
    (by decide +kernel)

def HidesPath (words : List String) : Prop :=
  splitPlain (" ".intercalate words) = some words ∧
    isExplicitCwdChdirPrefix emptyWorkspace words "/work" = .ok false ∧
    ensureWorkspaceRelativePaths emptyWorkspace splitPlain (" ".intercalate words) "/work" =
      .ok () ∧
    ∃ word ∈ words, (OsPath.parse (shownPath word)).isAbsolute = true

/-- The command word, the value of an option and the file of a redirection are not checked. -/
theorem hidden_paths_accepted :
    HidesPath ["/bin/ls"] ∧ HidesPath ["ls", "--ignore=/etc/passwd"] ∧
      HidesPath ["echo", ">/etc/passwd"] := by
  unfold HidesPath
  decide +kernel

end OpenJax.Sandbox
