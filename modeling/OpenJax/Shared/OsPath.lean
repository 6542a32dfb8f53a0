import OpenJax.Shared.Text
import Mathlib.Data.List.DropRight

set_option autoImplicit false

namespace OpenJax.Shared

inductive PathStep where
  | current
  | parent
  | name (name : String)
  deriving DecidableEq, Repr

inductive PathStart where
  | root
  -- A leading ".".
  | dot
  | bare
  deriving DecidableEq, Repr

structure OsPath where
  start : PathStart
  steps : List PathStep
  deriving DecidableEq, Repr

/-- An empty segment is a step that stays, so that a trailing separator asks for a directory. -/
def PathStep.ofSegment (segment : List Char) : PathStep :=
  if segment = [] ∨ segment = ['.'] then .current
  else if segment = ['.', '.'] then .parent
  else .name (String.ofList segment)

namespace OsPath

def startOf (text : List Char) : PathStart :=
  match (splitBy '/' text).head? with
  | some [] => .root
  | some ['.'] => .dot
  | _ => .bare

def parse (text : String) : OsPath :=
  if text = "" then ⟨.bare, []⟩
  else ⟨startOf text.toList, (splitBy '/' text.toList).map .ofSegment⟩

def isAbsolute (path : OsPath) : Bool := path.start == .root

def trimmed (steps : List PathStep) : List PathStep := steps.rdropWhile (· == .current)

def parent? (path : OsPath) : Option OsPath :=
  if trimmed path.steps = [] then
    if path.start = .dot then some ⟨.bare, []⟩ else none
  else some ⟨path.start, trimmed (trimmed path.steps).dropLast⟩

def ancestorsWithin : Nat → OsPath → List OsPath
  | 0, _ => []
  | bound + 1, path =>
      path ::
        match path.parent? with
        | some parent => ancestorsWithin bound parent
        | none => []

def stepText : PathStep → String
  | .current => "."
  | .parent => ".."
  | .name name => name

def display (path : OsPath) : String :=
  (if path.isAbsolute then "/" else "") ++ "/".intercalate (path.steps.map stepText)

def ancestors (path : OsPath) : List OsPath := ancestorsWithin (path.steps.length + 2) path

end OsPath

/-- `Path::join` with a relative path. -/
def joinPath (base relative : String) : String :=
  if base = "" ∨ base.toList.getLast? = some '/' then base ++ relative
  else base ++ "/" ++ relative

namespace OsPath

variable (steps : List PathStep)

theorem trimmed_append_current : trimmed (steps ++ [.current]) = trimmed steps := by
  simp [trimmed]

theorem trimmed_concat {step : PathStep} (moves : step ≠ .current) (steps : List PathStep) :
    trimmed (steps ++ [step]) = steps ++ [step] := by
  simp [trimmed, moves]

theorem trimmed_trimmed : trimmed (trimmed steps) = trimmed steps :=
  List.rdropWhile_idempotent _ _

theorem trimmed_split : ∃ count, steps = trimmed steps ++ List.replicate count .current := by
  induction steps using List.reverseRecOn with
  | nil => exact ⟨0, rfl⟩
  | append_singleton steps step ih =>
    by_cases stays : step = .current
    · subst stays
      obtain ⟨count, split⟩ := ih
      refine ⟨count + 1, ?_⟩
      rw [trimmed_append_current, List.replicate_succ', ← List.append_assoc, ← split]
    · exact ⟨0, by rw [trimmed_concat stays, List.replicate_zero, List.append_nil]⟩

theorem trimmed_append {base : List PathStep} (short : trimmed base = base)
    (steps : List PathStep) : trimmed (base ++ steps) = base ++ trimmed steps := by
  induction steps using List.reverseRecOn with
  | nil =>
    rw [List.append_nil, short]
    simp [trimmed]
  | append_singleton steps step ih =>
    rw [← List.append_assoc]
    by_cases stays : step = .current
    · subst stays
      rw [trimmed_append_current, trimmed_append_current, ih]
    · rw [trimmed_concat stays, trimmed_concat stays, List.append_assoc]

def weight (path : OsPath) : Nat :=
  (trimmed path.steps).length + if path.start = .dot then 1 else 0

theorem parent_weight {path parent : OsPath} (above : path.parent? = some parent) :
    parent.weight < path.weight := by
  unfold parent? at above
  by_cases empty : trimmed path.steps = []
  · rw [if_pos empty] at above
    by_cases dot : path.start = .dot
    · rw [if_pos dot] at above
      cases above
      simp [weight, dot, trimmed]
    · rw [if_neg dot] at above
      cases above
  · rw [if_neg empty] at above
    cases above
    have shorter : (trimmed (trimmed path.steps).dropLast).length ≤
        (trimmed path.steps).dropLast.length := (List.rdropWhile_prefix _ _).length_le
    have positive : 0 < (trimmed path.steps).length := List.length_pos_iff.mpr empty
    rw [List.length_dropLast] at shorter
    simp only [weight, trimmed_trimmed]
    omega

theorem ancestorsWithin_eq {first second : Nat} {path : OsPath} (firstEnough : path.weight < first)
    (secondEnough : path.weight < second) :
    ancestorsWithin first path = ancestorsWithin second path := by
  induction first generalizing second path with
  | zero => omega
  | succ first ih =>
    cases second with
    | zero => omega
    | succ second =>
      rw [ancestorsWithin, ancestorsWithin]
      cases above : path.parent? with
      | none => rfl
      | some parent =>
        have lighter := parent_weight above
        exact congrArg (path :: ·) (ih (by omega) (by omega))

theorem weight_lt (path : OsPath) : path.weight < path.steps.length + 2 := by
  have shorter : (trimmed path.steps).length ≤ path.steps.length :=
    (List.rdropWhile_prefix _ _).length_le
  unfold weight
  split <;> omega

theorem ancestors_eq (path : OsPath) :
    path.ancestors = path :: (path.parent?.map ancestors).getD [] := by
  rw [ancestors, ancestorsWithin]
  cases above : path.parent? with
  | none => rfl
  | some parent =>
    have lighter := parent_weight above
    have bound := weight_lt path
    exact congrArg (path :: ·) (ancestorsWithin_eq (by omega) (weight_lt parent))

theorem parent_concat (start : PathStart) (steps : List PathStep) (name : String) :
    parent? ⟨start, steps ++ [.name name]⟩ = some ⟨start, trimmed steps⟩ := by
  have ends : trimmed (steps ++ [.name name]) = steps ++ [.name name] :=
    trimmed_concat (by simp) steps
  simp [parent?, ends]

theorem parse_rooted {text : String} (inhabited : text ≠ "")
    (bare : (parse text).start = .bare) : trimmed (parse text).steps ≠ [] := by
  rw [parse, if_neg inhabited] at bare ⊢
  change startOf text.toList = .bare at bare
  cases shape : splitBy '/' text.toList with
  | nil => exact absurd shape (splitBy_ne_nil '/' _)
  | cons segment rest =>
    have moves : PathStep.ofSegment segment ≠ .current := by
      rw [startOf, shape, List.head?_cons] at bare
      unfold PathStep.ofSegment
      split
      · rename_i stays
        rcases stays with rfl | rfl <;> cases bare
      · split <;> simp
    rw [List.map_cons, trimmed, ne_eq, List.rdropWhile_eq_nil_iff]
    intro none
    exact moves (by simpa using none _ List.mem_cons_self)

theorem joinPath_toList {base : String} (relative : String) (inhabited : base ≠ "") :
    ∃ outer, (joinPath base relative).toList = outer ++ '/' :: relative.toList ∧
      (base.toList = outer ∨ base.toList = outer ++ ['/']) := by
  unfold joinPath
  by_cases ends : base.toList.getLast? = some '/'
  · obtain ⟨outer, split⟩ := List.getLast?_eq_some_iff.mp ends
    refine ⟨outer, ?_, .inr split⟩
    rw [if_pos (.inr ends), String.toList_append, split, List.append_assoc]
    rfl
  · refine ⟨base.toList, ?_, .inl rfl⟩
    rw [if_neg (by simp [inhabited, ends]), String.toList_append, String.toList_append,
      List.append_assoc]
    rfl

theorem segments_head (first second : List Char) :
    (splitBy '/' (first ++ '/' :: second)).head? = (splitBy '/' first).head? := by
  rw [splitBy_append]
  cases shape : splitBy '/' first with
  | nil => exact absurd shape (splitBy_ne_nil '/' first)
  | cons segment rest => rfl

theorem parse_joinPath {base : String} (relative : String) (inhabited : base ≠ "") :
    (parse (joinPath base relative)).start = (parse base).start ∧
      ∃ count, (parse (joinPath base relative)).steps =
        trimmed (parse base).steps ++
          (List.replicate count .current ++ (splitBy '/' relative.toList).map .ofSegment) := by
  obtain ⟨outer, joined, same⟩ := joinPath_toList relative inhabited
  have long : joinPath base relative ≠ "" := by
    intro empty
    rw [empty] at joined
    simp at joined
  have head : startOf base.toList = startOf (outer ++ '/' :: relative.toList) := by
    unfold startOf
    rw [segments_head]
    rcases same with same | same <;> rw [same]
    rw [segments_head]
  have steps : trimmed ((splitBy '/' base.toList).map .ofSegment) =
      trimmed ((splitBy '/' outer).map .ofSegment) := by
    rcases same with same | same <;> rw [same]
    rw [splitBy_append, List.map_append]
    exact trimmed_append_current _
  obtain ⟨count, split⟩ := trimmed_split ((splitBy '/' outer).map .ofSegment)
  rw [parse, if_neg long, parse, if_neg inhabited, joined]
  refine ⟨head.symm, count, ?_⟩
  rw [splitBy_append, List.map_append, steps, ← List.append_assoc, ← split]

end OsPath

end OpenJax.Shared
