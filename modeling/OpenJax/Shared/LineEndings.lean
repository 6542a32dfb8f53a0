import Mathlib.Data.List.Infix
import Mathlib.Tactic.Common

set_option autoImplicit false

/-! Texts as line endings and other characters: how they are made uniform and given back. -/

namespace OpenJax.Shared

inductive TextUnit where
  | crlf
  | char (c : Char)
  deriving DecidableEq, Repr

namespace TextUnit

def raw : TextUnit → List Char
  | crlf => ['\r', '\n']
  | char c => [c]

def uniform : TextUnit → Char
  | crlf => '\n'
  | char c => if c = '\r' then '\n' else c

def EndsWith (crlf : Bool) : TextUnit → Prop
  | .crlf => crlf = true
  | .char c => c ≠ '\r' ∧ (c = '\n' → crlf = false)

instance decidableEndsWith (crlf : Bool) : (unit : TextUnit) → Decidable (unit.EndsWith crlf)
  | .crlf => inferInstanceAs (Decidable (crlf = true))
  | .char c => inferInstanceAs (Decidable (c ≠ '\r' ∧ (c = '\n' → crlf = false)))

end TextUnit

def units : List Char → List TextUnit
  | [] => []
  | '\r' :: '\n' :: rest => .crlf :: units rest
  | c :: rest => .char c :: units rest

def rawText (parts : List TextUnit) : List Char := parts.flatMap TextUnit.raw

def uniformText (parts : List TextUnit) : List Char := parts.map TextUnit.uniform

def restored (crlf : Bool) (c : Char) : List Char :=
  if crlf ∧ c = '\n' then ['\r', '\n'] else [c]

def restoredText (crlf : Bool) (text : List Char) : List Char := text.flatMap (restored crlf)

@[simp] theorem units_crlf (rest : List Char) :
    units ('\r' :: '\n' :: rest) = .crlf :: units rest := rfl

theorem units_char {c : Char} {rest : List Char}
    (single : ¬(c = '\r' ∧ rest.head? = some '\n')) :
    units (c :: rest) = .char c :: units rest := by
  rw [units]
  intro after shape next
  exact single ⟨shape, by rw [next]; rfl⟩

@[simp] theorem rawText_append (first second : List TextUnit) :
    rawText (first ++ second) = rawText first ++ rawText second := List.flatMap_append

variable (crlf : Bool)

@[simp] theorem restoredText_append (first second : List Char) :
    restoredText crlf (first ++ second) = restoredText crlf first ++ restoredText crlf second :=
  List.flatMap_append

theorem rawText_units (text : List Char) : rawText (units text) = text := by
  induction text using units.induct with
  | case1 => rfl
  | case2 rest ih => simpa [rawText, TextUnit.raw] using ih
  | case3 c rest single ih =>
    rw [units_char (by rintro ⟨rfl, next⟩; cases rest <;> simp_all)]
    simpa [rawText, TextUnit.raw] using ih

variable (parts : List TextUnit)

theorem units_rawText :
    units (rawText parts) = parts ∨ (units (rawText parts)).length < parts.length := by
  induction parts with
  | nil => exact .inl rfl
  | cons unit rest ih =>
    cases unit with
    | crlf =>
      have read : units (rawText (.crlf :: rest)) = .crlf :: units (rawText rest) := rfl
      rw [read]
      rcases ih with same | fewer
      · exact .inl (by rw [same])
      · exact .inr (by simpa using fewer)
    | char c =>
      have shape : rawText (.char c :: rest) = c :: rawText rest := rfl
      by_cases joined : c = '\r' ∧ (rawText rest).head? = some '\n'
      · right
        obtain ⟨rfl, next⟩ := joined
        obtain ⟨after, written⟩ : ∃ after, rawText rest = '\n' :: after := by
          cases written : rawText rest with
          | nil => simp [written] at next
          | cons first after => exact ⟨after, by simpa [written] using next⟩
        have later : units (rawText rest) = .char '\n' :: units after := by
          rw [written]
          exact units_char (by simp)
        have bound : (units (rawText rest)).length ≤ rest.length := by
          rcases ih with same | fewer
          · exact Nat.le_of_eq (by rw [same])
          · exact Nat.le_of_lt fewer
        rw [shape, written, units_crlf, List.length_cons, List.length_cons]
        rw [later, List.length_cons] at bound
        omega
      · rw [shape, units_char joined]
        rcases ih with same | fewer
        · exact .inl (by rw [same])
        · exact .inr (by simpa using fewer)

def TextUnit.of (crlf : Bool) (c : Char) : TextUnit := if crlf ∧ c = '\n' then .crlf else .char c

theorem units_restoredText {text : List Char} (plain : '\r' ∉ text) :
    units (restoredText crlf text) = text.map (TextUnit.of crlf) := by
  induction text with
  | nil => rfl
  | cons c rest ih =>
    rw [List.mem_cons, not_or] at plain
    have later := ih plain.2
    by_cases ends : crlf = true ∧ c = '\n'
    · have shape : restoredText crlf (c :: rest) = '\r' :: '\n' :: restoredText crlf rest := by
        simp [restoredText, restored, ends]
      rw [shape, units_crlf, later, List.map_cons, TextUnit.of, if_pos ends]
    · have shape : restoredText crlf (c :: rest) = c :: restoredText crlf rest := by
        simp [restoredText, restored, ends]
      have single : ¬(c = '\r' ∧ (restoredText crlf rest).head? = some '\n') :=
        fun joined => plain.1 joined.1.symm
      rw [shape, units_char single, later, List.map_cons, TextUnit.of, if_neg ends]

theorem uniform_ne_return (unit : TextUnit) : unit.uniform ≠ '\r' := by
  cases unit with
  | crlf => simp [TextUnit.uniform]
  | char c =>
    rw [TextUnit.uniform]
    split
    · simp
    next other => exact other

theorem uniformText_plain : '\r' ∉ uniformText parts := by
  intro present
  obtain ⟨unit, -, same⟩ := List.mem_map.mp present
  exact uniform_ne_return unit same

theorem uniform_of {c : Char} (plain : c ≠ '\r') : (TextUnit.of crlf c).uniform = c := by
  rw [TextUnit.of]
  split
  next ends => exact ends.2.symm
  · simp [TextUnit.uniform, plain]

theorem of_uniform_iff (unit : TextUnit) :
    TextUnit.of crlf unit.uniform = unit ↔ unit.EndsWith crlf := by
  cases unit with
  | crlf => cases crlf <;> simp [TextUnit.of, TextUnit.uniform, TextUnit.EndsWith]
  | char c =>
    by_cases returns : c = '\r'
    · cases crlf <;> simp [TextUnit.of, TextUnit.uniform, TextUnit.EndsWith, returns]
    · cases crlf <;> simp [TextUnit.of, TextUnit.uniform, TextUnit.EndsWith, returns]

theorem map_eq_self_iff {A : Type} {f : A → A} {values : List A} :
    values.map f = values ↔ ∀ value ∈ values, f value = value := by
  have pointwise := List.map_inj_left (l := values) (f := f) (g := id)
  rwa [List.map_id] at pointwise

theorem map_of_uniformText_iff :
    (uniformText parts).map (TextUnit.of crlf) = parts ↔ ∀ unit ∈ parts, unit.EndsWith crlf := by
  rw [uniformText, List.map_map, map_eq_self_iff]
  exact forall₂_congr fun unit _ => of_uniform_iff crlf unit

theorem raw_of (c : Char) : (TextUnit.of crlf c).raw = restored crlf c := by
  rw [TextUnit.of, restored]
  split <;> rfl

theorem restoredText_eq (text : List Char) :
    restoredText crlf text = rawText (text.map (TextUnit.of crlf)) := by
  rw [restoredText, rawText, List.flatMap_map]
  exact List.flatMap_congr fun c _ => (raw_of crlf c).symm

/-- Making a text uniform and giving its line endings back leaves what stands around the middle as
it was exactly when these parts use the one line ending throughout. -/
theorem restored_around_iff (before after : List TextUnit) {middle : List Char}
    (plain : '\r' ∉ middle) :
    (∃ inserted, uniformText (units inserted) = middle ∧
      restoredText crlf (uniformText before ++ middle ++ uniformText after) =
        rawText before ++ inserted ++ rawText after) ↔
      ∀ unit ∈ before ++ after, unit.EndsWith crlf := by
  have uniform : '\r' ∉ uniformText before ++ middle ++ uniformText after := by
    simp [uniformText_plain, plain]
  constructor
  · rintro ⟨inserted, rfl, written⟩
    -- The written text has as many units as the three parts have together.
    have joined : rawText (before ++ units inserted ++ after) =
        rawText before ++ inserted ++ rawText after := by
      rw [rawText_append, rawText_append, rawText_units]
    have found := units_restoredText crlf uniform
    rw [written, ← joined] at found
    have parts : units (rawText (before ++ units inserted ++ after)) =
        before ++ units inserted ++ after := by
      rcases units_rawText (before ++ units inserted ++ after) with same | fewer
      · exact same
      · rw [found] at fewer
        simp [uniformText] at fewer
    rw [parts, List.map_append, List.map_append] at found
    have ⟨front, last⟩ := List.append_inj' found (by simp [uniformText])
    have first := (List.append_inj front (by simp [uniformText])).1
    intro unit among
    rcases List.mem_append.mp among with earlier | later
    · exact (map_of_uniformText_iff crlf before).mp first.symm unit earlier
    · exact (map_of_uniformText_iff crlf after).mp last.symm unit later
  · intro ends
    have first := (map_of_uniformText_iff crlf before).mpr
      fun unit among => ends unit (List.mem_append_left _ among)
    have last := (map_of_uniformText_iff crlf after).mpr
      fun unit among => ends unit (List.mem_append_right _ among)
    refine ⟨restoredText crlf middle, ?_, ?_⟩
    · rw [units_restoredText crlf plain, uniformText, List.map_map, map_eq_self_iff]
      exact fun c among => uniform_of crlf fun returns => plain (returns ▸ among)
    · have kept : ∀ parts : List TextUnit, (uniformText parts).map (TextUnit.of crlf) = parts →
          restoredText crlf (uniformText parts) = rawText parts := by
        intro parts same
        rw [restoredText_eq, same]
      rw [restoredText_append, restoredText_append, kept before first, kept after last]

end OpenJax.Shared
