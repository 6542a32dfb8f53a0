import Mathlib.Data.List.Chain
import OpenJax.Shared.Text

set_option autoImplicit false

/-! Texts split at blank lines, where CRLF and LF end a line and the text comes in pieces. -/

namespace OpenJax.Shared

/-- `replace(/\r\n/g, "\n")` -/
def joinLineEnds : List Char → List Char
  | [] => []
  | '\r' :: '\n' :: rest => '\n' :: joinLineEnds rest
  | c :: rest => c :: joinLineEnds rest

/-- `split("\n\n")` -/
def splitBlank : List Char → List (List Char)
  | [] => [[]]
  | '\n' :: '\n' :: rest => [] :: splitBlank rest
  | c :: rest =>
      match splitBlank rest with
      | [] => [[c]]
      | chunk :: others => (c :: chunk) :: others

def SingleReturns (text : List Char) : Prop :=
  text.IsChain fun first second => first = '\r' → second ≠ '\r'

def Joined (text : List Char) : Prop :=
  text.IsChain fun first second => first = '\r' → second ≠ '\n'

section

variable {text first second : List Char} {c : Char}

theorem joinLineEnds_char (apart : ¬(c = '\r' ∧ text.head? = some '\n')) :
    joinLineEnds (c :: text) = c :: joinLineEnds text := by
  rw [joinLineEnds]
  rintro rest rfl rfl
  exact apart ⟨rfl, rfl⟩

theorem joinLineEnds_head (plain : c ≠ '\r') (text : List Char) :
    joinLineEnds (c :: text) = c :: joinLineEnds text :=
  joinLineEnds_char fun both => plain both.1

theorem joinLineEnds_plain (plain : '\r' ∉ first) (second : List Char) :
    joinLineEnds (first ++ second) = first ++ joinLineEnds second := by
  induction first with
  | nil => rfl
  | cons c rest ih =>
    rw [List.mem_cons, not_or] at plain
    rw [List.cons_append, joinLineEnds_head (Ne.symm plain.1), ih plain.2]
    rfl

theorem joinLineEnds_cases {motive : List Char → Prop} (nil : motive [])
    (ended : ∀ rest, motive rest → motive ('\r' :: '\n' :: rest))
    (char : ∀ c rest, ¬(c = '\r' ∧ rest.head? = some '\n') → motive rest → motive (c :: rest))
    (text : List Char) : motive text := by
  induction text using joinLineEnds.induct with
  | case1 => exact nil
  | case2 rest ih => exact ended rest ih
  | case3 c rest apart ih =>
    refine char c rest ?_ ih
    rintro ⟨rfl, next⟩
    obtain ⟨others, rfl⟩ := List.head?_eq_some_iff.mp next
    exact apart others rfl rfl

theorem mem_joinLineEnds (member : c ∈ joinLineEnds text) : c ∈ text := by
  induction text using joinLineEnds_cases with
  | nil => exact member
  | ended rest ih =>
    rcases List.mem_cons.mp member with rfl | later
    · exact List.mem_cons_of_mem _ List.mem_cons_self
    · exact List.mem_cons_of_mem _ (List.mem_cons_of_mem _ (ih later))
  | char d rest apart ih =>
    rw [joinLineEnds_char apart] at member
    rcases List.mem_cons.mp member with rfl | later
    · exact List.mem_cons_self
    · exact List.mem_cons_of_mem _ (ih later)

theorem mem_of_mem_splitBy {separator : Char} {segment : List Char}
    (inside : segment ∈ splitBy separator text) (member : c ∈ segment) : c ∈ text := by
  induction text generalizing segment with
  | nil =>
    obtain rfl : segment = [] := by simpa [splitBy] using inside
    exact member
  | cons d rest ih =>
    by_cases ends : d = separator
    · rw [splitBy, if_pos ends] at inside
      rcases List.mem_cons.mp inside with rfl | later
      · cases member
      · exact List.mem_cons_of_mem _ (ih later member)
    · have extended := splitBy_extend (show separator ∉ [d] by simpa using Ne.symm ends) rest
      rw [List.singleton_append] at extended
      rw [extended] at inside
      cases shown : splitBy separator rest with
      | nil => exact absurd shown (splitBy_ne_nil separator rest)
      | cons head others =>
        rw [shown] at inside ih
        rcases List.mem_cons.mp inside with rfl | later
        · rcases List.mem_cons.mp member with rfl | deeper
          · exact List.mem_cons_self
          · exact List.mem_cons_of_mem _ (ih List.mem_cons_self deeper)
        · exact List.mem_cons_of_mem _ (ih (List.mem_cons_of_mem _ later) member)

theorem head_joinLineEnds (single : SingleReturns ('\r' :: text))
    (apart : text.head? ≠ some '\n') : (joinLineEnds text).head? = text.head? := by
  cases text with
  | nil => rfl
  | cons d rest =>
    have noReturn : d ≠ '\r' := (List.isChain_cons_cons.mp single).1 rfl
    rw [joinLineEnds_head noReturn]
    rfl

theorem joinLineEnds_pieces (single : SingleReturns (first ++ second)) :
    joinLineEnds (joinLineEnds first ++ second) = joinLineEnds (first ++ second) := by
  induction first using joinLineEnds_cases with
  | nil => rfl
  | ended rest ih =>
    have later : SingleReturns (rest ++ second) := single.tail.tail
    rw [joinLineEnds, List.cons_append, joinLineEnds_head (by decide), List.cons_append,
      List.cons_append, joinLineEnds, ih later]
  | char c rest apart ih =>
    have later : SingleReturns (rest ++ second) := single.tail
    rw [joinLineEnds_char apart, List.cons_append, List.cons_append]
    cases rest with
    | nil => rfl
    | cons d rest =>
      by_cases ends : c = '\r' ∧ d = '\n'
      · exact absurd ⟨ends.1, congrArg some ends.2⟩ apart
      · have same : (joinLineEnds (d :: rest) ++ second).head? = some '\n' → c ≠ '\r' := by
          rintro next rfl
          have own := head_joinLineEnds (List.IsChain.left_of_append single)
            (fun next => apart ⟨rfl, next⟩)
          cases shown : joinLineEnds (d :: rest) with
          | nil =>
            rw [shown] at own
            cases own
          | cons e others =>
            rw [shown] at own next
            cases own
            exact ends ⟨rfl, Option.some.inj next⟩
        rw [joinLineEnds_char (fun both => same both.2 both.1), ih later,
          joinLineEnds_char (show ¬(c = '\r' ∧ (d :: rest ++ second).head? = some '\n') from
            fun both => ends ⟨both.1, Option.some.inj both.2⟩)]

theorem joined_joinLineEnds (single : SingleReturns text) : Joined (joinLineEnds text) := by
  induction text using joinLineEnds_cases with
  | nil => exact List.IsChain.nil
  | ended rest ih =>
    rw [joinLineEnds]
    exact List.isChain_cons.mpr ⟨fun _ _ same => absurd same (by decide), ih single.tail.tail⟩
  | char c rest apart ih =>
    rw [joinLineEnds_char apart]
    refine List.isChain_cons.mpr ⟨?_, ih single.tail⟩
    rintro d next rfl rfl
    have other : rest.head? ≠ some '\n' := fun next => apart ⟨rfl, next⟩
    exact other (head_joinLineEnds single other ▸ next)

theorem singleReturns_joined (single : SingleReturns (first ++ second)) :
    SingleReturns (joinLineEnds first ++ second) := by
  induction first using joinLineEnds_cases with
  | nil => exact single
  | ended rest ih =>
    have later : SingleReturns (rest ++ second) := single.tail.tail
    rw [joinLineEnds]
    exact List.isChain_cons.mpr ⟨fun _ _ same => absurd same (by decide), ih later⟩
  | char c rest apart ih =>
    rw [joinLineEnds_char apart, List.cons_append]
    refine List.isChain_cons.mpr ⟨?_, ih single.tail⟩
    rintro d next rfl
    cases rest with
    | nil => exact (List.isChain_cons.mp single).1 d next rfl
    | cons e rest =>
      have own := head_joinLineEnds (List.IsChain.left_of_append single)
        (fun next => apart ⟨rfl, next⟩)
      have noReturn : e ≠ '\r' := (List.isChain_cons_cons.mp single).1 rfl
      rw [joinLineEnds_head noReturn] at next
      cases next
      exact noReturn

theorem splitBlank_ne_nil (text : List Char) : splitBlank text ≠ [] := by
  rw [splitBlank.eq_def]
  split
  · exact List.cons_ne_nil _ _
  · exact List.cons_ne_nil _ _
  · split <;> exact List.cons_ne_nil _ _

theorem splitBlank_char (apart : ¬(c = '\n' ∧ text.head? = some '\n')) :
    splitBlank (c :: text) = (c :: (splitBlank text).headD []) :: (splitBlank text).tail := by
  rw [splitBlank]
  · cases shown : splitBlank text with
    | nil => exact absurd shown (splitBlank_ne_nil text)
    | cons chunk others => rfl
  · rintro rest rfl rfl
    exact apart ⟨rfl, rfl⟩

theorem splitBlank_cases {motive : List Char → Prop} (nil : motive [])
    (blank : ∀ rest, motive rest → motive ('\n' :: '\n' :: rest))
    (char : ∀ c rest, ¬(c = '\n' ∧ rest.head? = some '\n') → motive rest → motive (c :: rest))
    (text : List Char) : motive text := by
  induction text using splitBlank.induct with
  | case1 => exact nil
  | case2 rest ih => exact blank rest ih
  | case3 c rest apart _ ih | case4 c rest apart _ _ _ ih =>
    refine char c rest ?_ ih
    rintro ⟨rfl, next⟩
    obtain ⟨others, rfl⟩ := List.head?_eq_some_iff.mp next
    exact apart others rfl rfl

theorem splitBlank_single {chunk : List Char} (single : splitBlank text = [chunk]) :
    chunk = text := by
  induction text using splitBlank_cases generalizing chunk with
  | nil =>
    cases single
    rfl
  | blank rest ih =>
    rw [splitBlank] at single
    exact absurd (List.cons.inj single).2 (splitBlank_ne_nil rest)
  | char c rest apart ih =>
    rw [splitBlank_char apart] at single
    obtain ⟨rfl, none⟩ := List.cons.inj single
    cases shown : splitBlank rest with
    | nil => exact absurd shown (splitBlank_ne_nil rest)
    | cons first others =>
      rw [shown, List.tail_cons] at none
      subst none
      rw [List.headD_cons, ih shown]

theorem splitBlank_last_suffix (text : List Char) : (splitBlank text).getLastD [] <:+ text := by
  induction text using splitBlank_cases with
  | nil => exact List.suffix_rfl
  | blank rest ih =>
    rw [splitBlank, List.getLastD_cons]
    exact ih.trans ⟨['\n', '\n'], rfl⟩
  | char c rest apart ih =>
    rw [splitBlank_char apart]
    match shown : splitBlank rest with
    | [] => exact absurd shown (splitBlank_ne_nil rest)
    | [chunk] =>
      rw [splitBlank_single shown]
      exact List.suffix_rfl
    | chunk :: other :: others =>
      rw [shown] at ih
      exact ih.trans (List.suffix_cons c rest)

def Unbroken (text : List Char) : Prop :=
  text.IsChain fun first second => first = '\n' → second ≠ '\n'

theorem unbroken_line {line : List Char} (single : '\n' ∉ line) (inked : text.head? ≠ some '\n')
    (unbroken : Unbroken text) : Unbroken (line ++ '\n' :: text) := by
  induction line with
  | nil =>
    refine List.isChain_cons.mpr ⟨fun c next _ same => inked ?_, unbroken⟩
    rw [← same]
    exact next
  | cons c rest ih =>
    rw [List.mem_cons, not_or] at single
    exact List.isChain_cons.mpr ⟨fun _ _ same => absurd same.symm single.1, ih single.2⟩

theorem unbroken_plain (single : '\n' ∉ text) : Unbroken text := by
  induction text with
  | nil => exact List.IsChain.nil
  | cons c rest ih =>
    rw [List.mem_cons, not_or] at single
    exact List.isChain_cons.mpr ⟨fun _ _ same => absurd same.symm single.1, ih single.2⟩

theorem splitBlank_whole (single : Unbroken text) : splitBlank text = [text] := by
  induction text with
  | nil => rfl
  | cons c rest ih =>
    have apart : ¬(c = '\n' ∧ rest.head? = some '\n') := fun both =>
      (List.isChain_cons.mp single).1 '\n' both.2 both.1 rfl
    rw [splitBlank_char apart, ih single.tail]
    rfl

theorem head_joined {d e : Char} (joined : Joined (d :: e :: text)) :
    (joinLineEnds (d :: e :: text ++ second)).head? = some d := by
  have apart : ¬(d = '\r' ∧ (e :: text ++ second).head? = some '\n') := fun both =>
    (List.isChain_cons_cons.mp joined).1 both.1 (Option.some.inj both.2)
  rw [List.cons_append, joinLineEnds_char apart]
  rfl

theorem splitBlank_pieces (joined : Joined first) (second : List Char) :
    splitBlank (joinLineEnds (first ++ second)) = (splitBlank first).dropLast ++
      splitBlank (joinLineEnds ((splitBlank first).getLastD [] ++ second)) := by
  induction first using splitBlank_cases with
  | nil => rfl
  | blank rest ih =>
    have later : Joined rest := joined.tail.tail
    rw [List.cons_append, List.cons_append, joinLineEnds_head (by decide),
      joinLineEnds_head (by decide), splitBlank, ih later, splitBlank,
      List.dropLast_cons_of_ne_nil (splitBlank_ne_nil rest), List.getLastD_cons]
    rfl
  | char c rest apart ih =>
    have later : Joined rest := joined.tail
    match shown : splitBlank rest with
    | [] => exact absurd shown (splitBlank_ne_nil rest)
    | [chunk] =>
      rw [splitBlank_char apart, shown, splitBlank_single shown]
      rfl
    | chunk :: other :: others =>
      match rest with
      | [] => cases shown
      | [d] =>
        rw [splitBlank_whole (List.isChain_singleton d)] at shown
        cases shown
      | d :: e :: rest =>
        have head : (joinLineEnds (d :: e :: rest ++ second)).head? = some d := head_joined later
        have noEnd : ¬(c = '\r' ∧ (d :: e :: rest ++ second).head? = some '\n') := fun both =>
          (List.isChain_cons_cons.mp joined).1 both.1 (Option.some.inj both.2)
        rw [List.cons_append, joinLineEnds_char noEnd,
          splitBlank_char (fun both => apart ⟨both.1, head.symm.trans both.2⟩), ih later,
          splitBlank_char apart, shown]
        rfl

theorem splitBlank_ended (single : Unbroken (first ++ ['\n'])) (second : List Char) :
    splitBlank (first ++ '\n' :: '\n' :: second) = first :: splitBlank second := by
  induction first with
  | nil => rfl
  | cons c rest ih =>
    have apart : ¬(c = '\n' ∧ (rest ++ '\n' :: '\n' :: second).head? = some '\n') := by
      rintro ⟨rfl, next⟩
      refine (List.isChain_cons.mp single).1 '\n' ?_ rfl rfl
      cases rest with
      | nil => rfl
      | cons d rest => exact next
    rw [List.cons_append, splitBlank_char apart, ih single.tail]
    rfl

end

end OpenJax.Shared
