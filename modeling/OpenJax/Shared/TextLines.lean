import OpenJax.Shared.Text

set_option autoImplicit false

/-! The lines of a text, and a text split at a line that marks a section. -/

namespace OpenJax.Shared

def stripPrefix? (pattern : String) (text : List Char) : Option (List Char) :=
  if pattern.toList.isPrefixOf text then some (text.drop pattern.toList.length) else none

def splitOnce (separator : List Char) : List Char → Option (List Char × List Char)
  | [] => if separator.isEmpty then some ([], []) else none
  | c :: rest =>
      if separator.isPrefixOf (c :: rest) then some ([], (c :: rest).drop separator.length)
      else (splitOnce separator rest).map fun (before, after) => (c :: before, after)

def stripReturn (line : List Char) : List Char :=
  if line.getLast? = some '\r' then line.dropLast else line

/-- The ends of the lines are not part of them, and a last line that is empty is none. -/
def textLines (text : List Char) : List (List Char) :=
  (splitBy '\n' text).dropLast.map stripReturn ++
    (splitBy '\n' text).getLast?.toList.filter fun line => !line.isEmpty

theorem stripPrefix_append (pattern : String) (text : List Char) :
    stripPrefix? pattern (pattern.toList ++ text) = some text := by
  simp [stripPrefix?]

theorem splitOnce_sound {separator text before after : List Char}
    (split : splitOnce separator text = some (before, after)) :
    text = before ++ (separator ++ after) := by
  induction text generalizing before with
  | nil =>
    rw [splitOnce] at split
    cases separator <;> simp_all
  | cons c rest ih =>
    rw [splitOnce] at split
    by_cases found : separator.isPrefixOf (c :: rest) = true
    · rw [if_pos found] at split
      cases Option.some.inj split
      exact List.prefix_iff_eq_append.mp (List.isPrefixOf_iff_prefix.mp found) |>.symm
    · rw [if_neg found, Option.map_eq_some_iff] at split
      obtain ⟨⟨earlier, later⟩, inner, same⟩ := split
      cases same
      rw [ih inner, List.cons_append]

theorem splitOnce_first (separator before after : List Char) :
    ∃ first rest, splitOnce separator (before ++ (separator ++ after)) = some (first, rest) ∧
      first.length ≤ before.length := by
  induction before with
  | nil =>
    cases shape : separator ++ after with
    | nil =>
      obtain rfl := (List.append_eq_nil_iff.mp shape).1
      exact ⟨[], [], by simp_all [splitOnce], le_rfl⟩
    | cons c rest =>
      have found : separator.isPrefixOf (c :: rest) = true :=
        List.isPrefixOf_iff_prefix.mpr (shape ▸ List.prefix_append separator after)
      exact ⟨[], _, by rw [List.nil_append, splitOnce, if_pos found], le_rfl⟩
  | cons c before ih =>
    rw [List.cons_append, splitOnce]
    by_cases found :
        separator.isPrefixOf (c :: (before ++ (separator ++ after))) = true
    · exact ⟨[], _, if_pos found, Nat.zero_le _⟩
    · obtain ⟨first, rest, inner, short⟩ := ih
      refine ⟨c :: first, rest, by rw [if_neg found, inner, Option.map_some], ?_⟩
      simpa using short

theorem splitBy_headD (separator : Char) (text : List Char) :
    ∃ rest, text ++ [separator] = (splitBy separator text).headD [] ++ separator :: rest := by
  induction text with
  | nil => exact ⟨[], rfl⟩
  | cons c text ih =>
    rw [splitBy]
    by_cases ends : c = separator
    · exact ⟨text ++ [separator], by simp [ends]⟩
    · obtain ⟨rest, split⟩ := ih
      refine ⟨rest, ?_⟩
      rw [List.cons_append, split, if_neg ends]
      cases shape : splitBy separator text with
      | nil => exact absurd shape (splitBy_ne_nil separator text)
      | cons segment others => rfl

theorem splitBy_tail {separator : Char} {text word : List Char}
    (member : word ∈ (splitBy separator text).tail) :
    ∃ outer rest, text ++ [separator] = outer ++ separator :: (word ++ separator :: rest) := by
  induction text with
  | nil => simp [splitBy] at member
  | cons c text ih =>
    rw [splitBy] at member
    by_cases ends : c = separator
    · rw [if_pos ends, List.tail_cons] at member
      obtain ⟨rest, split⟩ := splitBy_headD separator text
      cases shape : splitBy separator text with
      | nil => exact absurd shape (splitBy_ne_nil separator text)
      | cons segment others =>
        rw [shape] at member split ih
        rcases List.mem_cons.mp member with rfl | later
        · exact ⟨[], rest, by rw [List.cons_append, split, ends]; rfl⟩
        · obtain ⟨outer, rest, split⟩ := ih later
          exact ⟨c :: outer, rest, by rw [List.cons_append, split]; rfl⟩
    · rw [if_neg ends] at member
      cases shape : splitBy separator text with
      | nil => exact absurd shape (splitBy_ne_nil separator text)
      | cons segment others =>
        rw [shape] at member ih
        obtain ⟨outer, rest, split⟩ := ih member
        exact ⟨c :: outer, rest, by rw [List.cons_append, split]; rfl⟩

theorem splitOnce_marker {word : List Char} (single : '\n' ∉ word) (before after : List Char) :
    splitOnce ('\n' :: (word ++ ['\n'])) (before ++ ('\n' :: (word ++ ['\n']) ++ after)) =
        some (before, after) ↔
      word ∉ (splitBy '\n' before).tail := by
  constructor
  · intro split member
    -- The line is an earlier marker.
    obtain ⟨outer, rest, ended⟩ := splitBy_tail member
    obtain ⟨first, last, found, short⟩ :=
      splitOnce_first ('\n' :: (word ++ ['\n'])) outer (rest ++ (word ++ ['\n'] ++ after))
    have same : before ++ ('\n' :: (word ++ ['\n']) ++ after) =
        outer ++ ('\n' :: (word ++ ['\n']) ++ (rest ++ (word ++ ['\n'] ++ after))) := by
      have longer := congrArg (· ++ (word ++ ['\n'] ++ after)) ended
      simpa using longer
    rw [← same, split] at found
    cases Option.some.inj found
    have lengths := congrArg List.length ended
    simp only [List.length_append, List.length_cons, List.length_nil] at lengths
    omega
  · intro absent
    obtain ⟨first, rest, found, short⟩ :=
      splitOnce_first ('\n' :: (word ++ ['\n'])) before after
    have split := splitOnce_sound found
    rw [found]
    obtain ⟨middle, whole, inner⟩ : ∃ middle, before = first ++ middle ∧
        '\n' :: (word ++ ['\n']) ++ rest = middle ++ ('\n' :: (word ++ ['\n']) ++ after) := by
      rcases List.append_eq_append_iff.mp split with
        ⟨middle, whole, inner⟩ | ⟨middle, whole, inner⟩
      · obtain rfl : middle = [] := by
          have lengths := congrArg List.length whole
          rw [List.length_append] at lengths
          exact List.length_eq_zero_iff.mp (by omega)
        exact ⟨[], by simpa using whole.symm, inner.symm⟩
      · exact ⟨middle, whole, inner⟩
    cases middle with
    | nil =>
      rw [List.append_nil] at whole
      rw [List.nil_append, List.append_cancel_left_eq] at inner
      rw [whole, inner]
    | cons c middle =>
      -- An earlier marker would make its word a line of the text before.
      exfalso
      simp only [List.cons_append, List.append_assoc, List.nil_append, List.cons.injEq] at inner
      obtain ⟨rfl, inner⟩ := inner
      have lines := congrArg (splitBy '\n') inner
      rw [splitBy_append, splitBy_append, splitBy_plain single] at lines
      apply absent
      rw [whole, splitBy_append, List.tail_append_of_ne_nil (splitBy_ne_nil _ _)]
      apply List.mem_append_right
      cases shape : splitBy '\n' middle with
      | nil => exact absurd shape (splitBy_ne_nil '\n' middle)
      | cons segment others =>
        rw [shape] at lines
        rw [(List.cons.inj lines).1]
        exact List.mem_cons_self

theorem stripPrefix_of_other {pattern other : String} {line value : List Char}
    (found : stripPrefix? pattern line = some value) (longer : ¬pattern.toList <+: other.toList)
    (shorter : ¬other.toList <+: pattern.toList) : stripPrefix? other line = none := by
  have start : pattern.toList <+: line := by
    by_contra absent
    rw [stripPrefix?, if_neg (mt List.isPrefixOf_iff_prefix.mp absent)] at found
    cases found
  rw [stripPrefix?, if_neg]
  intro starts
  rcases List.prefix_or_prefix_of_prefix start (List.isPrefixOf_iff_prefix.mp starts) with
    inside | inside
  · exact longer inside
  · exact shorter inside

def firstLine (text : List Char) : List Char := stripReturn ((splitBy '\n' text).headD [])

def laterLines (text : List Char) : List (List Char) :=
  (splitBy '\n' text).tail.map stripReturn

theorem textLines_append (first second : List Char) :
    textLines (first ++ '\n' :: second) =
      (splitBy '\n' first).map stripReturn ++ textLines second := by
  rw [textLines, splitBy_append, List.dropLast_append_of_ne_nil (splitBy_ne_nil _ _),
    List.getLast?_append_of_ne_nil _ (splitBy_ne_nil _ _), List.map_append, List.append_assoc,
    textLines]

theorem textLines_single {text : List Char} (plain : '\n' ∉ text) (filled : text ≠ []) :
    textLines text = [text] := by
  simp [textLines, splitBy_plain plain, filled]

theorem stripReturn_append {name : List Char}
    (ends : name.getLast? ≠ some '\r') (line : List Char) :
    stripReturn (name ++ line) = name ++ stripReturn line := by
  by_cases empty : line = []
  · subst empty
    rw [List.append_nil, stripReturn, if_neg ends, stripReturn, List.getLast?_nil,
      if_neg (by simp), List.append_nil]
  · rw [stripReturn, stripReturn, List.getLast?_append_of_ne_nil _ empty]
    split
    · rw [List.dropLast_append_of_ne_nil empty]
    · rfl

theorem field_lines {name : List Char} (plain : '\n' ∉ name)
    (ends : name.getLast? ≠ some '\r') (value : List Char) :
    (splitBy '\n' (name ++ value)).map stripReturn =
      (name ++ firstLine value) :: laterLines value := by
  rw [splitBy_extend plain, List.map_cons, stripReturn_append ends]
  rfl

def claims (name : String) (lines : List (List Char)) : List (List Char) :=
  lines.filterMap (stripPrefix? name)

theorem foldl_claims {Fields Value : Type} {name : String} {read : Fields → List Char → Fields}
    {field : Fields → Value} {value : List Char → Value}
    (reads : ∀ fields line,
      field (read fields line) = ((stripPrefix? name line).map value).getD (field fields))
    (lines : List (List Char)) (fields : Fields) :
    field (lines.foldl read fields) =
      ((claims name lines).getLast?.map value).getD (field fields) := by
  induction lines generalizing fields with
  | nil => rfl
  | cons line lines ih =>
    rw [List.foldl_cons, ih, reads, claims, claims, List.filterMap_cons]
    cases stripPrefix? name line with
    | none => rfl
    | some claimed =>
      rw [List.getLast?_cons]
      cases (lines.filterMap (stripPrefix? name)).getLast? <;> rfl

theorem claims_append (name : String) (first second : List (List Char)) :
    claims name (first ++ second) = claims name first ++ claims name second :=
  List.filterMap_append

theorem claims_own (name : String) (value : List Char) (lines : List (List Char)) :
    claims name ((name.toList ++ value) :: lines) = value :: claims name lines := by
  rw [claims, List.filterMap_cons, stripPrefix_append]
  rfl

theorem claims_other {name other : String} (longer : ¬other.toList <+: name.toList)
    (shorter : ¬name.toList <+: other.toList) (value : List Char) (lines : List (List Char)) :
    claims name ((other.toList ++ value) :: lines) = claims name lines := by
  rw [claims, List.filterMap_cons,
    stripPrefix_of_other (stripPrefix_append other value) longer shorter]
  rfl

theorem claims_single {name other : String} (apart : other = name ∨
      ¬other.toList <+: name.toList ∧ ¬name.toList <+: other.toList) (value : List Char) :
    claims name [other.toList ++ value] = if other = name then [value] else [] := by
  rcases apart with rfl | ⟨longer, shorter⟩
  · rw [claims_own, if_pos rfl]
    rfl
  · have different : other ≠ name := fun same => longer (same ▸ List.prefix_refl _)
    rw [claims_other longer shorter, if_neg different]
    rfl

def fieldsText : List (String × List Char) → List Char → List Char
  | [], last => last
  | (name, value) :: fields, last => (name.toList ++ value) ++ '\n' :: fieldsText fields last

def fieldsLines (fields : List (String × List Char)) : List (List Char) :=
  fields.flatMap fun field => (field.1.toList ++ firstLine field.2) :: laterLines field.2

variable {fields : List (String × List Char)}

theorem textLines_fieldsText
    (names : ∀ field ∈ fields, '\n' ∉ field.1.toList ∧ field.1.toList.getLast? ≠ some '\r')
    (last : List Char) :
    textLines (fieldsText fields last) = fieldsLines fields ++ textLines last := by
  induction fields with
  | nil => rfl
  | cons field fields ih =>
    obtain ⟨plain, ends⟩ := names field List.mem_cons_self
    rw [fieldsText, textLines_append, field_lines plain ends,
      ih fun other member => names other (List.mem_cons_of_mem _ member), fieldsLines, fieldsLines,
      List.flatMap_cons, List.append_assoc]

theorem mem_fieldsText {word last : List Char} (plain : ∀ field ∈ fields, '\n' ∉ field.1.toList)
    (other : ∀ field ∈ fields, ¬field.1.toList <+: word) (lastOther : word ∉ splitBy '\n' last) :
    word ∈ splitBy '\n' (fieldsText fields last) ↔
      ∃ field ∈ fields, word ∈ (splitBy '\n' field.2).tail := by
  induction fields with
  | nil => simpa [fieldsText] using lastOther
  | cons field fields ih =>
    have rest := ih (fun other member => plain other (List.mem_cons_of_mem _ member))
      (fun name member => other name (List.mem_cons_of_mem _ member))
    have notNamed (text : List Char) : word ≠ field.1.toList ++ text := by
      rintro rfl
      exact other field List.mem_cons_self (List.prefix_append _ _)
    rw [fieldsText, splitBy_append, splitBy_extend (plain field List.mem_cons_self),
      List.mem_append, List.mem_cons, rest]
    simp only [notNamed, false_or, List.mem_cons, exists_eq_or_imp]

theorem mem_fieldsText_tail {word last : List Char} (filled : fields ≠ [])
    (plain : ∀ field ∈ fields, '\n' ∉ field.1.toList)
    (other : ∀ field ∈ fields, ¬field.1.toList <+: word) (lastOther : word ∉ splitBy '\n' last) :
    word ∈ (splitBy '\n' (fieldsText fields last)).tail ↔
      ∃ field ∈ fields, word ∈ (splitBy '\n' field.2).tail := by
  rw [← mem_fieldsText plain other lastOther]
  cases fields with
  | nil => exact absurd rfl filled
  | cons field fields =>
    rw [fieldsText, splitBy_append, splitBy_extend (plain field List.mem_cons_self),
      List.cons_append, List.tail_cons, List.mem_cons]
    refine ⟨Or.inr, fun member => member.resolve_left ?_⟩
    rintro rfl
    exact other field List.mem_cons_self (List.prefix_append _ _)

def fieldClaims (name : String) (field : String × List Char) : List (List Char) :=
  if field.1 = name then firstLine field.2 :: claims name (laterLines field.2)
  else claims name (laterLines field.2)

theorem fieldClaims_plain {value : List Char} (plain : '\n' ∉ value)
    (ends : value.getLast? ≠ some '\r') (name field : String) :
    fieldClaims name (field, value) = if field = name then [value] else [] := by
  have first : firstLine value = value := by
    rw [firstLine, splitBy_plain plain, List.headD_cons, stripReturn, if_neg ends]
  have later : laterLines value = [] := by
    rw [laterLines, splitBy_plain plain, List.tail_cons, List.map_nil]
  rw [fieldClaims, first, later]
  rfl

theorem claims_fieldsLines {name : String} (apart : ∀ field ∈ fields, field.1 = name ∨
      ¬field.1.toList <+: name.toList ∧ ¬name.toList <+: field.1.toList) :
    claims name (fieldsLines fields) = fields.flatMap (fieldClaims name) := by
  induction fields with
  | nil => rfl
  | cons field fields ih =>
    have rest := ih fun other member => apart other (List.mem_cons_of_mem _ member)
    rw [fieldsLines] at rest
    rw [fieldsLines, List.flatMap_cons, List.flatMap_cons, claims_append, rest, fieldClaims]
    congr 1
    rcases apart field List.mem_cons_self with own | ⟨longer, shorter⟩
    · rw [if_pos own, own, claims_own]
    · have different : field.1 ≠ name := fun same => longer (same ▸ List.prefix_refl _)
      rw [if_neg different, claims_other longer shorter]

end OpenJax.Shared
