import Mathlib.Data.List.TakeWhile
import OpenJax.Shared.Text

set_option autoImplicit false

/-! JSON texts: what is read of one, and that no object can be read of a beginning of an object's
text. Strings and numbers stay as they are written. -/

namespace OpenJax.Shared

inductive JsonValue where
  | null
  | bool (value : Bool)
  | number (literal : List Char)
  | string (literal : List Char)
  | array (items : List JsonValue)
  | object (fields : List (List Char × JsonValue))

namespace JsonText

def isSpace (c : Char) : Bool := c == ' ' || c == '\t' || c == '\n' || c == '\r'

def skipSpace (text : List Char) : List Char := text.dropWhile isSpace

def isHex (c : Char) : Bool := c.isDigit || ('a' ≤ c && c ≤ 'f') || ('A' ≤ c && c ≤ 'F')

def isEscape (c : Char) : Bool := ['"', '\\', '/', 'b', 'f', 'n', 'r', 't'].contains c

def readString : List Char → Option (List Char × List Char)
  | [] => none
  | '"' :: rest => some ([], rest)
  | '\\' :: 'u' :: a :: b :: c :: d :: rest =>
      if isHex a && isHex b && isHex c && isHex d then
        (readString rest).map fun read => ('\\' :: 'u' :: a :: b :: c :: d :: read.1, read.2)
      else none
  | '\\' :: escaped :: rest =>
      if isEscape escaped then
        (readString rest).map fun read => ('\\' :: escaped :: read.1, read.2)
      else none
  | c :: rest =>
      if c == '\\' || c.toNat < 0x20 then none
      else (readString rest).map fun read => (c :: read.1, read.2)

def isNumeral (c : Char) : Bool := c.isDigit || ['-', '+', '.', 'e', 'E'].contains c

def digitsThen (rest : List Char → Bool) (text : List Char) : Bool :=
  !(text.takeWhile Char.isDigit).isEmpty && rest (text.dropWhile Char.isDigit)

def isExponent : List Char → Bool
  | [] => true
  | mark :: rest =>
      (mark == 'e' || mark == 'E') &&
        digitsThen List.isEmpty
          (match rest with
          | '+' :: digits | '-' :: digits => digits
          | digits => digits)

def isFraction : List Char → Bool
  | '.' :: rest => digitsThen isExponent rest
  | rest => isExponent rest

def isMagnitude : List Char → Bool
  | '0' :: rest => isFraction rest
  | text => digitsThen isFraction text

def isNumber : List Char → Bool
  | '-' :: rest => isMagnitude rest
  | text => isMagnitude text

def readNumber (text : List Char) : Option (JsonValue × List Char) :=
  if isNumber (text.takeWhile isNumeral) then
    some (.number (text.takeWhile isNumeral), text.dropWhile isNumeral)
  else none

mutual

def readValue : Nat → List Char → Option (JsonValue × List Char)
  | 0, _ => none
  | fuel + 1, text =>
      match skipSpace text with
      | '\x7b' :: rest =>
          (readObject fuel (skipSpace rest)).map fun read => (.object read.1, read.2)
      | '[' :: rest => (readArray fuel (skipSpace rest)).map fun read => (.array read.1, read.2)
      | '"' :: rest => (readString rest).map fun read => (.string read.1, read.2)
      | 'n' :: 'u' :: 'l' :: 'l' :: rest => some (.null, rest)
      | 't' :: 'r' :: 'u' :: 'e' :: rest => some (.bool true, rest)
      | 'f' :: 'a' :: 'l' :: 's' :: 'e' :: rest => some (.bool false, rest)
      | other => readNumber other

def readObject : Nat → List Char → Option (List (List Char × JsonValue) × List Char)
  | 0, _ => none
  | _ + 1, '\x7d' :: rest => some ([], rest)
  | fuel + 1, text => readFields fuel text

def readFields : Nat → List Char → Option (List (List Char × JsonValue) × List Char)
  | 0, _ => none
  | fuel + 1, text =>
      match skipSpace text with
      | '"' :: rest =>
          (readString rest).bind fun name =>
            match skipSpace name.2 with
            | ':' :: rest =>
                (readValue fuel rest).bind fun value =>
                  match skipSpace value.2 with
                  | '\x7d' :: rest => some ([(name.1, value.1)], rest)
                  | ',' :: rest =>
                      (readFields fuel rest).map fun read =>
                        ((name.1, value.1) :: read.1, read.2)
                  | _ => none
            | _ => none
      | _ => none

def readArray : Nat → List Char → Option (List JsonValue × List Char)
  | 0, _ => none
  | _ + 1, ']' :: rest => some ([], rest)
  | fuel + 1, text => readItems fuel text

def readItems : Nat → List Char → Option (List JsonValue × List Char)
  | 0, _ => none
  | fuel + 1, text =>
      (readValue fuel text).bind fun value =>
        match skipSpace value.2 with
        | ']' :: rest => some ([value.1], rest)
        | ',' :: rest => (readItems fuel rest).map fun read => (value.1 :: read.1, read.2)
        | _ => none

end

/-- `JSON.parse`. The depth is enough for every text, as `parse_of_read` says. -/
def parse (text : List Char) : Option JsonValue :=
  match readValue (3 * text.length) text with
  | some (value, rest) => if (skipSpace rest).isEmpty then some value else none
  | none => none

section Longer

variable {text rest behind : List Char}

theorem skipSpace_append (inked : skipSpace text ≠ []) (behind : List Char) :
    skipSpace (text ++ behind) = skipSpace text ++ behind := by
  induction text with
  | nil => exact absurd rfl inked
  | cons c text ih =>
    by_cases space : isSpace c
    · simp only [skipSpace, List.cons_append, List.dropWhile_cons, space, if_true] at inked ih ⊢
      exact ih inked
    · simp [skipSpace, space]

theorem length_skipSpace (text : List Char) : (skipSpace text).length ≤ text.length :=
  (List.dropWhile_suffix _).length_le

/-- Reading a part of a text leaves less, and the same part is read where more follows. -/
def Reads {α : Type} (read : List Char → Option (α × List Char)) (text : List Char) (value : α)
    (rest : List Char) : Prop :=
  rest.length < text.length ∧ ∀ behind, read (text ++ behind) = some (value, rest ++ behind)

theorem readString_escape {escaped : Char} (escape : isEscape escaped) (text : List Char) :
    readString ('\\' :: escaped :: text) =
      (readString text).map fun read => ('\\' :: escaped :: read.1, read.2) := by
  have other : escaped ≠ 'u' := by
    rintro rfl
    exact absurd escape (by decide)
  rw [readString.eq_4 _ _ (fun _ _ _ _ _ code _ => absurd code other), if_pos escape]

variable {c : Char}

theorem readString_plain (noQuote : c ≠ '"')
    (plain : ¬ (c == '\\' || decide (c.toNat < 0x20)) = true) (text : List Char) :
    readString (c :: text) = (readString text).map fun read => (c :: read.1, read.2) := by
  have noEscape : c ≠ '\\' := by
    rintro rfl
    exact plain rfl
  rw [readString.eq_5 _ _ noQuote (fun _ _ _ _ _ same _ => absurd same noEscape)
    (fun _ _ same _ => absurd same noEscape), if_neg plain]

theorem readString_reads {literal : List Char} (found : readString text = some (literal, rest)) :
    rest <:+ text ∧ Reads readString text literal rest := by
  induction text using readString.induct generalizing literal with
  | case1 => cases found
  | case2 text =>
    cases found
    exact ⟨List.suffix_cons _ _, Nat.lt_succ_self _, fun _ => rfl⟩
  | case3 a b c d text hex ih =>
    rw [readString, if_pos hex] at found
    obtain ⟨⟨inside, after⟩, read, same⟩ := Option.map_eq_some_iff.mp found
    cases same
    obtain ⟨ends, less, longer⟩ := ih read
    dsimp only at less
    refine ⟨ends.trans ⟨['\\', 'u', a, b, c, d], rfl⟩, by simp only [List.length_cons]; omega, fun behind => ?_⟩
    simp only [List.cons_append]
    rw [readString, if_pos hex, longer behind]
    rfl
  | case4 a b c d text plain =>
    rw [readString, if_neg plain] at found
    cases found
  | case5 escaped text _ escape ih =>
    rw [readString_escape escape] at found
    obtain ⟨⟨inside, after⟩, read, same⟩ := Option.map_eq_some_iff.mp found
    cases same
    obtain ⟨ends, less, longer⟩ := ih read
    dsimp only at less
    refine ⟨ends.trans ⟨['\\', escaped], rfl⟩, by simp only [List.length_cons]; omega, fun behind => ?_⟩
    rw [List.cons_append, List.cons_append, readString_escape escape, longer behind]
    rfl
  | case6 escaped text noCode plain =>
    rw [readString.eq_4 _ _ noCode, if_neg plain] at found
    cases found
  | case7 c text noQuote noCode noEscape control =>
    rw [readString.eq_5 _ _ noQuote noCode noEscape, if_pos control] at found
    cases found
  | case8 c text noQuote _ _ plain ih =>
    rw [readString_plain noQuote plain] at found
    obtain ⟨⟨inside, after⟩, read, same⟩ := Option.map_eq_some_iff.mp found
    cases same
    obtain ⟨ends, less, longer⟩ := ih read
    dsimp only at less
    refine ⟨ends.trans (List.suffix_cons _ _), by simp only [List.length_cons]; omega, fun behind => ?_⟩
    rw [List.cons_append, readString_plain noQuote plain, longer behind]
    rfl

theorem isNumber_ne_nil {text : List Char} (number : isNumber text) : text ≠ [] := by
  rintro rfl
  exact absurd number (by decide)

variable {value : JsonValue}

theorem readNumber_reads (found : readNumber text = some (value, rest)) :
    rest.length < text.length ∧ ∀ behind, rest ≠ [] ∨ behind = [] →
      readNumber (text ++ behind) = some (value, rest ++ behind) := by
  obtain ⟨number, same⟩ := (Option.ite_none_right_eq_some).mp found
  cases same
  have whole : text.takeWhile isNumeral ++ text.dropWhile isNumeral = text :=
    List.takeWhile_append_dropWhile
  have lengths := congrArg List.length whole
  have positive := List.length_pos_iff.mpr (isNumber_ne_nil number)
  rw [List.length_append] at lengths
  refine ⟨by omega, fun behind follows => ?_⟩
  have numerals : (text ++ behind).takeWhile isNumeral = text.takeWhile isNumeral ∧
      (text ++ behind).dropWhile isNumeral = text.dropWhile isNumeral ++ behind := by
    rcases follows with inked | rfl
    · cases after : text.dropWhile isNumeral with
      | nil => exact absurd after inked
      | cons c others =>
        have stops := List.head_dropWhile_not isNumeral (after ▸ List.cons_ne_nil c others)
        simp only [after, List.head_cons] at stops
        have split : text = text.takeWhile isNumeral ++ c :: others := by rw [← after, whole]
        have own : ∀ d ∈ text.takeWhile isNumeral, isNumeral d :=
          fun d member => List.mem_takeWhile_imp member
        constructor
        · conv_lhs => rw [split, List.append_assoc]
          rw [List.takeWhile_append_of_pos own, List.cons_append, List.takeWhile_cons, stops]
          simp
        · conv_lhs => rw [split, List.append_assoc]
          rw [List.dropWhile_append_of_pos own, List.cons_append, List.dropWhile_cons, stops]
          simp
    · simp
  rw [readNumber, numerals.1, if_pos number, numerals.2]

theorem readValue_number (shown : skipSpace text = c :: rest) (numeral : isNumeral c) (fuel : Nat) :
    readValue (fuel + 1) text = readNumber (c :: rest) := by
  rw [readValue, shown]
  split <;> first
  | rfl
  | next same => cases same; exact absurd numeral (by decide)

def ReadsWithin {α : Type} (read : Nat → List Char → Option (α × List Char)) (extra : Nat)
    (text : List Char) (value : α) (rest behind : List Char) : Prop :=
  ∀ fuel, 3 * text.length + extra ≤ fuel + 3 * rest.length →
    read fuel (text ++ behind) = some (value, rest ++ behind)

def Closed (value : JsonValue) (rest behind : List Char) : Prop :=
  rest ≠ [] ∨ behind = [] ∨ ∃ fields, value = .object fields

structure Within (fuel : Nat) : Prop where
  value : ∀ {text value rest}, readValue fuel text = some (value, rest) →
    rest.length < text.length ∧
      ∀ behind, Closed value rest behind → ReadsWithin readValue 0 text value rest behind
  object : ∀ {text fields rest}, readObject fuel text = some (fields, rest) →
    rest.length < text.length ∧ ∀ behind, ReadsWithin readObject 2 text fields rest behind
  fields : ∀ {text fields rest}, readFields fuel text = some (fields, rest) →
    rest.length < text.length ∧ ∀ behind, ReadsWithin readFields 1 text fields rest behind
  array : ∀ {text items rest}, readArray fuel text = some (items, rest) →
    rest.length < text.length ∧ ∀ behind, ReadsWithin readArray 2 text items rest behind
  items : ∀ {text items rest}, readItems fuel text = some (items, rest) →
    rest.length < text.length ∧ ∀ behind, ReadsWithin readItems 1 text items rest behind

theorem length_of_skipSpace (shown : skipSpace text = c :: rest) : rest.length < text.length := by
  have short := length_skipSpace text
  rw [shown, List.length_cons] at short
  omega

theorem skipSpace_longer (shown : skipSpace text = c :: rest) (behind : List Char) :
    skipSpace (text ++ behind) = c :: (rest ++ behind) := by
  rw [skipSpace_append (by rw [shown]; exact List.cons_ne_nil c rest), shown]
  rfl

theorem skipSpace_inked {after : List Char} (less : after.length < (skipSpace text).length)
    (behind : List Char) : skipSpace (text ++ behind) = skipSpace text ++ behind := by
  apply skipSpace_append
  intro none
  rw [none] at less
  exact Nat.not_lt_zero _ less

-- A bracket or a comma follows the value, so that it ends where it did.
theorem Closed.of_shown (shown : skipSpace text = c :: rest) (behind : List Char) :
    Closed value text behind := by
  refine .inl fun none => ?_
  rw [none] at shown
  cases shown

variable {fuel : Nat} {fields : List (List Char × JsonValue)}

theorem Within.object_succ (within : Within fuel)
    (found : readObject (fuel + 1) text = some (fields, rest)) :
    rest.length < text.length ∧ ∀ behind, ReadsWithin readObject 2 text fields rest behind := by
  cases text with
  | nil =>
    rw [readObject.eq_3 _ _ (fun _ same => by cases same)] at found
    have less := (within.fields found).1
    exact absurd less (Nat.not_lt_zero _)
  | cons c others =>
    by_cases closing : c = '\x7d'
    · subst closing
      cases found
      refine ⟨Nat.lt_succ_self _, fun behind fuel enough => ?_⟩
      rw [List.length_cons] at enough
      obtain _ | more := fuel
      · omega
      rfl
    · rw [readObject.eq_3 _ _ fun _ same => closing (List.cons.inj same).1] at found
      obtain ⟨less, longer⟩ := within.fields found
      refine ⟨less, fun behind fuel enough => ?_⟩
      obtain _ | more := fuel
      · omega
      rw [List.cons_append, readObject.eq_3 _ _ fun _ same => closing (List.cons.inj same).1]
      exact longer behind more (by omega)

variable {items : List JsonValue}

theorem Within.array_succ (within : Within fuel)
    (found : readArray (fuel + 1) text = some (items, rest)) :
    rest.length < text.length ∧ ∀ behind, ReadsWithin readArray 2 text items rest behind := by
  cases text with
  | nil =>
    rw [readArray.eq_3 _ _ (fun _ same => by cases same)] at found
    have less := (within.items found).1
    exact absurd less (Nat.not_lt_zero _)
  | cons c others =>
    by_cases closing : c = ']'
    · subst closing
      cases found
      refine ⟨Nat.lt_succ_self _, fun behind fuel enough => ?_⟩
      rw [List.length_cons] at enough
      obtain _ | more := fuel
      · omega
      rfl
    · rw [readArray.eq_3 _ _ fun _ same => closing (List.cons.inj same).1] at found
      obtain ⟨less, longer⟩ := within.items found
      refine ⟨less, fun behind fuel enough => ?_⟩
      obtain _ | more := fuel
      · omega
      rw [List.cons_append, readArray.eq_3 _ _ fun _ same => closing (List.cons.inj same).1]
      exact longer behind more (by omega)

theorem Within.items_succ (within : Within fuel)
    (found : readItems (fuel + 1) text = some (items, rest)) :
    rest.length < text.length ∧ ∀ behind, ReadsWithin readItems 1 text items rest behind := by
  rw [readItems] at found
  obtain ⟨⟨value, after⟩, read, found⟩ := Option.bind_eq_some_iff.mp found
  obtain ⟨less, longer⟩ := within.value read
  dsimp only at found
  split at found
  next others shown =>
    cases found
    have shorter := length_of_skipSpace shown
    refine ⟨by omega, fun behind fuel enough => ?_⟩
    obtain _ | more := fuel
    · omega
    rw [readItems, longer behind (.of_shown shown behind) more (by omega), Option.bind_some]
    simp only [skipSpace_longer shown]
  next others shown =>
    obtain ⟨⟨more, last⟩, readMore, same⟩ := Option.map_eq_some_iff.mp found
    cases same
    have shorter := length_of_skipSpace shown
    obtain ⟨lessMore, longerMore⟩ := within.items readMore
    dsimp only at *
    refine ⟨by omega, fun behind fuel enough => ?_⟩
    obtain _ | less' := fuel
    · omega
    rw [readItems, longer behind (.of_shown shown behind) less' (by omega), Option.bind_some]
    simp only [skipSpace_longer shown, longerMore behind less' (by omega), Option.map_some]
  · cases found

theorem Within.fields_succ (within : Within fuel)
    (found : readFields (fuel + 1) text = some (fields, rest)) :
    rest.length < text.length ∧ ∀ behind, ReadsWithin readFields 1 text fields rest behind := by
  rw [readFields] at found
  split at found
  next quoted opens =>
    obtain ⟨⟨name, named⟩, readName, found⟩ := Option.bind_eq_some_iff.mp found
    obtain ⟨-, lessName, longerName⟩ := readString_reads readName
    have quote := length_of_skipSpace opens
    dsimp only at found
    split at found
    next valued colon =>
      obtain ⟨⟨value, after⟩, read, found⟩ := Option.bind_eq_some_iff.mp found
      obtain ⟨less, longer⟩ := within.value read
      have mark := length_of_skipSpace colon
      dsimp only at found
      split at found
      next others shown =>
        cases found
        have shorter := length_of_skipSpace shown
        refine ⟨by omega, fun behind fuel enough => ?_⟩
        obtain _ | more := fuel
        · omega
        simp only [readFields, skipSpace_longer opens, longerName behind, Option.bind_some,
          skipSpace_longer colon, longer behind (.of_shown shown behind) more (by omega),
          skipSpace_longer shown]
      next others shown =>
        obtain ⟨⟨more, last⟩, readMore, same⟩ := Option.map_eq_some_iff.mp found
        cases same
        have shorter := length_of_skipSpace shown
        obtain ⟨lessMore, longerMore⟩ := within.fields readMore
        dsimp only at *
        refine ⟨by omega, fun behind fuel enough => ?_⟩
        obtain _ | less' := fuel
        · omega
        simp only [readFields, skipSpace_longer opens, longerName behind, Option.bind_some,
          skipSpace_longer colon, longer behind (.of_shown shown behind) less' (by omega),
          skipSpace_longer shown, longerMore behind less' (by omega), Option.map_some]
      · cases found
    · cases found
  · cases found

theorem readNumber_head (found : readNumber text = some (value, rest)) :
    (∃ c others, text = c :: others ∧ isNumeral c) ∧ ∃ literal, value = .number literal := by
  obtain ⟨number, same⟩ := (Option.ite_none_right_eq_some).mp found
  cases same
  refine ⟨?_, _, rfl⟩
  cases text with
  | nil => exact absurd number (by decide)
  | cons c others =>
    refine ⟨c, others, rfl, ?_⟩
    by_contra plain
    rw [List.takeWhile_cons_of_neg plain] at number
    exact absurd number (by decide)

theorem readValue_word {word : List Char} (reads : ∀ fuel text rest, skipSpace text = word ++ rest →
      readValue (fuel + 1) text = some (value, rest)) (inked : word ≠ [])
    (shown : skipSpace text = word ++ rest) :
    rest.length < text.length ∧
      ∀ behind, ReadsWithin readValue 0 text value rest behind := by
  have short := length_skipSpace text
  have long := List.length_pos_iff.mpr inked
  rw [shown, List.length_append] at short
  refine ⟨by omega, fun behind fuel enough => ?_⟩
  obtain _ | more := fuel
  · omega
  apply reads
  rw [skipSpace_append (by simp [shown, inked]), shown, List.append_assoc]

theorem Within.value_succ (within : Within fuel)
    (found : readValue (fuel + 1) text = some (value, rest)) :
    rest.length < text.length ∧
      ∀ behind, Closed value rest behind → ReadsWithin readValue 0 text value rest behind := by
  rw [readValue] at found
  split at found
  next inside opens =>
    obtain ⟨⟨fields, after⟩, read, same⟩ := Option.map_eq_some_iff.mp found
    cases same
    have shorter := length_of_skipSpace opens
    have spaces := length_skipSpace inside
    obtain ⟨less, longer⟩ := within.object read
    dsimp only at *
    refine ⟨by omega, fun behind _ fuel enough => ?_⟩
    obtain _ | more := fuel
    · omega
    simp only [readValue, skipSpace_longer opens, skipSpace_inked less,
      longer behind more (by omega), Option.map_some]
  next inside opens =>
    obtain ⟨⟨items, after⟩, read, same⟩ := Option.map_eq_some_iff.mp found
    cases same
    have shorter := length_of_skipSpace opens
    have spaces := length_skipSpace inside
    obtain ⟨less, longer⟩ := within.array read
    dsimp only at *
    refine ⟨by omega, fun behind _ fuel enough => ?_⟩
    obtain _ | more := fuel
    · omega
    simp only [readValue, skipSpace_longer opens, skipSpace_inked less,
      longer behind more (by omega), Option.map_some]
  next inside opens =>
    obtain ⟨⟨literal, after⟩, read, same⟩ := Option.map_eq_some_iff.mp found
    cases same
    have shorter := length_of_skipSpace opens
    obtain ⟨-, less, longer⟩ := readString_reads read
    dsimp only at *
    refine ⟨by omega, fun behind _ fuel enough => ?_⟩
    obtain _ | more := fuel
    · omega
    simp only [readValue, skipSpace_longer opens, longer behind, Option.map_some]
  next others shown =>
    cases found
    have word := readValue_word (fun _ _ _ shown => by rw [readValue, shown]; rfl)
      (List.cons_ne_nil 'n' ['u', 'l', 'l']) shown
    exact ⟨word.1, fun behind _ => word.2 behind⟩
  next others shown =>
    cases found
    have word := readValue_word (fun _ _ _ shown => by rw [readValue, shown]; rfl)
      (List.cons_ne_nil 't' ['r', 'u', 'e']) shown
    exact ⟨word.1, fun behind _ => word.2 behind⟩
  next others shown =>
    cases found
    have word := readValue_word (fun _ _ _ shown => by rw [readValue, shown]; rfl)
      (List.cons_ne_nil 'f' ['a', 'l', 's', 'e']) shown
    exact ⟨word.1, fun behind _ => word.2 behind⟩
  · obtain ⟨⟨c, others, shown, numeral⟩, literal, rfl⟩ := readNumber_head found
    obtain ⟨less, longer⟩ := readNumber_reads found
    have spaces := length_skipSpace text
    refine ⟨by omega, fun behind closed fuel enough => ?_⟩
    obtain _ | more := fuel
    · omega
    have follows : rest ≠ [] ∨ behind = [] := by
      rcases closed with inked | none | ⟨fields, same⟩
      · exact .inl inked
      · exact .inr none
      · cases same
    rw [readValue_number (skipSpace_longer shown behind) numeral,
      ← List.cons_append, ← shown]
    exact longer behind follows

theorem within (fuel : Nat) : Within fuel := by
  induction fuel with
  | zero =>
    constructor
    all_goals
      intro text value rest found
      cases found
  | succ fuel ih => exact ⟨ih.value_succ, ih.object_succ, ih.fields_succ, ih.array_succ, ih.items_succ⟩

theorem read_of_parse (found : parse text = some value) :
    ∃ fuel rest, readValue fuel text = some (value, rest) ∧ skipSpace rest = [] := by
  unfold parse at found
  split at found
  next read rest shown =>
    obtain ⟨blank, same⟩ := (Option.ite_none_right_eq_some).mp found
    cases same
    exact ⟨_, rest, shown, List.isEmpty_iff.mp blank⟩
  · cases found

theorem skipSpace_suffix (shown : skipSpace text = c :: rest) : rest <:+ text :=
  (List.suffix_cons c rest).trans (shown ▸ List.dropWhile_suffix isSpace)

structure Leaves (fuel : Nat) : Prop where
  value : ∀ {text value rest}, readValue fuel text = some (value, rest) → rest <:+ text
  object : ∀ {text fields rest}, readObject fuel text = some (fields, rest) →
    '\x7d' :: rest <:+ text
  fields : ∀ {text fields rest}, readFields fuel text = some (fields, rest) →
    '\x7d' :: rest <:+ text
  array : ∀ {text items rest}, readArray fuel text = some (items, rest) → rest <:+ text
  items : ∀ {text items rest}, readItems fuel text = some (items, rest) → rest <:+ text

theorem Leaves.object_succ (leaves : Leaves fuel)
    (found : readObject (fuel + 1) text = some (fields, rest)) : '\x7d' :: rest <:+ text := by
  rw [readObject.eq_def] at found
  split at found
  · cases found
  next same =>
    cases found
    exact List.suffix_rfl
  next deeper _ =>
    cases deeper
    exact leaves.fields found

theorem Leaves.array_succ (leaves : Leaves fuel)
    (found : readArray (fuel + 1) text = some (items, rest)) : rest <:+ text := by
  rw [readArray.eq_def] at found
  split at found
  · cases found
  next same =>
    cases found
    exact List.suffix_cons _ _
  next deeper _ =>
    cases deeper
    exact leaves.items found

theorem Leaves.items_succ (leaves : Leaves fuel)
    (found : readItems (fuel + 1) text = some (items, rest)) : rest <:+ text := by
  rw [readItems] at found
  obtain ⟨⟨value, after⟩, read, found⟩ := Option.bind_eq_some_iff.mp found
  have inside : after <:+ text := leaves.value read
  dsimp only at found
  split at found
  next others shown =>
    cases found
    exact (skipSpace_suffix shown).trans inside
  next others shown =>
    obtain ⟨⟨more, last⟩, readMore, same⟩ := Option.map_eq_some_iff.mp found
    cases same
    exact (leaves.items readMore).trans ((skipSpace_suffix shown).trans inside)
  · cases found

theorem Leaves.fields_succ (leaves : Leaves fuel)
    (found : readFields (fuel + 1) text = some (fields, rest)) : '\x7d' :: rest <:+ text := by
  rw [readFields] at found
  split at found
  next quoted opens =>
    obtain ⟨⟨name, named⟩, readName, found⟩ := Option.bind_eq_some_iff.mp found
    have inName : named <:+ text := ((readString_reads readName).1).trans (skipSpace_suffix opens)
    dsimp only at found
    split at found
    next valued colon =>
      obtain ⟨⟨value, after⟩, read, found⟩ := Option.bind_eq_some_iff.mp found
      have inside : after <:+ text :=
        (leaves.value read).trans ((skipSpace_suffix colon).trans inName)
      dsimp only at found
      split at found
      next others shown =>
        cases found
        have closing : '\x7d' :: rest <:+ after := shown ▸ List.dropWhile_suffix isSpace
        exact closing.trans inside
      next others shown =>
        obtain ⟨⟨more, last⟩, readMore, same⟩ := Option.map_eq_some_iff.mp found
        cases same
        exact (leaves.fields readMore).trans ((skipSpace_suffix shown).trans inside)
      · cases found
    · cases found
  · cases found

variable {inside : List Char}

theorem readValue_object (fuel : Nat) :
    readValue (fuel + 1) ('\x7b' :: inside) =
      (readObject fuel (skipSpace inside)).map fun read => (.object read.1, read.2) := rfl

theorem Leaves.value_succ (leaves : Leaves fuel)
    (found : readValue (fuel + 1) text = some (value, rest)) : rest <:+ text := by
  rw [readValue] at found
  split at found
  next inside opens =>
    obtain ⟨⟨fields, after⟩, read, same⟩ := Option.map_eq_some_iff.mp found
    cases same
    exact (List.suffix_cons _ _).trans ((leaves.object read).trans
      ((List.dropWhile_suffix isSpace).trans (skipSpace_suffix opens)))
  next inside opens =>
    obtain ⟨⟨items, after⟩, read, same⟩ := Option.map_eq_some_iff.mp found
    cases same
    exact (leaves.array read).trans ((List.dropWhile_suffix isSpace).trans (skipSpace_suffix opens))
  next inside opens =>
    obtain ⟨⟨literal, after⟩, read, same⟩ := Option.map_eq_some_iff.mp found
    cases same
    exact ((readString_reads read).1).trans (skipSpace_suffix opens)
  next others shown =>
    cases found
    exact List.IsSuffix.trans ⟨['u', 'l', 'l'], rfl⟩ (skipSpace_suffix shown)
  next others shown =>
    cases found
    exact List.IsSuffix.trans ⟨['r', 'u', 'e'], rfl⟩ (skipSpace_suffix shown)
  next others shown =>
    cases found
    exact List.IsSuffix.trans ⟨['a', 'l', 's', 'e'], rfl⟩ (skipSpace_suffix shown)
  · obtain ⟨number, same⟩ := (Option.ite_none_right_eq_some).mp found
    cases same
    exact (List.dropWhile_suffix isNumeral).trans (List.dropWhile_suffix isSpace)

theorem leaves (fuel : Nat) : Leaves fuel := by
  induction fuel with
  | zero =>
    constructor
    all_goals
      intro text value rest found
      cases found
  | succ fuel ih => exact ⟨ih.value_succ, ih.object_succ, ih.fields_succ, ih.array_succ, ih.items_succ⟩

theorem parse_object (found : parse ('\x7b' :: inside) = some value) :
    ∃ fuel fields rest, value = .object fields ∧
      readValue fuel ('\x7b' :: inside) = some (value, rest) ∧ skipSpace rest = [] ∧
        '\x7d' :: rest <:+ inside := by
  obtain ⟨fuel, rest, read, blank⟩ := read_of_parse found
  cases fuel with
  | zero => cases read
  | succ fuel =>
    have whole := read
    rw [readValue_object] at read
    obtain ⟨⟨fields, after⟩, object, same⟩ := Option.map_eq_some_iff.mp read
    cases same
    exact ⟨fuel + 1, fields, after, rfl, whole, blank,
      ((leaves fuel).object object).trans (List.dropWhile_suffix isSpace)⟩

theorem isSpace_of_skipSpace (blank : skipSpace text = []) (member : c ∈ text) :
    isSpace c := List.dropWhile_eq_nil_iff.mp blank c member

theorem parse_cut {last : Char}
    (whole : parse ('\x7b' :: (inside ++ behind)) = some (.object fields))
    (ends : behind.getLast? = some last) (black : isSpace last = false) :
    parse ('\x7b' :: inside) = none := by
  by_contra parsed
  obtain ⟨value, found⟩ := Option.ne_none_iff_exists'.mp parsed
  obtain ⟨fuel, own, rest, rfl, read, -, -⟩ := parse_object found
  obtain ⟨other, after, again, blank⟩ := read_of_parse whole
  -- The same object is read of the whole text, and more than white space follows it.
  let enough := 3 * ('\x7b' :: inside).length + 3 * ('\x7b' :: (inside ++ behind)).length
  have ownRead := ((within fuel).value read).2 behind (.inr (.inr ⟨own, rfl⟩)) enough (by omega)
  have wholeRead := ((within other).value again).2 [] (.inr (.inl rfl)) enough (by omega)
  rw [List.append_nil, List.append_nil, ← List.cons_append, ownRead] at wholeRead
  cases Option.some.inj wholeRead
  have spaced := isSpace_of_skipSpace blank (List.mem_append_right rest (List.mem_of_getLast? ends))
  rw [black] at spaced
  cases spaced

theorem parse_broken {last : Char} (black : isSpace last = false) (noBrace : last ≠ '\x7d') :
    parse ('\x7b' :: (inside ++ [last])) = none := by
  by_contra parsed
  obtain ⟨value, found⟩ := Option.ne_none_iff_exists'.mp parsed
  obtain ⟨fuel, own, rest, -, -, blank, ends⟩ := parse_object found
  have same := ends.getLast (List.cons_ne_nil _ rest)
  rw [List.getLast_concat] at same
  have member : last ∈ '\x7d' :: rest := same ▸ List.getLast_mem _
  rcases List.mem_cons.mp member with brace | spaces
  · exact noBrace brace
  · have spaced := isSpace_of_skipSpace blank spaces
    rw [black] at spaced
    cases spaced

end Longer

end JsonText

end OpenJax.Shared
