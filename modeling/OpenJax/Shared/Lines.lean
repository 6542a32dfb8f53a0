import Mathlib.Data.List.TakeWhile
import OpenJax.Shared.Text

set_option autoImplicit false

namespace OpenJax.Shared

abbrev Bytes := List UInt8

def lineFeed : UInt8 := 0x0A

def carriageReturn : UInt8 := 0x0D

def openingBrace : UInt8 := 0x7B

def isUtf8 (bytes : Bytes) : Bool := decide bytes.toByteArray.IsValidUTF8

def utf8 (text : String) : Bytes := text.toList.flatMap String.utf8EncodeChar

/-- The lines without their line feeds, and without a carriage return before one. What
follows the last line feed is a line when it is not empty. A line feed byte is never part of
another character of a UTF-8 text, so that the lines of the text are those of its bytes. -/
def splitLines : Bytes → List Bytes
  | [] => []
  | byte :: rest =>
      if byte = lineFeed then [] :: splitLines rest
      else
        match splitLines rest with
        | [] => [[byte]]
        | line :: others =>
            if byte = carriageReturn ∧ rest.head? = some lineFeed then line :: others
            else (byte :: line) :: others

def utf8Lead (lead : UInt8) : Option (Nat × UInt8 × UInt8) :=
  if 0xC2 ≤ lead && lead ≤ 0xDF then some (2, 0x80, 0xBF)
  else if lead == 0xE0 then some (3, 0xA0, 0xBF)
  else if lead == 0xED then some (3, 0x80, 0x9F)
  else if 0xE1 ≤ lead && lead ≤ 0xEF then some (3, 0x80, 0xBF)
  else if lead == 0xF0 then some (4, 0x90, 0xBF)
  else if 0xF1 ≤ lead && lead ≤ 0xF3 then some (4, 0x80, 0xBF)
  else if lead == 0xF4 then some (4, 0x80, 0x8F)
  else none

def utf8Step (lead : UInt8) (rest : Bytes) : Nat :=
  match utf8Lead lead, rest with
  | some (width, low, high), second :: later =>
      if low ≤ second && second ≤ high then
        2 + ((later.take (width - 2)).takeWhile fun byte => 0x80 ≤ byte && byte ≤ 0xBF).length
      else 1
  | _, _ => 1

def replaceInvalid : Nat → Bytes → List Char
  | 0, _ => []
  | _, [] => []
  | fuel + 1, lead :: rest =>
      let size := utf8Step lead rest
      let shown := (String.fromUTF8? ((lead :: rest).take size).toByteArray).elim
        ['\uFFFD'] String.toList
      shown ++ replaceInvalid fuel ((lead :: rest).drop size)

def fromUtf8Lossy (bytes : Bytes) : String :=
  match String.fromUTF8? bytes.toByteArray with
  | some text => text
  | none => String.ofList (replaceInvalid bytes.length bytes)

def isBlank (line : Bytes) : Bool :=
  match String.fromUTF8? line.toByteArray with
  | some text => trim text == ""
  | none => false

theorem isUtf8_append {first second : Bytes} (left : isUtf8 first) (right : isUtf8 second) :
    isUtf8 (first ++ second) := by
  simp only [isUtf8, decide_eq_true_eq, List.toByteArray_append] at left right ⊢
  exact left.append right

theorem isUtf8_flatten {parts : List Bytes} (each : ∀ part ∈ parts, isUtf8 part) :
    isUtf8 parts.flatten := by
  induction parts with
  | nil => simp [isUtf8]
  | cons part rest ih =>
    have tail := ih fun other found => each other (by simp [found])
    simpa using isUtf8_append (each part (by simp)) tail

theorem isUtf8_utf8 (text : String) : isUtf8 (utf8 text) := by
  apply decide_eq_true
  exact ByteArray.isValidUTF8_utf8Encode

theorem utf8_injective : Function.Injective utf8 := by
  intro first second same
  apply String.toByteArray_inj.mp
  rw [← String.utf8Encode_toList, ← String.utf8Encode_toList]
  exact congrArg List.toByteArray same

theorem fromUTF8?_utf8 (text : String) : String.fromUTF8? (utf8 text).toByteArray = some text := by
  have same : (utf8 text).toByteArray = text.toByteArray := String.utf8Encode_toList
  rw [same]
  simp [String.fromUTF8?, text.isValidUTF8, String.fromUTF8]

theorem fromUtf8Lossy_utf8 (text : String) : fromUtf8Lossy (utf8 text) = text := by
  unfold fromUtf8Lossy
  rw [fromUTF8?_utf8]

theorem isUtf8_lineFeed : isUtf8 [lineFeed] := isUtf8_utf8 "\n"

@[simp] theorem splitLines_nil : splitLines [] = [] := rfl

theorem splitLines_line {line : Bytes} (rest : Bytes) (single : lineFeed ∉ line)
    (plain : carriageReturn ∉ line) :
    splitLines (line ++ lineFeed :: rest) = line :: splitLines rest := by
  induction line with
  | nil => simp [splitLines]
  | cons byte line ih =>
    simp only [List.mem_cons, not_or] at single plain
    simp [splitLines, ih single.2 plain.2, Ne.symm single.1, Ne.symm plain.1]

theorem splitLines_last {line : Bytes} (single : lineFeed ∉ line) (plain : carriageReturn ∉ line)
    (inhabited : line ≠ []) : splitLines line = [line] := by
  induction line with
  | nil => exact absurd rfl inhabited
  | cons byte line ih =>
    simp only [List.mem_cons, not_or] at single plain
    by_cases last : line = []
    · simp [splitLines, last, Ne.symm single.1]
    · simp [splitLines, ih single.2 plain.2 last, Ne.symm single.1, Ne.symm plain.1]

theorem splitLines_cons {byte : UInt8} (ordinary : byte ≠ lineFeed) {rest line : Bytes}
    {others : List Bytes} (split : splitLines rest = line :: others) :
    splitLines (byte :: rest) =
      (if byte = carriageReturn ∧ rest.head? = some lineFeed then line else byte :: line) ::
        others := by
  rw [splitLines, if_neg ordinary, split]
  dsimp only
  split_ifs <;> rfl

theorem splitLines_extend (bytes : Bytes) {line : Bytes} (single : lineFeed ∉ line)
    (plain : carriageReturn ∉ line) (inhabited : line ≠ []) :
    splitLines (bytes ++ (line ++ [lineFeed])) = splitLines bytes ++ [line] ∨
      ∃ earlier last, splitLines bytes = earlier ++ [last] ∧
        splitLines (bytes ++ (line ++ [lineFeed])) = earlier ++ [last ++ line] := by
  have starts : (line ++ [lineFeed]).head? ≠ some lineFeed := by
    cases line with
    | nil => exact absurd rfl inhabited
    | cons byte rest =>
      intro same
      exact single (Option.some.inj same ▸ List.mem_cons_self)
  induction bytes with
  | nil =>
    left
    simpa using splitLines_line [] single plain
  | cons byte rest ih =>
    have first : ((rest ++ (line ++ [lineFeed])).head? = some lineFeed) =
        (rest.head? = some lineFeed) := by
      cases rest with
      | nil => simpa only [List.nil_append, List.head?_nil, reduceCtorEq, eq_iff_iff, iff_false]
      | cons _ _ => rfl
    rw [List.cons_append]
    by_cases feed : byte = lineFeed
    · -- The lines after the line feed are those of the rest.
      rcases ih with own | ⟨earlier, last, before, after⟩
      · left
        simp only [splitLines, if_pos feed, own, List.cons_append]
      · right
        refine ⟨[] :: earlier, last, ?_, ?_⟩
        · simp only [splitLines, if_pos feed, before, List.cons_append]
        · simp only [splitLines, if_pos feed, after, List.cons_append]
    · rcases ih with own | ⟨earlier, last, before, after⟩
      · cases lines : splitLines rest with
        | nil =>
          have none : ¬ rest.head? = some lineFeed := by
            intro starts
            obtain ⟨later, rfl⟩ := List.head?_eq_some_iff.mp starts
            simp [splitLines] at lines
          right
          refine ⟨[], [byte], by rw [splitLines, if_neg feed, lines]; rfl, ?_⟩
          rw [lines, List.nil_append] at own
          rw [splitLines_cons feed own]
          simp only [first, none, and_false, if_false]
          rfl
        | cons next others =>
          left
          rw [lines, List.cons_append] at own
          rw [splitLines_cons feed own, splitLines_cons feed lines]
          simp only [first]
          rfl
      · right
        cases earlier with
        | nil =>
          rw [List.nil_append] at before after
          rw [splitLines_cons feed before, splitLines_cons feed after]
          simp only [first]
          split_ifs
          · exact ⟨[], last, rfl, rfl⟩
          · exact ⟨[], byte :: last, rfl, rfl⟩
        | cons next others =>
          rw [List.cons_append] at before after
          rw [splitLines_cons feed before, splitLines_cons feed after]
          simp only [first]
          exact ⟨_ :: others, last, rfl, rfl⟩

theorem splitLines_lines {lines : List Bytes} {last : Bytes}
    (single : ∀ line ∈ lines, lineFeed ∉ line ∧ carriageReturn ∉ line)
    (lastSingle : lineFeed ∉ last ∧ carriageReturn ∉ last) :
    splitLines (lines.flatMap (fun line => line ++ [lineFeed]) ++ last) =
      lines ++ if last = [] then [] else [last] := by
  induction lines with
  | nil =>
    by_cases empty : last = []
    · simp [empty]
    · simp [empty, splitLines_last lastSingle.1 lastSingle.2 empty]
  | cons line rest ih =>
    have here := single line (by simp)
    have tail := ih fun other found => single other (by simp [found])
    simp [splitLines_line _ here.1 here.2, tail]

theorem utf8_opening_brace {c : Char} {after rest : Bytes}
    (starts : String.utf8EncodeChar c ++ after = openingBrace :: rest) : c = '{' := by
  have first : (String.utf8EncodeChar c).head? = some openingBrace := by
    rw [← List.head?_append_of_ne_nil _ String.utf8EncodeChar_ne_nil, starts, List.head?_cons]
  have small : c.val.toNat = 0x7B := by
    simp only [String.utf8EncodeChar, openingBrace] at first
    split_ifs at first <;>
      simp only [List.head?_cons, Option.some.injEq, ← UInt8.toNat_inj, UInt8.toNat_ofNat'] at first <;>
      simp only [UInt8.reduceToNat] at first <;> omega
  apply Char.ext
  apply UInt32.toNat_inj.mp
  rw [small]
  rfl

theorem code_of_mem_encoded {c : Char} {byte : UInt8} (among : byte ∈ String.utf8EncodeChar c)
    (small : byte.toNat < 0x80) : c.toNat = byte.toNat := by
  have high {number : Nat} (marked : 0x80 ≤ number % 0x100) : byte ≠ UInt8.ofNat number := by
    rintro rfl
    rw [UInt8.toNat_ofNat'] at small
    omega
  simp only [String.utf8EncodeChar] at among
  split_ifs at among <;> simp only [List.mem_cons, List.not_mem_nil, or_false] at among
  · rw [among, UInt8.toNat_ofNat']
    simp only [Char.toNat]
    omega
  · rcases among with first | second
    · exact absurd first (high (by omega))
    · exact absurd second (high (by omega))
  · rcases among with first | second | third
    · exact absurd first (high (by omega))
    · exact absurd second (high (by omega))
    · exact absurd third (high (by omega))
  · rcases among with first | second | third | fourth
    · exact absurd first (high (by omega))
    · exact absurd second (high (by omega))
    · exact absurd third (high (by omega))
    · exact absurd fourth (high (by omega))

theorem trimStart_append_of_black {c : Char} (black : isWhitespace c = false) (text : List Char) :
    trimStart (text ++ [c]) ≠ [] := by
  simp [trimStart, List.dropWhile_eq_nil_iff, black]

theorem trimChars_cons_ne_nil {c : Char} (black : isWhitespace c = false) (text : List Char) :
    trimChars (c :: text) ≠ [] := by
  have kept : trimStart (c :: text) = c :: text := by
    simp [trimStart, black]
  simp only [trimChars, kept, List.reverse_cons]
  intro empty
  exact trimStart_append_of_black black text.reverse (List.reverse_eq_nil_iff.mp empty)

theorem isBlank_brace (rest : Bytes) : isBlank (openingBrace :: rest) = false := by
  unfold isBlank
  split
  next text found =>
    simp only [String.fromUTF8?, Option.dite_none_right_eq_some, Option.some.injEq] at found
    obtain ⟨valid, same⟩ := found
    obtain ⟨chars, encoded⟩ := valid
    have bytes : chars.flatMap String.utf8EncodeChar = openingBrace :: rest := by
      apply List.toByteArray_inj.mp
      exact encoded.symm
    cases chars with
    | nil => simp at bytes
    | cons c others =>
      rw [List.flatMap_cons] at bytes
      obtain rfl := utf8_opening_brace bytes
      have read : text = String.ofList ('{' :: others) := by
        subst same
        apply String.toByteArray_inj.mp
        exact encoded
      rw [beq_eq_false_iff_ne, read, trim, String.toList_ofList]
      intro empty
      apply trimChars_cons_ne_nil (c := '{') (by decide) others
      simpa using congrArg String.toList empty
  · rfl

end OpenJax.Shared
