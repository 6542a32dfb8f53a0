import OpenJax.Shared.Lines
import Mathlib.Logic.Function.Basic

set_option autoImplicit false

/-! Writing values as JSON objects and reading them back, as far as programs rely on it that
keep such texts in files where a write may be cut short. -/

namespace OpenJax.Shared

/-- The first `size` bytes of the text of a value. -/
structure Piece (α : Type) where
  value : α
  size : Nat

structure ObjectCodec (α : Type) where
  toVec : α → Bytes
  fromSlice : Bytes → Option α
  utf8 : ∀ value, isUtf8 (toVec value)
  opens : ∀ value, (toVec value).head? = some openingBrace
  roundTrip : ∀ value, fromSlice (toVec value) = some value
  /-- Of the texts made of beginnings of object texts, one after the other, only a single
  whole one is read. -/
  whole : ∀ pieces : List (Piece α),
    (∀ piece ∈ pieces, 0 < piece.size ∧ piece.size ≤ (toVec piece.value).length) →
    (fromSlice (pieces.flatMap fun piece => (toVec piece.value).take piece.size)).isSome →
    ∃ value, pieces = [⟨value, (toVec value).length⟩]

structure LineCodec (α : Type) extends ObjectCodec α where
  oneLine : ∀ value, lineFeed ∉ toVec value ∧ carriageReturn ∉ toVec value

namespace ObjectCodec

variable {α : Type} (codec : ObjectCodec α)

def pieceBytes (piece : Piece α) : Bytes := (codec.toVec piece.value).take piece.size

def Begun (piece : Piece α) : Prop :=
  0 < piece.size ∧ piece.size ≤ (codec.toVec piece.value).length

def joined (pieces : List (Piece α)) : Bytes := pieces.flatMap codec.pieceBytes

def complete (value : α) : Piece α := ⟨value, (codec.toVec value).length⟩

variable (value : α)

theorem toVec_eq_cons : ∃ rest, codec.toVec value = openingBrace :: rest := by
  cases written : codec.toVec value with
  | nil =>
    have opens := codec.opens value
    simp [written] at opens
  | cons byte rest =>
    have opens := codec.opens value
    simp only [written, List.head?_cons, Option.some.injEq] at opens
    exact ⟨rest, by rw [opens]⟩

theorem toVec_ne_nil : codec.toVec value ≠ [] := by
  obtain ⟨rest, written⟩ := codec.toVec_eq_cons value
  simp [written]

theorem length_pos : 0 < (codec.toVec value).length :=
  List.length_pos_iff.mpr (codec.toVec_ne_nil value)

theorem begun_complete : codec.Begun (codec.complete value) :=
  ⟨codec.length_pos value, Nat.le_refl _⟩

@[simp] theorem bytes_complete : codec.pieceBytes (codec.complete value) = codec.toVec value := by
  simp [pieceBytes, complete]

@[simp] theorem joined_nil : codec.joined [] = [] := rfl

@[simp] theorem joined_append (first second : List (Piece α)) :
    codec.joined (first ++ second) = codec.joined first ++ codec.joined second := by
  simp [joined]

@[simp] theorem joined_singleton (piece : Piece α) :
    codec.joined [piece] = codec.pieceBytes piece := by
  simp [joined]

theorem joined_eq_cons {pieces : List (Piece α)} (inhabited : pieces ≠ [])
    (begun : ∀ piece ∈ pieces, codec.Begun piece) :
    ∃ rest, codec.joined pieces = openingBrace :: rest := by
  cases pieces with
  | nil => exact absurd rfl inhabited
  | cons piece others =>
    obtain ⟨rest, written⟩ := codec.toVec_eq_cons piece.value
    have positive := (begun piece (by simp)).1
    obtain ⟨size, counted⟩ := Nat.exists_eq_succ_of_ne_zero (Nat.pos_iff_ne_zero.mp positive)
    simp [joined, pieceBytes, written, counted]

theorem fromSlice_joined {pieces : List (Piece α)} (begun : ∀ piece ∈ pieces, codec.Begun piece)
    (value : α) :
    codec.fromSlice (codec.joined pieces) = some value ↔ pieces = [codec.complete value] := by
  constructor
  · intro found
    obtain ⟨other, single⟩ := codec.whole pieces begun (Option.isSome_of_eq_some found)
    have read : codec.fromSlice (codec.joined pieces) = some other := by
      have text : codec.joined pieces = codec.toVec other := by
        rw [single]
        exact (codec.joined_singleton _).trans (codec.bytes_complete other)
      rw [text]
      exact codec.roundTrip other
    rw [found, Option.some.injEq] at read
    rw [single, read]
    rfl
  · intro single
    rw [single, joined_singleton, bytes_complete]
    exact codec.roundTrip value

theorem fromSlice_take {value : α} {size : Nat} (short : size < (codec.toVec value).length) :
    codec.fromSlice ((codec.toVec value).take size) = none := by
  rw [Option.eq_none_iff_forall_ne_some]
  intro other found
  by_cases empty : size = 0
  · have none_begun : ∀ piece ∈ ([] : List (Piece α)), codec.Begun piece := by simp
    have nothing := (codec.fromSlice_joined none_begun other).mp (by simpa [empty] using found)
    simp at nothing
  · have begun : ∀ piece ∈ [(⟨value, size⟩ : Piece α)], codec.Begun piece := by
      simp only [List.mem_singleton, forall_eq]
      exact ⟨Nat.pos_of_ne_zero empty, Nat.le_of_lt short⟩
    have single := (codec.fromSlice_joined begun other).mp (by simpa [pieceBytes] using found)
    simp only [complete, List.cons.injEq, Piece.mk.injEq, and_true] at single
    obtain ⟨rfl, whole⟩ := single
    omega

end ObjectCodec

def closingBrace : UInt8 := 0x7D

def Separable {α : Type} (write : α → List Char) : Prop :=
  ∀ first second before behind, write first ++ before = write second ++ behind →
    first = second ∧ before = behind

theorem Separable.behind {α : Type} {write : α → List Char} (separable : Separable write)
    {name before behind : List Char} {first second : α}
    (same : name ++ (write first ++ before) = name ++ (write second ++ behind)) :
    first = second ∧ before = behind :=
  separable _ _ _ _ (List.append_cancel_left same)

section Writing

def numberText (number : Nat) : List Char := Nat.toDigits 10 number ++ [',']

def mustEscape (c : Char) : Bool :=
  c == '"' || c == '\\' || c == '\x7b' || c == '\x7d' || decide (c.toNat < 0x20)

def escaped (c : Char) : List Char :=
  if mustEscape c then
    ['\\', 'u', '0', '0', Nat.digitChar (c.toNat / 16), Nat.digitChar (c.toNat % 16)]
  else [c]

def stringText (text : String) : List Char := '"' :: text.toList.flatMap escaped ++ ['"']

def optionText (text : Option String) : List Char :=
  match text with
  | none => "null".toList
  | some text => stringText text

def isPlain (c : Char) : Bool := c != '\x7b' && c != '\x7d' && c != '\n' && c != '\r'

end Writing

section Separation

theorem terminated_inj {stop : Char} {first second before behind : List Char}
    (open_first : stop ∉ first) (open_second : stop ∉ second)
    (same : first ++ stop :: before = second ++ stop :: behind) :
    first = second ∧ before = behind := by
  induction first generalizing second with
  | nil =>
    cases second with
    | nil => simpa using same
    | cons c rest =>
      simp only [List.nil_append, List.cons_append, List.cons.injEq] at same
      simp [same.1] at open_second
  | cons c rest ih =>
    cases second with
    | nil =>
      simp only [List.nil_append, List.cons_append, List.cons.injEq] at same
      simp [same.1] at open_first
    | cons d others =>
      simp only [List.cons_append, List.cons.injEq] at same
      simp only [List.mem_cons, not_or] at open_first open_second
      obtain ⟨front, back⟩ := ih open_first.2 open_second.2 same.2
      exact ⟨by rw [same.1, front], back⟩

theorem separable_numberText : Separable numberText := by
  intro first second before behind same
  have open_digits (number : Nat) : ',' ∉ Nat.toDigits 10 number := by
    intro among
    have digit := Nat.isDigit_of_mem_toDigits (by decide) (by decide) among
    simp at digit
  simp only [numberText, List.append_assoc, List.singleton_append] at same
  obtain ⟨digits, rest⟩ := terminated_inj (open_digits first) (open_digits second) same
  have numbers := congrArg (fun digits => Nat.ofDigitChars 10 digits 0) digits
  exact ⟨by simpa using numbers, rest⟩

theorem digitChar_inj : ∀ first < 16, ∀ second < 16,
    Nat.digitChar first = Nat.digitChar second → first = second := by decide

theorem small_of_mustEscape {c : Char} (special : mustEscape c) : c.toNat < 0x80 := by
  simp only [mustEscape, Bool.or_eq_true, beq_iff_eq, decide_eq_true_eq] at special
  rcases special with (((rfl | rfl) | rfl) | rfl) | control
  · decide
  · decide
  · decide
  · decide
  · omega

theorem separable_escaped : Separable escaped := by
  intro first second before behind same
  by_cases special : mustEscape first <;> by_cases other : mustEscape second
  · simp only [escaped, special, other, if_true, List.cons_append, List.nil_append,
      List.cons.injEq, true_and] at same
    have small := small_of_mustEscape special
    have smallOther := small_of_mustEscape other
    have high := digitChar_inj _ (by omega) _ (by omega) same.1
    have low := digitChar_inj _ (by omega) _ (by omega) same.2.1
    have codes : first.toNat = second.toNat := by omega
    exact ⟨Char.toNat_inj.mp codes, same.2.2⟩
  · simp only [escaped, special, other, if_true, Bool.false_eq_true, if_false,
      List.cons_append, List.nil_append, List.cons.injEq] at same
    rw [← same.1] at other
    exact absurd rfl other
  · simp only [escaped, special, other, if_true, Bool.false_eq_true, if_false,
      List.cons_append, List.nil_append, List.cons.injEq] at same
    rw [same.1] at special
    exact absurd rfl special
  · simpa [escaped, special, other] using same

theorem escaped_ne_nil (c : Char) : escaped c ≠ [] := by
  unfold escaped
  split <;> simp

theorem flatMap_escaped_injective :
    Function.Injective fun text : List Char => text.flatMap escaped := by
  intro first
  induction first with
  | nil =>
    intro second same
    cases second with
    | nil => rfl
    | cons c rest => simp [escaped_ne_nil] at same
  | cons c rest ih =>
    intro second same
    cases second with
    | nil => simp [escaped_ne_nil] at same
    | cons d others =>
      obtain ⟨equal, tails⟩ := separable_escaped c d _ _ same
      rw [equal, ih tails]

theorem quote_notMem_escaped (c : Char) : '"' ∉ escaped c := by
  have digits : ∀ number < 16, '"' ≠ Nat.digitChar number := by decide
  unfold escaped
  split
  next special =>
    have small := small_of_mustEscape special
    simp [digits _ (show c.toNat / 16 < 16 by omega), digits _ (show c.toNat % 16 < 16 by omega)]
  next plain =>
    intro among
    rw [List.mem_singleton] at among
    rw [← among] at plain
    exact absurd rfl plain

theorem separable_stringText : Separable stringText := by
  intro first second before behind same
  have unquoted (text : String) : '"' ∉ text.toList.flatMap escaped := by
    simp [quote_notMem_escaped]
  simp only [stringText, List.cons_append, List.append_assoc, List.nil_append,
    List.cons.injEq, true_and] at same
  obtain ⟨texts, rest⟩ := terminated_inj (unquoted first) (unquoted second) same
  exact ⟨String.toList_inj.mp (flatMap_escaped_injective texts), rest⟩

theorem separable_optionText : Separable optionText := by
  intro first second before behind same
  cases first with
  | none =>
    cases second with
    | none => exact ⟨rfl, List.append_cancel_left same⟩
    | some text => simp [optionText, stringText] at same
  | some text =>
    cases second with
    | none => simp [optionText, stringText] at same
    | some other =>
      obtain ⟨equal, rest⟩ := separable_stringText text other before behind same
      exact ⟨by rw [equal], rest⟩

end Separation

section Plainness

theorem isPlain_digitChar : ∀ number < 16, isPlain (Nat.digitChar number) := by decide

theorem plain_escaped (c : Char) : (escaped c).all isPlain := by
  unfold escaped
  split
  next special =>
    have small := small_of_mustEscape special
    have high := isPlain_digitChar (c.toNat / 16) (by omega)
    have low := isPlain_digitChar (c.toNat % 16) (by omega)
    simp only [List.all_cons, List.all_nil, high, low, Bool.and_true]
    decide
  next plain =>
    simp only [mustEscape, Bool.or_eq_true, beq_iff_eq, decide_eq_true_eq, not_or] at plain
    obtain ⟨⟨⟨⟨_, _⟩, opening⟩, closing⟩, control⟩ := plain
    have line : c ≠ '\n' := by
      rintro rfl
      exact control (by decide)
    have carriage : c ≠ '\r' := by
      rintro rfl
      exact control (by decide)
    simp [isPlain, opening, closing, line, carriage]

@[simp] theorem plain_stringText (text : String) : (stringText text).all isPlain := by
  have inside : (text.toList.flatMap escaped).all isPlain := by
    rw [List.all_flatMap, List.all_eq_true]
    exact fun c _ => plain_escaped c
  simp only [stringText, List.cons_append, List.all_cons, List.all_append, inside, List.all_nil,
    Bool.and_true]
  decide

@[simp] theorem plain_optionText (text : Option String) : (optionText text).all isPlain := by
  cases text with
  | none => decide
  | some text => exact plain_stringText text

@[simp] theorem plain_numberText (number : Nat) : (numberText number).all isPlain := by
  have digits : (Nat.toDigits 10 number).all isPlain := by
    rw [List.all_eq_true]
    intro c among
    have digit := Nat.isDigit_of_mem_toDigits (by decide) (by decide) among
    simp only [isPlain, Bool.and_eq_true, bne_iff_ne]
    refine ⟨⟨⟨?_, ?_⟩, ?_⟩, ?_⟩ <;>
    · rintro rfl
      simp at digit
  simp only [numberText, List.all_append, digits, Bool.true_and]
  decide

end Plainness

end OpenJax.Shared
