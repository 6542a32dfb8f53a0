import OpenJax.Shared.ObjectText

set_option autoImplicit false

/-! JSON objects whose texts may hold other objects and arrays: the braces are balanced. -/

namespace OpenJax.Shared

def depth : Bytes → Int
  | [] => 0
  | byte :: rest =>
      (if byte = openingBrace then 1 else if byte = closingBrace then -1 else 0) + depth rest

inductive Balanced : Bytes → Prop
  | plain {bytes : Bytes} : openingBrace ∉ bytes → closingBrace ∉ bytes → Balanced bytes
  | append {first second : Bytes} : Balanced first → Balanced second → Balanced (first ++ second)
  | enclosed {bytes : Bytes} : Balanced bytes →
      Balanced (openingBrace :: (bytes ++ [closingBrace]))

theorem depth_append (first second : Bytes) : depth (first ++ second) = depth first + depth second := by
  induction first with
  | nil => simp [depth]
  | cons byte rest ih =>
    rw [List.cons_append, depth, depth, ih]
    omega

variable {bytes : Bytes}

theorem depth_plain (opening : openingBrace ∉ bytes) (closing : closingBrace ∉ bytes) :
    depth bytes = 0 := by
  induction bytes with
  | nil => rfl
  | cons byte rest ih =>
    simp only [List.mem_cons, not_or] at opening closing
    rw [depth, if_neg (Ne.symm opening.1), if_neg (Ne.symm closing.1), ih opening.2 closing.2]
    rfl

@[simp] theorem depth_opening (rest : Bytes) : depth (openingBrace :: rest) = 1 + depth rest := rfl

@[simp] theorem depth_closing : depth [closingBrace] = -1 := rfl

theorem Balanced.depth_eq (balanced : Balanced bytes) : depth bytes = 0 := by
  induction balanced with
  | plain opening closing => exact depth_plain opening closing
  | append _ _ first second => rw [depth_append, first, second]; rfl
  | enclosed _ inner => rw [depth_opening, depth_append, inner, depth_closing]; rfl

theorem Balanced.depth_take (balanced : Balanced bytes) (size : Nat) :
    0 ≤ depth (bytes.take size) := by
  induction balanced generalizing size with
  | @plain bytes opening closing =>
    have none : depth (bytes.take size) = 0 :=
      depth_plain (fun among => opening (List.mem_of_mem_take among))
        fun among => closing (List.mem_of_mem_take among)
    omega
  | @append first second balanced _ ihFirst ihSecond =>
    have early := ihFirst size
    have late := ihSecond (size - first.length)
    rw [List.take_append, depth_append]
    omega
  | @enclosed bytes balanced ih =>
    cases size with
    | zero => exact Int.le_refl 0
    | succ size =>
      rw [List.take_succ_cons, depth_opening, List.take_append, depth_append]
      have inner := ih size
      have closing : -1 ≤ depth ([closingBrace].take (size - bytes.length)) := by
        cases size - bytes.length with
        | zero => decide
        | succ _ => simp
      omega

structure Braced (bytes : Bytes) : Prop where
  shape : ∃ inside, Balanced inside ∧ bytes = openingBrace :: (inside ++ [closingBrace])

theorem Braced.depth_eq (braced : Braced bytes) : depth bytes = 0 := by
  obtain ⟨inside, balanced, rfl⟩ := braced.shape
  exact balanced.enclosed.depth_eq

theorem Braced.depth_take (braced : Braced bytes) {size : Nat} (begun : 0 < size)
    (short : size < bytes.length) : 0 < depth (bytes.take size) := by
  obtain ⟨inside, balanced, rfl⟩ := braced.shape
  obtain ⟨smaller, rfl⟩ := Nat.exists_eq_succ_of_ne_zero (Nat.pos_iff_ne_zero.mp begun)
  simp only [List.length_cons, List.length_append, List.length_nil] at short
  rw [List.take_succ_cons, depth_opening, List.take_append_of_le_length (by omega)]
  have inner := balanced.depth_take smaller
  omega

section Pieces

variable {α : Type} {toVec : α → Bytes}

theorem whole_of_depth (braced : ∀ value, Braced (toVec value)) {pieces : List (Piece α)}
    (begun : ∀ piece ∈ pieces, 0 < piece.size ∧ piece.size ≤ (toVec piece.value).length) :
    0 ≤ depth (pieces.flatMap fun piece => (toVec piece.value).take piece.size) ∧
      (depth (pieces.flatMap fun piece => (toVec piece.value).take piece.size) = 0 →
        ∀ piece ∈ pieces, piece.size = (toVec piece.value).length) := by
  induction pieces with
  | nil => exact ⟨Int.le_refl 0, fun _ => nofun⟩
  | cons piece rest ih =>
    obtain ⟨positive, bounded⟩ := begun piece List.mem_cons_self
    obtain ⟨least, later⟩ := ih fun other among => begun other (List.mem_cons_of_mem _ among)
    rw [List.flatMap_cons, depth_append]
    rcases Nat.lt_or_eq_of_le bounded with short | whole
    · have unclosed := (braced piece.value).depth_take positive short
      exact ⟨by omega, fun closed => by omega⟩
    · have closed : depth ((toVec piece.value).take piece.size) = 0 := by
        rw [whole, List.take_length]
        exact (braced piece.value).depth_eq
      rw [closed, Int.zero_add]
      refine ⟨least, fun none other among => ?_⟩
      rcases List.mem_cons.mp among with rfl | after
      · exact whole
      · exact later none other after

theorem single_of_braced (braced : ∀ value, Braced (toVec value)) {pieces : List (Piece α)}
    {whole : α}
    (begun : ∀ piece ∈ pieces, 0 < piece.size ∧ piece.size ≤ (toVec piece.value).length)
    (same : (pieces.flatMap fun piece => (toVec piece.value).take piece.size) = toVec whole) :
    ∃ value, pieces = [⟨value, (toVec value).length⟩] := by
  obtain ⟨-, sizes⟩ := whole_of_depth braced begun
  rw [same] at sizes
  have complete := sizes (braced whole).depth_eq
  cases pieces with
  | nil =>
    obtain ⟨inside, -, shape⟩ := (braced whole).shape
    rw [shape] at same
    cases same
  | cons piece rest =>
    have size := complete piece List.mem_cons_self
    rw [List.flatMap_cons, size, List.take_length] at same
    cases rest with
    | nil =>
      refine ⟨piece.value, ?_⟩
      rw [← size]
    | cons second others =>
      -- The first text would end before the whole one does, and with all its braces closed.
      obtain ⟨positive, _⟩ := begun piece List.mem_cons_self
      obtain ⟨more, bounded⟩ := begun second (List.mem_cons_of_mem _ List.mem_cons_self)
      have cut : (toVec whole).take (toVec piece.value).length = toVec piece.value := by
        rw [← same, List.take_left]
      have short : (toVec piece.value).length < (toVec whole).length := by
        rw [← same, List.length_append, List.flatMap_cons, List.length_append, List.length_take]
        omega
      have unclosed := (braced whole).depth_take (by omega) short
      rw [cut, (braced piece.value).depth_eq] at unclosed
      exact absurd unclosed (Int.lt_irrefl 0)

end Pieces

def encoded (chars : List Char) : Bytes := chars.flatMap String.utf8EncodeChar

theorem encoded_append (first second : List Char) :
    encoded (first ++ second) = encoded first ++ encoded second :=
  List.flatMap_append

theorem length_le_encoded (chars : List Char) : chars.length ≤ (encoded chars).length := by
  induction chars with
  | nil => exact Nat.le_refl 0
  | cons c rest ih =>
    have inked := String.length_utf8EncodeChar c
    have positive := c.utf8Size_pos
    rw [show c :: rest = [c] ++ rest from rfl, encoded_append]
    simp [encoded] at *
    omega

theorem encoded_length_le (chars : List Char) : (encoded chars).length ≤ 4 * chars.length := by
  induction chars with
  | nil => exact Nat.le_refl 0
  | cons c rest ih =>
    have small : (String.utf8EncodeChar c).length ≤ 4 := by
      rw [String.length_utf8EncodeChar]
      exact c.utf8Size_le_four
    rw [encoded, List.flatMap_cons, List.length_append, List.length_cons]
    change _ + (encoded rest).length ≤ _
    omega

theorem notMem_encoded {chars : List Char} {byte : UInt8} (small : byte.toNat < 0x80)
    (absent : Char.ofNat byte.toNat ∉ chars) : byte ∉ encoded chars := by
  intro among
  obtain ⟨c, listed, own⟩ := List.mem_flatMap.mp among
  have code := code_of_mem_encoded own small
  rw [← code, Char.ofNat_toNat] at absent
  exact absent listed

theorem balanced_plain {chars : List Char} (plain : chars.all isPlain) :
    Balanced (encoded chars) := by
  have absent {c : Char} (marked : isPlain c = false) : c ∉ chars := by
    intro among
    have unmarked := List.all_eq_true.mp plain c among
    simp [marked] at unmarked
  exact .plain (notMem_encoded (by decide) (absent (by decide)))
    (notMem_encoded (by decide) (absent (by decide)))

def objectText (body : List Char) : List Char := '\x7b' :: (body ++ ['\x7d'])

theorem encoded_objectText (body : List Char) :
    encoded (objectText body) = openingBrace :: (encoded body ++ [closingBrace]) := by
  have opening : String.utf8EncodeChar '\x7b' = [openingBrace] := by decide
  have closing : String.utf8EncodeChar '\x7d' = [closingBrace] := by decide
  simp [encoded, objectText, opening, closing]

theorem balanced_objectText {body : List Char} (balanced : Balanced (encoded body)) :
    Balanced (encoded (objectText body)) := by
  rw [encoded_objectText]
  exact balanced.enclosed

def isInline (c : Char) : Bool := c != '\n' && c != '\r'

theorem inline_of_plain {chars : List Char} (plain : chars.all isPlain) : chars.all isInline := by
  rw [List.all_eq_true] at plain ⊢
  intro c among
  have own := plain c among
  simp only [isPlain, isInline, Bool.and_eq_true] at own ⊢
  exact ⟨own.1.2, own.2⟩

structure NestedText (α : Type) where
  body : α → List Char
  injective : Function.Injective body
  balanced : ∀ value, Balanced (encoded (body value))
  inline : ∀ value, (body value).all isInline

namespace NestedText

variable {α : Type} (text : NestedText α)

def toVec (value : α) : Bytes := utf8 (String.ofList (objectText (text.body value)))

variable (value : α)

theorem toVec_eq :
    text.toVec value = openingBrace :: (encoded (text.body value) ++ [closingBrace]) := by
  rw [toVec, utf8, String.toList_ofList]
  exact encoded_objectText _

theorem length_body_le : (text.body value).length ≤ (text.toVec value).length := by
  have inner := length_le_encoded (text.body value)
  rw [toVec_eq, List.length_cons, List.length_append]
  omega

theorem toVec_length_le : (text.toVec value).length ≤ 4 * (text.body value).length + 2 := by
  have inner := encoded_length_le (text.body value)
  rw [toVec_eq, List.length_cons, List.length_append, List.length_singleton]
  omega

theorem one_lt_length : 1 < (text.toVec value).length := by
  rw [toVec_eq, List.length_cons, List.length_append, List.length_singleton]
  omega

theorem braced : Braced (text.toVec value) :=
  ⟨_, text.balanced value, text.toVec_eq value⟩

theorem toVec_injective : Function.Injective text.toVec := by
  intro first second same
  have texts := congrArg String.toList (utf8_injective same)
  simpa [objectText, text.injective.eq_iff] using texts

noncomputable def codec : LineCodec α where
  toVec := text.toVec
  fromSlice := Function.partialInv text.toVec
  utf8 := fun _ => isUtf8_utf8 _
  opens := fun value => by rw [toVec_eq]; rfl
  roundTrip := fun value => (text.toVec_injective.isPartialInv value _).mpr rfl
  whole := by
    intro pieces begun found
    obtain ⟨value, read⟩ := Option.isSome_iff_exists.mp found
    have same := (text.toVec_injective.isPartialInv value _).mp read
    exact single_of_braced text.braced begun same.symm
  oneLine := by
    intro value
    have absent {c : Char} (marked : isInline c = false) : c ∉ text.body value := by
      intro among
      have unmarked := List.all_eq_true.mp (text.inline value) c among
      simp [marked] at unmarked
    have feed : lineFeed ∉ encoded (text.body value) :=
      notMem_encoded (by decide) (absent (by decide))
    have carriage : carriageReturn ∉ encoded (text.body value) :=
      notMem_encoded (by decide) (absent (by decide))
    rw [toVec_eq]
    constructor
    · simp only [List.mem_cons, List.mem_append, List.not_mem_nil, feed]
      decide
    · simp only [List.mem_cons, List.mem_append, List.not_mem_nil, carriage]
      decide

end NestedText

/-- An object whose text holds no brace but the outer two. -/
structure ObjectText (α : Type) where
  body : α → List Char
  injective : Function.Injective body
  plain : ∀ value, (body value).all isPlain

namespace ObjectText

variable {α : Type} (text : ObjectText α)

def chars (value : α) : List Char := '\x7b' :: text.body value ++ ['\x7d']

def toVec (value : α) : Bytes := utf8 (String.ofList (text.chars value))

def nested : NestedText α where
  body := text.body
  injective := text.injective
  balanced := fun value => balanced_plain (text.plain value)
  inline := fun value => inline_of_plain (text.plain value)

theorem one_lt_length (value : α) : 1 < (text.toVec value).length :=
  text.nested.one_lt_length value

theorem toVec_length_le (value : α) :
    (text.toVec value).length ≤ 4 * (text.body value).length + 2 :=
  text.nested.toVec_length_le value

noncomputable def codec : LineCodec α where
  toVec := text.toVec
  fromSlice := Function.partialInv text.toVec
  utf8 := text.nested.codec.utf8
  opens := text.nested.codec.opens
  roundTrip := text.nested.codec.roundTrip
  whole := text.nested.codec.whole
  oneLine := text.nested.codec.oneLine

end ObjectText

section Arrays

variable {α : Type} (write : α → List Char)

def itemsText : List α → List Char
  | [] => [']']
  | value :: rest => ',' :: (write value ++ itemsText rest)

def arrayText : List α → List Char
  | [] => ['[', ']']
  | value :: rest => '[' :: (write value ++ itemsText write rest)

variable {write}

theorem separable_itemsText (separable : Separable write) : Separable (itemsText write) := by
  intro first
  induction first with
  | nil =>
    intro second before behind same
    cases second with
    | nil => exact ⟨rfl, List.append_cancel_left same⟩
    | cons value rest => simp [itemsText] at same
  | cons value rest ih =>
    intro second before behind same
    cases second with
    | nil => simp [itemsText] at same
    | cons other others =>
      simp only [itemsText, List.cons_append, List.append_assoc, List.cons.injEq, true_and] at same
      obtain ⟨rfl, remaining⟩ := separable _ _ _ _ same
      obtain ⟨rfl, ends⟩ := ih _ _ _ remaining
      exact ⟨rfl, ends⟩

theorem separable_arrayText (separable : Separable write)
    (opens : ∀ value rest, ']' :: rest ≠ write value) (inked : ∀ value, write value ≠ []) :
    Separable (arrayText write) := by
  intro first second before behind same
  have apart (value : α) (rest more : List Char) : write value ++ rest ≠ ']' :: more := by
    intro joined
    cases text : write value with
    | nil => exact inked value text
    | cons c others =>
      rw [text, List.cons_append, List.cons.injEq] at joined
      exact opens value others (joined.1 ▸ text.symm)
  cases first with
  | nil =>
    cases second with
    | nil => exact ⟨rfl, List.append_cancel_left same⟩
    | cons value rest =>
      simp only [arrayText, List.cons_append, List.append_assoc, List.cons.injEq, true_and,
        List.nil_append] at same
      exact absurd same.symm (apart value _ _)
  | cons value rest =>
    cases second with
    | nil =>
      simp only [arrayText, List.cons_append, List.append_assoc, List.cons.injEq, true_and,
        List.nil_append] at same
      exact absurd same (apart value _ _)
    | cons other others =>
      simp only [arrayText, List.cons_append, List.append_assoc, List.cons.injEq, true_and] at same
      obtain ⟨rfl, remaining⟩ := separable _ _ _ _ same
      obtain ⟨rfl, ends⟩ := separable_itemsText separable _ _ _ _ remaining
      exact ⟨rfl, ends⟩

theorem all_arrayText {test : Char → Bool} (brackets : test '[' ∧ test ']' ∧ test ',')
    (inner : ∀ value, (write value).all test) (values : List α) :
    (arrayText write values).all test := by
  obtain ⟨opening, closing, comma⟩ := brackets
  have items (rest : List α) : (itemsText write rest).all test := by
    induction rest with
    | nil => simp [itemsText, closing]
    | cons value rest ih => simp [itemsText, comma, List.all_append, inner value, ih]
  cases values with
  | nil => simp [arrayText, opening, closing]
  | cons value rest => simp [arrayText, opening, List.all_append, inner value, items rest]

theorem balanced_cons {c : Char} (plain : isPlain c) {chars : List Char}
    (balanced : Balanced (encoded chars)) : Balanced (encoded (c :: chars)) := by
  have single : ([c] : List Char).all isPlain := by simpa using plain
  have joined := (balanced_plain single).append balanced
  rwa [← encoded_append] at joined

theorem balanced_arrayText (inner : ∀ value, Balanced (encoded (write value))) (values : List α) :
    Balanced (encoded (arrayText write values)) := by
  have closing : Balanced (encoded [']']) := balanced_plain (by decide)
  have items (rest : List α) : Balanced (encoded (itemsText write rest)) := by
    induction rest with
    | nil => exact closing
    | cons value rest ih =>
      apply balanced_cons (by decide)
      rw [encoded_append]
      exact (inner value).append ih
  cases values with
  | nil => exact balanced_cons (by decide) closing
  | cons value rest =>
    apply balanced_cons (by decide)
    rw [encoded_append]
    exact (inner value).append (items rest)

end Arrays

end OpenJax.Shared
