import Mathlib.Data.List.Infix

set_option autoImplicit false

namespace OpenJax.Shared

/-- The Unicode property `White_Space`. -/
def isWhitespace (c : Char) : Bool :=
  let code := c.toNat
  (0x09 ≤ code && code ≤ 0x0D) || code == 0x20 || code == 0x85 || code == 0xA0 ||
    code == 0x1680 || (0x2000 ≤ code && code ≤ 0x200A) || code == 0x2028 || code == 0x2029 ||
    code == 0x202F || code == 0x205F || code == 0x3000

def trimStart (text : List Char) : List Char := text.dropWhile isWhitespace

def trimChars (text : List Char) : List Char := (trimStart (trimStart text).reverse).reverse

def words : List Char → List (List Char)
  | [] => []
  | c :: rest =>
      if isWhitespace c then words rest
      else
        match rest, words rest with
        | [], _ => [[c]]
        | next :: _, found =>
            if isWhitespace next then [c] :: found
            else
              match found with
              | [] => [[c]]
              | word :: others => (c :: word) :: others

def splitWhitespace (text : String) : List String := (words text.toList).map String.ofList

def containsText (text pattern : String) : Bool := decide (pattern.toList <:+: text.toList)

def startsWith (text pattern : String) : Bool := pattern.toList.isPrefixOf text.toList

/-- A decimal `u64` as the standard library reads it: at least one digit, a sign `+` allowed. -/
def parseU64 (text : String) : Option Nat :=
  let digits :=
    match text.toList with
    | '+' :: rest => rest
    | other => other
  if !digits.isEmpty && digits.all Char.isDigit then
    let value := Nat.ofDigitChars 10 digits 0
    if value < 0x10000000000000000 then some value else none
  else none

def trim (text : String) : String := String.ofList (trimChars text.toList)

def splitBy (separator : Char) : List Char → List (List Char)
  | [] => [[]]
  | c :: rest =>
      if c = separator then [] :: splitBy separator rest
      else
        match splitBy separator rest with
        | [] => [[c]]
        | segment :: others => (c :: segment) :: others

theorem splitBy_ne_nil (separator : Char) (text : List Char) : splitBy separator text ≠ [] := by
  cases text with
  | nil => simp [splitBy]
  | cons c rest =>
    rw [splitBy]
    split
    · simp
    · split <;> simp

theorem splitBy_append (separator : Char) (first second : List Char) :
    splitBy separator (first ++ separator :: second) =
      splitBy separator first ++ splitBy separator second := by
  induction first with
  | nil => simp [splitBy]
  | cons c rest ih =>
    rw [List.cons_append, splitBy, ih, splitBy]
    by_cases ends : c = separator
    · simp [ends]
    · cases shape : splitBy separator rest with
      | nil => exact absurd shape (splitBy_ne_nil separator rest)
      | cons segment others => simp [ends]

theorem splitBy_extend {separator : Char} {first : List Char} (absent : separator ∉ first)
    (second : List Char) :
    splitBy separator (first ++ second) =
      (first ++ (splitBy separator second).headD []) :: (splitBy separator second).tail := by
  induction first with
  | nil =>
    cases shape : splitBy separator second with
    | nil => exact absurd shape (splitBy_ne_nil separator second)
    | cons segment others => simp [shape]
  | cons c rest ih =>
    rw [List.mem_cons, not_or] at absent
    rw [List.cons_append, splitBy, ih absent.2, if_neg (Ne.symm absent.1)]
    rfl

theorem splitBy_plain {separator : Char} {text : List Char} (absent : separator ∉ text) :
    splitBy separator text = [text] := by
  have extended := splitBy_extend absent []
  rwa [List.append_nil, splitBy, List.headD_cons, List.append_nil, List.tail_cons] at extended

theorem notMem_of_mem_splitBy {separator : Char} {text segment : List Char}
    (member : segment ∈ splitBy separator text) : separator ∉ segment := by
  induction text generalizing segment with
  | nil =>
    obtain rfl : segment = [] := by simpa [splitBy] using member
    simp
  | cons c rest ih =>
    rw [splitBy] at member
    by_cases ends : c = separator
    · rw [if_pos ends] at member
      rcases List.mem_cons.mp member with rfl | later
      · simp
      · exact ih later
    · rw [if_neg ends] at member
      cases shape : splitBy separator rest with
      | nil => exact absurd shape (splitBy_ne_nil separator rest)
      | cons head others =>
        rw [shape] at member ih
        rcases List.mem_cons.mp member with rfl | later
        · have clean := ih List.mem_cons_self
          simp [Ne.symm ends, clean]
        · exact ih (List.mem_cons_of_mem _ later)

def readDigits (text : List Char) : Option Nat :=
  if !text.isEmpty && text.all Char.isDigit then some (Nat.ofDigitChars 10 text 0) else none

def splitSign : List Char → Bool × List Char
  | '-' :: rest => (true, rest)
  | '+' :: rest => (false, rest)
  | text => (false, text)

/-- A decimal number that has to lie between two bounds, with a sign that may be left out. -/
def readSigned (low high : Int) (text : List Char) :
    Option { value : Int // low ≤ value ∧ value ≤ high } :=
  (readDigits (splitSign text).2).bind fun magnitude =>
    let value : Int := if (splitSign text).1 then -magnitude else magnitude
    if range : low ≤ value ∧ value ≤ high then some ⟨value, range⟩ else none

theorem isDigit_of_mem_repr {n : Nat} {c : Char} (member : c ∈ n.repr.toList) : c.isDigit := by
  rw [Nat.toList_repr] at member
  exact Nat.isDigit_of_mem_toDigits (by decide) (by decide) member

theorem readDigits_repr (n : Nat) : readDigits n.repr.toList = some n := by
  have digits : n.repr.toList.all Char.isDigit :=
    List.all_eq_true.mpr fun _ member => isDigit_of_mem_repr member
  rw [readDigits, digits, Nat.toList_repr, Nat.ofDigitChars_ten_toDigits]
  simp [Nat.toDigits_ne_nil]

theorem splitSign_repr (n : Nat) : splitSign n.repr.toList = (false, n.repr.toList) := by
  cases shape : n.repr.toList with
  | nil => rfl
  | cons c rest =>
    have digit : c.isDigit := isDigit_of_mem_repr (shape ▸ List.mem_cons_self)
    unfold splitSign
    split
    · simp_all
    · simp_all
    · rfl

theorem readSigned_toString {low high : Int}
    (number : { value : Int // low ≤ value ∧ value ≤ high }) :
    readSigned low high (toString number.val).toList = some number := by
  obtain ⟨value, range⟩ := number
  rw [Int.toString_eq_repr]
  cases value with
  | ofNat n =>
    rw [Int.repr, readSigned, splitSign_repr, readDigits_repr]
    exact dif_pos range
  | negSucc n =>
    have shown : (Int.negSucc n).repr.toList = '-' :: (n + 1).repr.toList :=
      String.toList_append
    rw [shown, readSigned, splitSign, readDigits_repr]
    exact dif_pos range

theorem notMem_toString {c : Char} (plain : ¬c.isDigit) (noSign : c ≠ '-') (value : Int) :
    c ∉ (toString value).toList := by
  rw [Int.toString_eq_repr]
  cases value with
  | ofNat n => exact fun member => plain (isDigit_of_mem_repr member)
  | negSucc n =>
    have shown : (Int.negSucc n).repr.toList = '-' :: (n + 1).repr.toList :=
      String.toList_append
    rw [shown, List.mem_cons, not_or]
    exact ⟨noSign, fun member => plain (isDigit_of_mem_repr member)⟩

theorem parseU64_unsigned {text : String} (unsigned : text.toList.head? ≠ some '+') :
    parseU64 text = (readDigits text.toList).bind fun value =>
      if value < 0x10000000000000000 then some value else none := by
  unfold parseU64 readDigits
  generalize text.toList = chars at unsigned
  dsimp only
  split
  · exact absurd rfl unsigned
  · split <;> rfl

theorem parseU64_repr {n : Nat} (small : n < 0x10000000000000000) : parseU64 n.repr = some n := by
  have unsigned : n.repr.toList.head? ≠ some '+' := by
    intro plus
    have digit := isDigit_of_mem_repr (List.mem_of_head? plus)
    simp at digit
  rw [parseU64_unsigned unsigned, readDigits_repr, Option.bind_some, if_pos small]

theorem parseU64_int {value : Int} (small : value < 18446744073709551616) :
    parseU64 (toString value) = if 0 ≤ value then some value.toNat else none := by
  rw [Int.toString_eq_repr]
  cases value with
  | ofNat n =>
    have positive : 0 ≤ Int.ofNat n := Int.natCast_nonneg n
    rw [Int.repr, if_pos positive]
    exact parseU64_repr (Int.ofNat_lt.mp small)
  | negSucc n =>
    have shown : (Int.negSucc n).repr.toList = '-' :: (n + 1).repr.toList :=
      String.toList_append
    rw [parseU64_unsigned (by simp [shown]), shown, readDigits, if_neg (by simp),
      if_neg (by omega)]
    rfl

end OpenJax.Shared
