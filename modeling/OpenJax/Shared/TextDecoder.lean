import OpenJax.Shared.NestedText

set_option autoImplicit false

/-! UTF-8 text that comes in pieces, which may end inside a character. -/

namespace OpenJax.Shared

def isTail (byte : UInt8) : Bool := 0x80 ≤ byte && byte ≤ 0xBF

def isUnfinished : Bytes → Bool
  | [] => false
  | lead :: rest =>
      match utf8Lead lead with
      | none => false
      | some (width, low, high) =>
          rest.length + 1 < width &&
            match rest with
            | [] => true
            | second :: later => low ≤ second && second ≤ high && later.all isTail

def decodeFirst (byte : UInt8) : List Char × Bytes :=
  if isUnfinished [byte] then ([], [byte])
  else
    match String.fromUTF8? [byte].toByteArray with
    | some text => (text.toList, [])
    | none => (['\uFFFD'], [])

def decodeByte (pending : Bytes) (byte : UInt8) : List Char × Bytes :=
  if pending.isEmpty then decodeFirst byte
  else if isUnfinished (pending ++ [byte]) then ([], pending ++ [byte])
  else
    match String.fromUTF8? (pending ++ [byte]).toByteArray with
    | some text => (text.toList, [])
    | none =>
        -- The pending bytes are broken off, and the byte is read again.
        let (chars, next) := decodeFirst byte
        ('\uFFFD' :: chars, next)

def decodeBytes (pending : Bytes) : Bytes → List Char × Bytes
  | [] => ([], pending)
  | byte :: rest =>
      let (chars, next) := decodeByte pending byte
      let (others, last) := decodeBytes next rest
      (chars ++ others, last)

structure TextDecoder where
  pending : Bytes
  atStart : Bool

namespace TextDecoder

def new : TextDecoder := ⟨[], true⟩

def dropMark : List Char → List Char
  | '\uFEFF' :: rest => rest
  | chars => chars

def decode (decoder : TextDecoder) (bytes : Bytes) : List Char × TextDecoder :=
  let (chars, pending) := decodeBytes decoder.pending bytes
  (if decoder.atStart then dropMark chars else chars,
    ⟨pending, decoder.atStart && chars.isEmpty⟩)

def flush (decoder : TextDecoder) : List Char :=
  if decoder.pending.isEmpty then [] else ['\uFFFD']

end TextDecoder

section Bytes

variable {n : Nat} {c : Char} {byte : UInt8}

theorem le_ofNat (small : n < 256) : byte ≤ UInt8.ofNat n ↔ byte.toNat ≤ n := by
  rw [UInt8.le_iff_toNat_le, UInt8.toNat_ofNat', Nat.mod_eq_of_lt small]

theorem ofNat_le (small : n < 256) : UInt8.ofNat n ≤ byte ↔ n ≤ byte.toNat := by
  rw [UInt8.le_iff_toNat_le, UInt8.toNat_ofNat', Nat.mod_eq_of_lt small]

theorem ofNat_eq (small : n < 256) : UInt8.ofNat n = byte ↔ n = byte.toNat := by
  rw [← UInt8.toNat_inj, UInt8.toNat_ofNat', Nat.mod_eq_of_lt small]

theorem utf8Lead_ofNat (small : n < 256) : utf8Lead (UInt8.ofNat n) =
    if 0xC2 ≤ n ∧ n ≤ 0xDF then some (2, 0x80, 0xBF)
    else if n = 0xE0 then some (3, 0xA0, 0xBF)
    else if n = 0xED then some (3, 0x80, 0x9F)
    else if 0xE1 ≤ n ∧ n ≤ 0xEF then some (3, 0x80, 0xBF)
    else if n = 0xF0 then some (4, 0x90, 0xBF)
    else if 0xF1 ≤ n ∧ n ≤ 0xF3 then some (4, 0x80, 0xBF)
    else if n = 0xF4 then some (4, 0x80, 0x8F)
    else none := by
  simp [utf8Lead, le_ofNat small, ofNat_le small, ofNat_eq small]

theorem isTail_ofNat (low : 0x80 ≤ n) (high : n ≤ 0xBF) : isTail (UInt8.ofNat n) := by
  simp [isTail, le_ofNat (show n < 256 by omega), ofNat_le (show n < 256 by omega), low, high]

theorem encodeChar_ascii (small : c.toNat < 0x80) :
    String.utf8EncodeChar c = [UInt8.ofNat c.toNat] := by
  have code : c.val.toNat ≤ 0x7F := Nat.lt_succ_iff.mp small
  rw [String.utf8EncodeChar]
  simp only [code, if_true]
  rfl

theorem encodeChar_shape (c : Char) :
    (c.toNat < 0x80 ∧ String.utf8EncodeChar c = [UInt8.ofNat c.toNat]) ∨
      ∃ lead second later width low high, String.utf8EncodeChar c = lead :: second :: later ∧
        utf8Lead lead = some (width, low, high) ∧ width = later.length + 2 ∧
        low ≤ second ∧ second ≤ high ∧ later.all isTail := by
  have valid : c.val.toNat < 0xD800 ∨ 0xDFFF < c.val.toNat ∧ c.val.toNat < 0x110000 := c.valid
  have code : c.toNat = c.val.toNat := rfl
  have tail (n : Nat) : isTail (UInt8.ofNat (n % 64 + 128)) :=
    isTail_ofNat (by omega) (by omega)
  unfold String.utf8EncodeChar
  dsimp only
  rw [code]
  generalize c.val.toNat = v at valid
  split_ifs with one two three
  · exact .inl ⟨by omega, rfl⟩
  · refine .inr ⟨_, _, _, 2, 0x80, 0xBF, rfl, ?_, rfl, ?_, ?_, rfl⟩
    · rw [utf8Lead_ofNat (by omega), if_pos (by omega)]
    · exact (le_ofNat (by omega)).mpr (by simp)
    · exact (ofNat_le (by omega)).mpr (by simp; omega)
  · have small : v / 4096 % 16 + 224 < 256 := by omega
    have smallSecond : v / 64 % 64 + 128 < 256 := by omega
    have lead := utf8Lead_ofNat small
    rw [if_neg (by omega)] at lead
    by_cases first : v / 4096 % 16 + 224 = 0xE0
    · rw [if_pos first] at lead
      refine .inr ⟨_, _, _, 3, _, _, rfl, lead, rfl, ?_, ?_, ?_⟩
      · exact (le_ofNat smallSecond).mpr (by simp; omega)
      · exact (ofNat_le smallSecond).mpr (by simp; omega)
      · rw [List.all_cons, tail]; rfl
    · rw [if_neg first] at lead
      by_cases surrogate : v / 4096 % 16 + 224 = 0xED
      · rw [if_pos surrogate] at lead
        refine .inr ⟨_, _, _, 3, _, _, rfl, lead, rfl, ?_, ?_, ?_⟩
        · exact (le_ofNat smallSecond).mpr (by simp)
        · exact (ofNat_le smallSecond).mpr (by simp; omega)
        · rw [List.all_cons, tail]; rfl
      · rw [if_neg surrogate, if_pos (by omega)] at lead
        refine .inr ⟨_, _, _, 3, _, _, rfl, lead, rfl, ?_, ?_, ?_⟩
        · exact (le_ofNat smallSecond).mpr (by simp)
        · exact (ofNat_le smallSecond).mpr (by simp; omega)
        · rw [List.all_cons, tail]; rfl
  · have small : v / 262144 % 8 + 240 < 256 := by omega
    have smallSecond : v / 4096 % 64 + 128 < 256 := by omega
    have lead := utf8Lead_ofNat small
    rw [if_neg (by omega), if_neg (by omega), if_neg (by omega), if_neg (by omega)] at lead
    by_cases first : v / 262144 % 8 + 240 = 0xF0
    · rw [if_pos first] at lead
      refine .inr ⟨_, _, _, 4, _, _, rfl, lead, rfl, ?_, ?_, ?_⟩
      · exact (le_ofNat smallSecond).mpr (by simp; omega)
      · exact (ofNat_le smallSecond).mpr (by simp; omega)
      · rw [List.all_cons, List.all_cons, tail, tail]; rfl
    · rw [if_neg first] at lead
      by_cases last : v / 262144 % 8 + 240 = 0xF4
      · rw [if_neg (by omega), if_pos last] at lead
        refine .inr ⟨_, _, _, 4, _, _, rfl, lead, rfl, ?_, ?_, ?_⟩
        · exact (le_ofNat smallSecond).mpr (by simp)
        · exact (ofNat_le smallSecond).mpr (by simp; omega)
        · rw [List.all_cons, List.all_cons, tail, tail]; rfl
      · rw [if_pos (by omega)] at lead
        refine .inr ⟨_, _, _, 4, _, _, rfl, lead, rfl, ?_, ?_, ?_⟩
        · exact (le_ofNat smallSecond).mpr (by simp)
        · exact (ofNat_le smallSecond).mpr (by simp; omega)
        · rw [List.all_cons, List.all_cons, tail, tail]; rfl

theorem isUnfinished_of_cut {part rest : Bytes} (begun : part ≠ []) (missing : rest ≠ [])
    (whole : part ++ rest = String.utf8EncodeChar c) : isUnfinished part := by
  have positive : 0 < rest.length := List.length_pos_iff.mpr missing
  rcases encodeChar_shape c with ⟨-, single⟩ | ⟨lead, second, later, width, low, high, bytes, announced,
    counted, least, most, tails⟩
  · have lengths := congrArg List.length whole
    have inked := List.length_pos_iff.mpr begun
    rw [single, List.length_append, List.length_singleton] at lengths
    omega
  · rw [bytes] at whole
    have lengths := congrArg List.length whole
    rw [List.length_append, List.length_cons, List.length_cons] at lengths
    cases part with
    | nil => exact absurd rfl begun
    | cons first others =>
      obtain ⟨rfl, same⟩ := List.cons.inj whole
      rw [List.length_cons] at lengths
      simp only [isUnfinished, announced, Bool.and_eq_true, decide_eq_true_eq]
      refine ⟨by omega, ?_⟩
      cases others with
      | nil => rfl
      | cons next others =>
        obtain ⟨rfl, behind⟩ := List.cons.inj same
        simp only [Bool.and_eq_true, decide_eq_true_eq]
        refine ⟨⟨least, most⟩, List.all_eq_true.mpr fun byte member => ?_⟩
        apply List.all_eq_true.mp tails
        rw [← behind]
        exact List.mem_append_left _ member

theorem not_isUnfinished_encodeChar : isUnfinished (String.utf8EncodeChar c) = false := by
  rcases encodeChar_shape c with ⟨ascii, single⟩ | ⟨lead, second, later, width, low, high, bytes,
    announced, counted, -⟩
  · have plain := utf8Lead_ofNat (n := c.toNat) (by omega)
    repeat rw [if_neg (by omega)] at plain
    simp [single, isUnfinished, plain]
  · have full : ¬ later.length + 1 + 1 < width := by omega
    simp [bytes, isUnfinished, announced, full]

theorem fromUTF8?_encodeChar :
    String.fromUTF8? (String.utf8EncodeChar c).toByteArray = some (String.ofList [c]) := by
  have text := fromUTF8?_utf8 (String.ofList [c])
  rwa [utf8, String.toList_ofList, List.flatMap_singleton] at text

theorem decodeByte_last {part : Bytes} (whole : part ++ [byte] = String.utf8EncodeChar c) :
    decodeByte part byte = ([c], []) := by
  have finished : isUnfinished (part ++ [byte]) = false := whole ▸ not_isUnfinished_encodeChar
  have read : String.fromUTF8? (part ++ [byte]).toByteArray = some (String.ofList [c]) :=
    whole ▸ fromUTF8?_encodeChar
  cases part with
  | nil =>
    rw [List.nil_append] at finished read
    simp [decodeByte, decodeFirst, finished, read]
  | cons first rest =>
    rw [decodeByte, if_neg (by simp), finished, read]
    simp

theorem decodeByte_begun {part rest : Bytes} (missing : rest ≠ [])
    (whole : part ++ byte :: rest = String.utf8EncodeChar c) :
    decodeByte part byte = ([], part ++ [byte]) := by
  have unfinished : isUnfinished (part ++ [byte]) := by
    apply isUnfinished_of_cut (c := c) (by simp) missing
    rw [← whole, List.append_assoc]
    rfl
  cases part with
  | nil =>
    rw [List.nil_append] at unfinished
    simp [decodeByte, decodeFirst, unfinished]
  | cons first others => rw [decodeByte, if_neg (by simp), if_pos unfinished]

theorem decodeBytes_append (pending first second : Bytes) :
    decodeBytes pending (first ++ second) =
      ((decodeBytes pending first).1 ++ (decodeBytes (decodeBytes pending first).2 second).1,
        (decodeBytes (decodeBytes pending first).2 second).2) := by
  induction first generalizing pending with
  | nil => rfl
  | cons byte rest ih => simp only [List.cons_append, decodeBytes, ih, List.append_assoc]

theorem decodeBytes_cut {seen part rest : Bytes} (missing : rest ≠ [])
    (whole : seen ++ (part ++ rest) = String.utf8EncodeChar c) :
    decodeBytes seen part = ([], seen ++ part) := by
  induction part generalizing seen with
  | nil => rw [decodeBytes, List.append_nil]
  | cons byte part ih =>
    have begun : decodeByte seen byte = ([], seen ++ [byte]) :=
      decodeByte_begun (show part ++ rest ≠ [] by simp [missing]) (by rw [← whole]; rfl)
    have later : decodeBytes (seen ++ [byte]) part = ([], seen ++ [byte] ++ part) :=
      ih (by rw [← whole, List.append_assoc]; rfl)
    rw [decodeBytes, begun]
    dsimp only
    rw [later, List.append_assoc]
    rfl

theorem decodeBytes_encodeChar : decodeBytes [] (String.utf8EncodeChar c) = ([c], []) := by
  rcases List.eq_nil_or_concat (String.utf8EncodeChar c) with none | ⟨part, byte, whole⟩
  · exact absurd none String.utf8EncodeChar_ne_nil
  · rw [List.concat_eq_append] at whole
    have begun : decodeBytes [] part = ([], [] ++ part) :=
      decodeBytes_cut (List.cons_ne_nil byte [])
        (show [] ++ (part ++ [byte]) = String.utf8EncodeChar c by rw [whole]; rfl)
    rw [List.nil_append] at begun
    rw [whole, decodeBytes_append, begun]
    simp only [decodeBytes, decodeByte_last whole.symm]
    rfl

theorem decodeBytes_encoded (chars : List Char) : decodeBytes [] (encoded chars) = (chars, []) := by
  induction chars with
  | nil => rfl
  | cons c rest ih =>
    rw [encoded, List.flatMap_cons, decodeBytes_append, decodeBytes_encodeChar]
    dsimp only
    rw [show rest.flatMap String.utf8EncodeChar = encoded rest from rfl, ih]
    rfl

/-- The bytes after the last whole character are some of the next one's, and not all. -/
def CutShort (part : Bytes) (after : List Char) : Prop :=
  part = [] ∨ ∃ c rest missing, after = c :: rest ∧ part ++ missing = String.utf8EncodeChar c ∧
    missing ≠ []

theorem take_encoded (chars : List Char) (size : Nat) :
    ∃ before after part, chars = before ++ after ∧
      (encoded chars).take size = encoded before ++ part ∧ CutShort part after := by
  induction chars generalizing size with
  | nil => exact ⟨[], [], [], rfl, List.take_nil, .inl rfl⟩
  | cons c rest ih =>
    have bytes : encoded (c :: rest) = String.utf8EncodeChar c ++ encoded rest := List.flatMap_cons
    rw [bytes]
    by_cases inside : size < (String.utf8EncodeChar c).length
    · refine ⟨[], c :: rest, (String.utf8EncodeChar c).take size, rfl, ?_, .inr ?_⟩
      · rw [List.take_append_of_le_length (by omega)]
        rfl
      · refine ⟨c, rest, (String.utf8EncodeChar c).drop size, rfl, List.take_append_drop _ _, ?_⟩
        intro none
        have short := List.drop_eq_nil_iff.mp none
        omega
    · obtain ⟨before, after, part, whole, cut, short⟩ :=
        ih (size - (String.utf8EncodeChar c).length)
      refine ⟨c :: before, after, part, by rw [whole]; rfl, ?_, short⟩
      rw [List.take_append, List.take_of_length_le (by omega), cut, ← List.append_assoc]
      exact congrArg (· ++ part) List.flatMap_cons.symm

theorem fits_iff {before after first : List Char} {part : Bytes} {size : Nat}
    (cut : (encoded (before ++ after)).take size = encoded before ++ part)
    (short : CutShort part after) (beginning : first <+: before ++ after) :
    (encoded first).length ≤ size ↔ first <+: before := by
  have long {some whole : List Char} (inside : some <+: whole) :
      (encoded some).length ≤ (encoded whole).length := by
    obtain ⟨rest, rfl⟩ := inside
    rw [encoded, encoded, List.flatMap_append, List.length_append]
    omega
  have taken := congrArg List.length cut
  rw [List.length_take, List.length_append] at taken
  constructor
  · intro fits
    rcases List.prefix_or_prefix_of_prefix beginning (List.prefix_append before after) with
      inside | ⟨more, rfl⟩
    · exact inside
    cases more with
    | nil =>
      rw [List.append_nil]
    | cons c others =>
      have whole := long beginning
      have next : c :: others <+: after := (List.prefix_append_right_inj before).mp beginning
      have lengths : (encoded (before ++ c :: others)).length =
          (encoded before).length + ((String.utf8EncodeChar c).length + (encoded others).length) := by
        simp [encoded]
      rcases short with rfl | ⟨d, rest, missing, rfl, same, lacking⟩
      · have positive := List.length_pos_iff.mpr (String.utf8EncodeChar_ne_nil (c := c))
        rw [List.length_nil] at taken
        omega
      · obtain ⟨rfl, -⟩ := List.cons_prefix_cons.mp next
        have positive := List.length_pos_iff.mpr lacking
        have parts := congrArg List.length same
        rw [List.length_append] at parts
        omega
  · intro inside
    have shorter := long inside
    omega

theorem decodeBytes_cutShort {before after : List Char} {part : Bytes}
    (short : CutShort part after) :
    decodeBytes [] (encoded before ++ part) = (before, part) := by
  rw [decodeBytes_append, decodeBytes_encoded]
  dsimp only
  rcases short with rfl | ⟨c, rest, missing, -, whole, lacking⟩
  · rw [decodeBytes, List.append_nil]
  · rw [decodeBytes_cut lacking whole, List.append_nil]
    rfl

end Bytes

namespace TextDecoder

theorem dropMark_plain {chars : List Char} (plain : chars.head? ≠ some '\uFEFF') :
    dropMark chars = chars := by
  unfold dropMark
  split
  · exact absurd rfl plain
  · rfl

theorem decode_plain {decoder : TextDecoder} {bytes : Bytes} {later : List Char}
    (plain : decoder.atStart → ((decodeBytes decoder.pending bytes).1 ++ later).head? ≠ some '\uFEFF') :
    decoder.decode bytes = ((decodeBytes decoder.pending bytes).1,
      ⟨(decodeBytes decoder.pending bytes).2,
        decoder.atStart && (decodeBytes decoder.pending bytes).1.isEmpty⟩) := by
  have same : (if decoder.atStart then dropMark (decodeBytes decoder.pending bytes).1
      else (decodeBytes decoder.pending bytes).1) = (decodeBytes decoder.pending bytes).1 := by
    split
    · next start =>
      cases shown : (decodeBytes decoder.pending bytes).1 with
      | nil => rfl
      | cons c rest =>
        have other := plain start
        rw [shown] at other
        exact dropMark_plain other
    · rfl
  rw [decode]
  dsimp only
  rw [same]

theorem flush_cutShort {after : List Char} {decoder : TextDecoder}
    (short : CutShort decoder.pending after) :
    decoder.flush = [] ∨
      decoder.flush = ['\uFFFD'] ∧ ∃ c rest, after = c :: rest ∧ 0x80 ≤ c.toNat := by
  rcases short with none | ⟨c, rest, missing, rfl, whole, lacking⟩
  · exact .inl (by simp [flush, none])
  · by_cases none : decoder.pending = []
    · exact .inl (by simp [flush, none])
    · refine .inr ⟨by simp [flush, none], c, rest, rfl, ?_⟩
      by_contra small
      have lengths := congrArg List.length whole
      have begun := List.length_pos_iff.mpr none
      have more := List.length_pos_iff.mpr lacking
      rw [encodeChar_ascii (by omega), List.length_append, List.length_singleton] at lengths
      omega

end TextDecoder

end OpenJax.Shared
