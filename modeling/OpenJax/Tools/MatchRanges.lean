import OpenJax.Shared.ByteOffsets
import OpenJax.Shared.TextDecoder
import OpenJax.Tools.Edit

set_option autoImplicit false

namespace OpenJax.Tools.InBytes

open Shared

/-- `str::find`, the place counted in bytes. -/
def findText (needle : List Char) : List Char → Option Nat
  | [] => if needle.isEmpty then some 0 else none
  | c :: rest =>
      if needle.isPrefixOf (c :: rest) then some 0
      else (findText needle rest).map (c.utf8Size + ·)

/-- Nothing where a slice would start inside a character. -/
def matchRangesFrom (haystack needle : List Char) (searchStart : Nat) : Option (List (Nat × Nat)) :=
  if searchStart ≤ byteSize haystack then
    match splitAtByte haystack searchStart with
    | none => none
    | some (_, remaining) =>
        match findText needle remaining with
        | none => some []
        | some relativeStart =>
            let start := searchStart + relativeStart
            match splitAtByte haystack start with
            | none => none
            | some (_, found) =>
                let advance := (found.head?.map Char.utf8Size).getD 1
                (matchRangesFrom haystack needle (start + advance)).map
                  ((start, start + byteSize needle) :: ·)
  else some []
termination_by byteSize haystack + 1 - searchStart
decreasing_by
  have positive : 0 < (found.head?.map Char.utf8Size).getD 1 := by
    cases found with
    | nil => exact Nat.one_pos
    | cons c rest => exact c.utf8Size_pos
  omega

def findMatchRanges (haystack needle : List Char) : Option (List (Nat × Nat)) :=
  if needle.isEmpty then some [] else matchRangesFrom haystack needle 0

def byteRange (text : List Char) (range : Nat × Nat) : Nat × Nat :=
  (byteSize (text.take range.1), byteSize (text.take range.2))

theorem findText_eq (needle text : List Char) :
    findText needle text = (Tools.findText needle text).map fun place => byteSize (text.take place) := by
  induction text with
  | nil =>
    rw [findText, Tools.findText]
    split <;> rfl
  | cons c rest ih =>
    rw [findText, Tools.findText, ih]
    split
    · rfl
    · rw [Option.map_map, Option.map_map]
      congr 1

theorem byteSize_take_add (text : List Char) (place more : Nat) :
    byteSize (text.take (place + more)) =
      byteSize (text.take place) + byteSize ((text.drop place).take more) := by
  rw [List.take_add, byteSize_append]

theorem splitAtByte_take (text : List Char) (place : Nat) :
    splitAtByte text (byteSize (text.take place)) = some (text.take place, text.drop place) := by
  have split := splitAtByte_front (text.take place) (text.drop place)
  rwa [List.take_append_drop] at split

theorem byteSize_take_le (text : List Char) (place : Nat) :
    byteSize (text.take place) ≤ byteSize text := by
  conv_rhs => rw [← List.take_append_drop place text, byteSize_append]
  omega

theorem byteSize_match {needle text : List Char} {place : Nat} (starts : needle <+: text.drop place) :
    byteSize (text.take (place + needle.length)) = byteSize (text.take place) + byteSize needle := by
  rw [byteSize_take_add, ← List.prefix_iff_eq_take.mp starts]

variable {haystack needle : List Char}

theorem matchRangesFrom_eq (filled : needle ≠ []) (place : Nat) (within : place ≤ haystack.length) :
    matchRangesFrom haystack needle (byteSize (haystack.take place)) =
      some ((Tools.matchRangesFrom haystack needle place).map (byteRange haystack)) := by
  induction place using Tools.matchRangesFrom.induct haystack needle with
  | case1 place inside missed =>
    rw [matchRangesFrom, if_pos (byteSize_take_le haystack place), splitAtByte_take,
      Tools.matchRangesFrom, if_pos inside, missed]
    dsimp only
    rw [findText_eq, missed]
    rfl
  | case2 place inside relativeStart found start ih =>
    obtain ⟨-, starts, -⟩ := findText_some found
    rw [List.drop_drop] at starts
    -- The pattern has a first character, so the match begins before the end.
    obtain ⟨c, rest, first⟩ : ∃ c rest, haystack.drop start = c :: rest := by
      cases dropped : haystack.drop start with
      | nil => exact absurd (List.prefix_nil.mp (dropped ▸ starts)) filled
      | cons c rest => exact ⟨c, rest, rfl⟩
    have before : start < haystack.length := by
      by_contra beyond
      rw [List.drop_eq_nil_of_le (by omega)] at first
      cases first
    have begins : byteSize (haystack.take place) + byteSize ((haystack.drop place).take relativeStart) =
        byteSize (haystack.take start) := (byteSize_take_add haystack place relativeStart).symm
    have next : byteSize (haystack.take start) + c.utf8Size =
        byteSize (haystack.take (start + 1)) := by
      rw [byteSize_take_add haystack start 1, first]
      rfl
    have unfolded : Tools.matchRangesFrom haystack needle place =
        (start, start + needle.length) :: Tools.matchRangesFrom haystack needle (start + 1) := by
      rw [Tools.matchRangesFrom, if_pos inside, found]
    rw [matchRangesFrom, if_pos (byteSize_take_le haystack place), splitAtByte_take]
    dsimp only
    rw [findText_eq, found, Option.map_some]
    dsimp only
    rw [begins, splitAtByte_take, first]
    dsimp only [List.head?_cons, Option.map_some, Option.getD_some]
    rw [next, ih (by omega), unfolded, Option.map_some, List.map_cons, byteRange,
      byteSize_match starts]
  | case3 place beyond => exact absurd within beyond

theorem findMatchRanges_eq (filled : needle ≠ []) :
    findMatchRanges haystack needle =
      some ((Tools.findMatchRanges haystack needle).map (byteRange haystack)) := by
  have empty : needle.isEmpty = false := by simpa using filled
  rw [findMatchRanges, Tools.findMatchRanges, empty]
  exact matchRangesFrom_eq filled 0 (Nat.zero_le _)

theorem lead_bounds : ∀ n < 256, ∀ announced ∈ utf8Lead (UInt8.ofNat n),
    ¬isTail (UInt8.ofNat n) ∧ 0x80 ≤ announced.2.1 ∧ announced.2.2 ≤ 0xBF := by
  decide +kernel

theorem ascii_not_tail : ∀ n < 128, ¬isTail (UInt8.ofNat n) := by decide

theorem head_not_tail {c : Char} {byte : UInt8} {rest : Bytes}
    (bytes : String.utf8EncodeChar c = byte :: rest) : ¬isTail byte := by
  rcases encodeChar_shape c with ⟨ascii, single⟩ | ⟨lead, second, later, width, low, high, shape,
    announced, -⟩
  · obtain ⟨rfl, -⟩ := List.cons.inj (single.symm.trans bytes)
    exact ascii_not_tail _ ascii
  · obtain ⟨rfl, -⟩ := List.cons.inj (shape.symm.trans bytes)
    have bounds := lead_bounds lead.toNat lead.toNat_lt
    rw [UInt8.ofNat_toNat] at bounds
    exact (bounds _ announced).1

theorem tail_of_cut {c : Char} {part rest : Bytes} {byte : UInt8} (begun : part ≠ [])
    (bytes : part ++ byte :: rest = String.utf8EncodeChar c) : isTail byte := by
  obtain ⟨first, others, rfl⟩ := List.exists_cons_of_ne_nil begun
  rw [List.cons_append] at bytes
  rcases encodeChar_shape c with ⟨ascii, single⟩ | ⟨lead, second, later, width, low, high, shape,
    announced, -, least, most, tails⟩
  · have none := (List.cons.inj (bytes.trans single)).2
    simp at none
  · have bounds := lead_bounds lead.toNat lead.toNat_lt
    rw [UInt8.ofNat_toNat] at bounds
    obtain ⟨-, above, below⟩ := bounds _ announced
    have among : byte ∈ second :: later := by
      rw [← (List.cons.inj (bytes.trans shape)).2]
      simp
    rcases List.mem_cons.mp among with rfl | after
    · rw [isTail, Bool.and_eq_true, decide_eq_true_iff, decide_eq_true_iff]
      exact ⟨UInt8.le_trans above least, UInt8.le_trans most below⟩
    · exact List.all_eq_true.mp tails byte after

theorem length_encoded (chars : List Char) : (encoded chars).length = byteSize chars := by
  induction chars with
  | nil => rfl
  | cons c rest ih =>
    rw [encoded, List.flatMap_cons, List.length_append, String.length_utf8EncodeChar, byteSize_cons]
    exact congrArg (c.utf8Size + ·) ih

theorem encoded_prefix_iff {first second : List Char} :
    encoded first <+: encoded second ↔ first <+: second := by
  constructor
  · rintro ⟨rest, whole⟩
    have read := congrArg (fun bytes => (decodeBytes [] bytes).1) whole
    simp only [decodeBytes_append, decodeBytes_encoded] at read
    exact ⟨_, read⟩
  · rintro ⟨rest, rfl⟩
    exact ⟨encoded rest, (encoded_append first rest).symm⟩

theorem cut_of_occurs {part behind : Bytes} {after needle : List Char} (filled : needle ≠ [])
    (short : CutShort part after) (whole : part ++ behind = encoded after)
    (occurs : encoded needle <+: behind) : part = [] := by
  obtain ⟨d, others, rfl⟩ := List.exists_cons_of_ne_nil filled
  obtain ⟨lead, later, bytes⟩ := List.exists_cons_of_ne_nil (String.utf8EncodeChar_ne_nil (c := d))
  rcases short with none | ⟨c, rest, missing, rfl, cut, lacking⟩
  · exact none
  by_contra begun
  obtain ⟨byte, more, rfl⟩ := List.exists_cons_of_ne_nil lacking
  have tail := tail_of_cut begun cut
  have behind_eq : behind = byte :: more ++ encoded rest := by
    rw [encoded, List.flatMap_cons, ← cut, List.append_assoc] at whole
    exact List.append_cancel_left whole
  rw [behind_eq, encoded, List.flatMap_cons, bytes, List.cons_append, List.cons_append,
    List.cons_prefix_cons] at occurs
  exact head_not_tail bytes (occurs.1 ▸ tail)

theorem occurs_iff (filled : needle ≠ []) (start : Nat) :
    encoded needle <+: (encoded haystack).drop start ↔
      ∃ place ≤ haystack.length, byteSize (haystack.take place) = start ∧
        needle <+: haystack.drop place := by
  constructor
  · intro occurs
    obtain ⟨before, after, part, rfl, taken, short⟩ := take_encoded haystack start
    have left := List.take_append_drop start (encoded (before ++ after))
    rw [taken, encoded_append, List.append_assoc] at left
    have remaining := List.append_cancel_left left
    rw [← encoded_append] at remaining
    obtain rfl := cut_of_occurs filled short remaining occurs
    rw [List.nil_append] at remaining
    have inside : start ≤ (encoded (before ++ after)).length := by
      by_contra beyond
      rw [List.drop_eq_nil_of_le (by omega), List.prefix_nil] at occurs
      have size := length_encoded needle
      rw [occurs, List.length_nil] at size
      exact filled ((byteSize_eq_zero needle).mp size.symm)
    have counted : byteSize before = start := by
      rw [← length_encoded, ← List.append_nil (encoded before), ← taken, List.length_take,
        Nat.min_eq_left inside]
    refine ⟨before.length, by simp, ?_, ?_⟩
    · rw [List.take_left, counted]
    · rw [List.drop_left]
      exact encoded_prefix_iff.mp (remaining ▸ occurs)
  · rintro ⟨place, within, rfl, starts⟩
    have left := encoded_append (haystack.take place) (haystack.drop place)
    rw [List.take_append_drop] at left
    rw [left, ← length_encoded, List.drop_left]
    exact encoded_prefix_iff.mpr starts

theorem byteSize_take_lt {text : List Char} {first second : Nat} (order : first < second)
    (within : first < text.length) : byteSize (text.take first) < byteSize (text.take second) := by
  obtain ⟨more, rfl⟩ := Nat.exists_eq_add_of_lt order
  rw [Nat.add_assoc, byteSize_take_add, List.drop_eq_getElem_cons within, List.take_succ_cons,
    byteSize_cons]
  have positive := text[first].utf8Size_pos
  omega

/-- The search ends with the ranges of all places where the bytes of the pattern stand, each once
and in ascending order, and no range ends inside a character. -/
theorem findMatchRanges_exact (haystack needle : List Char) (filled : needle ≠ []) :
    ∃ ranges, findMatchRanges haystack needle = some ranges ∧
      ranges.Pairwise (fun first second => first.1 < second.1) ∧
      (∀ start stop, (start, stop) ∈ ranges ↔
        encoded needle <+: (encoded haystack).drop start ∧ stop = start + byteSize needle) ∧
      ∀ range ∈ ranges, isCharBoundary haystack range.1 = true ∧
        isCharBoundary haystack range.2 = true := by
  have placed := mem_matchRangesFrom haystack needle 0
  have sorted := matchRangesFrom_sorted haystack needle 0
  have search : Tools.findMatchRanges haystack needle =
      Tools.matchRangesFrom haystack needle 0 := by
    rw [Tools.findMatchRanges, if_neg (by simpa using filled)]
  refine ⟨_, findMatchRanges_eq filled, ?_, fun start stop => ?_, fun range member => ?_⟩
  · rw [search, List.pairwise_map]
    refine sorted.imp_of_mem fun {first second} left right order => ?_
    have within := ((placed second).mp right).2.1
    exact byteSize_take_lt order (by omega)
  · rw [search, List.mem_map, occurs_iff filled]
    constructor
    · rintro ⟨range, member, same⟩
      obtain ⟨-, within, starts, length⟩ := (placed range).mp member
      rw [byteRange, length, byteSize_match starts] at same
      obtain ⟨rfl, rfl⟩ := Prod.mk.inj same
      exact ⟨⟨range.1, within, rfl, starts⟩, rfl⟩
    · rintro ⟨⟨place, within, rfl, starts⟩, rfl⟩
      refine ⟨(place, place + needle.length), ?_, ?_⟩
      · exact (placed _).mpr ⟨Nat.zero_le _, within, starts, rfl⟩
      · rw [byteRange, byteSize_match starts]
  · obtain ⟨place, -, rfl⟩ := List.mem_map.mp member
    have boundary (place : Nat) : isCharBoundary haystack (byteSize (haystack.take place)) := by
      have front := isCharBoundary_front (haystack.take place) (haystack.drop place)
      rwa [List.take_append_drop] at front
    exact ⟨boundary _, boundary _⟩

theorem findMatchRanges_exact_overlapping : ∃ ranges,
    findMatchRanges ['é', 'a', 'é', 'a', 'é'] ['é', 'a', 'é'] = some ranges ∧
      ((0, 5) ∈ ranges ∧ (3, 8) ∈ ranges) := by
  obtain ⟨ranges, found, -, exact, -⟩ :=
    findMatchRanges_exact ['é', 'a', 'é', 'a', 'é'] ['é', 'a', 'é'] (List.cons_ne_nil _ _)
  exact ⟨ranges, found, (exact 0 5).mpr (by decide +kernel), (exact 3 8).mpr (by decide +kernel)⟩

end OpenJax.Tools.InBytes
