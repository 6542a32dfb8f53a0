import OpenJax.Tools.ListDir

set_option autoImplicit false

namespace OpenJax.Tools

open Shared

def FileName.text (name : FileName) : List Char := (fromUtf8Lossy name.bytes).toList

def FileName.Plain (name : FileName) : Prop :=
  utf8 (fromUtf8Lossy name.bytes) = name.bytes ∧ '\\' ∉ name.text

structure PlainPath (path : List FileName) : Prop where
  names : ∀ name ∈ path, name.Plain
  short : (pathBytes path).length ≤ listDirMaxEntryLength

def pathText (path : List FileName) : List Char := ['/'].intercalate (path.map FileName.text)

/-- The second entry stands beside the first one, and its name goes on where the first one's ends,
with a character that comes before the separator. -/
def Continues (above other : LocatedEntry) : Prop :=
  ∃ place name longer c rest, above.path = place ++ [name] ∧ other.path = place ++ [longer] ∧
    longer.text = name.text ++ c :: rest ∧ c < '/'

theorem FileName.Plain.bytes_eq {name : FileName} (plain : name.Plain) :
    name.bytes = name.text.flatMap String.utf8EncodeChar := plain.1.symm

theorem FileName.Plain.separator_notMem {name : FileName} (plain : name.Plain) :
    '/' ∉ name.text := by
  intro present
  apply name.single
  rw [plain.bytes_eq]
  exact List.mem_flatMap.mpr ⟨'/', present, by decide⟩

theorem FileName.Plain.eq_of_text {name other : FileName} (plain : name.Plain)
    (also : other.Plain) (same : name.text = other.text) : name = other := by
  have bytes : name.bytes = other.bytes := by rw [plain.bytes_eq, also.bytes_eq, same]
  cases name
  cases other
  cases bytes
  rfl

variable {path : List FileName}

theorem pathBytes_plain (plain : ∀ name ∈ path, name.Plain) :
    pathBytes path = utf8 (String.ofList (pathText path)) := by
  rw [utf8, String.toList_ofList]
  induction path with
  | nil => rfl
  | cons name path ih =>
    rw [List.forall_mem_cons] at plain
    cases path with
    | nil => simpa [pathBytes, pathText] using plain.1.bytes_eq
    | cons next path =>
      have later := ih plain.2
      rw [pathBytes, pathText, List.map_cons, List.map_cons] at later ⊢
      rw [List.map_cons, List.map_cons, List.intercalate_cons_cons, List.intercalate_cons_cons,
        later, plain.1.bytes_eq, List.flatMap_append, List.flatMap_append]
      rfl

theorem mem_pathText {c : Char} (among : c ∈ pathText path) :
    c = '/' ∨ ∃ name ∈ path, c ∈ name.text := by
  induction path with
  | nil => cases among
  | cons name path ih =>
    cases path with
    | nil => exact .inr ⟨name, List.mem_cons_self, by simpa [pathText] using among⟩
    | cons next path =>
      rw [pathText, List.map_cons, List.map_cons, List.intercalate_cons_cons, List.mem_append,
        List.mem_append, List.mem_singleton] at among
      rcases among with (own | separator) | later
      · exact .inr ⟨name, List.mem_cons_self, own⟩
      · exact .inl separator
      · rcases ih later with separator | ⟨other, member, inside⟩
        · exact .inl separator
        · exact .inr ⟨other, List.mem_cons_of_mem _ member, inside⟩

theorem formatDirEntryName_plain (plain : PlainPath path) :
    (formatDirEntryName path).toList = pathText path := by
  have bytes := pathBytes_plain plain.names
  have shown : fromUtf8Lossy (pathBytes path) = String.ofList (pathText path) := by
    rw [bytes, fromUtf8Lossy_utf8]
  have kept : (String.ofList (pathText path)).map (fun c => if c = '\\' then '/' else c) =
      String.ofList (pathText path) := by
    apply String.toList_injective
    rw [String.toList_map, String.toList_ofList]
    refine (List.map_congr_left fun c among => if_neg ?_).trans (List.map_id _)
    rintro rfl
    rcases mem_pathText among with separator | ⟨name, member, inside⟩
    · exact absurd separator (by decide)
    · exact (plain.names name member).2 inside
  have size : (String.ofList (pathText path)).utf8ByteSize = (pathBytes path).length := by
    have same : (utf8 (String.ofList (pathText path))).toByteArray =
        (String.ofList (pathText path)).toByteArray := String.utf8Encode_toList
    rw [bytes, ← String.size_toByteArray, ← same, List.size_toByteArray]
  have fits := plain.short
  rw [formatDirEntryName, shown, kept, size]
  simp only [if_neg (Nat.not_lt.mpr fits), String.toList_ofList]

theorem splitBy_pathText (plain : ∀ name ∈ path, name.Plain) (inside : path ≠ []) :
    splitBy '/' (pathText path) = path.map FileName.text := by
  induction path with
  | nil => exact absurd rfl inside
  | cons name path ih =>
    rw [List.forall_mem_cons] at plain
    cases path with
    | nil => simpa [pathText] using splitBy_plain plain.1.separator_notMem
    | cons next path =>
      have later := ih plain.2 (by simp)
      have shape : pathText (name :: next :: path) =
          name.text ++ '/' :: pathText (next :: path) := by
        simp [pathText, List.intercalate_cons_cons]
      rw [shape, splitBy_append, splitBy_plain plain.1.separator_notMem, later]
      rfl

variable {place : List FileName}

theorem pathText_concat (inside : place ≠ []) (name : FileName) :
    pathText (place ++ [name]) = pathText place ++ '/' :: name.text := by
  induction place with
  | nil => exact absurd rfl inside
  | cons first place ih =>
    cases place with
    | nil => simp [pathText, List.intercalate_cons_cons]
    | cons next place =>
      have later := ih (by simp)
      simp only [pathText, List.cons_append, List.map_cons, List.intercalate_cons_cons,
        List.append_assoc] at later ⊢
      rw [later]

theorem splitBy_continued {name : FileName} {rest : List Char}
    (plain : ∀ other ∈ place ++ [name], other.Plain) :
    splitBy '/' (pathText (place ++ [name]) ++ rest) =
      place.map FileName.text ++ (name.text ++ (splitBy '/' rest).headD []) ::
        (splitBy '/' rest).tail := by
  have last : name.Plain := plain name (by simp)
  cases place with
  | nil => simpa [pathText] using splitBy_extend last.separator_notMem rest
  | cons first place =>
    have front : ∀ other ∈ first :: place, other.Plain := fun other among =>
      plain other (List.mem_append_left _ among)
    rw [pathText_concat (by simp), List.append_assoc, List.cons_append, splitBy_append,
      splitBy_extend last.separator_notMem, splitBy_pathText front (by simp)]

theorem eq_of_texts {first second : List FileName} (plain : ∀ name ∈ first, name.Plain)
    (also : ∀ name ∈ second, name.Plain)
    (same : first.map FileName.text = second.map FileName.text) : first = second := by
  induction first generalizing second with
  | nil => exact (List.map_eq_nil_iff.mp same.symm).symm
  | cons name first ih =>
    cases second with
    | nil => cases same
    | cons other second =>
      rw [List.map_cons, List.map_cons, List.cons.injEq] at same
      rw [List.forall_mem_cons] at plain also
      rw [plain.1.eq_of_text also.1 same.1, ih plain.2 also.2 same.2]

theorem pathText_continued {name longer : FileName} {rest : List Char}
    (continued : longer.text = name.text ++ rest) :
    pathText (place ++ [longer]) = pathText (place ++ [name]) ++ rest := by
  cases place with
  | nil => simpa [pathText] using continued
  | cons first place =>
    rw [pathText_concat (by simp), pathText_concat (by simp), continued]
    simp

theorem between_iff {place other : List FileName} {name child : FileName}
    (plain : ∀ part ∈ place ++ [name], part.Plain) (also : ∀ part ∈ other, part.Plain)
    (level : other.length = place.length + 1) (differs : other ≠ place ++ [name]) :
    (¬pathText other < pathText (place ++ [name]) ∧
        ¬pathText (place ++ [name] ++ [child]) < pathText other) ↔
      ∃ longer c rest, other = place ++ [longer] ∧ longer.text = name.text ++ c :: rest ∧
        c < '/' := by
  rw [pathText_concat (by simp) child]
  constructor
  · rintro ⟨lower, upper⟩
    obtain ⟨rest, written, within⟩ := prefix_of_between lower upper
    have inside : other ≠ [] := by
      rintro rfl
      cases level
    have parts := splitBy_pathText also inside
    rw [written, splitBy_continued plain] at parts
    have count := congrArg List.length parts
    rw [List.length_append, List.length_cons, List.length_map, List.length_map, level] at count
    cases rest with
    | nil =>
      rw [splitBy, List.headD_cons, List.append_nil, List.tail_cons] at parts
      exact absurd (eq_of_texts also plain (by rw [← parts]; simp)) differs
    | cons c rest =>
      have notAbove : ¬ '/' < c := fun above => within (List.cons_lt_cons_iff.mpr (.inl above))
      have notSame : c ≠ '/' := by
        rintro rfl
        have more := List.length_pos_of_ne_nil (splitBy_ne_nil '/' rest)
        rw [splitBy, if_pos rfl, List.tail_cons] at count
        omega
      have ended : (splitBy '/' (c :: rest)).tail = [] :=
        List.eq_nil_of_length_eq_zero (by omega)
      obtain ⟨segment, starts⟩ : ∃ segment, (splitBy '/' (c :: rest)).headD [] = c :: segment := by
        rw [splitBy, if_neg notSame]
        split
        · exact ⟨_, rfl⟩
        next segment _ _ => exact ⟨segment, rfl⟩
      rw [ended, starts] at parts
      obtain ⟨front, longer, rfl⟩ : ∃ front longer, other = front ++ [longer] :=
        ⟨_, _, (List.dropLast_append_getLast inside).symm⟩
      rw [List.map_append, List.map_singleton] at parts
      obtain ⟨fronts, last⟩ := List.append_inj' parts rfl
      have same := eq_of_texts (fun part among => plain part (List.mem_append_left _ among))
        (fun part among => also part (List.mem_append_left _ among)) fronts
      refine ⟨longer, c, segment, by rw [same], (List.cons.inj last).1.symm, ?_⟩
      exact lt_of_le_of_ne (not_lt.mp notAbove) notSame
  · rintro ⟨longer, c, rest, rfl, continued, below⟩
    rw [pathText_continued continued]
    refine ⟨List.le_append_left, fun above => ?_⟩
    rw [append_lt_append_iff, List.cons_lt_cons_iff] at above
    rcases above with more | ⟨same, -⟩
    · exact lt_asymm below more
    · exact lt_irrefl '/' (same ▸ below)

section Listed

variable {tree : DirTree} {depth : Nat}
  (plain : ∀ line ∈ tree.descendants depth [], PlainPath line.path)

include plain

theorem key_lt_iff {first second : LocatedEntry} (among : first ∈ tree.descendants depth [])
    (also : second ∈ tree.descendants depth []) :
    sortKey first < sortKey second ↔ pathText first.path < pathText second.path := by
  have key : ∀ line ∈ tree.descendants depth [], (sortKey line).toList = pathText line.path := by
    intro line member
    have text := formatDirEntryName_plain (plain line member)
    obtain ⟨below, item, -, -, -, rfl⟩ := DirTree.mem_descendants.mp member
    exact text
  rw [String.lt_iff_toList_lt, key first among, key second also]

theorem parent_key_lt {above line : LocatedEntry} (among : above ∈ tree.descendants depth [])
    (member : line ∈ tree.descendants depth []) (owns : ParentOf above line) :
    sortKey above < sortKey line := by
  obtain ⟨-, inside, child, ends⟩ := owns
  have longer := List.nil_lt_cons '/' child.text
  rw [key_lt_iff plain among member, ends, pathText_concat inside]
  simpa using (append_lt_append_iff (pathText above.path)).mpr longer

omit plain in
theorem Continues.level {above other : LocatedEntry} (continues : Continues above other)
    (among : above ∈ tree.descendants depth []) (present : other ∈ tree.descendants depth []) :
    entryDepth other = entryDepth above ∧ other ≠ above := by
  obtain ⟨place, name, longer, c, rest, stands, beside, continued, -⟩ := continues
  have lower := descendants_depth among
  have upper := descendants_depth present
  rw [stands, List.length_append, List.length_singleton] at lower
  rw [beside, List.length_append, List.length_singleton] at upper
  refine ⟨by omega, ?_⟩
  rintro rfl
  obtain rfl : name = longer := by simpa using stands.symm.trans beside
  simp at continued

theorem passes_iff {above line other : LocatedEntry} (among : above ∈ tree.descendants depth [])
    (member : line ∈ tree.descendants depth []) (present : other ∈ tree.descendants depth [])
    (owns : ParentOf above line) (level : entryDepth other = entryDepth above)
    (differs : other ≠ above) :
    sortKey other < sortKey above ∨ sortKey line < sortKey other ↔ ¬Continues above other := by
  obtain ⟨-, inside, child, ends⟩ := owns
  obtain ⟨place, name, stands⟩ : ∃ place name, above.path = place ++ [name] :=
    ⟨_, _, (List.dropLast_append_getLast inside).symm⟩
  have apart : other.path ≠ place ++ [name] := fun same => differs (List.inj_on_of_nodup_map
    (DirTree.descendants_nodup depth []) present among (same.trans stands.symm))
  have height : other.path.length = place.length + 1 := by
    rw [descendants_depth present, level, ← descendants_depth among, stands]
    simp
  have names := (plain above among).names
  rw [stands] at names
  have between := @between_iff place other.path name child names (plain other present).names height
    apart
  rw [key_lt_iff plain present among, key_lt_iff plain member present, ends, stands,
    ← not_iff_not, not_or, between, not_not]
  constructor
  · rintro ⟨longer, c, rest, beside, continued, below⟩
    exact ⟨place, name, longer, c, rest, stands, beside, continued, below⟩
  · rintro ⟨front, first, longer, c, rest, also, beside, continued, below⟩
    obtain ⟨rfl, rfl⟩ : front = place ∧ first = name := by simpa using also.symm.trans stands
    exact ⟨longer, c, rest, beside, continued, below⟩

theorem apart_iff_none_continues :
    Apart entryDepth ParentOf sortKey (tree.descendants depth []) ↔
      ∀ line ∈ tree.descendants depth [], ∀ above ∈ tree.descendants depth [],
        ParentOf above line → ∀ other ∈ tree.descendants depth [], ¬Continues above other := by
  constructor
  · intro apart line member above among owns other present continues
    have ⟨level, differs⟩ := continues.level among present
    have passes := (apart line member above among owns).2 other present level differs
    exact (passes_iff plain among member present owns level differs).mp passes continues
  · intro clear line member above among owns
    refine ⟨parent_key_lt plain among member owns, fun other present level differs => ?_⟩
    exact (passes_iff plain among member present owns level differs).mpr
      (clear line member above among owns other present)

/-- For plain names the listing is spoiled by names beside a directory that continue the directory's
name with a character before the separator, and by no others. -/
theorem plain_list_dir_correct_iff (positive : 0 < depth) (readable : tree.Readable depth [])
    (oneDecimal : OneDecimal) :
    (∀ (sortUnstable : UnstableSort sortKey) (collected : List LocatedEntry),
      ListDir.collectDirEntries sortUnstable tree depth = .ok collected →
      tree.ListedCorrectly depth oneDecimal sortUnstable collected) ↔
      ∀ line ∈ tree.descendants depth [], ∀ above ∈ tree.descendants depth [],
        ParentOf above line → ∀ other ∈ tree.descendants depth [], ¬Continues above other := by
  rw [← apart_iff_none_continues plain]
  constructor
  · intro always
    exact apart_of_rendered positive readable fun sortUnstable collected found =>
      (always sortUnstable collected found).rendered
  · intro apart sortUnstable collected found
    exact listedCorrectly_of_apart positive apart found

end Listed

theorem bangTree_continues :
    ¬∀ line ∈ bangTree.descendants 2 [], ∀ above ∈ bangTree.descendants 2 [],
      ParentOf above line → ∀ other ∈ bangTree.descendants 2 [], ¬Continues above other := by
  have plain : ∀ line ∈ bangTree.descendants 2 [], PlainPath line.path := by
    have paths : ∀ line ∈ bangTree.descendants 2 [],
        (∀ name ∈ line.path, name.Plain) ∧ (pathBytes line.path).length ≤ listDirMaxEntryLength := by
      unfold FileName.Plain
      decide +kernel
    exact fun line member => ⟨(paths line member).1, (paths line member).2⟩
  intro clear
  have always := (plain_list_dir_correct_iff plain Nat.two_pos bangTree_readable fun _ _ => "").mpr
    clear
  exact bangTree_not_apart (apart_of_rendered Nat.two_pos bangTree_readable
    fun sortUnstable collected found => (always sortUnstable collected found).rendered)

end OpenJax.Tools
