import Mathlib.Data.List.Sort
import Mathlib.Data.Prod.Lex

set_option autoImplicit false

/-! Trees that are written as one line an entry, in the order of a sort key. -/

namespace OpenJax.Shared

variable {Entry Key : Type} [LinearOrder Key]

structure UnstableSort (key : Entry → Key) where
  sort : List Entry → List Entry
  perm : ∀ entries, (sort entries).Perm entries
  sorted : ∀ entries, (sort entries).Pairwise fun first second => key first ≤ key second

def rankedLe (key : Entry → Key) (rank : Entry → Nat) (first second : Entry) : Prop :=
  toLex (key first, rank first) ≤ toLex (key second, rank second)

instance decidableRankedLe (key : Entry → Key) (rank : Entry → Nat) :
    DecidableRel (rankedLe key rank) := fun first second =>
  inferInstanceAs (Decidable (toLex (key first, rank first) ≤ toLex (key second, rank second)))

theorem rankedLe_iff {key : Entry → Key} {rank : Entry → Nat} {first second : Entry} :
    rankedLe key rank first second ↔
      key first < key second ∨ key first = key second ∧ rank first ≤ rank second := by
  rw [rankedLe, Prod.Lex.toLex_le_toLex]

theorem sorted_rankedLe (key : Entry → Key) (rank : Entry → Nat) (entries : List Entry) :
    (entries.insertionSort (rankedLe key rank)).Pairwise (rankedLe key rank) := by
  have total : Std.Total (rankedLe key rank) := ⟨fun first second => le_total _ _⟩
  have trans : IsTrans Entry (rankedLe key rank) := ⟨fun _ _ _ first second => le_trans first second⟩
  exact List.pairwise_insertionSort _ entries

def UnstableSort.ranked (key : Entry → Key) (rank : Entry → Nat) : UnstableSort key where
  sort := List.insertionSort (rankedLe key rank)
  perm := List.perm_insertionSort _
  sorted := fun entries => (sorted_rankedLe key rank entries).imp fun order =>
    (rankedLe_iff.mp order).elim le_of_lt fun tie => tie.1.le

variable (depth : Entry → Nat) (parent : Entry → Entry → Prop)

def nearest (before : List Entry) (entry : Entry) : Option Entry :=
  before.reverse.find? fun line => depth line + 1 == depth entry

def Rendered (listing : List Entry) : Prop :=
  ∀ before entry after, listing = before ++ entry :: after → depth entry ≠ 0 →
    ∃ above, nearest depth before entry = some above ∧ parent above entry

structure Branches (entries : List Entry) : Prop where
  nodup : entries.Nodup
  above : ∀ entry ∈ entries, depth entry ≠ 0 → ∃ above ∈ entries, parent above entry
  unique : ∀ first ∈ entries, ∀ second ∈ entries, ∀ entry,
    parent first entry → parent second entry → first = second
  deeper : ∀ above ∈ entries, ∀ entry ∈ entries, parent above entry →
    depth above + 1 = depth entry

def Apart (key : Entry → Key) (entries : List Entry) : Prop :=
  ∀ entry ∈ entries, ∀ above ∈ entries, parent above entry →
    key above < key entry ∧
      ∀ other ∈ entries, depth other = depth above → other ≠ above →
        key other < key above ∨ key entry < key other

variable {depth parent}

theorem nearest_iff {before : List Entry} {entry above : Entry} :
    nearest depth before entry = some above ↔
      depth above + 1 = depth entry ∧ ∃ front back, before = front ++ above :: back ∧
        ∀ line ∈ back, depth line + 1 ≠ depth entry := by
  rw [nearest, List.find?_eq_some_iff_append, beq_iff_eq]
  refine and_congr_right fun _ => ?_
  constructor
  · rintro ⟨back, front, reversed, passed⟩
    refine ⟨front.reverse, back.reverse, ?_, fun line among => ?_⟩
    · simpa using congrArg List.reverse reversed
    · simpa using passed line (List.mem_reverse.mp among)
  · rintro ⟨front, back, rfl, passed⟩
    refine ⟨back.reverse, front.reverse, by simp, fun line among => ?_⟩
    simpa using passed line (List.mem_reverse.mp among)

theorem mem_before {r : Entry → Entry → Prop} {listing before after : List Entry}
    {entry other : Entry} (sorted : listing.Pairwise r) (split : listing = before ++ entry :: after)
    (member : other ∈ listing) (differs : other ≠ entry) (order : ¬r entry other) :
    other ∈ before := by
  rw [split] at member sorted
  rcases List.mem_append.mp member with earlier | later
  · exact earlier
  · rcases List.mem_cons.mp later with same | after
    · exact absurd same differs
    · exact absurd (List.rel_of_pairwise_cons (List.pairwise_append.mp sorted).2.1 after) order

variable {key : Entry → Key} {entries : List Entry}

theorem rendered_of_apart (branches : Branches depth parent entries)
    (apart : Apart depth parent key entries) {listing : List Entry} (perm : listing.Perm entries)
    (sorted : listing.Pairwise fun first second => key first ≤ key second) :
    Rendered depth parent listing := by
  intro before entry after split nested
  have unique : listing.Nodup := perm.nodup_iff.mpr branches.nodup
  have member : entry ∈ listing := by simp [split]
  obtain ⟨above, among, owns⟩ := branches.above entry (perm.mem_iff.mp member) nested
  have ⟨below, clear⟩ := apart entry (perm.mem_iff.mp member) above among owns
  have deeper := branches.deeper above among entry (perm.mem_iff.mp member) owns
  have differs : above ≠ entry := by
    rintro rfl
    exact lt_irrefl _ below
  have first := mem_before sorted split (perm.mem_iff.mpr among) differs (not_le.mpr below)
  obtain ⟨front, back, rfl⟩ := List.append_of_mem first
  refine ⟨above, nearest_iff.mpr ⟨deeper, front, back, rfl, fun other between level => ?_⟩, owns⟩
  have shape : listing = front ++ above :: (back ++ entry :: after) := by simp [split]
  have placed : other ∈ listing := by
    rw [shape]
    exact List.mem_append_right _ (List.mem_cons_of_mem _ (List.mem_append_left _ between))
  have apartFrom : other ≠ above := by
    rintro rfl
    rw [shape] at unique
    have tail := (List.nodup_append.mp unique).2.1
    exact (List.nodup_cons.mp tail).1 (List.mem_append_left _ between)
  -- The line between the two has a key from the one to the other.
  rw [shape] at sorted
  have tail := (List.pairwise_append.mp sorted).2.1
  have lower := List.rel_of_pairwise_cons tail (List.mem_append_left _ between)
  have upper := (List.pairwise_append.mp (List.pairwise_cons.mp tail).2).2.2 other between entry
    List.mem_cons_self
  rcases clear other (perm.mem_iff.mp placed) (by omega) apartFrom with under | clears
  · exact absurd lower (not_le.mpr under)
  · exact absurd upper (not_le.mpr clears)

theorem misplaced_parent (branches : Branches depth parent entries) {entry above : Entry}
    (member : entry ∈ entries) (among : above ∈ entries) (owns : parent above entry)
    (order : ¬key above < key entry) :
    ∃ rank, ∀ listing, listing.Perm entries → listing.Pairwise (rankedLe key rank) →
      ¬Rendered depth parent listing := by
  classical
  refine ⟨fun other => if other = entry then 0 else 1, fun listing perm sorted rendered => ?_⟩
  have deeper := branches.deeper above among entry member owns
  have differs : above ≠ entry := by
    rintro rfl
    omega
  obtain ⟨before, after, split⟩ := List.append_of_mem (perm.mem_iff.mpr member)
  obtain ⟨found, last, shown⟩ := rendered before entry after split (by omega)
  obtain ⟨-, front, back, rfl, -⟩ := nearest_iff.mp last
  have listed : found ∈ entries := perm.mem_iff.mp (by simp [split])
  obtain rfl := branches.unique found listed above among entry shown owns
  rw [split] at sorted
  have early := (List.pairwise_append.mp sorted).2.2 found (by simp) entry List.mem_cons_self
  simp only [rankedLe_iff, if_neg differs, if_true] at early
  rcases early with lower | tie
  · exact order lower
  · omega

theorem misplaced_other (branches : Branches depth parent entries) {entry above other : Entry}
    (member : entry ∈ entries) (among : above ∈ entries) (owns : parent above entry)
    (present : other ∈ entries) (level : depth other = depth above) (differs : other ≠ above)
    (lower : key above ≤ key other) (upper : key other ≤ key entry) :
    ∃ rank, ∀ listing, listing.Perm entries → listing.Pairwise (rankedLe key rank) →
      ¬Rendered depth parent listing := by
  classical
  refine ⟨fun line => if line = above then 0 else if line = other then 1 else 2,
    fun listing perm sorted rendered => ?_⟩
  have deeper := branches.deeper above among entry member owns
  have apartFrom : entry ≠ above := by
    rintro rfl
    omega
  have beyond : entry ≠ other := by
    rintro rfl
    omega
  obtain ⟨before, after, split⟩ := List.append_of_mem (perm.mem_iff.mpr member)
  obtain ⟨found, last, shown⟩ := rendered before entry after split (by omega)
  obtain ⟨-, front, back, rfl, passed⟩ := nearest_iff.mp last
  have listed : found ∈ entries := perm.mem_iff.mp (by simp [split])
  obtain rfl := branches.unique found listed above among entry shown owns
  have early : other ∈ front ++ found :: back := by
    apply mem_before sorted split (perm.mem_iff.mpr present) beyond.symm
    simp only [rankedLe_iff, if_neg apartFrom, if_neg beyond, if_neg differs, if_true]
    rintro (under | tie)
    · exact absurd upper (not_le.mpr under)
    · omega
  have first : other ∈ front := by
    rcases List.mem_append.mp early with first | rest
    · exact first
    · rcases List.mem_cons.mp rest with same | between
      · exact absurd same differs
      · exact absurd (by omega) (passed other between)
  rw [split, List.append_assoc] at sorted
  have order := (List.pairwise_append.mp sorted).2.2 other first found (by simp)
  simp only [rankedLe_iff, if_neg differs, if_true] at order
  rcases order with under | tie
  · exact absurd lower (not_le.mpr under)
  · omega

theorem ranked_rendered_iff_apart (branches : Branches depth parent entries) :
    (∀ rank, ∃ listing, listing.Perm entries ∧ listing.Pairwise (rankedLe key rank) ∧
      Rendered depth parent listing) ↔ Apart depth parent key entries := by
  constructor
  · intro every entry member above among owns
    have misplaced : ¬∃ rank, ∀ listing, listing.Perm entries →
        listing.Pairwise (rankedLe key rank) → ¬Rendered depth parent listing := by
      rintro ⟨rank, never⟩
      obtain ⟨listing, perm, sorted, rendered⟩ := every rank
      exact never listing perm sorted rendered
    constructor
    · by_contra order
      exact misplaced (misplaced_parent branches member among owns order)
    · intro other present level differs
      by_contra between
      rw [not_or, not_lt, not_lt] at between
      exact misplaced (misplaced_other branches member among owns present level differs
        between.1 between.2)
  · intro apart rank
    have perm := List.perm_insertionSort (rankedLe key rank) entries
    have sorted := sorted_rankedLe key rank entries
    refine ⟨_, perm, sorted, rendered_of_apart branches apart perm (sorted.imp fun order => ?_)⟩
    exact (rankedLe_iff.mp order).elim le_of_lt fun tie => tie.1.le

section Lexicographic

variable {A : Type} [LinearOrder A]

theorem prefix_of_between {first other continued : List A} (lower : ¬other < first)
    (upper : ¬first ++ continued < other) :
    ∃ rest, other = first ++ rest ∧ ¬continued < rest := by
  induction first generalizing other with
  | nil => exact ⟨other, rfl, upper⟩
  | cons a first ih =>
    cases other with
    | nil => exact absurd (List.nil_lt_cons a first) lower
    | cons b other =>
      rw [List.cons_append, List.cons_lt_cons_iff, not_or, not_and] at upper
      rw [List.cons_lt_cons_iff, not_or, not_and] at lower
      obtain rfl : a = b := le_antisymm (not_lt.mp lower.1) (not_lt.mp upper.1)
      obtain ⟨rest, rfl, within⟩ := ih (lower.2 rfl) (upper.2 rfl)
      exact ⟨rest, rfl, within⟩

theorem append_lt_append_iff (first : List A) {second third : List A} :
    first ++ second < first ++ third ↔ second < third := by
  induction first with
  | nil => rfl
  | cons a first ih => simpa using ih

end Lexicographic

end OpenJax.Shared
