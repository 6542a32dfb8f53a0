import OpenJax.Tools.MatchRanges

set_option autoImplicit false

namespace OpenJax.Tools.DiskUsage

open Shared

structure DiskUsageRecord where
  mountPoint : String
  fsName : String
  totalBytes : UInt64
  availableBytes : UInt64
  deriving DecidableEq, Repr

def startsWith (text start : String) : Bool := start.toList.isPrefixOf text.toList

def mountLength (disk : DiskUsageRecord) : Nat := byteSize disk.mountPoint.toList

def chooseDiskByPath (disks : List DiskUsageRecord) (selectedPath : Bytes) :
    Option DiskUsageRecord :=
  let selected := fromUtf8Lossy selectedPath
  maxBy (compareOn mountLength) (disks.filter fun disk => startsWith selected disk.mountPoint)

def separator : UInt8 := 0x2F

def segments : Bytes → List Bytes
  | [] => [[]]
  | byte :: rest =>
      if byte = separator then [] :: segments rest
      else
        match segments rest with
        | [] => [[byte]]
        | segment :: others => (byte :: segment) :: others

def isNamed (segment : Bytes) : Bool := segment != [] && segment != [0x2E]

/-- The components of an absolute path below its root. -/
def components (path : Bytes) : List Bytes := (segments path).filter isNamed

def mountComponents (disk : DiskUsageRecord) : List Bytes := components (utf8 disk.mountPoint)

/-- The path is the mount point or below it. -/
def Holds (path : Bytes) (disk : DiskUsageRecord) : Prop :=
  mountComponents disk <+: components path

instance (path : Bytes) (disk : DiskUsageRecord) : Decidable (Holds path disk) :=
  inferInstanceAs (Decidable (_ <+: _))

/-- The file system that the path is on is chosen, and none only where there is no such. -/
def Nearest (disks : List DiskUsageRecord) (path : Bytes) : Option DiskUsageRecord → Prop
  | none => ∀ disk ∈ disks, ¬Holds path disk
  | some chosen => (chosen ∈ disks ∧ Holds path chosen) ∧
      ∀ disk ∈ disks, Holds path disk →
        (mountComponents disk).length ≤ (mountComponents chosen).length

def Begins (path : Bytes) (disk : DiskUsageRecord) : Prop :=
  startsWith (fromUtf8Lossy path) disk.mountPoint = true

/-- A mount point whose text begins that of the path although the path is not below it is shorter
than one where both are so; and so, by its components, is one that the path is below without its
text beginning the path's. -/
structure TextsTell (disks : List DiskUsageRecord) (path : Bytes) : Prop where
  misleading : ∀ disk ∈ disks, Begins path disk → ¬Holds path disk →
    ∃ other ∈ disks, (Begins path other ∧ Holds path other) ∧ mountLength disk < mountLength other
  overlooked : ∀ disk ∈ disks, Holds path disk → ¬Begins path disk →
    ∃ other ∈ disks, (Begins path other ∧ Holds path other) ∧
      (mountComponents disk).length ≤ (mountComponents other).length

theorem segments_ne_nil (path : Bytes) : segments path ≠ [] := by
  cases path with
  | nil => simp [segments]
  | cons byte rest =>
    rw [segments]
    split
    · simp
    · split <;> simp

theorem segments_append (path more : Bytes) :
    ∃ front last longer others, segments path = front ++ [last] ∧
      segments (path ++ more) = front ++ longer :: others ∧ last <+: longer := by
  induction path with
  | nil =>
    obtain ⟨longer, others, shape⟩ := List.exists_cons_of_ne_nil (segments_ne_nil more)
    exact ⟨[], [], longer, others, rfl, shape, List.nil_prefix⟩
  | cons byte rest ih =>
    obtain ⟨front, last, longer, others, whole, extended, begins⟩ := ih
    rw [List.cons_append, segments, segments]
    by_cases ends : byte = separator
    · rw [if_pos ends, if_pos ends, whole, extended]
      exact ⟨[] :: front, last, longer, others, rfl, rfl, begins⟩
    · rw [if_neg ends, if_neg ends, whole, extended]
      cases front with
      | nil => exact ⟨[], byte :: last, byte :: longer, others, rfl, rfl, by simpa using begins⟩
      | cons first rest => exact ⟨(byte :: first) :: rest, last, longer, others, rfl, rfl, begins⟩

theorem isNamed_of_prefix {short long : Bytes} (begins : short <+: long)
    (named : isNamed short = true) : isNamed long = true := by
  rw [isNamed, Bool.and_eq_true, bne_iff_ne, bne_iff_ne] at named ⊢
  constructor
  · rintro rfl
    exact named.1 (List.prefix_nil.mp begins)
  · rintro rfl
    obtain ⟨byte, rest, rfl⟩ := List.exists_cons_of_ne_nil named.1
    rw [List.cons_prefix_cons, List.prefix_nil] at begins
    exact named.2 (by rw [begins.1, begins.2])

theorem length_components_le {short long : Bytes} (begins : short <+: long) :
    (components short).length ≤ (components long).length := by
  obtain ⟨more, rfl⟩ := begins
  obtain ⟨front, last, longer, others, whole, extended, ends⟩ := segments_append short more
  rw [components, components, whole, extended, List.filter_append, List.filter_append,
    List.length_append, List.length_append]
  have named := isNamed_of_prefix ends
  cases last_named : isNamed last with
  | false => simp [last_named]
  | true => simp [last_named, named last_named]

theorem prefix_of_byteSize_le {first second text : List Char} (left : first <+: text)
    (right : second <+: text) (shorter : byteSize first ≤ byteSize second) : first <+: second := by
  rcases List.prefix_or_prefix_of_prefix left right with before | after
  · exact before
  · obtain ⟨rest, rfl⟩ := after
    rw [byteSize_append] at shorter
    have none := (byteSize_eq_zero rest).mp (by omega)
    rw [none, List.append_nil]

variable {disks : List DiskUsageRecord} {path : Bytes}

theorem begins_iff {disk : DiskUsageRecord} :
    Begins path disk ↔ disk.mountPoint.toList <+: (fromUtf8Lossy path).toList :=
  List.isPrefixOf_iff_prefix

theorem mountComponents_le {disk other : DiskUsageRecord} (first : Begins path disk)
    (second : Begins path other) (shorter : mountLength disk ≤ mountLength other) :
    (mountComponents disk).length ≤ (mountComponents other).length := by
  have begins := prefix_of_byteSize_le (begins_iff.mp first) (begins_iff.mp second) shorter
  exact length_components_le (InBytes.encoded_prefix_iff.mpr begins)

theorem chooseDiskByPath_some {chosen : DiskUsageRecord}
    (picked : chooseDiskByPath disks path = some chosen) :
    (chosen ∈ disks ∧ Begins path chosen) ∧
      ∀ disk ∈ disks, Begins path disk → mountLength disk ≤ mountLength chosen := by
  have member := maxBy_member _ picked
  have bound := maxBy_bound _ picked
  refine ⟨List.mem_filter.mp member, fun disk among begins => ?_⟩
  have below := bound disk (List.mem_filter.mpr ⟨among, begins⟩)
  rwa [compareOn, Nat.isLE_compare] at below

theorem chooseDiskByPath_none (picked : chooseDiskByPath disks path = none) :
    ∀ disk ∈ disks, ¬Begins path disk := by
  intro disk among begins
  have empty : disks.filter _ = [] := (maxBy_none _ _).mp picked
  exact List.filter_eq_nil_iff.mp empty disk among begins

theorem mountPoint_eq {disk other : DiskUsageRecord} (first : Begins path disk)
    (second : Begins path other) (same : mountLength disk = mountLength other) :
    disk.mountPoint = other.mountPoint := by
  have left := prefix_of_byteSize_le (begins_iff.mp first) (begins_iff.mp second) same.le
  have right := prefix_of_byteSize_le (begins_iff.mp second) (begins_iff.mp first) same.ge
  exact String.toList_inj.mp (left.eq_of_length (left.length_le.antisymm right.length_le))

theorem nearest_iff_textsTell (disks : List DiskUsageRecord) (path : Bytes) :
    Nearest disks path (chooseDiskByPath disks path) ↔ TextsTell disks path := by
  cases picked : chooseDiskByPath disks path with
  | none =>
    have none := chooseDiskByPath_none picked
    constructor
    next =>
      intro nearest
      exact ⟨fun disk among begins _ => absurd begins (none disk among),
        fun disk among holds _ => absurd holds (nearest disk among)⟩
    next =>
      intro tell disk among holds
      obtain ⟨other, present, ⟨begins, -⟩, -⟩ := tell.overlooked disk among holds (none disk among)
      exact none other present begins
  | some chosen =>
    obtain ⟨⟨member, begins⟩, longest⟩ := chooseDiskByPath_some picked
    constructor
    next =>
      rintro ⟨⟨-, holds⟩, nearest⟩
      refine ⟨fun disk among own apart => ⟨chosen, member, ⟨begins, holds⟩, ?_⟩,
        fun disk among own _ => ⟨chosen, member, ⟨begins, holds⟩, nearest disk among own⟩⟩
      refine lt_of_le_of_ne (longest disk among own) fun same => apart ?_
      rw [Holds, mountComponents, mountPoint_eq own begins same]
      exact holds
    next =>
      intro tell
      have holds : Holds path chosen := by
        by_contra apart
        obtain ⟨other, present, ⟨own, -⟩, longer⟩ := tell.misleading chosen member begins apart
        exact absurd (longest other present own) (Nat.not_le.mpr longer)
      refine ⟨⟨member, holds⟩, fun disk among own => ?_⟩
      by_cases first : Begins path disk
      · exact mountComponents_le first begins (longest disk among first)
      · obtain ⟨other, present, ⟨second, -⟩, most⟩ := tell.overlooked disk among own first
        exact most.trans (mountComponents_le second begins (longest other present second))

theorem sibling_mount_chosen :
    ¬∀ (disks : List DiskUsageRecord) (path : Bytes),
      (∀ disk ∈ disks, disk.mountPoint.toList.head? = some '/') →
      (disks.map DiskUsageRecord.mountPoint).Nodup → path.head? = some separator →
      Nearest disks path (chooseDiskByPath disks path) := by
  intro all
  let root : DiskUsageRecord := ⟨"/", "ext4", 100, 50⟩
  let tmp : DiskUsageRecord := ⟨"/tmp", "tmpfs", 80, 30⟩
  have picked : chooseDiskByPath [root, tmp] (utf8 "/tmpfile") = some tmp := by
    rw [chooseDiskByPath, fromUtf8Lossy_utf8]
    decide +kernel
  have nearest := all [root, tmp] (utf8 "/tmpfile") (by decide) (by decide) (by decide)
  rw [picked] at nearest
  exact absurd nearest.1.2 (by decide +kernel)

-- A path below both mount points is on the file system at the longer one.
example : Nearest [⟨"/", "ext4", 100, 50⟩, ⟨"/tmp", "tmpfs", 80, 30⟩] (utf8 "/tmp/a.txt")
    (some ⟨"/tmp", "tmpfs", 80, 30⟩) := by
  refine ⟨⟨by decide, by decide +kernel⟩, ?_⟩
  decide +kernel

end OpenJax.Tools.DiskUsage
