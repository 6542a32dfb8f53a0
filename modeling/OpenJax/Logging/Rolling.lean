import Mathlib.Data.List.Lex
import Mathlib.Data.List.Sort
import OpenJax.Logging.Timestamps
import OpenJax.Shared.Machine
import OpenJax.Shared.OsPath
import OpenJax.Shared.Rows
import OpenJax.Shared.TextLines

set_option autoImplicit false

namespace OpenJax.Logging

open OpenJax.Shared

abbrev LogDir := Table (List Char) (List (List Char))

def fileName (path : OsPath) : Option (List Char) :=
  match (OsPath.trimmed path.steps).getLast? with
  | some (.name name) => some name.toList
  | _ => none

def fileStem (name : List Char) : List Char :=
  match name.reverse.dropWhile fun c => c ≠ '.' with
  | [] | [_] => name
  | _ :: stem => stem.reverse

structure RollingFileWriter where
  logFileName : List Char
  maxLines : Nat
  maxArchives : Nat
  deriving DecidableEq

namespace RollingFileWriter

def archivePrefix (writer : RollingFileWriter) : List Char :=
  (((fileName (.parse (String.ofList writer.logFileName))).map fileStem).filter
    fun stem => stem ≠ []).getD "openjax".toList

def nameWith (writer : RollingFileWriter) (timestamp : List Char) : List Char :=
  writer.archivePrefix ++ '.' :: (timestamp ++ ".log".toList)

def archiveName (writer : RollingFileWriter) (unixSecs : UInt64) : List Char :=
  writer.nameWith (chronoLikeFormat unixSecs.toNat)

def isArchive (writer : RollingFileWriter) (name : List Char) : Bool :=
  (writer.archivePrefix ++ ['.']).isPrefixOf name && ".log".toList.isSuffixOf name &&
    name != writer.logFileName

def archives (writer : RollingFileWriter) (files : LogDir) : List (List Char) :=
  (files.keys.filter writer.isArchive).insertionSort (· ≤ ·)

def removeOldest (maxArchives : Nat) (files : LogDir) : List (List Char) → LogDir
  | [] => files
  | old :: rest =>
      if maxArchives < (old :: rest).length then removeOldest maxArchives (files.erase old) rest
      else files

def cleanupOldArchives (writer : RollingFileWriter) (files : LogDir) : LogDir :=
  removeOldest writer.maxArchives files (writer.archives files)

end RollingFileWriter

structure Rotation where
  unixSecs : UInt64
  events : List (List Char)
  deriving DecidableEq

structure Log where
  files : LogDir
  lineCount : Nat
  written : List (List Char)
  rotated : List Rotation

namespace RollingFileWriter

variable (writer : RollingFileWriter)

def current (files : LogDir) : List (List Char) := (files.lookup writer.logFileName).getD []

def countFileLines (files : LogDir) : Nat := (textLines (writer.current files).flatten).length

def start (files : LogDir) : Log where
  files := files
  lineCount := writer.countFileLines files
  written := writer.current files
  rotated := []

def rename (files : LogDir) (archive : List Char) (events : List (List Char)) : LogDir :=
  (files.erase writer.logFileName).insert archive events

def rotate (log : Log) (unixSecs : UInt64) : Log :=
  match log.files.lookup writer.logFileName with
  | none => log
  | some events =>
      { log with
        files := writer.cleanupOldArchives
          (writer.rename log.files (writer.archiveName unixSecs) events)
        lineCount := 0
        rotated := log.rotated ++ [⟨unixSecs, events⟩] }

def makeWriter (log : Log) (unixSecs : UInt64) : Log :=
  let rotated := if writer.maxLines ≤ log.lineCount then writer.rotate log unixSecs else log
  { rotated with lineCount := rotated.lineCount + 1 }

def append (log : Log) (event : List Char) : Log :=
  { log with
    files := log.files.insert writer.logFileName (writer.current log.files ++ [event])
    written := log.written ++ [event] }

end RollingFileWriter

inductive Action where
  | create
  | event (unixSecs : UInt64) (text : List Char)
  deriving DecidableEq

def step (writer : RollingFileWriter) (log : Log) : Action → Option Log
  | .create => some { log with lineCount := writer.countFileLines log.files }
  | .event unixSecs text => some (writer.append (writer.makeWriter log unixSecs) text)

namespace RollingFileWriter

variable (writer : RollingFileWriter)

def kept (log : Log) : List Rotation := log.rotated.rtake writer.maxArchives

def retained (files : LogDir) : List (List Char) :=
  (writer.archives files).flatMap (fun name => (files.lookup name).getD []) ++ writer.current files

/-- Every rotation is at a time that sorts after those of the archives that are still there. -/
def Dated (log : Log) : Action → Prop
  | .create => True
  | .event unixSecs _ => writer.maxLines ≤ log.lineCount →
      ∀ rotation ∈ writer.kept log, SortsAfter rotation.unixSecs.toNat unixSecs.toNat

instance (log : Log) : (action : Action) → Decidable (writer.Dated log action)
  | .create => inferInstanceAs (Decidable True)
  | .event unixSecs _ => inferInstanceAs (Decidable (writer.maxLines ≤ log.lineCount →
      ∀ rotation ∈ writer.kept log, SortsAfter rotation.unixSecs.toNat unixSecs.toNat))

end RollingFileWriter

def Action.time? : Action → Option UInt64
  | .create => none
  | .event unixSecs _ => some unixSecs

/-- The archives are the newest of all, each with its own events, in the order of their age, and
with the log file they hold the last of what was written. -/
structure Retained (writer : RollingFileWriter) (log : Log) : Prop where
  newest : writer.archives log.files =
    (writer.kept log).map fun rotation => writer.archiveName rotation.unixSecs
  own : ∀ rotation ∈ writer.kept log,
    log.files.lookup (writer.archiveName rotation.unixSecs) = some rotation.events
  few : (writer.archives log.files).length ≤ writer.maxArchives
  suffix : writer.retained log.files <:+ log.written

theorem fileStem_append {front : List Char} (inhabited : front ≠ []) :
    fileStem (front ++ ".log".toList) = front := by
  have reversed : (front ++ ".log".toList).reverse.dropWhile (fun c => c ≠ '.') =
      '.' :: front.reverse := by
    rw [List.reverse_append]
    rfl
  rw [fileStem, reversed]
  cases shape : front.reverse with
  | nil => exact absurd (List.reverse_eq_nil_iff.mp shape) inhabited
  | cons c rest =>
    change (c :: rest).reverse = front
    rw [← shape, List.reverse_reverse]

theorem fileStem_sublist (name : List Char) : (fileStem name).Sublist name := by
  rw [fileStem]
  split
  · exact List.Sublist.refl name
  · exact List.Sublist.refl name
  next dot stem _ shape =>
    have kept : (dot :: stem).Sublist name.reverse := shape ▸ List.dropWhile_sublist _
    simpa using ((List.sublist_cons_self dot stem).trans kept).reverse

theorem fileName_plain {name : List Char} (plain : '/' ∉ name) (inhabited : name ≠ [])
    (notCurrent : name ≠ ['.']) (notParent : name ≠ ['.', '.']) :
    fileName (.parse (String.ofList name)) = some name := by
  have shown : String.ofList name ≠ "" := fun empty => inhabited (by simpa using empty)
  have segment : PathStep.ofSegment name = .name (String.ofList name) := by
    simp [PathStep.ofSegment, inhabited, notCurrent, notParent]
  have steps : (OsPath.parse (String.ofList name)).steps = [.name (String.ofList name)] := by
    rw [OsPath.parse, if_neg shown, String.toList_ofList, splitBy_plain plain, List.map_singleton,
      segment]
  have moves : OsPath.trimmed [.name (String.ofList name)] = [.name (String.ofList name)] := rfl
  rw [fileName, steps, moves]
  simp

theorem separator_notMem_fileName {text : List Char} {name : List Char}
    (found : fileName (.parse (String.ofList text)) = some name) : '/' ∉ name := by
  rw [fileName] at found
  split at found
  next last shape =>
    cases found
    have member : PathStep.name last ∈ (OsPath.parse (String.ofList text)).steps :=
      (List.rdropWhile_prefix _ _).subset (List.mem_of_getLast? shape)
    rw [OsPath.parse] at member
    split_ifs at member
    · simp at member
    · rw [String.toList_ofList] at member
      obtain ⟨segment, among, same⟩ := List.mem_map.mp member
      have absent := notMem_of_mem_splitBy among
      rw [PathStep.ofSegment] at same
      split_ifs at same
      obtain rfl := PathStep.name.inj same
      rwa [String.toList_ofList]
  · exact absurd found (by simp)

namespace RollingFileWriter

variable (writer : RollingFileWriter)

theorem separator_notMem_archivePrefix : '/' ∉ writer.archivePrefix := by
  rw [archivePrefix]
  cases found : fileName (.parse (String.ofList writer.logFileName)) with
  | none => decide
  | some name =>
    have absent : '/' ∉ fileStem name := fun member =>
      separator_notMem_fileName found ((fileStem_sublist name).subset member)
    rw [Option.map_some, Option.filter_some]
    split_ifs
    · exact absent
    · decide

theorem nameWith_ne {timestamp : List Char} (plain : '/' ∉ timestamp) :
    writer.nameWith timestamp ≠ writer.logFileName := by
  intro same
  have absent : '/' ∉ writer.nameWith timestamp := by
    simp [nameWith, writer.separator_notMem_archivePrefix, plain]
  have shape : writer.nameWith timestamp =
      (writer.archivePrefix ++ '.' :: timestamp) ++ ".log".toList := by
    simp [nameWith]
  have long : 4 < (writer.nameWith timestamp).length := by
    simp [nameWith]
    omega
  have ne_of_short (name : List Char) (short : name.length ≤ 4) :
      writer.nameWith timestamp ≠ name := by
    rintro rfl
    omega
  have named := fileName_plain absent (ne_of_short _ (by decide)) (ne_of_short _ (by decide))
    (ne_of_short _ (by decide))
  have stem : fileStem (writer.nameWith timestamp) = writer.archivePrefix ++ '.' :: timestamp := by
    rw [shape, fileStem_append (by simp)]
  have own : writer.archivePrefix = writer.archivePrefix ++ '.' :: timestamp := by
    conv_lhs => rw [archivePrefix, ← same, named]
    rw [Option.map_some, stem, Option.filter_some, if_pos (by simp), Option.getD_some]
  have lengths := congrArg List.length own
  rw [List.length_append, List.length_cons] at lengths
  omega

theorem isArchive_nameWith {timestamp : List Char} (plain : '/' ∉ timestamp) :
    writer.isArchive (writer.nameWith timestamp) = true := by
  have begins : (writer.archivePrefix ++ ['.']).isPrefixOf (writer.nameWith timestamp) = true :=
    List.isPrefixOf_iff_prefix.mpr ⟨timestamp ++ ".log".toList, by simp [nameWith]⟩
  have ends : ".log".toList.isSuffixOf (writer.nameWith timestamp) = true :=
    List.isSuffixOf_iff_suffix.mpr ⟨writer.archivePrefix ++ '.' :: timestamp, by simp [nameWith]⟩
  rw [isArchive, begins, ends]
  simpa using writer.nameWith_ne plain

theorem archiveName_ne (unixSecs : UInt64) : writer.archiveName unixSecs ≠ writer.logFileName :=
  writer.nameWith_ne (separator_notMem_chronoLikeFormat _)

theorem isArchive_archiveName (unixSecs : UInt64) :
    writer.isArchive (writer.archiveName unixSecs) = true :=
  writer.isArchive_nameWith (separator_notMem_chronoLikeFormat _)

theorem not_isArchive_logFileName : writer.isArchive writer.logFileName = false := by
  simp [isArchive]

theorem archiveName_lt {earlier now : UInt64} (later : SortsAfter earlier.toNat now.toNat) :
    writer.archiveName earlier < writer.archiveName now := by
  rw [archiveName, archiveName, nameWith, nameWith, append_lt_append_iff, List.cons_lt_cons_iff]
  exact .inr ⟨rfl, chronoLikeFormat_append_lt now.toNat_lt later _ _⟩

theorem lookup_removeOldest (maxArchives : Nat) (files : LogDir) (names : List (List Char))
    (name : List Char) :
    (removeOldest maxArchives files names).lookup name =
      if name ∈ names.take (names.length - maxArchives) then none else files.lookup name := by
  induction names generalizing files with
  | nil => simp [removeOldest]
  | cons old rest ih =>
    rw [removeOldest]
    by_cases full : maxArchives < (old :: rest).length
    · have count : (old :: rest).length - maxArchives = (rest.length - maxArchives) + 1 := by
        rw [List.length_cons] at full ⊢
        omega
      rw [if_pos full, ih, Table.lookup_erase_eq, count, List.take_succ_cons]
      by_cases same : name = old <;> simp [same]
    · have count : (old :: rest).length - maxArchives = 0 := by omega
      rw [if_neg full, count, List.take_zero, if_neg List.not_mem_nil]

variable {names : List (List Char)} {files : LogDir}

theorem archives_eq (ordered : names.Pairwise (· < ·))
    (present : ∀ name, name ∈ names ↔ name ∈ files ∧ writer.isArchive name = true) :
    writer.archives files = names := by
  have listed : (files.keys.filter writer.isArchive).Nodup := files.keys_nodup.filter _
  have same : (files.keys.filter writer.isArchive).Perm names := by
    refine (List.perm_ext_iff_of_nodup listed (ordered.imp ne_of_lt)).mpr fun name => ?_
    rw [List.mem_filter, present]
    rfl
  exact ((List.perm_insertionSort _ _).trans same).eq_of_pairwise' (List.pairwise_insertionSort _ _)
    (ordered.imp le_of_lt)

theorem lookup_cleanupOldArchives (ordered : names.Pairwise (· < ·))
    (present : ∀ name, name ∈ names ↔ name ∈ files ∧ writer.isArchive name = true)
    (name : List Char) :
    (writer.cleanupOldArchives files).lookup name =
      if name ∈ names ∧ name ∉ names.rtake writer.maxArchives then none
      else files.lookup name := by
  have split : name ∈ names.take (names.length - writer.maxArchives) ↔
      name ∈ names ∧ name ∉ names.rtake writer.maxArchives := by
    have distinct : names.Nodup := ordered.imp ne_of_lt
    rw [← List.take_append_drop (names.length - writer.maxArchives) names] at distinct
    constructor
    · intro early
      exact ⟨List.mem_of_mem_take early, fun late => (List.nodup_append.mp distinct).2.2 name early
        name late rfl⟩
    · rintro ⟨member, early⟩
      rw [← List.take_append_drop (names.length - writer.maxArchives) names] at member
      exact (List.mem_append.mp member).resolve_right early
  rw [cleanupOldArchives, writer.archives_eq ordered present, lookup_removeOldest]
  simp only [split]

theorem present_cleanupOldArchives (ordered : names.Pairwise (· < ·))
    (present : ∀ name, name ∈ names ↔ name ∈ files ∧ writer.isArchive name = true)
    (name : List Char) :
    name ∈ names.rtake writer.maxArchives ↔
      name ∈ writer.cleanupOldArchives files ∧ writer.isArchive name = true := by
  have listed : name ∈ names.rtake writer.maxArchives → name ∈ names :=
    fun late => List.mem_of_mem_drop late
  rw [← AList.lookup_isSome, writer.lookup_cleanupOldArchives ordered present]
  split_ifs with removed
  · simp [removed.2]
  · rw [AList.lookup_isSome, ← present]
    exact ⟨listed, fun member => by_contra fun early => removed ⟨member, early⟩⟩

def keptNames (log : Log) : List (List Char) :=
  (writer.kept log).map fun rotation => writer.archiveName rotation.unixSecs

structure Holds (log : Log) : Prop where
  present : ∀ name, name ∈ writer.keptNames log ↔
    name ∈ log.files ∧ writer.isArchive name = true
  own : ∀ rotation ∈ writer.kept log,
    log.files.lookup (writer.archiveName rotation.unixSecs) = some rotation.events
  ordered : (writer.keptNames log).Pairwise (· < ·)
  whole : log.rotated.flatMap Rotation.events ++ writer.current log.files = log.written

variable {writer} {log : Log}

theorem Holds.append (holds : writer.Holds log) (event : List Char) :
    writer.Holds (writer.append log event) where
  present := by
    intro name
    change name ∈ writer.keptNames log ↔ name ∈ log.files.insert _ _ ∧ _
    rw [holds.present, AList.mem_insert]
    constructor
    · exact fun ⟨among, archive⟩ => ⟨.inr among, archive⟩
    · rintro ⟨rfl | among, archive⟩
      · exact absurd archive (by simp [not_isArchive_logFileName])
      · exact ⟨among, archive⟩
  own := by
    intro rotation member
    change (log.files.insert _ _).lookup _ = _
    rw [Table.lookup_insert_eq, if_neg (writer.archiveName_ne _), holds.own rotation member]
  ordered := holds.ordered
  whole := by
    change _ ++ writer.current (log.files.insert _ _) = log.written ++ [event]
    rw [current, Table.lookup_insert_eq, if_pos rfl, Option.getD_some, ← holds.whole,
      List.append_assoc]
    rfl

theorem rtake_concat {α : Type} (entries : List α) (last : α) (count : Nat) :
    (entries ++ [last]).rtake count = (entries.rtake count ++ [last]).rtake count := by
  cases count with
  | zero => simp
  | succ count =>
    rw [List.rtake_concat_succ, List.rtake_concat_succ]
    simp only [List.rtake_eq_reverse_take_reverse, List.reverse_reverse, List.take_take]
    rw [Nat.min_eq_left (Nat.le_succ count)]

theorem rtake_map {α β : Type} (f : α → β) (entries : List α) (count : Nat) :
    (entries.map f).rtake count = (entries.rtake count).map f := by
  rw [List.rtake, List.rtake, List.map_drop, List.length_map]

variable {unixSecs : UInt64}

theorem Holds.names_ordered (holds : writer.Holds log)
    (later : ∀ rotation ∈ writer.kept log, SortsAfter rotation.unixSecs.toNat unixSecs.toNat) :
    (writer.keptNames log ++ [writer.archiveName unixSecs]).Pairwise (· < ·) := by
  rw [List.pairwise_append]
  refine ⟨holds.ordered, List.pairwise_singleton _ _, fun name member other last => ?_⟩
  obtain ⟨rotation, kept, rfl⟩ := List.mem_map.mp member
  rw [List.mem_singleton.mp last]
  exact writer.archiveName_lt (later rotation kept)

theorem Holds.unused (holds : writer.Holds log)
    (later : ∀ rotation ∈ writer.kept log, SortsAfter rotation.unixSecs.toNat unixSecs.toNat) :
    log.files.lookup (writer.archiveName unixSecs) = none := by
  rw [AList.lookup_eq_none]
  intro used
  have member := (holds.present _).mpr ⟨used, writer.isArchive_archiveName unixSecs⟩
  have ordered := (List.pairwise_append.mp (holds.names_ordered later)).2.2
  exact lt_irrefl _ (ordered _ member _ (List.mem_singleton.mpr rfl))

theorem Holds.present_rename (holds : writer.Holds log) (unixSecs : UInt64)
    (events : List (List Char)) (name : List Char) :
    name ∈ writer.keptNames log ++ [writer.archiveName unixSecs] ↔
      name ∈ writer.rename log.files (writer.archiveName unixSecs) events ∧
        writer.isArchive name = true := by
  rw [RollingFileWriter.rename, AList.mem_insert, AList.mem_erase, List.mem_append,
    List.mem_singleton, holds.present]
  constructor
  · rintro (⟨among, archive⟩ | rfl)
    · refine ⟨.inr ⟨?_, among⟩, archive⟩
      rintro rfl
      exact absurd archive (by simp [not_isArchive_logFileName])
    · exact ⟨.inl rfl, writer.isArchive_archiveName _⟩
  · rintro ⟨rfl | ⟨-, among⟩, archive⟩
    · exact .inr rfl
    · exact .inl ⟨among, archive⟩

theorem Holds.own_rename (holds : writer.Holds log)
    (later : ∀ rotation ∈ writer.kept log, SortsAfter rotation.unixSecs.toNat unixSecs.toNat)
    (events : List (List Char)) {rotation : Rotation}
    (member : rotation ∈ writer.kept log ++ [⟨unixSecs, events⟩]) :
    (writer.rename log.files (writer.archiveName unixSecs) events).lookup
      (writer.archiveName rotation.unixSecs) = some rotation.events := by
  rw [RollingFileWriter.rename, Table.lookup_insert_eq]
  rcases List.mem_append.mp member with earlier | last
  · have less := writer.archiveName_lt (later rotation earlier)
    rw [if_neg less.ne, Table.lookup_erase_eq, if_neg (writer.archiveName_ne _)]
    exact holds.own rotation earlier
  · rw [List.mem_singleton.mp last, if_pos rfl]

theorem keptNames_concat {next : Log} {rotation : Rotation}
    (recorded : next.rotated = log.rotated ++ [rotation]) :
    writer.keptNames next =
      (writer.keptNames log ++ [writer.archiveName rotation.unixSecs]).rtake writer.maxArchives := by
  rw [keptNames, kept, recorded, rtake_concat, ← rtake_map, List.map_append]
  rfl

theorem Holds.rotated (holds : writer.Holds log)
    (later : ∀ rotation ∈ writer.kept log, SortsAfter rotation.unixSecs.toNat unixSecs.toNat)
    {events : List (List Char)} (found : log.files.lookup writer.logFileName = some events)
    {next : Log} (recorded : next.rotated = log.rotated ++ [⟨unixSecs, events⟩])
    (files : next.files = writer.cleanupOldArchives
      (writer.rename log.files (writer.archiveName unixSecs) events))
    (written : next.written = log.written) : writer.Holds next := by
  have ordered := holds.names_ordered later
  have present := holds.present_rename unixSecs events
  have cleaned := writer.lookup_cleanupOldArchives ordered present
  have names : writer.keptNames next = _ := keptNames_concat recorded
  refine ⟨fun name => ?_, fun rotation member => ?_, ?_, ?_⟩
  · rw [names, files]
    exact writer.present_cleanupOldArchives ordered present name
  · have among : writer.archiveName rotation.unixSecs ∈ writer.keptNames next :=
      List.mem_map_of_mem member
    have kept : rotation ∈ writer.kept log ++ [⟨unixSecs, events⟩] := by
      rw [RollingFileWriter.kept, recorded, rtake_concat] at member
      exact List.mem_of_mem_drop member
    rw [names] at among
    rw [files, cleaned, if_neg fun removed => removed.2 among]
    exact holds.own_rename later events kept
  · rw [names]
    exact ordered.sublist (List.drop_sublist _ _)
  · have absent : next.files.lookup writer.logFileName = none := by
      rw [files, cleaned, RollingFileWriter.rename, Table.lookup_insert_eq,
        if_neg (writer.archiveName_ne _).symm, Table.lookup_erase_eq, if_pos rfl, ite_self]
    rw [recorded, written, current, absent, ← holds.whole, current, found]
    simp

theorem Holds.rotate (holds : writer.Holds log)
    (later : ∀ rotation ∈ writer.kept log, SortsAfter rotation.unixSecs.toNat unixSecs.toNat) :
    writer.Holds (writer.rotate log unixSecs) := by
  rw [RollingFileWriter.rotate]
  cases found : log.files.lookup writer.logFileName with
  | none => exact holds
  | some events => exact holds.rotated later found rfl rfl rfl

theorem Holds.counted (holds : writer.Holds log) (lineCount : Nat) :
    writer.Holds { log with lineCount := lineCount } :=
  ⟨holds.present, holds.own, holds.ordered, holds.whole⟩

theorem step_holds : Preserves (step writer) writer.Dated writer.Holds := by
  intro log action next holds dated stepped
  cases action with
  | create =>
    cases stepped
    exact holds.counted _
  | event unixSecs text =>
    cases stepped
    refine Holds.append ?_ text
    rw [makeWriter]
    by_cases full : writer.maxLines ≤ log.lineCount
    · simp only [if_pos full]
      exact (holds.rotate (dated full)).counted _
    · simp only [if_neg full]
      exact holds.counted _

theorem start_holds (fresh : ∀ name, name ∈ files → writer.isArchive name = false) :
    writer.Holds (writer.start files) where
  present := by
    intro name
    constructor
    · simp [keptNames, kept, start]
    · rintro ⟨among, archive⟩
      exact absurd archive (by simp [fresh name among])
  own := by simp [kept, start]
  ordered := by simp [keptNames, kept, start]
  whole := rfl

theorem Holds.retained (holds : writer.Holds log) : Retained writer log where
  newest := writer.archives_eq holds.ordered holds.present
  own := holds.own
  few := by
    rw [writer.archives_eq holds.ordered holds.present, keptNames, List.length_map, kept,
      List.rtake, List.length_drop]
    omega
  suffix := by
    have contents : (writer.archives log.files).flatMap (fun name =>
        (log.files.lookup name).getD []) = (writer.kept log).flatMap Rotation.events := by
      rw [writer.archives_eq holds.ordered holds.present, keptNames, List.flatMap_map]
      exact List.flatMap_congr fun rotation member => by rw [holds.own rotation member]; rfl
    rw [RollingFileWriter.retained, contents, ← holds.whole]
    have split := List.take_append_drop (log.rotated.length - writer.maxArchives) log.rotated
    conv_rhs => rw [← split, List.flatMap_append, List.append_assoc]
    exact List.suffix_append _ _

end RollingFileWriter

theorem rotation_within_second_overwrites :
    ¬∀ (writer : RollingFileWriter) (files : LogDir) (actions : List Action) (log : Log),
      (∀ name, name ∈ files → writer.isArchive name = false) → 1 ≤ writer.maxLines →
      (actions.filterMap Action.time?).Pairwise (· ≤ ·) →
      run (step writer) (writer.start files) actions = some log → Retained writer log := by
  intro all
  let writer : RollingFileWriter := ⟨"openjax.log".toList, 1, 4⟩
  let actions : List Action := [.event 1000000000 ['a'], .event 1000000001 ['b'],
    .event 1000000002 ['c'], .event 1000000002 ['d']]
  have shown : (run (step writer) (writer.start ∅) actions).map
      (fun log => (writer.retained log.files, log.written)) =
        some ([['a'], ['c'], ['d']], [['a'], ['b'], ['c'], ['d']]) := by
    decide +kernel
  obtain ⟨log, ran, ends⟩ := Option.map_eq_some_iff.mp shown
  have suffix := (all writer ∅ actions log (fun name member => absurd member (AList.notMem_empty _))
    (by decide) (by decide) ran).suffix
  rw [(Prod.mk.inj ends).1, (Prod.mk.inj ends).2] at suffix
  exact absurd suffix (by decide)

/-- Where every rotation is at a time that sorts after those of the archives, no rotation takes
the name of an archive, and the archives are the newest ones. -/
theorem dated_rotations_retain (writer : RollingFileWriter) (files : LogDir)
    (fresh : ∀ name, name ∈ files → writer.isArchive name = false) (actions : List Action)
    (log : Log) (dated : Meets (step writer) writer.Dated (writer.start files) actions)
    (ran : run (step writer) (writer.start files) actions = some log) :
    Retained writer log ∧ ∀ unixSecs text, writer.Dated log (.event unixSecs text) →
      writer.maxLines ≤ log.lineCount →
      log.files.lookup (writer.archiveName unixSecs) = none := by
  have holds := run_invariant RollingFileWriter.step_holds
    (RollingFileWriter.start_holds fresh) dated ran
  exact ⟨holds.retained, fun unixSecs text later full => holds.unused (later full)⟩

theorem dated_rotations_retain_four : ∃ log,
    run (step ⟨"openjax.log".toList, 1, 2⟩) (RollingFileWriter.start ⟨"openjax.log".toList, 1, 2⟩ ∅)
        [.event 1000000000 ['a'], .event 1000000001 ['b'], .event 1000000002 ['c'],
          .event 1000000003 ['d']] = some log ∧
      Retained ⟨"openjax.log".toList, 1, 2⟩ log ∧
      log.written = [['a'], ['b'], ['c'], ['d']] ∧
      RollingFileWriter.retained ⟨"openjax.log".toList, 1, 2⟩ log.files = [['b'], ['c'], ['d']] := by
  obtain ⟨log, ran, ends⟩ := Option.map_eq_some_iff.mp (show
    (run (step ⟨"openjax.log".toList, 1, 2⟩) (RollingFileWriter.start ⟨"openjax.log".toList, 1, 2⟩ ∅)
        [.event 1000000000 ['a'], .event 1000000001 ['b'], .event 1000000002 ['c'],
          .event 1000000003 ['d']]).map (fun log => (log.written,
            RollingFileWriter.retained ⟨"openjax.log".toList, 1, 2⟩ log.files)) =
      some ([['a'], ['b'], ['c'], ['d']], [['b'], ['c'], ['d']]) by decide +kernel)
  exact ⟨log, ran, (dated_rotations_retain _ _
    (fun name member => absurd member (AList.notMem_empty _)) _ _ (by decide +kernel) ran).1,
    (Prod.mk.inj ends).1, (Prod.mk.inj ends).2⟩

end OpenJax.Logging
