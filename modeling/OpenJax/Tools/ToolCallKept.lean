import Mathlib.Data.List.Induction
import OpenJax.Tools.ToolCallText

set_option autoImplicit false

namespace OpenJax.Tools.TextCall

open Shared

def ReadsAll (items : List (Gap × Item)) : Prop :=
  ∀ earlier gap key before after value later,
    items = earlier ++ (gap, .argument key before after value) :: later →
      ReadsArgument (itemsText items) key before after value (itemsText later)

variable {before after : Spaces}

theorem ReadsArgument.earlier {text rest left : List Char} {key : Word} {value : Value}
    (goes : (argTurn text).rest? = some rest)
    (reads : ReadsArgument rest key before after value left) :
    ReadsArgument text key before after value left := by
  obtain ⟨reached, reaches, place, turn⟩ := reads
  exact ⟨reached, .turn goes reaches, place, turn⟩

theorem ReadsArgument.later {text rest left : List Char} {key : Word} {value : Value}
    (goes : (argTurn text).rest? = some rest)
    (ahead : ((Item.argument key before after value).text ++ left).length < (skipSpaces text).length)
    (reads : ReadsArgument text key before after value left) :
    ReadsArgument rest key before after value left := by
  obtain ⟨reached, reaches, place, turn⟩ := reads
  cases reaches with
  | here =>
    rw [place] at ahead
    exact absurd ahead (Nat.lt_irrefl _)
  | turn other reaches =>
    cases goes.symm.trans other
    exact ⟨reached, reaches, place, turn⟩

theorem not_reads_behind {text left : List Char} {key : Word} {value : Value}
    (behind : text.length < ((Item.argument key before after value).text ++ left).length) :
    ¬ReadsArgument text key before after value left := by
  rintro ⟨reached, reaches, place, -⟩
  have shorter := reaches_shorter reaches
  have skipped := length_skipSpaces reached
  rw [place] at skipped
  omega

theorem length_skip_items (gap : Gap) (item : Item) (rest : List (Gap × Item)) :
    (skipSpaces (itemsText ((gap, item) :: rest))).length =
      item.text.length + (itemsText rest).length := by
  obtain ⟨c, others, text, key⟩ := item_start item (itemsText rest)
  rw [itemsText_cons, skipSpaces_spaces, text, skipSpaces_black (black_of_inKey key), ← text,
    List.length_append]

theorem item_length (item : Item) : 0 < item.text.length := by
  obtain ⟨c, others, text, -⟩ := item_start item []
  rw [List.append_nil] at text
  simp [text]

theorem length_later (earlier : List (Gap × Item)) (gap : Gap) (item : Item)
    (later : List (Gap × Item)) :
    (item.text ++ itemsText later).length ≤
      (itemsText (earlier ++ (gap, item) :: later)).length := by
  rw [itemsText_append, itemsText_cons]
  simp only [List.length_append]
  omega

theorem even_argument {rest : List (Gap × Item)} (gap : Gap) (key : Word) (before after : Spaces)
    (value : Value) (reads : ReadsAll rest) :
    ReadsAll ((gap, .argument key before after value) :: rest) := by
  have turn := argTurn_arg gap key before after value rest
  intro earlier inner otherKey otherBefore otherAfter otherValue later split
  cases earlier with
  | nil =>
    cases split
    refine ⟨_, .here _, ?_, turn⟩
    obtain ⟨c, others, text, single⟩ :=
      item_start (.argument key before after value) (itemsText rest)
    rw [itemsText_cons, skipSpaces_spaces, text, skipSpaces_black (black_of_inKey single)]
  | cons first earlier =>
    obtain ⟨-, rfl⟩ := List.cons.inj split
    exact (reads earlier inner otherKey otherBefore otherAfter otherValue later rfl).earlier
      (by rw [turn]; rfl)

theorem items_induction {motive : List (Gap × Item) → Prop} (ended : motive [])
    (argument : ∀ gap key before after value rest, motive rest →
      motive ((gap, .argument key before after value) :: rest))
    (alone : ∀ gap word, motive [(gap, .word word)])
    (twoWords : ∀ gap word between other rest, motive rest →
      motive ((gap, .word word) :: (between, .word other) :: rest))
    (wordArg : ∀ gap word between key before after value rest,
      motive ((gap, .word word) :: (between, .argument key before after value) :: rest))
    (items : List (Gap × Item)) : motive items := by
  induction items using List.twoStepInduction with
  | nil => exact ended
  | singleton item =>
    obtain ⟨gap, item⟩ := item
    cases item with
    | word word => exact alone gap word
    | argument key before after value => exact argument gap key before after value [] ended
  | cons_cons item other rest two one =>
    obtain ⟨gap, item⟩ := item
    cases item with
    | argument key before after value =>
      exact argument gap key before after value _ (one other)
    | word word =>
      obtain ⟨between, other⟩ := other
      cases other with
      | word other => exact twoWords gap word between other rest two
      | argument key before after value => exact wordArg gap word between key before after value rest

theorem even_words_read {items : List (Gap × Item)} (even : EvenWords false items) :
    (∀ args, parseArgs (itemsText items) args = some (givenArgs items args)) ∧
      ReadsAll items := by
  induction items using items_induction with
  | ended =>
    constructor
    · intro args
      rw [parseArgs.eq_def]
      rfl
    · intro earlier gap key before after value later split
      cases earlier <;> cases split
  | argument gap key before after value rest ih =>
    have tail := ih even.2
    refine ⟨fun args => ?_, even_argument gap key before after value tail.2⟩
    rw [parseArgs_argument (argTurn_arg gap key before after value rest), tail.1]
    rfl
  | alone gap word =>
    constructor
    · intro args
      rw [parseArgs_word (argTurn_alone gap word), parseArgs.eq_def]
      rfl
    · intro earlier gap key before after value later split
      cases earlier with
      | nil => cases split
      | cons first earlier =>
        obtain ⟨-, split⟩ := List.cons.inj split
        cases earlier <;> cases split
  | twoWords gap word between other rest ih =>
    have turn := argTurn_twoWords gap between word other rest
    have tail := ih even
    refine ⟨fun args => ?_, ?_⟩
    · rw [parseArgs_word turn, tail.1]
      rfl
    · intro earlier inner key before after value later split
      cases earlier with
      | nil => cases split
      | cons first earlier =>
        obtain ⟨-, split⟩ := List.cons.inj split
        cases earlier with
        | nil => cases split
        | cons second earlier =>
          obtain ⟨-, rfl⟩ := List.cons.inj split
          exact (tail.2 earlier inner key before after value later rfl).earlier (by rw [turn]; rfl)
  | wordArg gap word between key before after value rest =>
    cases even.1

theorem odd_words_drop {items : List (Gap × Item)} (odd : ¬EvenWords false items) :
    ¬ReadsAll items := by
  induction items using items_induction with
  | ended => exact absurd trivial odd
  | argument gap key before after value rest ih =>
    intro reads
    have tail : ¬EvenWords false rest := fun even => odd ⟨rfl, even⟩
    apply ih tail
    intro earlier inner otherKey otherBefore otherAfter otherValue later split
    have read := reads (_ :: earlier) inner otherKey otherBefore otherAfter otherValue later
      (congrArg _ split)
    apply read.later
    · rw [argTurn_arg]
      rfl
    · rw [length_skip_items, split]
      have behind := length_later earlier inner
        (.argument otherKey otherBefore otherAfter otherValue) later
      have some := item_length (.argument key before after value)
      omega
  | alone gap word => exact absurd trivial odd
  | twoWords gap word between other rest ih =>
    intro reads
    apply ih odd
    intro earlier inner key before after value later split
    have read := reads (_ :: _ :: earlier) inner key before after value later
      (congrArg _ (congrArg _ split))
    apply read.later
    · rw [argTurn_twoWords]
      rfl
    · rw [length_skip_items, itemsText_cons, split]
      have behind := length_later earlier inner (.argument key before after value) later
      have some := item_length (.word word)
      simp only [List.length_append] at behind ⊢
      omega
  | wordArg gap word between key before after value rest =>
    intro reads
    obtain ⟨left, turn, behind⟩ :=
      argTurn_wordArg gap between word (.argument key before after value) rest
    have read := reads [(gap, .word word)] between key before after value rest rfl
    apply not_reads_behind behind
    apply read.later
    · rw [turn]
      rfl
    · rw [length_skip_items, itemsText_cons]
      have some := item_length (.word word)
      simp only [List.length_append]
      omega

def Trimmed (text : List Char) : Prop :=
  (∃ first rest, text = first :: rest ∧ black first) ∧ ∃ inner last, text = inner ++ [last] ∧ black last

theorem dropWhile_spaces {spaces text : List Char} (all : ∀ c ∈ spaces, isWhitespace c) {first : Char}
    {rest : List Char} (start : text = first :: rest) (single : black first) :
    trimStart (spaces ++ text) = text := by
  rw [trimStart, List.dropWhile_append_of_pos all, start]
  exact skipSpaces_black single rest

theorem trimChars_between {text : List Char} (before after : Spaces) (trimmed : Trimmed text) :
    trimChars (before.chars ++ text ++ after.chars) = text := by
  obtain ⟨⟨first, rest, start, opens⟩, inner, last, finish, closes⟩ := trimmed
  have left : trimStart (before.chars ++ text ++ after.chars) = text ++ after.chars := by
    rw [List.append_assoc]
    exact dropWhile_spaces before.spaces (by rw [start]; rfl) opens
  have right : trimStart (text ++ after.chars).reverse = text.reverse := by
    rw [List.reverse_append]
    apply dropWhile_spaces
    · intro c among
      exact after.spaces c (List.mem_reverse.mp among)
    · rw [finish, List.reverse_append]
      rfl
    · exact closes
  rw [trimChars, left, right, List.reverse_reverse]

theorem ends_black {chars : List Char} (filled : chars ≠ []) (single : ∀ c ∈ chars, black c) :
    ∃ inner last, chars = inner ++ [last] ∧ black last :=
  ⟨chars.dropLast, chars.getLast filled, (List.dropLast_append_getLast filled).symm,
    single _ (List.getLast_mem filled)⟩

theorem item_end (item : Item) : ∃ inner last, item.text = inner ++ [last] ∧ black last := by
  cases item with
  | word word => exact ends_black word.filled fun c among => black_of_inKey (word.single c among)
  | argument key before after value =>
    have value_end : ∃ inner last, value.text = inner ++ [last] ∧ black last := by
      cases value with
      | quoted quote text => exact ⟨_ :: _, quote.char, rfl, quote_black quote⟩
      | plain first rest bare single => exact ends_black (by simp [Value.text]) single
    obtain ⟨inner, last, text, closes⟩ := value_end
    refine ⟨key.chars ++ before.chars ++ '=' :: (after.chars ++ inner), last, ?_, closes⟩
    simp [Item.text, text]

theorem trimmed_call (name : Name) (items : List (Gap × Item)) :
    Trimmed (name.chars ++ itemsText items) := by
  constructor
  · obtain ⟨chars, filled, single⟩ := name
    cases chars with
    | nil => exact absurd rfl filled
    | cons c rest => exact ⟨c, rest ++ itemsText items, rfl, single c (by simp)⟩
  · rcases List.eq_nil_or_concat items with rfl | ⟨earlier, ⟨gap, item⟩, rfl⟩
    · obtain ⟨inner, last, text, closes⟩ := ends_black name.filled name.single
      exact ⟨inner, last, by simp [itemsText, ← text], closes⟩
    · obtain ⟨inner, last, text, closes⟩ := item_end item
      refine ⟨name.chars ++ (itemsText earlier ++ (gap.chars ++ inner)), last, ?_, closes⟩
      rw [List.concat_eq_append, itemsText_append, itemsText_cons, text]
      simp [itemsText]

theorem parseToolCall_line (line : CallLine) :
    parseToolCall line.text =
      (parseArgs (itemsText line.items) ∅).map fun args =>
        ⟨String.ofList line.name.chars, args⟩ := by
  have call := trimmed_call line.name line.items
  have tagged : Trimmed ("tool:".toList ++ line.middle.chars ++ line.name.chars ++
      itemsText line.items) := by
    obtain ⟨-, inner, last, finish, closes⟩ := call
    refine ⟨⟨'t', _, rfl, by decide⟩, "tool:".toList ++ line.middle.chars ++ inner, last, ?_, closes⟩
    rw [List.append_assoc, finish, List.append_assoc, List.append_assoc, List.append_assoc]
  have outer := trimChars_between line.lead line.trail tagged
  have inner := trimChars_between line.middle ⟨[], by simp⟩ call
  have marked : "tool:".toList.isPrefixOf ("tool:".toList ++ line.middle.chars ++
      line.name.chars ++ itemsText line.items) = true := by
    rw [List.isPrefixOf_iff_prefix, List.append_assoc, List.append_assoc]
    exact List.prefix_append _ _
  have rest : ("tool:".toList ++ line.middle.chars ++ line.name.chars ++
      itemsText line.items).drop "tool:".length =
      line.middle.chars ++ (line.name.chars ++ itemsText line.items) ++ [] := by
    rw [List.append_assoc, List.append_assoc, List.append_nil]
    exact List.drop_left' (by decide)
  have filled : line.name.chars ++ itemsText line.items ≠ [] := by
    simp [line.name.filled]
  have named : parseName (line.name.chars ++ itemsText line.items) =
      some (line.name.chars, itemsText line.items) := by
    have stops : ∀ c, (itemsText line.items).head? = some c → black c = false := by
      intro c first
      simp [black, itemsText_ends line.items c first]
    have span := span_ends line.name.single stops
    obtain ⟨⟨first, others, start, opens⟩, -⟩ := call
    have skipped : skipSpaces (line.name.chars ++ itemsText line.items) =
        line.name.chars ++ itemsText line.items := by
      rw [start]
      exact skipSpaces_black opens others
    simp only [parseName, skipped, span.1, span.2, if_neg line.name.filled]
  simp only [parseToolCall, CallLine.text, String.toList_ofList, outer, marked, rest, inner,
    Bool.not_true, Bool.false_eq_true, if_false, if_neg filled, named, bind, Option.bind]
  cases parseArgs (itemsText line.items) ∅ <;> rfl

structure ArgMap where
  entries : List (Word × String)
  distinct : (entries.map fun entry => String.ofList entry.1.chars).Nodup

def quotedItem (entry : Word × String) : Gap × Item :=
  (⟨⟨[' '], List.all_eq_true.mp (by decide)⟩, by decide⟩,
    .argument entry.1 ⟨[], by simp⟩ ⟨[], by simp⟩ (.quoted ⟨'"', by decide⟩ entry.2.toList))

def rendered (name : Name) (args : ArgMap) : CallLine :=
  { lead := ⟨[], by simp⟩
    middle := ⟨[], by simp⟩
    name := name
    items := args.entries.map quotedItem
    trail := ⟨[], by simp⟩ }

theorem quotedItems_even (entries : List (Word × String)) :
    EvenWords false (entries.map quotedItem) := by
  induction entries with
  | nil => trivial
  | cons entry rest ih => exact ⟨rfl, ih⟩

theorem lookup_givenArgs {entries : List (Word × String)}
    (distinct : (entries.map fun entry => String.ofList entry.1.chars).Nodup)
    (args : Table String String)
    (fresh : ∀ entry ∈ entries, args.lookup (String.ofList entry.1.chars) = none)
    (key value : String) :
    (givenArgs (entries.map quotedItem) args).lookup key = some value ↔
      (∃ entry ∈ entries, String.ofList entry.1.chars = key ∧ entry.2 = value) ∨
        args.lookup key = some value := by
  induction entries generalizing args with
  | nil => simp [givenArgs]
  | cons entry rest ih =>
    rw [List.map_cons, List.nodup_cons] at distinct
    have later : ∀ other ∈ rest, (args.insert (String.ofList entry.1.chars)
        (String.ofList entry.2.toList)).lookup (String.ofList other.1.chars) = none := by
      intro other among
      have apart : String.ofList other.1.chars ≠ String.ofList entry.1.chars := by
        intro same
        exact distinct.1 (List.mem_map.mpr ⟨other, among, same⟩)
      rw [Table.lookup_insert_eq, if_neg apart]
      exact fresh other (by simp [among])
    have step := ih distinct.2 _ later
    rw [List.map_cons, quotedItem, givenArgs, Value.read, step, Table.lookup_insert_eq,
      String.ofList_toList]
    have own := fresh entry (by simp)
    by_cases same : key = String.ofList entry.1.chars
    · subst same
      have others : ¬∃ other ∈ rest, String.ofList other.1.chars = String.ofList entry.1.chars ∧
          other.2 = value := by
        rintro ⟨other, among, clash, -⟩
        exact distinct.1 (List.mem_map.mpr ⟨other, among, clash⟩)
      simp [own, or_comm]
    · simp [same, Ne.symm same]

example : (rendered ⟨['x'], by decide, List.all_eq_true.mp (by decide)⟩
    ⟨[(⟨['a'], by decide, List.all_eq_true.mp (by decide)⟩, "b \"c\\")], by decide⟩).text =
      "tool:x a=\"b \\\"c\\\\\"" := by decide

def afterWord : CallLine :=
  { lead := ⟨[], by simp⟩
    middle := ⟨[], by simp⟩
    name := ⟨['x'], by decide, List.all_eq_true.mp (by decide)⟩
    items :=
      [(⟨⟨[' '], List.all_eq_true.mp (by decide)⟩, by decide⟩,
          .word ⟨['f', 'o', 'o'], by decide, List.all_eq_true.mp (by decide)⟩),
        (⟨⟨[' '], List.all_eq_true.mp (by decide)⟩, by decide⟩,
          .argument ⟨['a'], by decide, List.all_eq_true.mp (by decide)⟩ ⟨[], by simp⟩ ⟨[], by simp⟩
            (.plain 'b' [] (by decide) (List.all_eq_true.mp (by decide))))]
    trail := ⟨[], by simp⟩ }

theorem argument_after_word_dropped :
    afterWord.text = "tool:x foo a=b" ∧
      (parseToolCall "tool:x foo a=b").map (fun call => call.args.lookup "a") = some none ∧
      ¬KeepsArguments afterWord := by
  refine ⟨by decide, by decide +kernel, ?_⟩
  intro keeps
  exact odd_words_drop (by simp [EvenWords, afterWord]) keeps.read

theorem parseToolCall_keeps_iff (name : Name) (args : ArgMap) (line : CallLine) :
    (∃ read, parseToolCall (rendered name args).text = some ⟨String.ofList name.chars, read⟩ ∧
      ∀ key value, read.lookup key = some value ↔
        ∃ entry ∈ args.entries, String.ofList entry.1.chars = key ∧ entry.2 = value) ∧
      (KeepsArguments line ↔ EvenWords false line.items) := by
  constructor
  · have even := even_words_read (quotedItems_even args.entries)
    refine ⟨givenArgs (args.entries.map quotedItem) ∅, ?_, ?_⟩
    · rw [parseToolCall_line, rendered, even.1]
      rfl
    · intro key value
      rw [lookup_givenArgs args.distinct ∅ (fun _ _ => AList.lookup_empty _)]
      simp
  · constructor
    · intro keeps
      by_contra odd
      exact odd_words_drop odd keeps.read
    · intro even
      have read := even_words_read even
      refine ⟨?_, read.2⟩
      rw [parseToolCall_line, read.1]
      rfl

end OpenJax.Tools.TextCall
