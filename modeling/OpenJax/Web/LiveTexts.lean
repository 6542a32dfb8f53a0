import OpenJax.Web.Texts
import OpenJax.Shared.Machine

set_option autoImplicit false

namespace OpenJax.Web

open Shared

theorem key_edit (update : String → String) (text : AssistantText) :
    (text.edit update).key = text.key := rfl

theorem keys_upsertText (key : TextKey) (update : String → String) (texts : List AssistantText) :
    (upsertText key update texts).map AssistantText.key =
      if key ∈ texts.map AssistantText.key then texts.map AssistantText.key
      else texts.map AssistantText.key ++ [key] := by
  have own : AssistantText.key ⟨key.1, key.2, update ""⟩ = key := rfl
  rw [upsertText, map_upsertRow (key_edit update) own]
  by_cases known : key ∈ texts.map AssistantText.key <;> simp only [known, if_true, if_false]

theorem Unique.upsertText {texts : List AssistantText} (unique : Unique texts) (key : TextKey)
    (update : String → String) : Unique (upsertText key update texts) :=
  nodup_upsertRow (key_edit update) rfl unique

theorem Unique.seedText {texts : List AssistantText} (unique : Unique texts)
    (turnId content : String) : Unique (seedText turnId content texts) := by
  unfold Web.seedText
  split
  · exact unique
  next alone =>
    rw [Unique, List.map_append, List.map_singleton, ← List.concat_eq_append]
    apply List.Nodup.concat _ unique
    intro among
    obtain ⟨text, member, same⟩ := List.mem_map.mp among
    exact alone ⟨text, member, congrArg Prod.fst same⟩

def extend (unfinished : TextKey → String) (texts : List AssistantText) : List AssistantText :=
  texts.map fun text => text.edit (· ++ unfinished text.key)

def blank (key : TextKey) : AssistantText := ⟨key.1, key.2, ""⟩

section

variable {unfinished later : TextKey → String} {key : TextKey} {shown : List AssistantText}

theorem keys_extend (unfinished : TextKey → String) (texts : List AssistantText) :
    (extend unfinished texts).map AssistantText.key = texts.map AssistantText.key := by
  rw [extend, List.map_map]
  rfl

theorem extend_append (unfinished : TextKey → String) (first second : List AssistantText) :
    extend unfinished (first ++ second) = extend unfinished first ++ extend unfinished second :=
  List.map_append

theorem extend_congr (same : ∀ text ∈ shown, later text.key = unfinished text.key) :
    extend later shown = extend unfinished shown := by
  apply List.map_congr_left
  intro text member
  rw [same text member]

theorem extend_absent (absent : key ∉ shown.map AssistantText.key)
    (others : ∀ other, other ≠ key → later other = unfinished other) :
    extend later shown = extend unfinished shown := by
  apply extend_congr
  intro text member
  apply others
  intro same
  exact absent (List.mem_map.mpr ⟨text, member, same⟩)

theorem extend_settled (settled : ∀ text ∈ shown, unfinished text.key = "") :
    extend unfinished shown = shown := by
  rw [extend]
  conv_rhs => rw [← List.map_id shown]
  apply List.map_congr_left
  intro text member
  simp [AssistantText.edit, settled text member]

theorem hasTurn_extend (turnId : String) (unfinished : TextKey → String)
    (texts : List AssistantText) : HasTurn turnId (extend unfinished texts) ↔ HasTurn turnId texts := by
  simp [HasTurn, extend, AssistantText.edit]

theorem upsert_extend_append {delta : String} (known : key ∈ shown.map AssistantText.key)
    (own : later key = unfinished key ++ delta)
    (others : ∀ other, other ≠ key → later other = unfinished other) :
    upsertText key (· ++ delta) (extend unfinished shown) = extend later shown := by
  rw [upsertText, upsertRow, keys_extend, if_pos known, updateWhere, extend, List.map_map]
  apply List.map_congr_left
  intro text _
  by_cases same : text.key = key
  · simp only [Function.comp_apply, key_edit, same, own, decide_true, if_true]
    simp [AssistantText.edit, String.append_assoc]
  · simp [key_edit, same, others text.key same]

theorem upsert_extend_set {content : String} (known : key ∈ shown.map AssistantText.key)
    (own : later key = "") (others : ∀ other, other ≠ key → later other = unfinished other) :
    upsertText key (fun _ => content) (extend unfinished shown) =
      extend later (upsertText key (fun _ => content) shown) := by
  rw [upsertText, upsertRow, keys_extend, if_pos known, upsertText, upsertRow, if_pos known,
    updateWhere, updateWhere, extend, extend, List.map_map, List.map_map]
  apply List.map_congr_left
  intro text _
  by_cases same : text.key = key
  · simp only [Function.comp_apply, key_edit, same, own, decide_true, if_true]
    simp [AssistantText.edit]
  · simp [key_edit, same, others text.key same]

end

structure Agrees (live replayed : List AssistantText) (opened : Option TextKey)
    (unfinished : TextKey → String) (shown : List AssistantText) : Prop where
  live_shown : live = shown ++ opened.toList.map blank
  replay_shown : replayed = extend unfinished shown
  unique : Unique live
  fresh : ∀ key, key ∉ shown.map AssistantText.key → unfinished key = ""

namespace Agrees

variable {live replayed : List AssistantText} {opened : Option TextKey}
  {unfinished later : TextKey → String} {shown : List AssistantText}
  {key : TextKey}

theorem keys (agrees : Agrees live replayed opened unfinished shown) :
    replayed.map AssistantText.key = shown.map AssistantText.key := by
  rw [agrees.replay_shown, keys_extend]

theorem unique_shown (agrees : Agrees live replayed opened unfinished shown) : Unique shown := by
  have unique := agrees.unique
  rw [agrees.live_shown, Unique, List.map_append] at unique
  exact unique.of_append_left

theorem unique_replayed (agrees : Agrees live replayed opened unfinished shown) :
    Unique replayed := by
  rw [Unique, agrees.keys]
  exact agrees.unique_shown

theorem opened_absent (agrees : Agrees live replayed (some key) unfinished shown) :
    key ∉ shown.map AssistantText.key := by
  have unique := agrees.unique
  rw [agrees.live_shown, Unique, List.map_append] at unique
  intro among
  exact List.disjoint_of_nodup_append unique among (by simp [blank, AssistantText.key])

theorem start (agrees : Agrees live replayed none unfinished shown)
    (absent : key ∉ replayed.map AssistantText.key) :
    Agrees (upsertText key id live) replayed (some key) unfinished shown where
  live_shown := by
    have whole : live = shown := by simpa using agrees.live_shown
    rw [agrees.keys] at absent
    rw [upsertText, upsertRow, whole, if_neg absent]
    rfl
  replay_shown := agrees.replay_shown
  unique := agrees.unique.upsertText key id
  fresh := agrees.fresh

theorem seed (agrees : Agrees live replayed opened unfinished shown) {turnId : String}
    (content : String) (settled : opened = none ∨ HasTurn turnId replayed) :
    ∃ shown, Agrees (seedText turnId content live) (seedText turnId content replayed) opened
      unfinished shown := by
  by_cases turn : HasTurn turnId shown
  · refine ⟨shown, ?_⟩
    have in_live : HasTurn turnId live := by
      obtain ⟨text, member, own⟩ := turn
      rw [agrees.live_shown]
      exact ⟨text, List.mem_append_left _ member, own⟩
    have in_replayed : HasTurn turnId replayed := by
      rw [agrees.replay_shown]
      exact (hasTurn_extend turnId unfinished shown).mpr turn
    rw [seedText, if_pos in_live, seedText, if_pos in_replayed]
    exact agrees
  · have absent : ¬HasTurn turnId replayed := by
      rw [agrees.replay_shown, hasTurn_extend]
      exact turn
    obtain rfl : opened = none := settled.resolve_right absent
    have whole : live = shown := by simpa using agrees.live_shown
    have key_absent : (some turnId, none) ∉ shown.map AssistantText.key := by
      intro among
      obtain ⟨text, member, same⟩ := List.mem_map.mp among
      exact turn ⟨text, member, congrArg Prod.fst same⟩
    refine ⟨shown ++ [⟨some turnId, none, content⟩], ?_, ?_, agrees.unique.seedText turnId content,
      ?_⟩
    · rw [seedText, whole, if_neg turn]
      simp
    · have nothing := agrees.fresh (some turnId, none) key_absent
      rw [seedText, if_neg absent, agrees.replay_shown, extend_append]
      simp [extend, AssistantText.edit, AssistantText.key, nothing]
    · intro key outside
      apply agrees.fresh
      intro among
      exact outside (by simp [among])

theorem delta (agrees : Agrees live replayed opened unfinished shown) {delta : String}
    (place : opened = some key ∨ key ∈ replayed.map AssistantText.key)
    (own : later key = unfinished key ++ delta)
    (others : ∀ other, other ≠ key → later other = unfinished other) :
    ∃ shown, Agrees live (upsertText key (· ++ delta) replayed)
      (if opened = some key then none else opened) later shown := by
  by_cases known : key ∈ shown.map AssistantText.key
  · have elsewhere : opened ≠ some key := by
      rintro rfl
      exact agrees.opened_absent known
    refine ⟨shown, ?_, ?_, agrees.unique, ?_⟩
    · rw [if_neg elsewhere, agrees.live_shown]
    · rw [agrees.replay_shown, upsert_extend_append known own others]
    · intro other outside
      rw [others other fun same => outside (same ▸ known)]
      exact agrees.fresh other outside
  · rw [agrees.keys] at place
    obtain rfl : opened = some key := place.resolve_right known
    have nothing := agrees.fresh key known
    refine ⟨shown ++ [blank key], ?_, ?_, agrees.unique, ?_⟩
    · rw [if_pos rfl, agrees.live_shown]; simp
    · rw [upsertText, upsertRow, agrees.keys, if_neg known, agrees.replay_shown, extend_append,
        extend_absent known others]
      simp [extend, blank, AssistantText.edit, AssistantText.key, own, nothing]
    · intro other outside
      rw [List.map_append, List.mem_append, not_or] at outside
      have different : other ≠ key := by
        rintro rfl
        exact outside.2 (by simp [blank, AssistantText.key])
      rw [others other different]
      exact agrees.fresh other outside.1

theorem complete (agrees : Agrees live replayed opened unfinished shown) (content : String)
    (place : opened = none ∨ opened = some key ∨ key ∈ replayed.map AssistantText.key)
    (own : later key = "") (others : ∀ other, other ≠ key → later other = unfinished other) :
    ∃ shown, Agrees (upsertText key (fun _ => content) live)
      (upsertText key (fun _ => content) replayed)
      (if opened = some key then none else opened) later shown := by
  have unique := agrees.unique.upsertText key fun _ => content
  by_cases known : key ∈ shown.map AssistantText.key
  · have elsewhere : opened ≠ some key := by
      rintro rfl
      exact agrees.opened_absent known
    refine ⟨upsertText key (fun _ => content) shown, ?_, ?_, unique, ?_⟩
    · have in_live : key ∈ live.map AssistantText.key := by
        rw [agrees.live_shown, List.map_append]
        exact List.mem_append_left _ known
      have apart : key ∉ (opened.toList.map blank).map AssistantText.key := by
        cases opened with
        | none => simp
        | some other =>
          simp only [Option.toList_some, List.map_cons, List.map_nil, List.mem_singleton]
          rintro rfl
          exact elsewhere rfl
      rw [if_neg elsewhere, upsertText, upsertRow, if_pos in_live, upsertText, upsertRow,
        if_pos known, agrees.live_shown, updateWhere, List.map_append]
      exact congrArg _ (updateWhere_absent _ apart)
    · rw [agrees.replay_shown, upsert_extend_set known own others]
    · intro other outside
      rw [keys_upsertText, if_pos known] at outside
      rw [others other fun same => outside (same ▸ known)]
      exact agrees.fresh other outside
  · rw [agrees.keys] at place
    refine ⟨shown ++ [⟨key.1, key.2, content⟩], ?_, ?_, unique, ?_⟩
    · rcases place with rfl | rfl | among
      · have whole : live = shown := by simpa using agrees.live_shown
        rw [upsertText, upsertRow, whole, if_neg known]
        simp
      · have in_live : key ∈ live.map AssistantText.key := by
          rw [agrees.live_shown]
          simp [blank, AssistantText.key]
        rw [if_pos rfl, upsertText, upsertRow, if_pos in_live, agrees.live_shown, updateWhere,
          List.map_append]
        have kept := updateWhere_absent (AssistantText.edit fun _ => content) known
        rw [updateWhere] at kept
        rw [kept]
        simp [blank, AssistantText.key, AssistantText.edit]
      · exact absurd among known
    · rw [upsertText, upsertRow, agrees.keys, if_neg known, agrees.replay_shown, extend_append,
        extend_absent known others]
      simp [extend, AssistantText.edit, AssistantText.key, own]
    · intro other outside
      rw [List.map_append, List.mem_append, not_or] at outside
      have different : other ≠ key := by
        rintro rfl
        exact outside.2 (by simp [AssistantText.key])
      rw [others other different]
      exact agrees.fresh other outside.1

theorem same_iff (agrees : Agrees live replayed opened unfinished shown) :
    live = replayed ↔ opened = none ∧ ∀ key, unfinished key = "" := by
  constructor
  · intro same
    have lengths := congrArg List.length same
    rw [agrees.live_shown, agrees.replay_shown, extend, List.length_append, List.length_map,
      List.length_map] at lengths
    have closed : opened = none := by
      cases opened with
      | none => rfl
      | some key =>
        rw [Option.length_toList] at lengths
        simp at lengths
    subst closed
    refine ⟨rfl, ?_⟩
    have whole : live = shown := by simpa using agrees.live_shown
    rw [whole, agrees.replay_shown] at same
    intro key
    by_cases known : key ∈ shown.map AssistantText.key
    · obtain ⟨text, member, rfl⟩ := List.mem_map.mp known
      obtain ⟨index, there⟩ := List.getElem?_of_mem member
      have entry := congrArg (fun texts => texts[index]?) same
      simp only [extend, List.getElem?_map, there, Option.map_some] at entry
      have content := congrArg AssistantText.content (Option.some.inj entry)
      simp only [AssistantText.edit] at content
      have lengths := congrArg String.length content
      rw [String.length_append] at lengths
      exact String.length_eq_zero_iff.mp (by omega)
    · exact agrees.fresh key known
  · rintro ⟨rfl, settled⟩
    rw [agrees.live_shown, agrees.replay_shown, extend_settled fun text _ => settled text.key]
    simp

end Agrees

end OpenJax.Web
