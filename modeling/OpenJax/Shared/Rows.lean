import Mathlib.Data.List.AList
import Mathlib.Data.List.Nodup

set_option autoImplicit false

namespace OpenJax.Shared

abbrev Table (κ ν : Type) := AList fun _ : κ => ν

namespace Table

variable {κ ν : Type} [DecidableEq κ] (table : Table κ ν)

theorem lookup_insert_eq (key other : κ) (value : ν) :
    (table.insert key value).lookup other =
      if other = key then some value else table.lookup other := by
  split_ifs with same
  · subst same
    exact AList.lookup_insert table
  · exact AList.lookup_insert_ne same

theorem lookup_erase_eq (key other : κ) :
    (table.erase key).lookup other = if other = key then none else table.lookup other := by
  split_ifs with same
  · subst same
    exact AList.lookup_erase other table
  · exact AList.lookup_erase_ne same

theorem entry_iff (key : κ) (value : ν) :
    ⟨key, value⟩ ∈ table.entries ↔ table.lookup key = some value :=
  AList.mem_lookup_iff.symm

def any (table : Table κ ν) (test : κ → ν → Bool) : Bool :=
  table.entries.any fun entry => test entry.1 entry.2

theorem any_correct (test : κ → ν → Bool) :
    table.any test = true ↔ ∃ key value, table.lookup key = some value ∧ test key value = true := by
  simp only [any, List.any_eq_true, Sigma.exists, entry_iff]

def mapValues {μ : Type} (change : κ → ν → μ) (table : Table κ ν) : Table κ μ where
  entries := table.entries.map fun entry => ⟨entry.1, change entry.1 entry.2⟩
  nodupKeys := by
    rw [List.NodupKeys, List.keys, List.map_map]
    exact table.nodupKeys

theorem lookup_mapValues {μ : Type} (change : κ → ν → μ) (table : Table κ ν) (key : κ) :
    (table.mapValues change).lookup key = (table.lookup key).map (change key) := by
  obtain ⟨entries, distinct⟩ := table
  change (entries.map fun entry =>
    (⟨entry.1, change entry.1 entry.2⟩ : Sigma fun _ : κ => μ)).dlookup key =
      (entries.dlookup key).map (change key)
  induction entries with
  | nil => rfl
  | cons entry rest ih =>
    obtain ⟨name, value⟩ := entry
    rw [List.map_cons]
    by_cases same : key = name
    · subst same
      rw [List.dlookup_cons_eq, List.dlookup_cons_eq, Option.map_some]
    · rw [List.dlookup_cons_ne _ _ same, List.dlookup_cons_ne _ _ same]
      exact ih (List.nodupKeys_cons.mp distinct).2

end Table

/-! Tables of rows with a key, in the order of insertion, and the statements that change them. -/

section

variable {ρ κ : Type}

def updateWhere (selects : ρ → Bool) (change : ρ → ρ) (rows : List ρ) : List ρ :=
  rows.map fun row => if selects row then change row else row

def deleteWhere (selects : ρ → Bool) (rows : List ρ) : List ρ :=
  rows.filter fun row => !selects row

def insertRow [DecidableEq κ] (key : ρ → κ) (row : ρ) (rows : List ρ) : Option (List ρ) :=
  if key row ∈ rows.map key then none else some (rows ++ [row])

def upsertRow [DecidableEq κ] (key : ρ → κ) (wanted : κ) (update : ρ → ρ) (fresh : ρ)
    (rows : List ρ) : List ρ :=
  if wanted ∈ rows.map key then updateWhere (fun row => key row = wanted) update rows
  else rows ++ [fresh]

variable {rows : List ρ} {change : ρ → ρ}

theorem mem_updateWhere {selects : ρ → Bool} {row : ρ} :
    row ∈ updateWhere selects change rows ↔
      ∃ old ∈ rows, (if selects old then change old else old) = row :=
  List.mem_map

variable {key : ρ → κ} {rows next : List ρ}

theorem insertRow_some [DecidableEq κ] {row : ρ} (inserted : insertRow key row rows = some next) :
    key row ∉ rows.map key ∧ next = rows ++ [row] := by
  unfold insertRow at inserted
  split at inserted
  · cases inserted
  · rename_i absent
    exact ⟨absent, (Option.some.inj inserted).symm⟩

theorem map_updateWhere {selects : ρ → Bool} (keeps : ∀ row, key (change row) = key row)
    (rows : List ρ) : (updateWhere selects change rows).map key = rows.map key := by
  rw [updateWhere, List.map_map]
  apply List.map_congr_left
  intro row _
  simp only [Function.comp_apply]
  split
  · exact keeps row
  · rfl

theorem nodup_insertRow [DecidableEq κ] {row : ρ} (unique : (rows.map key).Nodup)
    (inserted : insertRow key row rows = some next) : (next.map key).Nodup := by
  obtain ⟨absent, rfl⟩ := insertRow_some inserted
  rw [List.map_append, List.map_singleton, ← List.concat_eq_append]
  exact unique.concat absent

theorem updateWhere_absent [DecidableEq κ] {wanted : κ} (update : ρ → ρ)
    (absent : wanted ∉ rows.map key) :
    updateWhere (fun row => key row = wanted) update rows = rows := by
  rw [updateWhere]
  conv_rhs => rw [← List.map_id rows]
  apply List.map_congr_left
  intro row member
  have other : key row ≠ wanted := fun same => absent (List.mem_map.mpr ⟨row, member, same⟩)
  simp [other]

theorem map_upsertRow [DecidableEq κ] {wanted : κ} {update : ρ → ρ} {fresh : ρ}
    (keeps : ∀ row, key (update row) = key row) (own : key fresh = wanted) (rows : List ρ) :
    (upsertRow key wanted update fresh rows).map key =
      if wanted ∈ rows.map key then rows.map key else rows.map key ++ [wanted] := by
  unfold upsertRow
  split
  · exact map_updateWhere keeps rows
  · rw [List.map_append, List.map_singleton, own]

theorem nodup_upsertRow [DecidableEq κ] {wanted : κ} {update : ρ → ρ} {fresh : ρ}
    (keeps : ∀ row, key (update row) = key row) (own : key fresh = wanted)
    (unique : (rows.map key).Nodup) : ((upsertRow key wanted update fresh rows).map key).Nodup := by
  rw [map_upsertRow keeps own]
  split
  · exact unique
  next absent =>
    rw [← List.concat_eq_append]
    exact unique.concat absent

theorem find_updateWhere {selects wanted : ρ → Bool}
    (keeps : ∀ row, wanted (change row) = wanted row) (rows : List ρ) :
    (updateWhere selects change rows).find? wanted =
      (rows.find? wanted).map fun row => if selects row then change row else row := by
  rw [updateWhere, List.find?_map]
  have same : wanted ∘ (fun row => if selects row then change row else row) = wanted := by
    funext row
    simp only [Function.comp_apply]
    split
    · exact keeps row
    · rfl
  rw [same]

theorem find_deleteWhere {selects wanted : ρ → Bool}
    (apart : ∀ row, wanted row = true → selects row = false) (rows : List ρ) :
    (deleteWhere selects rows).find? wanted = rows.find? wanted := by
  rw [deleteWhere, List.find?_filter]
  congr 1
  funext row
  cases found : wanted row with
  | true => simp [apart row found]
  | false => simp

theorem find_insertRow [DecidableEq κ] {row found : ρ} {wanted : ρ → Bool}
    (inserted : insertRow key row rows = some next) (there : rows.find? wanted = some found) :
    next.find? wanted = some found := by
  obtain ⟨-, rfl⟩ := insertRow_some inserted
  rw [List.find?_append, there]
  rfl

theorem row_unique (unique : (rows.map key).Nodup) {first second : ρ} (left : first ∈ rows)
    (right : second ∈ rows) (same : key first = key second) : first = second :=
  List.inj_on_of_nodup_map unique left right same

theorem find_unique [DecidableEq κ] (unique : (rows.map key).Nodup) {row : ρ} (member : row ∈ rows)
    {wanted : ρ → Bool} (keyed : ∀ other, wanted other = true → key other = key row) :
    rows.find? wanted = if wanted row then some row else none := by
  split
  · rename_i holds
    cases found : rows.find? wanted with
    | none => exact absurd holds (List.find?_eq_none.mp found row member)
    | some other =>
      have same := keyed other (List.find?_some found)
      rw [row_unique unique (List.mem_of_find?_eq_some found) member same]
  · rename_i fails
    apply List.find?_eq_none.mpr
    intro other inside holds
    rw [row_unique unique inside member (keyed other holds)] at holds
    exact fails holds

end

end OpenJax.Shared
