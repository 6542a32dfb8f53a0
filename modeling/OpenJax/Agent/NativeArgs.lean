import OpenJax.Agent.ToolGuard
import OpenJax.Sandbox.Policy
import OpenJax.Tools.HandlerArgs

set_option autoImplicit false

namespace OpenJax.Agent

open Shared Tools Sandbox

def stringFields (args : List (String × String)) : Fields :=
  args.map fun entry => (entry.1, .str entry.2)

def routedArgs (formats : TextFormats) (tool : BuiltinTool) (args : List (String × String)) :
    Option HandlerArgs :=
  (formats.parseJson (argsJson formats args)).bind tool.fromJson

structure PrintsScalars (formats : TextFormats) : Prop where
  flag : ∀ flag, formats.jsonText (.bool flag) = toString flag
  integer : ∀ number, formats.jsonText (.int number) = toString number
  -- The text of a double has a point or an exponent.
  double : ∀ bits, parseU64 (formats.jsonText (.float bits)) = none

def stringified (formats : TextFormats) : Json → String
  | .str text => text
  | other => formats.jsonText other

theorem toolInputToArgs_obj (formats : TextFormats) (fields : Fields) :
    toolInputToArgs formats (.obj fields) =
      fields.map fun field => (field.1, stringified formats field.2) := by
  rw [toolInputToArgs]
  apply List.map_congr_left
  intro field _
  obtain ⟨key, value⟩ := field
  cases value <;> rfl

section FieldValue

variable {α : Type} (names : List String) (read : Json → Option α) (missing : Option α)

theorem entryValue_map (text : Json → String) {entries : Fields}
    (same : ∀ key value, entries = [(key, value)] → read (.str (text value)) = read value) :
    entryValue read missing (entries.map fun entry => (entry.1, .str (text entry.2))) =
      entryValue read missing entries := by
  match entries with
  | [] => rfl
  | [(key, value)] => exact same key value rfl
  | _ :: _ :: _ => rfl

theorem fieldValue_stringified (formats : TextFormats) {fields : Fields}
    {args : List (String × String)} (order : args.Perm (toolInputToArgs formats (.obj fields)))
    (same : ∀ key value, (fields.filter fun field => names.contains field.1) = [(key, value)] →
      read (.str (stringified formats value)) = read value) :
    fieldValue names read missing (stringFields args) = fieldValue names read missing fields := by
  rw [toolInputToArgs_obj] at order
  have shown := (order.map fun entry => (entry.1, Json.str entry.2)).filter
    fun field => names.contains field.1
  rw [fieldValue, stringFields, entryValue_perm read missing shown, List.map_map,
    List.filter_map, fieldValue]
  exact entryValue_map read missing (stringified formats) same

end FieldValue

variable {fields : Fields} {properties : List (String × Schema)} {value : Json} {name : String}

theorem property_conforms (conforms : Schema.propertiesConform properties fields = true)
    {schema : Schema} (listed : (name, schema) ∈ properties) (given : (name, value) ∈ fields) :
    schema.conforms value = true := by
  induction properties with
  | nil => cases listed
  | cons property properties ih =>
    rw [Schema.propertiesConform, Bool.and_eq_true] at conforms
    rcases List.mem_cons.mp listed with rfl | later
    · have here := List.all_eq_true.mp conforms.1 _ given
      simpa using here
    · exact ih conforms.2 later

theorem conforms_string {options : Option (List String)}
    (conforms : (Schema.string options).conforms value = true) : ∃ text, value = .str text := by
  cases value <;> simp_all [Schema.conforms]

theorem conforms_boolean (conforms : Schema.boolean.conforms value = true) :
    ∃ flag, value = .bool flag := by
  cases value <;> simp_all [Schema.conforms]

variable {minimum maximum : Option Int}

theorem conforms_number (conforms : (Schema.number minimum maximum).conforms value = true) :
    (∃ bits, value = .float bits) ∨
      ∃ number : Int, value = .int number ∧ number < 18446744073709551616 := by
  cases value with
  | int number =>
    simp only [Schema.conforms, Bool.and_eq_true, decide_eq_true_eq] at conforms
    exact .inr ⟨number, rfl, conforms.1.1.2⟩
  | float bits => exact .inl ⟨bits, rfl⟩
  | _ => simp [Schema.conforms] at conforms

theorem conforms_object {required : List String}
    (conforms : (Schema.object properties required).conforms (.obj fields) = true) :
    (fields.map Prod.fst).Nodup ∧ (∀ name ∈ required, ∃ value, (name, value) ∈ fields) ∧
      Schema.propertiesConform properties fields = true := by
  simp only [Schema.conforms, Bool.and_eq_true, decide_eq_true_eq, List.all_eq_true,
    List.any_eq_true, beq_iff_eq] at conforms
  refine ⟨conforms.1.1, fun name needed => ?_, conforms.2⟩
  obtain ⟨field, given, rfl⟩ := conforms.1.2 name needed
  exact ⟨field.2, given⟩

variable {formats : TextFormats}

theorem valueToU64_stringified (prints : PrintsScalars formats)
    (conforms : (Schema.number minimum maximum).conforms value = true) :
    lenient valueToU64 (.str (stringified formats value)) = lenient valueToU64 value := by
  rcases conforms_number conforms with ⟨bits, rfl⟩ | ⟨number, rfl, small⟩
  · have unread : parseU64 (stringified formats (.float bits)) = none := prints.double bits
    simp [lenient, valueToU64, Json.asU64?, Json.asStr?, unread, Except.toOption]
  · have shown : stringified formats (.int number) = toString number := prints.integer number
    simp only [lenient, valueToU64, Json.asU64?, Json.asStr?, shown, parseU64_int small]
    split <;> rfl

theorem deBool_stringified (prints : PrintsScalars formats)
    (conforms : Schema.boolean.conforms value = true) :
    deBool (.str (stringified formats value)) = deBool value := by
  obtain ⟨flag, rfl⟩ := conforms_boolean conforms
  have shown : stringified formats (.bool flag) = toString flag := prints.flag flag
  rw [shown]
  cases flag <;> decide +kernel

theorem isSome_valueToU64 (conforms : (Schema.number minimum maximum).conforms value = true) :
    (lenient valueToU64 value).isSome ↔ ∃ number : Nat, value = .int number := by
  rcases conforms_number conforms with ⟨bits, rfl⟩ | ⟨number, rfl, small⟩
  · simp [lenient, valueToU64, Json.asU64?, Json.asStr?, Except.toOption]
  · by_cases positive : 0 ≤ number
    · have natural : number = number.toNat := (Int.toNat_of_nonneg positive).symm
      simp only [lenient, valueToU64, Json.asU64?, if_pos positive, Except.toOption,
        Option.isSome_some, true_iff]
      exact ⟨number.toNat, congrArg Json.int natural⟩
    · simp only [lenient, valueToU64, Json.asU64?, if_neg positive, Json.asStr?, Except.toOption,
        Option.isSome_none, Bool.false_eq_true, false_iff, Json.int.injEq]
      rintro ⟨natural, rfl⟩
      exact positive (Int.natCast_nonneg natural)

def ReadsStringified {α : Type} (formats : TextFormats) (schema : Schema)
    (read : Json → Option α) : Prop :=
  ∀ value, schema.conforms value = true → read (.str (stringified formats value)) = read value

theorem readsStringified_string {α : Type} (formats : TextFormats)
    (options : Option (List String)) (read : Json → Option α) :
    ReadsStringified formats (.string options) read := by
  intro value conforms
  obtain ⟨text, rfl⟩ := conforms_string conforms
  rfl

section NativeFields

variable {α : Type} {formats : TextFormats} {fields : Fields} {args : List (String × String)}
  {properties : List (String × Schema)}

theorem native_field (order : args.Perm (toolInputToArgs formats (.obj fields)))
    (conforms : Schema.propertiesConform properties fields = true) (name : String)
    {schema : Schema} (listed : (name, schema) ∈ properties) {read : Json → Option α}
    (same : ReadsStringified formats schema read) (missing : Option α) :
    fieldValue [name] read missing (stringFields args) = fieldValue [name] read missing fields := by
  apply fieldValue_stringified [name] read missing formats order
  intro key value found
  have among : (key, value) ∈ fields.filter fun field => [name].contains field.1 :=
    found ▸ List.mem_singleton_self _
  obtain ⟨given, named⟩ := List.mem_filter.mp among
  obtain rfl : key = name := by simpa using named
  exact same value (property_conforms conforms listed given)

theorem native_required (order : args.Perm (toolInputToArgs formats (.obj fields)))
    (conforms : Schema.propertiesConform properties fields = true) {name : String}
    {own : Json} (present : (name, own) ∈ fields) (aliases : List String) {schema : Schema}
    (listed : (name, schema) ∈ properties) {read : Json → Option α}
    (same : ReadsStringified formats schema read) (missing : Option α) :
    fieldValue (name :: aliases) read missing (stringFields args) =
      fieldValue (name :: aliases) read missing fields := by
  apply fieldValue_stringified (name :: aliases) read missing formats order
  intro key value found
  have among : (name, own) ∈ fields.filter fun field => (name :: aliases).contains field.1 :=
    List.mem_filter.mpr ⟨present, by simp⟩
  rw [found, List.mem_singleton] at among
  cases among
  exact same own (property_conforms conforms listed present)

end NativeFields

section NativeTools

variable {formats : TextFormats} {fields : Fields} {args : List (String × String)}

theorem native_handlerArgs (prints : PrintsScalars formats) {tool : BuiltinTool}
    (order : args.Perm (toolInputToArgs formats (.obj fields)))
    (conforms : tool.inputSchema.conforms (.obj fields) = true)
    (plain : tool = .read → ∀ value, ("indentation", value) ∉ fields) :
    tool.handlerArgs (stringFields args) = tool.handlerArgs fields := by
  have string (options : Option (List String)) {α : Type} (read : Json → Option α) :
      ReadsStringified formats (.string options) read :=
    readsStringified_string formats options read
  have number (minimum maximum : Option Int) :
      ReadsStringified formats (.number minimum maximum) (lenient deUsize) :=
    fun value conforms => valueToU64_stringified prints conforms
  have timeout : ReadsStringified formats (.number (some 1000) none) (lenient deU64) :=
    fun value conforms => valueToU64_stringified prints conforms
  have flag : ReadsStringified formats .boolean (some <| deBool ·) := fun value conforms =>
    congrArg some (deBool_stringified prints conforms)
  cases tool with
  | globFiles =>
    obtain ⟨-, -, given⟩ := conforms_object conforms
    simp only [BuiltinTool.handlerArgs, globFilesArgs]
    rw [native_field order given "pattern" (by simp) (string none _),
      native_field order given "base_path" (by simp) (string none _),
      native_field order given "limit" (by simp) (number (some 1) (some 2000))]
  | grepFiles =>
    obtain ⟨-, -, given⟩ := conforms_object conforms
    simp only [BuiltinTool.handlerArgs, grepFilesArgs]
    rw [native_field order given "pattern" (by simp) (string none _),
      native_field order given "include" (by simp) (string none _),
      native_field order given "path" (by simp) (string none _),
      native_field order given "limit" (by simp) (number (some 1) (some 2000))]
  | read =>
    obtain ⟨-, needed, given⟩ := conforms_object conforms
    obtain ⟨path, present⟩ := needed "file_path" (by simp)
    have absent (key : String) (value : Json) :
        (fields.filter fun field => ["indentation"].contains field.1) ≠ [(key, value)] := by
      intro found
      have among : (key, value) ∈ fields.filter fun field => ["indentation"].contains field.1 :=
        found ▸ List.mem_singleton_self _
      obtain ⟨given, named⟩ := List.mem_filter.mp among
      obtain rfl : key = "indentation" := by simpa using named
      exact plain rfl value given
    simp only [BuiltinTool.handlerArgs, readFileArgs]
    rw [native_required order given present ["path", "filepath"] (by simp) (string none _),
      native_field order given "offset" (by simp) (number (some 1) none),
      native_field order given "limit" (by simp) (number (some 1) none),
      native_field order given "mode" (by simp) (string (some ["slice", "indentation"]) _),
      fieldValue_stringified ["indentation"] _ _ formats order
        fun key value found => absurd found (absent key value)]
  | listDir =>
    obtain ⟨-, -, given⟩ := conforms_object conforms
    simp only [BuiltinTool.handlerArgs, listDirArgs]
    rw [native_field order given "dir_path" (by simp) (string none _),
      native_field order given "offset" (by simp) (number (some 1) none),
      native_field order given "limit" (by simp) (number (some 1) none),
      native_field order given "depth" (by simp) (number (some 1) none)]
  | processSnapshot =>
    obtain ⟨-, -, given⟩ := conforms_object conforms
    simp only [BuiltinTool.handlerArgs, processSnapshotArgs]
    rw [native_field order given "sort_by" (by simp) (string (some ["cpu", "memory"]) _),
      native_field order given "limit" (by simp) (number (some 1) (some 100)),
      native_field order given "user" (by simp) (string none _)]
  | systemLoad =>
    obtain ⟨-, -, given⟩ := conforms_object conforms
    simp only [BuiltinTool.handlerArgs, systemLoadArgs]
    rw [native_field order given "include_cpu" (by simp) flag,
      native_field order given "include_memory" (by simp) flag]
  | diskUsage =>
    obtain ⟨-, -, given⟩ := conforms_object conforms
    simp only [BuiltinTool.handlerArgs, diskUsageArgs]
    rw [native_field order given "path" (by simp) (string none _),
      native_field order given "include_all_mounts" (by simp) flag]
  | edit =>
    obtain ⟨-, needed, given⟩ := conforms_object conforms
    obtain ⟨path, pathPresent⟩ := needed "file_path" (by simp)
    obtain ⟨replacement, replacementPresent⟩ := needed "new_string" (by simp)
    simp only [BuiltinTool.handlerArgs, editArgs]
    rw [native_required order given pathPresent ["path", "filepath"] (by simp) (string none _),
      native_field order given "old_string" (by simp) (string none _),
      native_required order given replacementPresent ["new_text"] (by simp) (string none _)]
  | writeFile =>
    obtain ⟨-, -, given⟩ := conforms_object conforms
    simp only [BuiltinTool.handlerArgs, writeFileArgs]
    rw [native_field order given "file_path" (by simp) (string none _),
      native_field order given "content" (by simp) (string none _)]
  | shell | execCommand =>
    obtain ⟨-, -, given⟩ := conforms_object conforms
    simp only [BuiltinTool.handlerArgs, shellCommandArgs]
    rw [native_field order given "cmd" (by simp) (string none _),
      native_field order given "timeout_ms" (by simp) timeout]

theorem mem_stringFields (order : args.Perm (toolInputToArgs formats (.obj fields)))
    {name : String} {value : Json} (given : (name, value) ∈ fields) :
    (name, .str (stringified formats value)) ∈ stringFields args := by
  rw [toolInputToArgs_obj] at order
  have shown := order.mem_iff.mpr
    (List.mem_map_of_mem (f := fun field => (field.1, stringified formats field.2)) given)
  exact List.mem_map_of_mem (f := fun entry => (entry.1, Json.str entry.2)) shown

theorem stringFields_unique (order : args.Perm (toolInputToArgs formats (.obj fields)))
    (unique : (fields.map Prod.fst).Nodup) : ((stringFields args).map Prod.fst).Nodup := by
  rw [toolInputToArgs_obj] at order
  have keys := order.map Prod.fst
  rw [List.map_map] at keys
  rw [stringFields, List.map_map]
  exact keys.nodup_iff.mpr unique

theorem native_read_indentation (order : args.Perm (toolInputToArgs formats (.obj fields)))
    (unique : (fields.map Prod.fst).Nodup) {value : Json}
    (given : ("indentation", value) ∈ fields) : readFileArgs (stringFields args) = none := by
  have refused : fieldValue ["indentation"] (readOption readIndentation) (some none)
      (stringFields args) = none := by
    rw [← Option.not_isSome_iff_eq_none,
      fieldValue_isSome _ _ (stringFields_unique order unique) _ rfl]
    intro all
    have read := all _ (mem_stringFields order given)
    simp [readOption, readIndentation] at read
  simp [readFileArgs, refused]

end NativeTools

def NaturalField (fields : Fields) (name : String) : Prop :=
  ∀ value, (name, value) ∈ fields → ∃ number : Nat, value = .int number

structure AsksIndentation (tool : BuiltinTool) (fields : Fields) : Prop where
  tool : tool = .read
  named : ∀ value, ("path", value) ∉ fields ∧ ("filepath", value) ∉ fields
  offset : NaturalField fields "offset"
  limit : NaturalField fields "limit"
  options : ∃ options, ("indentation", .obj options) ∈ fields ∧
    NaturalField options "anchor_line" ∧ NaturalField options "max_levels" ∧
      NaturalField options "max_lines"

theorem isSome_number (unique : (fields.map Prod.fst).Nodup)
    (conforms : Schema.propertiesConform properties fields = true)
    (listed : (name, .number minimum maximum) ∈ properties) {missing : Option Nat}
    (optional : missing.isSome) :
    (fieldValue [name] (lenient deUsize) missing fields).isSome ↔ NaturalField fields name := by
  rw [fieldValue_isSome _ _ unique _ optional]
  refine forall_congr' fun value => forall_congr' fun given => ?_
  exact isSome_valueToU64 (property_conforms conforms listed given)

theorem isSome_deOptUsize (filled : value ≠ .null) :
    (lenient deOptUsize value).isSome = (lenient valueToU64 value).isSome := by
  have shown : deOptUsize value = (valueToU64 value).map some := by
    cases value with
    | null => exact absurd rfl filled
    | _ => rfl
  rw [lenient, lenient, shown]
  cases valueToU64 value <;> rfl

theorem isSome_optNumber (unique : (fields.map Prod.fst).Nodup)
    (conforms : Schema.propertiesConform properties fields = true)
    (listed : (name, .number minimum maximum) ∈ properties) :
    (fieldValue [name] (lenient deOptUsize) (some none) fields).isSome ↔
      NaturalField fields name := by
  rw [fieldValue_isSome _ _ unique _ rfl]
  refine forall_congr' fun value => forall_congr' fun given => ?_
  have number := property_conforms conforms listed given
  have filled : value ≠ .null := by
    rintro rfl
    simp [Schema.conforms] at number
  rw [isSome_deOptUsize filled]
  exact isSome_valueToU64 number

theorem isSome_flag (unique : (fields.map Prod.fst).Nodup)
    (conforms : Schema.propertiesConform properties fields = true)
    (listed : (name, .boolean) ∈ properties) (missing : Bool) :
    (fieldValue [name] readBool (some missing) fields).isSome := by
  rw [fieldValue_isSome _ _ unique _ rfl]
  intro value given
  obtain ⟨flag, rfl⟩ := conforms_boolean (property_conforms conforms listed given)
  rfl

theorem isSome_indentationArgs {options : Fields}
    (conforms : BuiltinTool.indentationSchema.conforms (.obj options) = true) :
    (indentationArgs options).isSome ↔ NaturalField options "anchor_line" ∧
      NaturalField options "max_levels" ∧ NaturalField options "max_lines" := by
  obtain ⟨unique, -, given⟩ := conforms_object conforms
  obtain ⟨siblings, readSiblings⟩ := Option.isSome_iff_exists.mp <|
    isSome_flag unique given (.tail _ (.tail _ (.head _))) false
  obtain ⟨header, readHeader⟩ := Option.isSome_iff_exists.mp <|
    isSome_flag unique given (.tail _ (.tail _ (.tail _ (.head _)))) true
  rw [← isSome_optNumber unique given (.head _),
    ← isSome_number unique given (.tail _ (.head _)) (rfl : (some 0).isSome = true),
    ← isSome_optNumber unique given (.tail _ (.tail _ (.tail _ (.tail _ (.head _)))))]
  rw [indentationArgs, readSiblings, readHeader]
  cases fieldValue ["anchor_line"] (lenient deOptUsize) (some none) options <;>
    cases fieldValue ["max_levels"] (lenient deUsize) (some 0) options <;>
      cases fieldValue ["max_lines"] (lenient deOptUsize) (some none) options <;> simp

theorem isSome_file_path (unique : (fields.map Prod.fst).Nodup) {own : Json}
    (present : ("file_path", own) ∈ fields) (text : (readString own).isSome) :
    (fieldValue ["file_path", "path", "filepath"] readString none fields).isSome ↔
      ∀ value, ("path", value) ∉ fields ∧ ("filepath", value) ∉ fields := by
  have among : ("file_path", own) ∈
      fields.filter fun field => ["file_path", "path", "filepath"].contains field.1 :=
    List.mem_filter.mpr ⟨present, by simp⟩
  constructor
  · intro read value
    -- With an alias there would be two entries.
    have single (key : String) (named : ["file_path", "path", "filepath"].contains key)
        (given : (key, value) ∈ fields) : "file_path" = key :=
      (Prod.mk.inj (entryValue_single read among (List.mem_filter.mpr ⟨given, named⟩))).1
    exact ⟨fun given => absurd (single "path" (by simp) given) (by simp),
      fun given => absurd (single "filepath" (by simp) given) (by simp)⟩
  · intro absent
    have same : (fields.filter fun field =>
        ["file_path", "path", "filepath"].contains field.1) =
          fields.filter fun field => ["file_path"].contains field.1 := by
      apply List.filter_congr
      intro field given
      have noPath : field.1 ≠ "path" := fun same => (absent field.2).1 (same ▸ given)
      have noFilepath : field.1 ≠ "filepath" := fun same => (absent field.2).2 (same ▸ given)
      simp [noPath, noFilepath]
    rw [same] at among
    rw [fieldValue, same]
    rcases filter_name unique "file_path" with ⟨-, found⟩ | ⟨value, -, found⟩
    · rw [found] at among
      cases among
    · rw [found, List.mem_singleton] at among
      cases among
      rw [found]
      exact text

theorem conforms_indentation (conforms : BuiltinTool.indentationSchema.conforms value = true) :
    ∃ options, value = .obj options := by
  cases value with
  | obj options => exact ⟨options, rfl⟩
  | _ => simp [BuiltinTool.indentationSchema, Schema.conforms] at conforms

theorem isSome_readFileArgs (conforms : BuiltinTool.read.inputSchema.conforms (.obj fields) = true)
    (given : ("indentation", value) ∈ fields) :
    (readFileArgs fields).isSome ↔ AsksIndentation .read fields := by
  obtain ⟨unique, needed, listed⟩ := conforms_object conforms
  obtain ⟨own, present⟩ := needed "file_path" (by simp)
  obtain ⟨path, rfl⟩ := conforms_string (property_conforms listed (.head _) present)
  have shape := property_conforms listed (.tail _ (.tail _ (.tail _ (.tail _ (.head _))))) given
  obtain ⟨options, rfl⟩ := conforms_indentation shape
  have mode : (fieldValue ["mode"] readMode (some .slice) fields).isSome := by
    rw [fieldValue_isSome _ _ unique _ rfl]
    intro value given
    have allowed := property_conforms listed (.tail _ (.tail _ (.tail _ (.head _)))) given
    obtain ⟨text, rfl⟩ := conforms_string allowed
    have known : text = "slice" ∨ text = "indentation" := by
      simpa [Schema.conforms] using allowed
    rcases known with rfl | rfl <;> rfl
  have only {other : Json} (otherGiven : ("indentation", other) ∈ fields) : other = .obj options :=
    (Prod.mk.inj (List.inj_on_of_nodup_map unique otherGiven given rfl)).2
  have indentation :
      (fieldValue ["indentation"] (readOption readIndentation) (some none) fields).isSome ↔
        NaturalField options "anchor_line" ∧ NaturalField options "max_levels" ∧
          NaturalField options "max_lines" := by
    rw [fieldValue_isSome _ _ unique _ rfl, ← isSome_indentationArgs shape]
    constructor
    · intro all
      have read := all _ given
      rwa [readOption_isSome (by simp)] at read
    · intro read other otherGiven
      rw [only otherGiven, readOption_isSome (by simp)]
      exact read
  have parts : (readFileArgs fields).isSome ↔
      (fieldValue ["file_path", "path", "filepath"] readString none fields).isSome ∧
        (fieldValue ["offset"] (lenient deUsize) (some 1) fields).isSome ∧
        (fieldValue ["limit"] (lenient deUsize) (some 2000) fields).isSome ∧
        (fieldValue ["indentation"] (readOption readIndentation) (some none) fields).isSome := by
    obtain ⟨mode, readMode⟩ := Option.isSome_iff_exists.mp mode
    rw [readFileArgs, readMode]
    cases fieldValue ["file_path", "path", "filepath"] readString none fields <;>
      cases fieldValue ["offset"] (lenient deUsize) (some 1) fields <;>
        cases fieldValue ["limit"] (lenient deUsize) (some 2000) fields <;>
          cases fieldValue ["indentation"] (readOption readIndentation) (some none) fields <;> simp
  rw [parts, isSome_file_path unique present rfl,
    isSome_number unique listed (.tail _ (.head _)) (rfl : (some 1).isSome = true),
    isSome_number unique listed (.tail _ (.tail _ (.head _))) (rfl : (some 2000).isSome = true),
    indentation]
  constructor
  · rintro ⟨named, offset, limit, natural⟩
    exact ⟨rfl, named, offset, limit, options, given, natural⟩
  · intro asks
    obtain ⟨others, otherGiven, natural⟩ := asks.options
    obtain rfl := Json.obj.inj (only otherGiven)
    exact ⟨asks.named, asks.offset, asks.limit, natural⟩

def escalatedFlag (fields : Fields) : Bool :=
  match fields.lookup "require_escalated" with
  | some (.bool flag) => flag
  | _ => false

theorem lookup_of_mem (unique : (fields.map Prod.fst).Nodup) (given : (name, value) ∈ fields) :
    fields.lookup name = some value := by
  cases found : fields.lookup name with
  | none =>
    have other := List.lookup_eq_none_iff.mp found _ given
    simp at other
  | some other =>
    obtain ⟨before, after, split, -⟩ := List.lookup_eq_some_iff.mp found
    have otherGiven : (name, other) ∈ fields := by
      rw [split]
      exact List.mem_append_right _ List.mem_cons_self
    rw [(Prod.mk.inj (List.inj_on_of_nodup_map unique otherGiven given rfl)).2]

theorem lookup_of_notMem (absent : ∀ value, (name, value) ∉ fields) :
    fields.lookup name = none := by
  rw [List.lookup_eq_none_iff]
  intro field given
  have other : name ≠ field.1 := fun same => absent field.2 (same ▸ given)
  simpa using other

theorem notMem_stringFields {args : List (String × String)}
    (order : args.Perm (toolInputToArgs formats (.obj fields)))
    (absent : ∀ value, (name, value) ∉ fields) (value : Json) :
    (name, value) ∉ stringFields args := by
  rw [toolInputToArgs_obj] at order
  intro given
  obtain ⟨entry, among, same⟩ := List.mem_map.mp given
  obtain ⟨field, fieldGiven, rfl⟩ := List.mem_map.mp (order.mem_iff.mp among)
  cases same
  exact absent field.2 fieldGiven

theorem parseBoolish_toString (flag : Bool) : parseBoolish (.str (toString flag)) = some flag := by
  cases flag <;> decide +kernel

theorem native_escalated (prints : PrintsScalars formats) {args : List (String × String)}
    (order : args.Perm (toolInputToArgs formats (.obj fields)))
    (conforms : BuiltinTool.shellSchema.conforms (.obj fields) = true)
    (reads : formats.parseJson (argsJson formats args) = some (.obj (stringFields args)))
    {invocation : ToolInvocation} (payload : invocation.payload = .function (argsJson formats args)) :
    (extractShellCommand formats.parseJson invocation).map Prod.snd =
      some (escalatedFlag fields) := by
  obtain ⟨unique, needed, listed⟩ := conforms_object conforms
  have stringUnique := stringFields_unique order unique
  obtain ⟨own, present⟩ := needed "cmd" (by simp)
  obtain ⟨command, rfl⟩ := conforms_string (property_conforms listed (.head _) present)
  have commandRead : (stringFields args).lookup "cmd" = some (.str command) :=
    lookup_of_mem stringUnique (mem_stringFields order present)
  have flagRead : (((stringFields args).lookup "require_escalated").bind parseBoolish).getD false =
      escalatedFlag fields := by
    by_cases given : ∃ value, ("require_escalated", value) ∈ fields
    · obtain ⟨value, given⟩ := given
      obtain ⟨flag, rfl⟩ := conforms_boolean (property_conforms listed (.tail _ (.head _)) given)
      have shown : stringified formats (.bool flag) = toString flag := prints.flag flag
      rw [lookup_of_mem stringUnique (mem_stringFields order given), shown, Option.bind_some,
        parseBoolish_toString, escalatedFlag, lookup_of_mem unique given]
      rfl
    · have absent (value : Json) : ("require_escalated", value) ∉ fields :=
        fun among => given ⟨value, among⟩
      rw [lookup_of_notMem (notMem_stringFields order absent), escalatedFlag,
        lookup_of_notMem absent]
      rfl
  unfold extractShellCommand
  rw [payload]
  simp [reads, Json.get?, commandRead, Json.asStr?, flagRead]

/-- The handler gets what the input says, and for a shell the gate sees the input's flag. -/
structure SurvivesStrings (formats : TextFormats) (tool : BuiltinTool) (fields : Fields)
    (args : List (String × String)) : Prop where
  arguments : routedArgs formats tool args = tool.fromJson (.obj fields)
  escalated : isShellLikeTool tool.name = true → ∀ invocation : ToolInvocation,
    invocation.payload = .function (argsJson formats args) →
      (extractShellCommand formats.parseJson invocation).map Prod.snd =
        some (escalatedFlag fields)

/-- Only the options of an indentation reading do not survive, where they would be accepted. -/
theorem survivesStrings_iff (formats : TextFormats) (prints : PrintsScalars formats)
    (tool : BuiltinTool) (fields : Fields)
    (conforms : tool.inputSchema.conforms (.obj fields) = true) (args : List (String × String))
    (order : args.Perm (toolInputToArgs formats (.obj fields)))
    (reads : formats.parseJson (argsJson formats args) = some (.obj (stringFields args))) :
    SurvivesStrings formats tool fields args ↔ ¬ AsksIndentation tool fields := by
  have routed : routedArgs formats tool args = tool.handlerArgs (stringFields args) := by
    rw [routedArgs, reads]
    rfl
  constructor
  · intro survives asks
    obtain rfl := asks.tool
    obtain ⟨options, given, -⟩ := asks.options
    obtain ⟨unique, -, -⟩ := conforms_object conforms
    have direct := (isSome_readFileArgs conforms given).mpr asks
    have same := survives.arguments
    rw [routed, BuiltinTool.handlerArgs, native_read_indentation order unique given] at same
    have lost : readFileArgs fields = none := by simpa [BuiltinTool.fromJson,
      BuiltinTool.handlerArgs] using same.symm
    rw [lost] at direct
    cases direct
  · intro plain
    constructor
    · rw [routed]
      by_cases given : tool = .read ∧ ∃ value, ("indentation", value) ∈ fields
      · obtain ⟨rfl, value, given⟩ := given
        obtain ⟨unique, -, -⟩ := conforms_object conforms
        have refused : readFileArgs fields = none := by
          rw [← Option.not_isSome_iff_eq_none, isSome_readFileArgs conforms given]
          exact plain
        rw [BuiltinTool.handlerArgs, native_read_indentation order unique given,
          BuiltinTool.fromJson, BuiltinTool.handlerArgs, refused]
      · exact native_handlerArgs prints order conforms fun same value among =>
          given ⟨same, value, among⟩
    · intro shell invocation payload
      have shellConforms : BuiltinTool.shellSchema.conforms (.obj fields) = true := by
        cases tool <;> first | exact conforms | exact absurd shell (by decide)
      exact native_escalated prints order shellConforms reads payload

def escapedChar (c : Char) : String :=
  match c with
  | '"' => "\\\""
  | '\\' => "\\\\"
  | '\n' => "\\n"
  | '\r' => "\\r"
  | '\t' => "\\t"
  | other => String.singleton other

def quotedText (text : String) : String :=
  "\"" ++ String.join (text.toList.map escapedChar) ++ "\""

mutual

def compactText : Json → String
  | .null => "null"
  | .bool flag => toString flag
  | .int number => toString number
  | .float _ => "0.5"
  | .str text => quotedText text
  | .arr items => "[" ++ String.intercalate "," (compactItems items) ++ "]"
  | .obj fields => "\x7b" ++ String.intercalate "," (compactFields fields) ++ "\x7d"

def compactItems : List Json → List String
  | [] => []
  | item :: items => compactText item :: compactItems items

def compactFields : List (String × Json) → List String
  | [] => []
  | (key, value) :: fields => (quotedText key ++ ":" ++ compactText value) :: compactFields fields

end

def slicedInput : Fields := [("file_path", .str "src/lib.rs"), ("offset", .int 3)]

def slicedArgs : List (String × String) := [("file_path", "src/lib.rs"), ("offset", "3")]

def slicedText : String := "\x7b\"file_path\":\"src/lib.rs\",\"offset\":\"3\"\x7d"

def indentedInput : Fields :=
  [("file_path", .str "src/lib.rs"), ("indentation", .obj [("max_levels", .int 1)]),
    ("mode", .str "indentation")]

def indentedArgs : List (String × String) :=
  [("file_path", "src/lib.rs"), ("indentation", "\x7b\"max_levels\":1\x7d"),
    ("mode", "indentation")]

def indentedText : String :=
  "\x7b\"file_path\":\"src/lib.rs\",\"indentation\":\"\x7b\\\"max_levels\\\":1\x7d\"," ++
    "\"mode\":\"indentation\"\x7d"

def compactFormats : TextFormats :=
  { jsonText := compactText
    parseJson := fun text =>
      if text = slicedText then some (.obj (stringFields slicedArgs))
      else if text = indentedText then some (.obj (stringFields indentedArgs))
      else none
    debugArgs := fun _ => "\x7b\x7d" }

theorem compactFormats_prints : PrintsScalars compactFormats :=
  have unread : parseU64 "0.5" = none := by decide +kernel
  { flag := fun _ => rfl
    integer := fun _ => rfl
    double := fun _ => unread }

theorem compactFormats_sliced :
    compactFormats.parseJson (argsJson compactFormats slicedArgs) =
      some (.obj (stringFields slicedArgs)) := by
  have shown : argsJson compactFormats slicedArgs = slicedText := by decide +kernel
  rw [shown, compactFormats]
  dsimp only
  rw [if_pos rfl]

theorem compactFormats_indented :
    compactFormats.parseJson (argsJson compactFormats indentedArgs) =
      some (.obj (stringFields indentedArgs)) := by
  have shown : argsJson compactFormats indentedArgs = indentedText := by decide +kernel
  have other : indentedText ≠ slicedText := by decide +kernel
  rw [shown, compactFormats]
  dsimp only
  rw [if_neg other, if_pos rfl]

theorem survivesStrings_sliced :
    SurvivesStrings compactFormats .read slicedInput slicedArgs ↔
      ¬ AsksIndentation .read slicedInput :=
  survivesStrings_iff compactFormats compactFormats_prints .read slicedInput (by decide +kernel)
    slicedArgs (.of_eq (by decide +kernel)) compactFormats_sliced

theorem indentation_does_not_survive :
    ¬ ∀ formats : TextFormats, PrintsScalars formats →
      ∀ (tool : BuiltinTool) (fields : Fields),
        tool.inputSchema.conforms (.obj fields) = true →
        ∀ args : List (String × String), args.Perm (toolInputToArgs formats (.obj fields)) →
          formats.parseJson (argsJson formats args) = some (.obj (stringFields args)) →
            SurvivesStrings formats tool fields args := by
  intro always
  have survives := always compactFormats compactFormats_prints .read indentedInput
    (by decide +kernel) indentedArgs (.of_eq (by decide +kernel)) compactFormats_indented
  have same := survives.arguments
  rw [routedArgs, compactFormats_indented] at same
  exact absurd same (by decide +kernel)

end OpenJax.Agent
