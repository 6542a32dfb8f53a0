import OpenJax.Shared.Json

set_option autoImplicit false

namespace OpenJax.Tools

open Shared

structure ToolSpec where
  name : String
  description : String
  inputSchema : Json
  outputSchema : Option Json
  displayName : String

inductive Schema where
  | string (options : Option (List String))
  | number (minimum maximum : Option Int)
  | boolean
  | object (properties : List (String × Schema)) (required : List String)

namespace Schema

mutual

def conforms : Schema → Json → Bool
  | .string options, .str text => options.all (·.contains text)
  -- The reader keeps an integer as one where it fits 64 bits.
  | .number minimum maximum, .int value =>
      decide (-9223372036854775808 ≤ value ∧ value < 18446744073709551616) &&
        minimum.all (· ≤ value) && maximum.all (value ≤ ·)
  -- No reader of a tool takes a double, so its bounds are not looked at.
  | .number _ _, .float _ => true
  | .boolean, .bool _ => true
  | .object properties required, .obj fields =>
      decide (fields.map Prod.fst).Nodup &&
        required.all (fun name => fields.any (·.1 == name)) &&
        propertiesConform properties fields
  | _, _ => false

def propertiesConform : List (String × Schema) → List (String × Json) → Bool
  | [], _ => true
  | (name, schema) :: properties, fields =>
      fields.all (fun field => field.1 != name || schema.conforms field.2) &&
        propertiesConform properties fields

end

end Schema

inductive BuiltinTool where
  | globFiles
  | grepFiles
  | read
  | listDir
  | processSnapshot
  | systemLoad
  | diskUsage
  | edit
  | writeFile
  | shell
  | execCommand
  deriving DecidableEq, Repr

namespace BuiltinTool

def name : BuiltinTool → String
  | .globFiles => "glob_files"
  | .grepFiles => "grep_files"
  | .read => "Read"
  | .listDir => "list_dir"
  | .processSnapshot => "process_snapshot"
  | .systemLoad => "system_load"
  | .diskUsage => "disk_usage"
  | .edit => "Edit"
  | .writeFile => "write_file"
  | .shell => "shell"
  | .execCommand => "exec_command"

def indentationSchema : Schema :=
  .object
    [("anchor_line", .number (some 1) none), ("max_levels", .number (some 0) none),
      ("include_siblings", .boolean), ("include_header", .boolean),
      ("max_lines", .number (some 1) none)]
    []

def shellSchema : Schema :=
  .object
    [("cmd", .string none), ("require_escalated", .boolean),
      ("timeout_ms", .number (some 1000) none)]
    ["cmd"]

def inputSchema : BuiltinTool → Schema
  | .globFiles =>
      .object
        [("pattern", .string none), ("base_path", .string none),
          ("limit", .number (some 1) (some 2000))]
        ["pattern"]
  | .grepFiles =>
      .object
        [("pattern", .string none), ("include", .string none), ("path", .string none),
          ("limit", .number (some 1) (some 2000))]
        ["pattern"]
  | .read =>
      .object
        [("file_path", .string none), ("offset", .number (some 1) none),
          ("limit", .number (some 1) none), ("mode", .string (some ["slice", "indentation"])),
          ("indentation", indentationSchema)]
        ["file_path"]
  | .listDir =>
      .object
        [("dir_path", .string none), ("offset", .number (some 1) none),
          ("limit", .number (some 1) none), ("depth", .number (some 1) none)]
        ["dir_path"]
  | .processSnapshot =>
      .object
        [("sort_by", .string (some ["cpu", "memory"])), ("limit", .number (some 1) (some 100)),
          ("user", .string none)]
        []
  | .systemLoad => .object [("include_cpu", .boolean), ("include_memory", .boolean)] []
  | .diskUsage => .object [("path", .string none), ("include_all_mounts", .boolean)] []
  | .edit =>
      .object
        [("file_path", .string none), ("old_string", .string none), ("new_string", .string none)]
        ["file_path", "old_string", "new_string"]
  | .writeFile =>
      .object [("file_path", .string none), ("content", .string none)] ["file_path", "content"]
  | .shell | .execCommand => shellSchema

end BuiltinTool

end OpenJax.Tools
