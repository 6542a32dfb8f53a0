set_option autoImplicit false

namespace OpenJax.Shared

inductive Json where
  | null
  | bool (value : Bool)
  | int (value : Int)
  -- The bits of an IEEE double: nothing modelled here computes with one.
  | float (bits : UInt64)
  | str (value : String)
  | arr (items : List Json)
  | obj (fields : List (String × Json))

namespace Json

def empty : Json := .obj []

def get? (value : Json) (key : String) : Option Json :=
  match value with
  | .obj fields => fields.lookup key
  | _ => none

def asStr? : Json → Option String
  | .str value => some value
  | _ => none

def asBool? : Json → Option Bool
  | .bool value => some value
  | _ => none

def asArr? : Json → Option (List Json)
  | .arr items => some items
  | _ => none

/-- The reader keeps an integer that fits 64 bits as one; a larger number becomes a double. -/
def asU64? : Json → Option Nat
  | .int value => if 0 ≤ value then some value.toNat else none
  | _ => none

def ofOption {α : Type} (encode : α → Json) : Option α → Json
  | none => .null
  | some value => encode value

def strings (values : List String) : Json := .arr (values.map .str)

def setField (key : String) (replacement : Json) :
    List (String × Json) → List (String × Json)
  | [] => [(key, replacement)]
  | (name, value) :: rest =>
      if name = key then (name, replacement) :: rest
      else (name, value) :: setField key replacement rest

def set (value : Json) (key : String) (replacement : Json) : Json :=
  match value with
  | .obj fields => .obj (setField key replacement fields)
  | other => other

end Json

end OpenJax.Shared
