import Catalog.Json.Written

/-! # Records

A record has fields with names in a fixed order. It is written as an object, whose members may
stand in any order among foreign ones, or as an array of the values of its first fields.
-/

namespace Catalog.Json

namespace Written

def memberNames? (members : List (Option (List Char) × Written)) :
    Option (List (String × Written)) :=
  members.mapM fun (name, v) => name.map fun n => (String.ofList n, v)

def valuesOf (name : String) (members : List (String × Written)) : List Written :=
  (members.filter fun m => m.1 == name).map (·.2)

/-- The value of a field, which may be given once at most. -/
def single? : List Written → Option (Option Written)
  | [] => some none
  | [v] => some (some v)
  | _ => none

/-- The values of the first fields, at least `least` of them. -/
def positions? (least : Nat) (names : List String) (items : List Written) :
    Option (List (Option Written)) :=
  if items.length < least || names.length < items.length then none
  else some (items.map some ++ List.replicate (names.length - items.length) none)

/-- The values of the fields of a record, as far as they are given. -/
def fields? (least : Nat) (names : List String) : Written → Option (List (Option Written))
  | .object members => do
    let members ← memberNames? members
    names.mapM fun name => single? (valuesOf name members)
  | .array items => positions? least names items
  | _ => none

def text? : Written → Option String
  | .string s => s.map String.ofList
  | _ => none

def optionalText? : Written → Option (Option String)
  | .null => some none
  | w => w.text?.map some

/-- An integer of 32 bits, written without fraction and exponent. -/
def int32? : Written → Option Int32
  | .number n =>
    match n.toNumber? with
    | some (.int k) => if -2147483648 ≤ k && k ≤ 2147483647 then some (.ofInt k) else none
    | _ => none
  | _ => none

def textMap? : Written → Option (List (String × String))
  | .object members => do
    let members ← memberNames? members
    members.mapM fun (name, v) => v.text?.map fun t => (name, t)
  | _ => none

def orDefault {α : Type} (default : α) (read : Written → Option α) : Option Written → Option α
  | none => some default
  | some w => read w

end Written

/-- A text, or null. -/
def Value.ofOption : Option String → Value
  | none => .null
  | some s => .string s

end Catalog.Json
