import Catalog.Text.Category
import Catalog.Text.Script
import Catalog.Text.Property

/-! # Character properties by name

The name inside `\p`: a binary property, a general category or a script, or a property with one
of its values. Case, blanks, hyphens, underscores and a leading `is` make no difference.
-/

namespace Catalog.Pattern.Property

open Text

def loose (name : List Char) : String :=
  match name with
  | i :: s :: rest =>
    if (i == 'i' || i == 'I') && (s == 's' || s == 'S') then
      let r := squash rest
      if r == ['c'] then "isc" else String.ofList r
    else String.ofList (squash name)
  | _ => String.ofList (squash name)
where
  squash (cs : List Char) : List Char :=
    (cs.filter fun c => c.toNat < 0x80 && c != ' ' && c != '_' && c != '-').map Char.toLower

/-- The set named alone. The names `cf`, `sc` and `lc` are categories. -/
def named? (name : List Char) : Option CodeSet :=
  let n := loose name
  let category := Category.named? n
  if n == "cf" || n == "sc" || n == "lc" then category
  else (Text.Property.named? n).or (category.or (Script.named? n))

/-- The set of the characters whose property `name` has the value `value`. -/
def valued? (name value : List Char) : Option CodeSet :=
  let n := loose name
  let v := loose value
  if n == "generalcategory" || n == "gc" then Category.named? v
  else if n == "script" || n == "sc" || n == "scriptextensions" || n == "scx" then Script.named? v
  else none

end Catalog.Pattern.Property
