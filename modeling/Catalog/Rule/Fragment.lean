import Catalog.Error
import Catalog.Pattern.Template

/-! # Fragments

One piece of a rule that is read by itself: its dialect and text, the variables it sets first, and
the replacement that is run over what it yields.
-/

namespace Catalog

structure Replacement where
  pattern : Pattern
  text : String
  firstOnly : Bool

namespace Replacement

def make (pattern text : String) (firstOnly : Bool) : Except Error Replacement :=
  match Pattern.compile? pattern with
  | some p => .ok ⟨p, text, firstOnly⟩
  | none => .error (.invalidRule pattern .malformed)

def apply (r : Replacement) (value : String) : String :=
  r.pattern.replace r.text r.firstOnly value

end Replacement

structure Fragment where
  dialect : Dialect
  text : String
  link : Link
  /-- Variables and the rules that give them their values, in order. -/
  puts : List (String × String)
  replacement : Option Replacement

namespace Fragment

/-- Runs the replacement over a value; an empty value stays empty. -/
def postProcess (f : Fragment) (value : String) : String :=
  match f.replacement with
  | some r => if value.isEmpty then value else r.apply value
  | none => value

end Fragment

end Catalog
