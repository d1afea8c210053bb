/-! # Cutting texts

Cutting a text at a mark: at its first place, at its last place, or off an end. Letters of ASCII
may be compared without their case.
-/

namespace Catalog.Text

/-- The parts before and after the first place where `mark` stands. -/
def cutAt? (mark : List Char) : List Char → Option (List Char × List Char)
  | [] => if mark.isEmpty then some ([], []) else none
  | c :: r =>
    match mark.isPrefixOf? (c :: r) with
    | some t => some ([], t)
    | none => (cutAt? mark r).map fun (a, t) => (c :: a, t)

/-- The parts before and after the last place where a character stands. -/
def cutLast? (mark : Char) : List Char → Option (List Char × List Char)
  | [] => none
  | c :: r =>
    match cutLast? mark r with
    | some (a, t) => some (c :: a, t)
    | none => if c == mark then some ([], r) else none

/-- What stands before a mark that ends the text. -/
def dropEnd? (mark s : List Char) : Option (List Char) :=
  (mark.reverse.isPrefixOf? s.reverse).map List.reverse

/-- What follows a mark that starts the text in letters of any case; the mark is in lower case. -/
def dropStartAnyCase? : List Char → List Char → Option (List Char)
  | [], s => some s
  | _ :: _, [] => none
  | m :: ms, c :: r => if c.toLower == m then dropStartAnyCase? ms r else none

def occursIn (mark s : List Char) : Bool := (cutAt? mark s).isSome

end Catalog.Text
