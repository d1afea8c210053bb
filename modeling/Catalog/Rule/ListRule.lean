import Catalog.Text.Blank

/-! # List rules

A rule that enumerates the records of a page may start with `-`, which turns their order around,
and then with `+`, which says nothing.
-/

namespace Catalog

structure ListRule where
  rule : String
  reversed : Bool
  deriving DecidableEq, Repr

def ListRule.dropPlus : List Char → List Char
  | '+' :: r => r
  | s => s

def ListRule.ofText (text : String) : ListRule :=
  match text.toList with
  | '-' :: r => ⟨String.ofList (dropPlus r), true⟩
  | s => ⟨String.ofList (dropPlus s), false⟩

/-- A rule that is absent or holds blanks only says nothing. -/
def isBlankRule (rule : Option String) : Bool :=
  match rule with
  | none => true
  | some r => r.toList.all Text.isBlank

end Catalog
