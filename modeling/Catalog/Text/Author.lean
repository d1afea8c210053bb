import Catalog.Text.Blank
import Catalog.Text.Cut

/-! # Author lines

A page often writes an author with a label in front (`作者：`, `Author:`, `by `) and a decoration
behind (`作品集`, ` 著`). What is left without them is put into the normal form of blanks.
-/

namespace Catalog.Text.Author

def isColon (c : Char) : Bool := c == ':' || c == '：'

/-- Blanks, at most one colon, and blanks. -/
def dropColon (s : List Char) : List Char :=
  match trimStart s with
  | c :: r => if isColon c then trimStart r else c :: r
  | [] => []

/-- What follows a Latin label: a colon, with or without blanks, or at least one blank. -/
def afterWord? (r : List Char) : Option (List Char) :=
  match trimStart r with
  | c :: t =>
    if isColon c then some (trimStart t)
    else if r.head?.any isBlank then some (c :: t) else none
  | [] => if r.isEmpty then none else some []

/-- The text after a label at the start; blanks may stand in front of it. -/
def afterLabel? (s : List Char) : Option (List Char) :=
  match trimStart s with
  | '作' :: r =>
    match trimStart r with
    | '者' :: t => some (dropColon t)
    | _ => none
  | s =>
    match dropStartAnyCase? "author".toList s with
    | some r => afterWord? r
    | none => (dropStartAnyCase? "by".toList s).bind afterWord?

def dropLabel (s : List Char) : List Char := (afterLabel? s).getD s

/-- Whether a text is a decoration from its start to its end. -/
def isDecoration (s : List Char) : Bool :=
  match trimStart s with
  | '作' :: '品' :: '集' :: r => (r.dropWhile (· != '\n')).all isBlank
  | '著' :: r => s.head?.any isBlank && r.all isBlank
  | _ => false

/-- The text up to the first place from which on it is a decoration. -/
def dropDecoration : List Char → List Char
  | [] => []
  | c :: r => if isDecoration (c :: r) then [] else c :: dropDecoration r

end Author

/-- The name in an author line. -/
def formatAuthor (s : List Char) : List Char :=
  normalize (Author.dropDecoration (Author.dropLabel s))

end Catalog.Text
