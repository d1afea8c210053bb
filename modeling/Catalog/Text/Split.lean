/-! # Splitting texts

A text is split at every place of a separator; joining the parts again gives the text back.
-/

namespace Catalog.Text

/-- The parts between the places of a separator, `[]` having one empty part. -/
def splitAt (mark : Char) : List Char → List (List Char)
  | [] => [[]]
  | c :: r =>
    if c == mark then [] :: splitAt mark r
    else
      match splitAt mark r with
      | part :: parts => (c :: part) :: parts
      | [] => [[c]]

end Catalog.Text
