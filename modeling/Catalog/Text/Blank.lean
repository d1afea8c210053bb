/-! # Blank characters

The characters that count as white space, trimming, and the normal form in which every run of
blanks inside a text is one space and none stands at an end.
-/

namespace Catalog.Text

/-- The characters with the Unicode property `White_Space`. -/
def isBlank (c : Char) : Bool :=
  let n := c.toNat
  n == 0x20 || (0x09 ≤ n && n ≤ 0x0D) || n == 0x85 || n == 0xA0 || n == 0x1680 ||
    (0x2000 ≤ n && n ≤ 0x200A) || n == 0x2028 || n == 0x2029 || n == 0x202F || n == 0x205F ||
    n == 0x3000

def trimStart (s : List Char) : List Char := s.dropWhile isBlank

def trimEnd (s : List Char) : List Char := (s.reverse.dropWhile isBlank).reverse

def trim (s : List Char) : List Char := trimEnd (trimStart s)

/-- Every run of blanks becomes one space; `gap` says that a run is open. -/
def squeezeFrom : Bool → List Char → List Char
  | _, [] => []
  | gap, c :: r =>
    if isBlank c then
      if gap then squeezeFrom true r else ' ' :: squeezeFrom true r
    else c :: squeezeFrom false r

def squeeze (s : List Char) : List Char := squeezeFrom false s

/-- Trimmed, with every inner run of blanks one space. -/
def normalize (s : List Char) : List Char := squeeze (trim s)

end Catalog.Text

namespace Catalog

/-- A text without the blanks at its ends. -/
def trimmed (s : String) : String := String.ofList (Text.trim s.toList)

end Catalog
