import Catalog.Text.Category
import Catalog.Text.Split
import Catalog.Url.HostMapping
import Catalog.Url.Percent
import Catalog.Url.Punycode

/-! # Domain names

A domain name is brought into its form in ASCII: letters become small, characters outside ASCII are
mapped, and a label that still has some is written in Punycode behind `xn--`.
-/

namespace Catalog.Url

def isForbiddenInDomain (c : Char) : Bool :=
  c.toNat ≤ 0x20 || c.toNat = 0x7F || "%#/:<>?@[\\]^|".toList.contains c

/-- What a character of a name stands for. -/
def nameImage? (c : Char) : Option (List Char) :=
  if c.toNat < 0x80 then if isForbiddenInDomain c then none else some [c.toLower]
  else HostMapping.image? c

def isMark (c : Char) : Bool := ((Text.Category.named? "m").getD .empty).contains c

def isAscii (s : List Char) : Bool := s.all fun c => c.toNat < 0x80

/-- Whether a label outside ASCII is in the form that mapping leaves and starts with no mark. -/
def isMappedLabel (s : List Char) : Bool :=
  !(s.head?.elim true isMark) && s.all fun c => nameImage? c == some [c]

/-- The form in ASCII of one mapped label. -/
def label? (s : List Char) : Option (List Char) :=
  match ("xn--".toList).isPrefixOf? s with
  | some code => do
    if !isAscii s then none
    let decoded ← Punycode.decode? code
    if !isAscii decoded && isMappedLabel decoded && Punycode.encode decoded == code then some s
    else none
  | none =>
    if isAscii s then some s
    else if isMappedLabel s then some ("xn--".toList ++ Punycode.encode s)
    else none

/-- The form in ASCII of a name given by bytes that may be escaped. -/
def domain? (s : List Char) : Option (List Char) := do
  let text ← String.fromUTF8? ⟨(unescape s).toArray⟩
  let mapped ← text.toList.mapM nameImage?
  let labels ← (Text.splitAt '.' mapped.flatten).mapM label?
  let name := (labels.intersperse ['.']).flatten
  if name.isEmpty then none else some name

end Catalog.Url
