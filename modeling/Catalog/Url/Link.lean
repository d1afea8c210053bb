import Catalog.Text.Blank
import Catalog.Url.Parser

/-! # Links

The address that a link on a page leads to. A link that is complete already, or that cannot be
joined with the page, is left as it is written.
-/

namespace Catalog

/-- The address of the web that a text is, written out with its scheme in small letters. -/
def webAddress? (text : String) : Option Url :=
  let s := Text.trim text.toList
  if "http://".toList.isPrefixOf s || "https://".toList.isPrefixOf s then Url.parse? s else none

/-- Whether a link names data, an action or a person and not a page. -/
def isDirectLink (link : List Char) : Bool :=
  ["data:", "javascript:", "mailto:", "tel:"].any fun scheme => scheme.toList.isPrefixOf link

/-- The address of a link on a page. -/
def absoluteLink (page link : String) : String :=
  let link := trimmed link
  if link.isEmpty || isDirectLink link.toList || (webAddress? link).isSome then link
  else
    match webAddress? page with
    | none => link
    | some base => (base.join? link.toList).elim link Url.render

end Catalog
