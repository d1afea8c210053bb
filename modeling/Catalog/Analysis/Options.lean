import Catalog.Text.Author
import Catalog.Url.Link

/-! # Options

What a caller may choose of how the fields of a book come out.
-/

namespace Catalog

structure Options where
  /-- Stands between the kinds of a book. -/
  kindSeparator : String
  /-- Whether the fields of all books on a page are of interest to everyone, or only those of the
  first. -/
  traceAllItems : Bool
  /-- The author as it is kept, from the author as it was read. -/
  formatAuthor : String → String
  /-- The address of a cover, from the address of the page and the link. -/
  resolveLink : String → String → String

namespace Options

def standard : Options :=
  ⟨",", false, fun a => String.ofList (Text.formatAuthor a.toList), absoluteLink⟩

end Options

end Catalog
