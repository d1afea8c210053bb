import Catalog.Text.Category
import Catalog.Text.Property

/-! # Words, digits and blanks as sets

The three classes of characters that patterns name by a letter.
-/

namespace Catalog.Text

/-- Letters, marks, digits, connectors and the two joiners. -/
def wordSet : CodeSet :=
  .ofRanges ((["m", "nd", "pc"].filterMap Category.named?).flatMap (·.ranges) ++
    (CodeSet.read Property.alphabetic).ranges ++ [⟨0x200C, 0x200D⟩])

def digitSet : CodeSet := (Category.named? "nd").getD .empty

def blankSet : CodeSet :=
  ⟨[⟨0x09, 0x0D⟩, ⟨0x20, 0x20⟩, ⟨0x85, 0x85⟩, ⟨0xA0, 0xA0⟩, ⟨0x1680, 0x1680⟩, ⟨0x2000, 0x200A⟩,
    ⟨0x2028, 0x2029⟩, ⟨0x202F, 0x202F⟩, ⟨0x205F, 0x205F⟩, ⟨0x3000, 0x3000⟩]⟩

end Catalog.Text
