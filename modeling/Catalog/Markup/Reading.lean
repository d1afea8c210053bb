import Catalog.Markup.Document
import Catalog.Markup.Selector.Parser
import Catalog.Markup.Writer
import Catalog.Error

/-! # Reading from documents

The nodes that a selector finds, and the values that are read off a node.
-/

namespace Catalog.Markup

namespace Node

def plainText (n : Node) : String := String.ofList (Text.normalize n.text.toList)

def ownTexts (n : Node) : List String :=
  ((n.children.filterMap ownText?).map trimmed).filter (!·.isEmpty)

def attributeText? (n : Node) (name : String) : Option String := (n.attribute? name).map trimmed

end Node

namespace Document

/-- The roots of markup, of which there is one unless a drawing holds another. -/
def roots (d : Document) : List Spot := (Selector.tag "html").select ⟨d.root, []⟩

/-- The node with a number, be it a part of the document or not. -/
def find? (d : Document) (id : Nat) : Option Spot :=
  d.trees.findSome? fun tree =>
    let root : Spot := ⟨tree, []⟩
    (root :: root.below).find? fun p => p.node.id == id

end Document

/-- The selector that a rule stands for. -/
def selector (rule : String) : Except Error Selector :=
  match Selector.parse? rule with
  | some s => .ok s
  | none => .error (.invalidRule rule .malformed)

end Catalog.Markup
