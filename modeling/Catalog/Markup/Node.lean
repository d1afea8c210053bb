/-! # Nodes

Documents as trees. Every node carries a number that no other node of its document has, given in the
order in which the nodes came into being.
-/

namespace Catalog.Markup

/-- The vocabulary that an element belongs to. -/
inductive Space where
  | html
  | math
  | svg
  deriving DecidableEq, Repr, Inhabited

structure Attribute where
  /-- What stands before the colon in foreign vocabularies, as in `xlink:href`. -/
  qualifier : String
  name : String
  value : String
  deriving DecidableEq, Repr, Inhabited

structure Tag where
  space : Space
  name : String
  attributes : List Attribute
  deriving DecidableEq, Repr, Inhabited

inductive Kind where
  | document
  | doctype (name : String)
  | comment (text : String)
  | text (text : String)
  | element (tag : Tag)
  /-- What a template holds; it is no part of the document. -/
  | contents
  deriving DecidableEq, Repr, Inhabited

inductive Node where
  | mk (id : Nat) (kind : Kind) (children : List Node)
  deriving Repr

instance : Inhabited Node := ⟨.mk 0 .document []⟩

namespace Node

mutual

def decEq : (a b : Node) → Decidable (a = b)
  | mk i k children, mk j l others =>
    have := decEqs children others
    decidable_of_decidable_of_iff (p := i = j ∧ k = l ∧ children = others) (by simp)

def decEqs : (a b : List Node) → Decidable (a = b)
  | [], [] => .isTrue rfl
  | [], _ :: _ => .isFalse nofun
  | _ :: _, [] => .isFalse nofun
  | n :: rest, m :: others =>
    have := decEq n m
    have := decEqs rest others
    decidable_of_decidable_of_iff (p := n = m ∧ rest = others) (by simp)

end

instance : DecidableEq Node := decEq

def id : Node → Nat
  | mk i _ _ => i

def kind : Node → Kind
  | mk _ k _ => k

def children : Node → List Node
  | mk _ _ cs => cs

def tag? (n : Node) : Option Tag :=
  match n.kind with
  | .element t => some t
  | _ => none

def isElement (n : Node) : Bool := n.tag?.isSome

def ownText? (n : Node) : Option String :=
  match n.kind with
  | .text t => some t
  | _ => none

/-- The value of the first attribute with a name, whatever stands before a colon. -/
def attribute? (n : Node) (name : String) : Option String :=
  n.tag?.bind fun t => (t.attributes.find? fun a => a.name == name).map (·.value)

mutual

def texts : Node → List String
  | mk _ (.text t) _ => [t]
  | mk _ _ children => textsOf children

def textsOf : List Node → List String
  | [] => []
  | n :: rest => n.texts ++ textsOf rest

end

def text (n : Node) : String := String.join n.texts

end Node

end Catalog.Markup
