import Catalog.Markup.Node

/-! # Spots in a document

A spot is a node together with the way up to the root of its tree, so that its parent and its
siblings can be reached from it.
-/

namespace Catalog.Markup

/-- One step up. -/
structure Level where
  above : Node
  /-- The siblings before, the nearest first. -/
  left : List Node
  right : List Node

structure Spot where
  node : Node
  trail : List Level

namespace Spot

def up? (p : Spot) : Option Spot :=
  match p.trail with
  | [] => none
  | l :: rest => some ⟨l.above, rest⟩

def upFrom : List Level → List Spot
  | [] => []
  | l :: rest => ⟨l.above, rest⟩ :: upFrom rest

def ancestors (p : Spot) : List Spot := upFrom p.trail

def leftFrom (above : Node) (rest : List Level) : List Node → List Node → List Spot
  | [], _ => []
  | n :: left, right => ⟨n, ⟨above, left, right⟩ :: rest⟩ :: leftFrom above rest left (n :: right)

def rightFrom (above : Node) (rest : List Level) : List Node → List Node → List Spot
  | _, [] => []
  | left, n :: right =>
    ⟨n, ⟨above, left, right⟩ :: rest⟩ :: rightFrom above rest (n :: left) right

def before (p : Spot) : List Spot :=
  match p.trail with
  | [] => []
  | l :: rest => (leftFrom l.above rest l.left (p.node :: l.right)).filter (·.node.isElement)

def behind (p : Spot) : List Spot :=
  match p.trail with
  | [] => []
  | l :: rest => (rightFrom l.above rest (p.node :: l.left) l.right).filter (·.node.isElement)

mutual

def belowNode : Node → List Level → List Spot
  | .mk i k children, trail => belowChildren (.mk i k children) trail [] children

def belowChildren (above : Node) (trail : List Level) : List Node → List Node → List Spot
  | _, [] => []
  | left, n :: right =>
    ⟨n, ⟨above, left, right⟩ :: trail⟩ ::
      (belowNode n (⟨above, left, right⟩ :: trail) ++ belowChildren above trail (n :: left) right)

end

def below (p : Spot) : List Spot := belowNode p.node p.trail

end Spot

end Catalog.Markup
