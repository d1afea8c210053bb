import Catalog.Markup.Node

/-! # Growing documents

While a document is read its nodes are kept in a table, where each one knows its parent and its
children and can be moved. At the end the table is turned into trees.
-/

namespace Catalog.Markup

structure Slot where
  kind : Kind
  parent : Option Nat
  children : Array Nat
  /-- Where the content of a template is kept. -/
  contents : Option Nat
  deriving Inhabited

structure Store where
  slots : Array Slot

/-- Where a node is put. -/
inductive Place where
  | inside (parent : Nat)
  | before (sibling : Nat)

namespace Store

/-- A document without content; its node has the number 0. -/
def start : Store := ⟨#[⟨.document, none, #[], none⟩]⟩

def kind (s : Store) (i : Nat) : Kind := (s.slots[i]?.map (·.kind)).getD .document

def parent? (s : Store) (i : Nat) : Option Nat := s.slots[i]?.bind (·.parent)

def children (s : Store) (i : Nat) : Array Nat := (s.slots[i]?.map (·.children)).getD #[]

def contents? (s : Store) (i : Nat) : Option Nat := s.slots[i]?.bind (·.contents)

def tag? (s : Store) (i : Nat) : Option Tag :=
  match s.kind i with
  | .element t => some t
  | _ => none

def create (s : Store) (kind : Kind) : Nat × Store :=
  (s.slots.size, ⟨s.slots.push ⟨kind, none, #[], none⟩⟩)

/-- A new element. What a template holds has its node before that of the template. -/
def createElement (s : Store) (tag : Tag) : Nat × Store :=
  if tag.space = .html && tag.name == "template" then
    let (inner, s) := s.create .contents
    (s.slots.size, ⟨s.slots.push ⟨.element tag, none, #[], some inner⟩⟩)
  else s.create (.element tag)

def setParent (s : Store) (i : Nat) (parent : Option Nat) : Store :=
  ⟨s.slots.modify i fun slot => { slot with parent }⟩

def editChildren (s : Store) (i : Nat) (f : Array Nat → Array Nat) : Store :=
  ⟨s.slots.modify i fun slot => { slot with children := f slot.children }⟩

def setKind (s : Store) (i : Nat) (kind : Kind) : Store :=
  ⟨s.slots.modify i fun slot => { slot with kind }⟩

def detach (s : Store) (i : Nat) : Store :=
  match s.parent? i with
  | none => s
  | some p => (s.editChildren p fun cs => cs.filter (· != i)).setParent i none

def append (s : Store) (parent child : Nat) : Store :=
  (s.editChildren parent (·.push child)).setParent child (some parent)

def insertBefore (s : Store) (sibling child : Nat) : Store :=
  match s.parent? sibling with
  | none => s
  | some p =>
    (s.editChildren p fun cs =>
      let at_ := (cs.findIdx? (· == sibling)).getD cs.size
      cs.extract 0 at_ ++ #[child] ++ cs.extract at_ cs.size).setParent child (some p)

def insert (s : Store) (place : Place) (child : Nat) : Store :=
  match place with
  | .inside p => s.append p child
  | .before sibling => s.insertBefore sibling child

/-- The child that a place follows directly. -/
def previous? (s : Store) : Place → Option Nat
  | .inside p => (s.children p).back?
  | .before sibling => do
    let p ← s.parent? sibling
    let at_ ← (s.children p).findIdx? (· == sibling)
    if at_ = 0 then none else (s.children p)[at_ - 1]?

/-- Puts a text at a place; it runs on a text that stands before. -/
def insertText (s : Store) (place : Place) (text : String) : Store :=
  let fresh : Store :=
    let (i, s) := s.create (.text text)
    s.insert place i
  match s.previous? place with
  | some i =>
    match s.kind i with
    | .text front => s.setKind i (.text (front ++ text))
    | _ => fresh
  | none => fresh

def moveChildren (s : Store) (source target : Nat) : Store :=
  let moved := s.children source
  let s := moved.foldl (fun s i => s.setParent i (some target)) s
  (s.editChildren source fun _ => #[]).editChildren target (· ++ moved)

def addAttributes (s : Store) (i : Nat) (attributes : List Attribute) : Store :=
  match s.kind i with
  | .element t =>
    let fresh := attributes.filter fun a => !t.attributes.any (·.name == a.name)
    s.setKind i (.element { t with attributes := t.attributes ++ fresh })
  | _ => s

/-- The tree below a node; the depth bounds the steps. -/
def tree (s : Store) : Nat → Nat → Node
  | 0, i => .mk i (s.kind i) []
  | depth + 1, i => .mk i (s.kind i) ((s.children i).toList.map (s.tree depth))

/-- The trees of all nodes without a parent, that of the document first. -/
def trees (s : Store) : List Node :=
  let roots := (List.range s.slots.size).filter fun i => (s.parent? i).isNone
  roots.map (s.tree s.slots.size)

end Store

end Catalog.Markup
