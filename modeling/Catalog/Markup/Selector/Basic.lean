import Catalog.Markup.Lexer
import Catalog.Markup.Spot
import Catalog.Text.Blank

/-! # Selectors

A selector is a condition on the spots of a document. Conditions on an element itself are combined
with conditions on elements that it stands below, behind or above.
-/

namespace Catalog.Markup

/-- How the value of an attribute is compared. -/
inductive Comparison where
  | equal
  /-- One of the words. -/
  | word
  /-- Equal, or up to a hyphen. -/
  | dashed
  | start
  | finish
  | part
  deriving DecidableEq, Repr

/-- Whether letters of a value are compared without their case. -/
inductive Casing where
  | exact
  | loose
  /-- Loose for attributes of HTML whose values are words of the language. -/
  | byName
  deriving DecidableEq, Repr

structure AttributeTest where
  name : String
  /-- Whether qualified attributes count. -/
  anyQualifier : Bool
  /-- Without a comparison it is enough that the attribute is there. -/
  value : Option (Comparison × String × Casing)
  deriving Repr

inductive Selector where
  | any
  | never
  | tag (name : String)
  | id (name : String)
  | ofClass (name : String)
  | withAttribute (test : AttributeTest)
  /-- The document itself. -/
  | root
  /-- Without elements, and without text that is not blank. -/
  | empty
  /-- With text that is not blank, but without elements. -/
  | onlyText
  /-- A link with an address. -/
  | link
  /-- One text in it holds a part. -/
  | hasText (part : String)
  /-- All texts in it together hold a part. -/
  | contains (part : String)
  | both (s t : Selector)
  | either (s t : Selector)
  | not (s : Selector)
  /-- Its number among its siblings that match is `step * n + offset` for some `n`. -/
  | nth (step offset : Int) (fromEnd : Bool) (among : Selector)
  /-- The same among siblings with its own name. -/
  | nthOfType (step offset : Int) (fromEnd : Bool)
  | childOf (s : Selector)
  | within (s : Selector)
  | next (s : Selector)
  | later (s : Selector)
  /-- An element below it, or behind it and its siblings, matches. -/
  | has (aside : Bool) (s : Selector)
  /-- The element that a condition in `has` starts from. -/
  | anchor
  deriving Repr

namespace Selector

/-- The attributes of HTML with values in any case. -/
def looseAttributes : List String :=
  ["accept", "accept-charset", "align", "alink", "axis", "bgcolor", "charset", "checked", "clear",
    "codetype", "color", "compact", "declare", "defer", "dir", "direction", "disabled", "enctype",
    "face", "frame", "hreflang", "http-equiv", "lang", "language", "link", "media", "method",
    "multiple", "nohref", "noresize", "noshade", "nowrap", "readonly", "rel", "rev", "rules",
    "scope", "scrolling", "selected", "shape", "target", "text", "type", "valign", "valuetype",
    "vlink"]

def words (s : List Char) : List (List Char) :=
  (s.splitBy fun a b => Lexer.isSpace a == Lexer.isSpace b).filter
    fun w => !w.any Lexer.isSpace

def isPart (part s : List Char) : Bool :=
  part.isPrefixOf s || (match s with
    | [] => false
    | _ :: r => isPart part r)

/-- An empty value starts, ends and is part of nothing. -/
def compare (c : Comparison) (wanted value : List Char) : Bool :=
  match c with
  | .equal => value == wanted
  | .word => (words value).contains wanted
  | .dashed => value == wanted || (wanted ++ ['-']).isPrefixOf value
  | .start => !wanted.isEmpty && wanted.isPrefixOf value
  | .finish => !wanted.isEmpty && wanted.isSuffixOf value
  | .part => !wanted.isEmpty && isPart wanted value

end Selector

/-- In HTML names are compared by their small letters. -/
def AttributeTest.passes (test : AttributeTest) (t : Tag) : Bool :=
  let name := if t.space = .html then test.name.toLower else test.name
  t.attributes.any fun a =>
    a.name == name && (test.anyQualifier || a.qualifier.isEmpty) &&
      match test.value with
      | none => true
      | some (c, wanted, casing) =>
        let loose := casing = .loose ||
          (casing = .byName && t.space = .html && !test.anyQualifier &&
            Selector.looseAttributes.contains test.name.toLower)
        if loose then Selector.compare c wanted.toLower.toList a.value.toLower.toList
        else Selector.compare c wanted.toList a.value.toList

namespace Tag

def isNamedAs (t : Tag) (name : String) : Bool :=
  t.name == if t.space = .html then name.toLower else name

def attribute? (t : Tag) (name : String) : Option String :=
  (t.attributes.find? fun a => a.qualifier.isEmpty && a.name == name).map (·.value)

def hasClass (t : Tag) (name : String) : Bool :=
  (t.attribute? "class").elim false fun v => (Selector.words v.toList).contains name.toList

def isLink (t : Tag) : Bool :=
  t.space = .html && ["a", "area", "link"].contains t.name && (t.attribute? "href").isSome

end Tag

namespace Node

def isBlankText (n : Node) : Bool := n.ownText?.elim true fun t => t.toList.all Text.isBlank

def isEmpty (n : Node) : Bool := n.children.all fun c => !c.isElement && c.isBlankText

def isOnlyText (n : Node) : Bool :=
  n.children.all (!·.isElement) && n.children.any (!·.isBlankText)

end Node

namespace Selector

/-- Whether `index = step * n + offset` for some `n` that is not negative. -/
def isNth (step offset index : Int) : Bool :=
  if step = 0 then index = offset
  else (index - offset) % step = 0 && 0 ≤ (index - offset) / step

/-- Whether a spot satisfies a selector within the element numbered `from_`. -/
def selects (from_ : Nat) : Selector → Spot → Bool
  | any, _ => true
  | never, _ => false
  | tag name, p => p.node.tag?.elim false (·.isNamedAs name)
  | id name, p => p.node.tag?.elim false fun t => t.attribute? "id" == some name
  | ofClass name, p => p.node.tag?.elim false (·.hasClass name)
  | withAttribute test, p => p.node.tag?.elim false test.passes
  | root, p => p.node.kind = .document
  | empty, p => p.node.isEmpty
  | onlyText, p => p.node.isOnlyText
  | link, p => p.node.tag?.elim false Tag.isLink
  | hasText part, p => p.node.texts.any fun t => isPart part.toList t.toList
  | contains part, p => isPart part.toList p.node.text.toList
  | both s t, p => s.selects from_ p && t.selects from_ p
  | either s t, p => s.selects from_ p || t.selects from_ p
  | not s, p => !s.selects from_ p
  | nth step offset fromEnd among, p =>
    let others := if fromEnd then p.behind else p.before
    among.selects from_ p &&
      isNth step offset ((others.filter (among.selects from_)).length + 1)
  | nthOfType step offset fromEnd, p =>
    let others := if fromEnd then p.behind else p.before
    let same (q : Spot) : Bool :=
      match p.node.tag?, q.node.tag? with
      | some t, some u => t.space = u.space && t.name == u.name
      | _, _ => false
    isNth step offset ((others.filter same).length + 1)
  | childOf s, p => p.up?.elim false (s.selects from_)
  | within s, p => p.ancestors.any (s.selects from_)
  | next s, p => p.before.head?.elim false (s.selects from_)
  | later s, p => p.before.any (s.selects from_)
  | has aside s, p =>
    let around := if aside then p.behind.flatMap fun q => q :: q.below else p.below
    (around.filter (·.node.isElement)).any (s.selects p.node.id)
  | anchor, p => p.node.id == from_

/-- The elements below a spot that satisfy a selector, in document order. -/
def select (s : Selector) (p : Spot) : List Spot :=
  p.below.filter fun q => q.node.isElement && s.selects p.node.id q

end Selector

end Catalog.Markup
