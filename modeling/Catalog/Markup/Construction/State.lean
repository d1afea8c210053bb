import Catalog.Markup.Lexer
import Catalog.Markup.Store

/-! # State of construction

What is remembered while a document is built: the nodes so far, the elements that are open, the
formatting that goes on, and the mode that decides what a token means.
-/

namespace Catalog.Markup.Construction

inductive Mode where
  | initial
  | beforeHtml
  | beforeHead
  | inHead
  | inHeadNoscript
  | afterHead
  | inBody
  | text
  | inTable
  | inTableText
  | inCaption
  | inColumnGroup
  | inTableBody
  | inRow
  | inCell
  | inSelect
  | inSelectInTable
  | inTemplate
  | afterBody
  | inFrameset
  | afterFrameset
  | afterAfterBody
  | afterAfterFrameset
  deriving DecidableEq, Repr, Inhabited

/-- A formatting element that is opened anew wherever it is broken off, up to the last marker. -/
inductive Formatting where
  | marker
  | element (id : Nat) (tag : Tag)

structure State where
  store : Store
  mode : Mode
  /-- The mode to go back to after text. -/
  returnMode : Mode
  /-- The modes of the open templates, the innermost first. -/
  templateModes : List Mode
  /-- The open elements, the innermost first. -/
  stack : List Nat
  /-- The last one first. -/
  formatting : List Formatting
  head : Option Nat
  form : Option Nat
  /-- Whether a frameset may still take the place of the body. -/
  framesetOk : Bool
  /-- Whether tables stand within paragraphs. -/
  oldLayout : Bool
  /-- Whether content of a table that is misplaced is put before it. -/
  fostering : Bool
  /-- Characters within a table, the last run first. -/
  tableText : List (List Char)
  /-- Whether a line feed that follows is dropped. -/
  dropsNewline : Bool
  lexing : Lexing

def State.start : State :=
  ⟨.start, .initial, .initial, [], [], [], none, none, true, false, false, [], false, .data⟩

abbrev Build := StateM State

/-- Whether a token has been dealt with, or has to be looked at again in the mode that is now on. -/
inductive Outcome where
  | done
  | again
  deriving DecidableEq

/-- An element of the vocabulary of HTML. -/
def htmlTag (name : String) (attributes : List (String × String)) : Tag :=
  ⟨.html, name, attributes.map fun (name, value) => ⟨"", name, value⟩⟩

def tagOf (i : Nat) : Build Tag := do return ((← get).store.tag? i).getD default

def isNamed (names : List String) (t : Tag) : Bool := t.space = .html && names.contains t.name

def current? : Build (Option Nat) := do return (← get).stack.head?

def currentTag : Build Tag := do
  match ← current? with
  | some i => tagOf i
  | none => return default

def currentIs (names : List String) : Build Bool := do return isNamed names (← currentTag)

def openTags : Build (List (Nat × Tag)) := do
  let s ← get
  return s.stack.map fun i => (i, (s.store.tag? i).getD default)

def isOpen (name : String) : Build Bool := do return (← openTags).any fun (_, t) => isNamed [name] t

def pop : Build Unit := modify fun s => { s with stack := s.stack.tail }

def push (i : Nat) : Build Unit := modify fun s => { s with stack := i :: s.stack }

/-- Closes elements down to one that passes, which stays open. -/
def popTo (p : Tag → Bool) : Build Unit :=
  modify fun s => { s with stack := s.stack.dropWhile fun i => !p ((s.store.tag? i).getD default) }

def popThrough (names : List String) : Build Unit := do
  popTo (isNamed names)
  pop

def popThroughNode (i : Nat) : Build Unit :=
  modify fun s => { s with stack := (s.stack.dropWhile (· != i)).tail }

def removeFromStack (i : Nat) : Build Unit :=
  modify fun s => { s with stack := s.stack.filter (· != i) }

def setMode (m : Mode) : Build Unit := modify fun s => { s with mode := m }

def setLexing (l : Lexing) : Build Unit := modify fun s => { s with lexing := l }

def noFrameset : Build Unit := modify fun s => { s with framesetOk := false }

/-- Elements within which the open elements outside do not count. -/
def bounds (t : Tag) : Bool :=
  match t.space with
  | .html =>
    ["applet", "caption", "html", "table", "td", "th", "marquee", "object", "template"].contains t.name
  | .math => ["mi", "mo", "mn", "ms", "mtext", "annotation-xml"].contains t.name
  | .svg => ["foreignObject", "desc", "title"].contains t.name

def boundsButton (t : Tag) : Bool := bounds t || isNamed ["button"] t

def boundsList (t : Tag) : Bool := bounds t || isNamed ["ol", "ul"] t

def boundsTable (t : Tag) : Bool := isNamed ["html", "table", "template"] t

def boundsSelect (t : Tag) : Bool := !isNamed ["optgroup", "option"] t

/-- Whether an element that passes is open within the scope. -/
def inScopeWhere (bound : Tag → Bool) (p : Nat → Tag → Bool) : Build Bool := do
  return find (← openTags)
where
  find : List (Nat × Tag) → Bool
    | [] => false
    | (i, t) :: rest => p i t || (!bound t && find rest)

def inScope (bound : Tag → Bool) (names : List String) : Build Bool :=
  inScopeWhere bound fun _ t => isNamed names t

/-- Elements that end where the elements around them do. -/
def endsByItself : List String :=
  ["dd", "dt", "li", "option", "optgroup", "p", "rb", "rp", "rt", "rtc"]

/-- Closes elements that end by themselves, except those of a name. -/
def closeImplied (except : String) : Build Unit :=
  popTo fun t => !isNamed endsByItself t || t.name == except

/-- Closes elements that end by themselves, with the parts of tables. -/
def closeImpliedFully : Build Unit :=
  popTo fun t =>
    !isNamed (endsByItself ++
      ["caption", "colgroup", "tbody", "td", "tfoot", "th", "thead", "tr"]) t

def closeParagraph : Build Unit := do
  closeImplied "p"
  popThrough ["p"]

def closeParagraphInScope : Build Unit := do
  if ← inScope boundsButton ["p"] then closeParagraph

def create (tag : Tag) : Build Nat := do
  let s ← get
  let (i, store) := s.store.createElement tag
  set { s with store }
  return i

/-- Where content goes that belongs into an element. Within a table it is put before the table, as
long as misplaced content is fostered. -/
def placeIn (target : Nat) : Build Place := do
  let s ← get
  let t ← tagOf target
  if s.fostering && isNamed ["table", "tbody", "tfoot", "thead", "tr"] t then
    return foster s (← openTags)
  else return .inside (contentOf s target)
where
  contentOf (s : State) (i : Nat) : Nat := (s.store.contents? i).getD i
  foster (s : State) : List (Nat × Tag) → Place
    | [] => .inside (s.stack.getLast?.getD 0)
    | (i, t) :: rest =>
      if isNamed ["template"] t then .inside (contentOf s i)
      else if isNamed ["table"] t then
        if (s.store.parent? i).isSome then .before i
        else .inside ((rest.head?.map (·.1)).getD 0)
      else foster s rest

/-- Where content goes now. -/
def place : Build Place := do placeIn ((← current?).getD 0)

def insertNode (p : Place) (i : Nat) : Build Unit :=
  modify fun s => { s with store := s.store.insert p i }

/-- Opens a new element at the place where content goes. -/
def insertTag (tag : Tag) : Build Nat := do
  let i ← create tag
  insertNode (← place) i
  push i
  return i

def insertElement (name : String) (attributes : List (String × String)) : Build Unit := do
  let _ ← insertTag (htmlTag name attributes)

def insertEmpty (name : String) (attributes : List (String × String)) : Build Unit := do
  insertElement name attributes
  pop

def insertText (chars : List Char) : Build Unit := do
  if chars.isEmpty then return
  let p ← place
  modify fun s => { s with store := s.store.insertText p (String.ofList chars) }

def insertCommentAt (p : Option Place) (text : String) : Build Unit := do
  let s ← get
  let (i, store) := s.store.create (.comment text)
  set { s with store }
  match p with
  | some p => insertNode p i
  | none => insertNode (← place) i

def insertComment (text : String) : Build Unit := insertCommentAt none text

/-- Inserts an element and reads its content as text. -/
def insertTextElement (name : String) (attributes : List (String × String)) (lexing : Lexing) :
    Build Unit := do
  insertElement name attributes
  modify fun s => { s with lexing, returnMode := s.mode, mode := .text }

end Catalog.Markup.Construction
