import Catalog.Markup.Construction.State

/-! # Formatting

Formatting elements go on where the elements around them end, and tags of theirs that cross those of
other elements are put right.
-/

namespace Catalog.Markup.Construction

/-- The elements whose tags are not passed over when an end tag looks for its element. -/
def isSpecial (t : Tag) : Bool :=
  match t.space with
  | .html =>
    ["address", "applet", "area", "article", "aside", "base", "basefont", "bgsound", "blockquote",
      "body", "br", "button", "caption", "center", "col", "colgroup", "dd", "details", "dir", "div",
      "dl", "dt", "embed", "fieldset", "figcaption", "figure", "footer", "form", "frame",
      "frameset", "h1", "h2", "h3", "h4", "h5", "h6", "head", "header", "hgroup", "hr", "html",
      "iframe", "img", "input", "isindex", "li", "link", "listing", "main", "marquee", "menu",
      "meta", "nav", "noembed", "noframes", "noscript", "object", "ol", "p", "param", "plaintext",
      "pre", "script", "section", "select", "source", "style", "summary", "table", "tbody", "td",
      "template", "textarea", "tfoot", "th", "thead", "title", "tr", "track", "ul", "wbr",
      "xmp"].contains t.name
  | .math => ["mi", "mo", "mn", "ms", "mtext", "annotation-xml"].contains t.name
  | .svg => ["foreignObject", "desc", "title"].contains t.name

namespace Formatting

def isNode (i : Nat) : Formatting → Bool
  | marker => false
  | element j _ => i == j

def live : List Formatting → List (Nat × Tag)
  | element i t :: rest => (i, t) :: live rest
  | _ => []

def afterMarker : List Formatting → List Formatting
  | [] => []
  | marker :: rest => rest
  | element _ _ :: rest => afterMarker rest

def sameTag (s t : Tag) : Bool :=
  s.name == t.name && s.attributes.length == t.attributes.length &&
    s.attributes.all t.attributes.contains

end Formatting

def editFormatting (f : List Formatting → List Formatting) : Build Unit :=
  modify fun s => { s with formatting := f s.formatting }

def removeFormatting (i : Nat) : Build Unit := editFormatting fun fs => fs.filter (!·.isNode i)

def pushMarker : Build Unit := editFormatting (.marker :: ·)

def clearToMarker : Build Unit := editFormatting Formatting.afterMarker

def isFormatting (i : Nat) : Build Bool := do return (← get).formatting.any (·.isNode i)

/-- Opens the formatting elements again that were broken off; `broken` holds them, the first one
first. -/
def reopen (broken : List (Nat × Tag)) : Build Unit := do
  for (old, tag) in broken do
    let new ← insertTag tag
    editFormatting fun fs => fs.map fun f => if f.isNode old then .element new tag else f

def reconstruct : Build Unit := do
  let s ← get
  let broken := (Formatting.live s.formatting).takeWhile fun (i, _) => !s.stack.contains i
  reopen broken.reverse

/-- Opens a formatting element. Of more than three equal ones the first does not go on. -/
def openFormatting (name : String) (attributes : List (String × String)) : Build Unit := do
  let tag := htmlTag name attributes
  let equal := (Formatting.live (← get).formatting).filter fun (_, t) => Formatting.sameTag tag t
  if 3 ≤ equal.length then
    if let some (i, _) := equal.getLast? then removeFormatting i
  let i ← insertTag tag
  editFormatting (.element i tag :: ·)

/-- An end tag closes the element that it belongs to, unless a special element is open within. -/
def closeOther (name : String) : Build Unit := do
  match find (← openTags) with
  | none => return
  | some i => do
    closeImplied name
    popThroughNode i
where
  find : List (Nat × Tag) → Option Nat
    | [] => none
    | (i, t) :: rest =>
      if isNamed [name] t then some i else if isSpecial t then none else find rest

/-- What the walk from the furthest block up to the formatting element leaves behind. -/
structure Walk where
  /-- The node that was moved last. -/
  last : Nat
  /-- The entry behind which the formatting element goes on. -/
  mark : Option Nat
  count : Nat

/-- One element between the furthest block and the formatting element: a formatting element is
replaced by a copy that takes in what was moved last, any other is closed. -/
def walkOver (block : Nat) (w : Walk) (node : Nat) : Build Walk := do
  let count := w.count + 1
  let entry := (← get).formatting.find? (·.isNode node)
  match entry with
  | some (.element _ tag) =>
    if 3 < count then
      removeFormatting node
      removeFromStack node
      return { w with count }
    else
      let copy ← create tag
      modify fun s => { s with stack := s.stack.map fun i => if i == node then copy else i }
      editFormatting fun fs => fs.map fun f => if f.isNode node then .element copy tag else f
      modify fun s => { s with store := (s.store.detach w.last).append copy w.last }
      return ⟨copy, if w.last == block then some copy else w.mark, count⟩
  | _ =>
    removeFromStack node
    return { w with count }

/-- Puts the entry of the formatting element behind the mark, or in its own place. -/
def replaceFormatting (old : Nat) (mark : Option Nat) (entry : Formatting) : Build Unit :=
  editFormatting fun fs =>
    match mark with
    | none => fs.map fun f => if f.isNode old then entry else f
    | some m =>
      (fs.filter (!·.isNode old)).flatMap fun f => if f.isNode m then [entry, f] else [f]

/-- Moves the furthest block out of a formatting element that ends within it, and lets the
formatting go on inside the block. -/
def splitAround (formatting : Nat) (tag : Tag) (block : Nat) : Build Unit := do
  let stack := (← get).stack
  let ancestor := ((stack.dropWhile (· != formatting)).tail.head?).getD 0
  let between := ((stack.dropWhile (· != block)).tail).takeWhile (· != formatting)
  let w ← between.foldlM (walkOver block) ⟨block, none, 0⟩
  modify fun s => { s with store := s.store.detach w.last }
  insertNode (← placeIn ancestor) w.last
  let copy ← create tag
  modify fun s => { s with store := (s.store.moveChildren block copy).append block copy }
  replaceFormatting formatting w.mark (.element copy tag)
  removeFromStack formatting
  modify fun s =>
    { s with stack := s.stack.flatMap fun i => if i == block then [copy, i] else [i] }

/-- The end tag of a formatting element, at most as often as the count. -/
def closeFormattingTimes (name : String) : Nat → Build Unit
  | 0 => return
  | n + 1 => do
    match (Formatting.live (← get).formatting).find? fun (_, t) => t.name == name with
    | none => closeOther name
    | some (i, tag) =>
      if !(← get).stack.contains i then removeFormatting i
      else if ← inScopeWhere bounds fun j _ => i == j then
        let inner := (← openTags).takeWhile fun (j, _) => j != i
        match (inner.filter fun (_, t) => isSpecial t).getLast? with
        | none =>
          popThroughNode i
          removeFormatting i
        | some (block, _) =>
          splitAround i tag block
          closeFormattingTimes name n
      else return

def closeFormatting (name : String) : Build Unit := do
  let goesOn ← isFormatting ((← current?).getD 0)
  if (← currentIs [name]) && !goesOn then pop else closeFormattingTimes name 8

def closeOuterLink : Build Unit := do
  match (Formatting.live (← get).formatting).find? fun (_, t) => t.name == "a" with
  | none => return
  | some (i, _) => do
    closeFormatting "a"
    removeFormatting i
    removeFromStack i

end Catalog.Markup.Construction
