import Catalog.Markup.Construction.Foreign
import Catalog.Markup.Construction.Head

/-! # Content

What tags, texts and comments mean within the body of a document.
-/

namespace Catalog.Markup.Construction

def headings : List String := ["h1", "h2", "h3", "h4", "h5", "h6"]

/-- Elements that end a paragraph where they start. -/
def blocks : List String :=
  ["address", "article", "aside", "blockquote", "center", "details", "dialog", "dir", "div", "dl",
    "fieldset", "figcaption", "figure", "footer", "header", "hgroup", "main", "menu", "nav", "ol",
    "search", "section", "summary", "ul"]

/-- Elements that an end tag closes with all that is open in them. -/
def closedBlocks : List String := ["button", "listing", "pre"] ++ blocks

def formattingNames : List String :=
  ["b", "big", "code", "em", "font", "i", "s", "small", "strike", "strong", "tt", "u"]

/-- Parts of tables and frames, whose tags say nothing within the body. -/
def tableParts : List String :=
  ["caption", "col", "colgroup", "frame", "head", "tbody", "td", "tfoot", "th", "thead", "tr"]

def insertBlock (name : String) (attributes : List (String × String)) : Build Unit := do
  closeParagraphInScope
  insertElement name attributes

/-- Closes the item of a list that is still open, and then a paragraph. -/
def closeItem (names : List String) : Build Unit := do
  match find (← openTags) with
  | some name =>
    closeImplied name
    popThrough [name]
  | none => pure ()
  closeParagraphInScope
where
  find : List (Nat × Tag) → Option String
    | [] => none
    | (_, t) :: rest =>
      if isNamed names t then some t.name
      else if isSpecial t && !isNamed ["address", "div", "p"] t then none
      else find rest

/-- A second body adds attributes to the first. -/
def mergeBody (attributes : List (String × String)) : Build Unit := do
  let tags ← openTags
  match tags.reverse with
  | _ :: (body, t) :: _ =>
    if isNamed ["body"] t && !tags.any fun (_, t) => isNamed ["template"] t then
      modify fun s =>
        { s with
          framesetOk := false
          store := s.store.addAttributes body (htmlTag "body" attributes).attributes }
  | _ => return

/-- A frameset takes the place of a body without content. -/
def replaceBody (attributes : List (String × String)) : Build Unit := do
  match (← openTags).reverse with
  | (root, _) :: (body, t) :: _ =>
    if isNamed ["body"] t && (← get).framesetOk then
      modify fun s => { s with store := s.store.detach body, stack := [root] }
      insertElement "frameset" attributes
      setMode .inFrameset
  | _ => return

def openForm (attributes : List (String × String)) : Build Unit := do
  let inTemplate ← isOpen "template"
  if (← get).form.isSome && !inTemplate then return
  insertBlock "form" attributes
  if !inTemplate then modify fun s => { s with form := s.stack.head? }

def closeForm : Build Unit := do
  if ← isOpen "template" then
    if ← inScope bounds ["form"] then
      closeImplied ""
      popThrough ["form"]
  else
    let form := (← get).form
    modify fun s => { s with form := none }
    match form with
    | none => return
    | some i => do
      if ← inScopeWhere bounds fun j _ => i == j then
        closeImplied ""
        removeFromStack i

def openSelect (attributes : List (String × String)) : Build Unit := do
  reconstruct
  insertElement "select" attributes
  noFrameset
  modify fun s =>
    { s with mode :=
        if [.inTable, .inCaption, .inTableBody, .inRow, .inCell].contains s.mode
        then .inSelectInTable else .inSelect }

def insertMedia (name : String) (attributes : List (String × String)) : Build Unit := do
  reconstruct
  insertEmpty name attributes

def dropNewline : Build Unit := modify fun s => { s with dropsNewline := true }

def startInBody (name : String) (attributes : List (String × String)) (selfClosing : Bool) :
    Build Unit := do
  if blocks.contains name || name == "p" then insertBlock name attributes
  else if headings.contains name then
    closeParagraphInScope
    if ← currentIs headings then pop
    insertElement name attributes
  else if formattingNames.contains name then
    reconstruct
    openFormatting name attributes
  else if tableParts.contains name then return
  else
    match name with
    | "html" => mergeRoot attributes
    | "body" => mergeBody attributes
    | "frameset" => replaceBody attributes
    | "pre" | "listing" =>
      insertBlock name attributes
      dropNewline
      noFrameset
    | "form" => openForm attributes
    | "li" =>
      noFrameset
      closeItem ["li"]
      insertElement name attributes
    | "dd" | "dt" =>
      noFrameset
      closeItem ["dd", "dt"]
      insertElement name attributes
    | "plaintext" =>
      insertBlock name attributes
      setLexing .plain
    | "button" =>
      if ← inScope bounds ["button"] then
        closeImplied ""
        popThrough ["button"]
      reconstruct
      insertElement name attributes
      noFrameset
    | "a" =>
      closeOuterLink
      reconstruct
      openFormatting name attributes
    | "nobr" =>
      reconstruct
      if ← inScope bounds ["nobr"] then
        closeFormatting "nobr"
        reconstruct
      openFormatting name attributes
    | "applet" | "marquee" | "object" =>
      reconstruct
      insertElement name attributes
      pushMarker
      noFrameset
    | "table" =>
      if !(← get).oldLayout then closeParagraphInScope
      insertElement name attributes
      noFrameset
      setMode .inTable
    | "area" | "br" | "embed" | "img" | "keygen" | "wbr" =>
      insertMedia name attributes
      noFrameset
    | "image" =>
      insertMedia "img" attributes
      noFrameset
    | "input" =>
      insertMedia name attributes
      let hidden := (attributes.lookup "type").elim false fun t => t.toLower == "hidden"
      if !hidden then noFrameset
    | "param" | "source" | "track" => insertEmpty name attributes
    | "hr" =>
      closeParagraphInScope
      insertEmpty name attributes
      noFrameset
    | "textarea" =>
      insertTextElement name attributes (.escapable name)
      dropNewline
      noFrameset
    | "xmp" =>
      closeParagraphInScope
      reconstruct
      noFrameset
      insertTextElement name attributes (.raw name)
    | "iframe" =>
      noFrameset
      insertTextElement name attributes (.raw name)
    | "noembed" => insertTextElement name attributes (.raw name)
    | "select" => openSelect attributes
    | "optgroup" | "option" =>
      if ← currentIs ["option"] then pop
      reconstruct
      insertElement name attributes
    | "rb" | "rtc" =>
      if ← inScope bounds ["ruby"] then closeImplied ""
      insertElement name attributes
    | "rp" | "rt" =>
      if ← inScope bounds ["ruby"] then closeImplied "rtc"
      insertElement name attributes
    | "math" =>
      reconstruct
      insertForeign .math name attributes selfClosing
    | "svg" =>
      reconstruct
      insertForeign .svg name attributes selfClosing
    | _ =>
      reconstruct
      insertElement name attributes

/-- An end tag within the body, those of the body and the root apart. -/
def endInBody (name : String) : Build Unit := do
  if closedBlocks.contains name then
    if ← inScope bounds [name] then
      closeImplied ""
      popThrough [name]
  else if headings.contains name then
    if ← inScope bounds headings then
      closeImplied ""
      popThrough headings
  else if formattingNames.contains name || name == "a" || name == "nobr" then
    closeFormatting name
  else
    match name with
    | "template" => closeTemplate
    | "form" => closeForm
    | "p" =>
      if !(← inScope boundsButton ["p"]) then insertElement "p" []
      closeParagraph
    | "li" =>
      if ← inScope boundsList ["li"] then
        closeImplied "li"
        popThrough ["li"]
    | "dd" | "dt" =>
      if ← inScope bounds [name] then
        closeImplied name
        popThrough [name]
    | "applet" | "marquee" | "object" =>
      if ← inScope bounds [name] then
        closeImplied ""
        popThrough [name]
        clearToMarker
    | "br" => startInBody "br" [] false
    | _ => closeOther name

def inBody (token : Token) : Build Outcome := do
  match token with
  | .null => return .done
  | .doctype _ => return .done
  | .text chars =>
    reconstruct
    insertText chars
    if !chars.all Lexer.isSpace then noFrameset
  | .comment text => insertComment text
  | .eof => return ← atEnd
  | .start name attributes selfClosing =>
    if isHeadContent name then return ← inHead token
    startInBody name attributes selfClosing
  | .finish "body" => if ← inScope bounds ["body"] then setMode .afterBody
  | .finish "html" =>
    if ← inScope bounds ["body"] then
      setMode .afterBody
      return .again
  | .finish name => endInBody name
  return .done

end Catalog.Markup.Construction
