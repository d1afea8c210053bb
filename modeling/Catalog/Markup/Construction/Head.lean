import Catalog.Markup.Construction.Formatting

/-! # Documents up to their body

The declaration, the root, the head with what belongs into it, and templates.
-/

namespace Catalog.Markup.Construction

/-- The mode that fits the open elements, the innermost first. -/
def fittingMode (s : State) : List Tag → Mode
  | [] => .inBody
  | t :: outer =>
    if t.space ≠ .html then fittingMode s outer
    else
      match t.name with
      | "select" =>
        match outer.find? (isNamed ["template", "table"]) with
        | some u => if u.name == "table" then .inSelectInTable else .inSelect
        | none => .inSelect
      | "td" | "th" => .inCell
      | "tr" => .inRow
      | "tbody" | "thead" | "tfoot" => .inTableBody
      | "caption" => .inCaption
      | "colgroup" => .inColumnGroup
      | "table" => .inTable
      | "template" => s.templateModes.head?.getD .inTemplate
      | "head" => .inHead
      | "body" => .inBody
      | "frameset" => .inFrameset
      | "html" => if s.head.isSome then .afterHead else .beforeHead
      | _ => fittingMode s outer

def resetMode : Build Unit := do
  let tags ← openTags
  modify fun s => { s with mode := fittingMode s (tags.map (·.2)) }

def openTemplate (attributes : List (String × String)) : Build Unit := do
  insertElement "template" attributes
  pushMarker
  noFrameset
  modify fun s => { s with mode := .inTemplate, templateModes := .inTemplate :: s.templateModes }

def leaveTemplate : Build Unit := do
  popThrough ["template"]
  clearToMarker
  modify fun s => { s with templateModes := s.templateModes.tail }
  resetMode

def closeTemplate : Build Unit := do
  if ← isOpen "template" then
    closeImpliedFully
    leaveTemplate

/-- The end of the document closes the templates that are open. -/
def atEnd : Build Outcome := do
  if (← get).templateModes.isEmpty then return .done
  leaveTemplate
  return .again

/-- A second tag of the root adds attributes to it. -/
def mergeRoot (attributes : List (String × String)) : Build Unit := do
  if ← isOpen "template" then return
  modify fun s =>
    match s.stack.getLast? with
    | some root =>
      { s with store := s.store.addAttributes root (htmlTag "html" attributes).attributes }
    | none => s

def insertRoot (attributes : List (String × String)) : Build Unit := do
  let i ← create (htmlTag "html" attributes)
  insertNode (.inside 0) i
  push i
  setMode .beforeHead

/-- Identifiers of document types that stand for old documents, by how they start. -/
def oldPublicIds : List String :=
  ["+//silmaril//dtd html pro v0r11 19970101//",
    "-//as//dtd html 3.0 aswedit + extensions//",
    "-//advasoft ltd//dtd html 3.0 aswedit + extensions//",
    "-//ietf//dtd html 2.0 level 1//", "-//ietf//dtd html 2.0 level 2//",
    "-//ietf//dtd html 2.0 strict level 1//", "-//ietf//dtd html 2.0 strict level 2//",
    "-//ietf//dtd html 2.0 strict//", "-//ietf//dtd html 2.0//", "-//ietf//dtd html 2.1e//",
    "-//ietf//dtd html 3.0//", "-//ietf//dtd html 3.2 final//", "-//ietf//dtd html 3.2//",
    "-//ietf//dtd html 3//", "-//ietf//dtd html level 0//", "-//ietf//dtd html level 1//",
    "-//ietf//dtd html level 2//", "-//ietf//dtd html level 3//",
    "-//ietf//dtd html strict level 0//", "-//ietf//dtd html strict level 1//",
    "-//ietf//dtd html strict level 2//", "-//ietf//dtd html strict level 3//",
    "-//ietf//dtd html strict//", "-//ietf//dtd html//",
    "-//metrius//dtd metrius presentational//",
    "-//microsoft//dtd internet explorer 2.0 html strict//",
    "-//microsoft//dtd internet explorer 2.0 html//",
    "-//microsoft//dtd internet explorer 2.0 tables//",
    "-//microsoft//dtd internet explorer 3.0 html strict//",
    "-//microsoft//dtd internet explorer 3.0 html//",
    "-//microsoft//dtd internet explorer 3.0 tables//",
    "-//netscape comm. corp.//dtd html//", "-//netscape comm. corp.//dtd strict html//",
    "-//o'reilly and associates//dtd html 2.0//",
    "-//o'reilly and associates//dtd html extended 1.0//",
    "-//o'reilly and associates//dtd html extended relaxed 1.0//",
    "-//spyglass//dtd html 2.0 extended//",
    "-//softquad software//dtd hotmetal pro 6.0::19990601::extensions to html 4.0//",
    "-//softquad//dtd hotmetal pro 4.0::19971010::extensions to html 4.0//",
    "-//sq//dtd html 2.0 hotmetal + extensions//",
    "-//sun microsystems corp.//dtd hotjava html//",
    "-//sun microsystems corp.//dtd hotjava strict html//",
    "-//w3c//dtd html 3 1995-03-24//", "-//w3c//dtd html 3.2 draft//",
    "-//w3c//dtd html 3.2 final//", "-//w3c//dtd html 3.2//", "-//w3c//dtd html 3.2s draft//",
    "-//w3c//dtd html 4.0 frameset//", "-//w3c//dtd html 4.0 transitional//",
    "-//w3c//dtd html experimental 19960712//", "-//w3c//dtd html experimental 970421//",
    "-//w3c//dtd w3 html//", "-//w3o//dtd w3 html 3.0//",
    "-//webtechs//dtd mozilla html 2.0//", "-//webtechs//dtd mozilla html//"]

/-- Whether a document of a type is laid out by old rules. -/
def isOld (d : Doctype) : Bool :=
  let lower (s : List Char) : String := String.ofList (s.map Char.toLower)
  let publicId := d.publicId.map lower
  let startsPublic (ids : List String) : Bool :=
    publicId.elim false fun p => ids.any fun i => i.toList.isPrefixOf p.toList
  let frames := ["-//w3c//dtd html 4.01 frameset//", "-//w3c//dtd html 4.01 transitional//"]
  d.broken || d.name != some "html".toList ||
    publicId.elim false
      ["-//w3o//dtd w3 html strict 3.0//en//", "-/w3c/dtd html 4.0 transitional/en", "html"].contains ||
    d.systemId.map lower == some "http://www.ibm.com/data/dtd/v11/ibmxhtml1-transitional.dtd" ||
    startsPublic oldPublicIds || (d.systemId.isNone && startsPublic frames)

def initial (token : Token) : Build Outcome := do
  match token with
  | .comment text =>
    insertCommentAt (some (.inside 0)) text
    return .done
  | .doctype d =>
    let s ← get
    let (i, store) := s.store.create (.doctype (String.ofList (d.name.getD [])))
    set { s with store := store.append 0 i, oldLayout := isOld d, mode := .beforeHtml }
    return .done
  | .text chars =>
    if chars.all Lexer.isSpace then return .done
  | _ => pure ()
  modify fun s => { s with oldLayout := true, mode := .beforeHtml }
  return .again

def beforeHtml (token : Token) : Build Outcome := do
  match token with
  | .comment text =>
    insertCommentAt (some (.inside 0)) text
    return .done
  | .doctype _ => return .done
  | .text chars => if chars.all Lexer.isSpace then return .done
  | .start "html" attributes _ =>
    insertRoot attributes
    return .done
  | .finish name => if !(["head", "body", "html", "br"].contains name) then return .done
  | _ => pure ()
  insertRoot []
  return .again

def insertHead (attributes : List (String × String)) : Build Unit := do
  insertElement "head" attributes
  modify fun s => { s with head := s.stack.head?, mode := .inHead }

def beforeHead (token : Token) : Build Outcome := do
  match token with
  | .comment text =>
    insertComment text
    return .done
  | .doctype _ => return .done
  | .text chars => if chars.all Lexer.isSpace then return .done
  | .start "html" attributes _ =>
    mergeRoot attributes
    return .done
  | .start "head" attributes _ =>
    insertHead attributes
    return .done
  | .finish name => if !(["head", "body", "html", "br"].contains name) then return .done
  | _ => pure ()
  insertHead []
  return .again

def isHeadContent (name : String) : Bool :=
  ["base", "basefont", "bgsound", "link", "meta", "noframes", "script", "style", "template",
    "title"].contains name

def insertHeadContent (name : String) (attributes : List (String × String)) : Build Unit :=
  match name with
  | "title" => insertTextElement name attributes (.escapable name)
  | "noframes" | "style" => insertTextElement name attributes (.raw name)
  | "script" => insertTextElement name attributes .script
  | "template" => openTemplate attributes
  | _ => insertEmpty name attributes

def inHead (token : Token) : Build Outcome := do
  match token with
  | .text chars =>
    if chars.all Lexer.isSpace then
      insertText chars
      return .done
  | .comment text =>
    insertComment text
    return .done
  | .doctype _ => return .done
  | .start "html" attributes _ =>
    mergeRoot attributes
    return .done
  | .start "head" _ _ => return .done
  | .start "noscript" attributes _ =>
    insertElement "noscript" attributes
    setMode .inHeadNoscript
    return .done
  | .start name attributes _ =>
    if isHeadContent name then
      insertHeadContent name attributes
      return .done
  | .finish "head" =>
    pop
    setMode .afterHead
    return .done
  | .finish "template" =>
    closeTemplate
    return .done
  | .finish name => if !(["body", "html", "br"].contains name) then return .done
  | _ => pure ()
  pop
  setMode .afterHead
  return .again

def inHeadNoscript (token : Token) : Build Outcome := do
  match token with
  | .doctype _ => return .done
  | .comment _ => return ← inHead token
  | .text chars => if chars.all Lexer.isSpace then return ← inHead token
  | .start "html" attributes _ =>
    mergeRoot attributes
    return .done
  | .start name _ _ =>
    if ["basefont", "bgsound", "link", "meta", "noframes", "style"].contains name then
      return ← inHead token
    if name == "head" || name == "noscript" then return .done
  | .finish "noscript" =>
    pop
    setMode .inHead
    return .done
  | .finish name => if name != "br" then return .done
  | _ => pure ()
  pop
  setMode .inHead
  return .again

def insertBody (attributes : List (String × String)) : Build Unit := do
  insertElement "body" attributes
  setMode .inBody

def afterHead (token : Token) : Build Outcome := do
  match token with
  | .text chars =>
    if chars.all Lexer.isSpace then
      insertText chars
      return .done
  | .comment text =>
    insertComment text
    return .done
  | .doctype _ => return .done
  | .start "html" attributes _ =>
    mergeRoot attributes
    return .done
  | .start "body" attributes _ =>
    insertBody attributes
    noFrameset
    return .done
  | .start "frameset" attributes _ =>
    insertElement "frameset" attributes
    setMode .inFrameset
    return .done
  | .start "head" _ _ => return .done
  | .start name _ _ =>
    if isHeadContent name then
      let head := (← get).head.getD 0
      push head
      let outcome ← inHead token
      removeFromStack head
      return outcome
  | .finish "template" => return ← inHead token
  | .finish name => if !(["body", "html", "br"].contains name) then return .done
  | _ => pure ()
  insertBody []
  return .again

end Catalog.Markup.Construction
