import Catalog.Markup.Construction.Table

/-! # Reading documents

Any text is a document: its tokens are dealt with one after the other, and what is missing or
misplaced is put right.
-/

namespace Catalog.Markup

namespace Construction

def inText (token : Token) : Build Outcome := do
  let leave : Build Unit := do
    pop
    modify fun s => { s with mode := s.returnMode }
  match token with
  | .text chars =>
    insertText chars
    return .done
  | .eof =>
    leave
    return .again
  | .finish _ =>
    leave
    return .done
  | _ => return .done

/-- Goes on in another mode for the content of a template. -/
def inTemplateAs (mode : Mode) : Build Outcome := do
  modify fun s => { s with mode, templateModes := mode :: s.templateModes.tail }
  return .again

def inTemplate (token : Token) : Build Outcome := do
  match token with
  | .eof => atEnd
  | .start name _ _ =>
    if isHeadContent name then inHead token
    else
      match name with
      | "caption" | "colgroup" | "tbody" | "tfoot" | "thead" => inTemplateAs .inTable
      | "col" => inTemplateAs .inColumnGroup
      | "tr" => inTemplateAs .inTableBody
      | "td" | "th" => inTemplateAs .inRow
      | _ => inTemplateAs .inBody
  | .finish "template" => inHead token
  | .finish _ => return .done
  | _ => inBody token

def afterBody (token : Token) : Build Outcome := do
  match token with
  | .text chars => if chars.all Lexer.isSpace then return ← inBody token
  | .comment text =>
    insertCommentAt (some (.inside ((← get).stack.getLast?.getD 0))) text
    return .done
  | .doctype _ => return .done
  | .eof => return .done
  | .start "html" _ _ => return ← inBody token
  | .finish "html" =>
    setMode .afterAfterBody
    return .done
  | _ => pure ()
  setMode .inBody
  return .again

def inFrameset (token : Token) : Build Outcome := do
  match token with
  | .text chars => if chars.all Lexer.isSpace then insertText chars
  | .comment text => insertComment text
  | .start "html" _ _ => return ← inBody token
  | .start "frameset" attributes _ => insertElement "frameset" attributes
  | .start "frame" attributes _ => insertEmpty "frame" attributes
  | .start "noframes" _ _ => return ← inHead token
  | .finish "frameset" =>
    if 1 < (← get).stack.length then
      pop
      if !(← currentIs ["frameset"]) then setMode .afterFrameset
  | _ => return .done
  return .done

def afterFrameset (token : Token) : Build Outcome := do
  match token with
  | .text chars => if chars.all Lexer.isSpace then insertText chars
  | .comment text => insertComment text
  | .start "html" _ _ => return ← inBody token
  | .start "noframes" _ _ => return ← inHead token
  | .finish "html" => setMode .afterAfterFrameset
  | _ => return .done
  return .done

def afterAfterBody (token : Token) : Build Outcome := do
  match token with
  | .comment text =>
    insertCommentAt (some (.inside 0)) text
    return .done
  | .doctype _ => return .done
  | .text chars => if chars.all Lexer.isSpace then return ← inBody token
  | .start "html" _ _ => return ← inBody token
  | .eof => return .done
  | _ => pure ()
  setMode .inBody
  return .again

def afterAfterFrameset (token : Token) : Build Outcome := do
  match token with
  | .comment text => insertCommentAt (some (.inside 0)) text
  | .text chars => if chars.all Lexer.isSpace then return ← inBody token
  | .start "html" _ _ => return ← inBody token
  | .start "noframes" _ _ => return ← inHead token
  | _ => return .done
  return .done

/-- What a token means in a mode. -/
def rules : Mode → Token → Build Outcome
  | .initial => initial
  | .beforeHtml => beforeHtml
  | .beforeHead => beforeHead
  | .inHead => inHead
  | .inHeadNoscript => inHeadNoscript
  | .afterHead => afterHead
  | .inBody => inBody
  | .text => inText
  | .inTable => inTable
  | .inTableText => inTableText
  | .inCaption => inCaption
  | .inColumnGroup => inColumnGroup
  | .inTableBody => inTableBody
  | .inRow => inRow
  | .inCell => inCell
  | .inSelect => inSelect
  | .inSelectInTable => inSelectInTable
  | .inTemplate => inTemplate
  | .afterBody => afterBody
  | .inFrameset => inFrameset
  | .afterFrameset => afterFrameset
  | .afterAfterBody => afterAfterBody
  | .afterAfterFrameset => afterAfterFrameset

def byMode (token : Token) : Build Outcome := do rules (← get).mode token

/-- Deals with a token until it is done; the count bounds the steps. -/
def feed (token : Token) : Nat → Build Unit
  | 0 => return
  | n + 1 => do
    let outcome ← if isForeignToken (← currentTag) token then inForeign byMode token else byMode token
    if outcome = .again then feed token n

/-- How often a token may be looked at: each time something is closed, or the mode goes on. -/
def patience : Build Nat := do return 2 * (← get).stack.length + 32

def runs : List Char → List (List Char)
  | [] => []
  | c :: r =>
    match runs r with
    | (d :: run) :: more =>
      if Lexer.isSpace c == Lexer.isSpace d then (c :: d :: run) :: more
      else [c] :: (d :: run) :: more
    | more => [c] :: more

/-- A line feed is no part of an element that it follows directly, if the element asks so. -/
def dropFirstNewline (token : Token) : Build Token := do
  if (← get).dropsNewline then
    modify fun s => { s with dropsNewline := false }
    match token with
    | .text ('\n' :: r) => return .text r
    | _ => return token
  else return token

/-- Deals with a token; texts are dealt with by runs. -/
def accept (token : Token) : Build Unit := do
  match token with
  | .text [] => return
  | _ =>
    match ← dropFirstNewline token with
    | .text chars => for run in runs chars do feed (.text run) (← patience)
    | token => feed token (← patience)

/-- Reads tokens up to the end; the count bounds the steps. -/
def read : Nat → List Char → Build Unit
  | 0, _ => accept .eof
  | n + 1, s => do
    let state ← get
    let foreign := (← currentTag).space ≠ .html
    let (token, rest) := Lexer.next state.lexing foreign s
    match token with
    | .eof => accept .eof
    | .finish _ =>
      setLexing .data
      accept token
      read n rest
    | _ =>
      accept token
      read n rest

end Construction

structure Document where
  root : Node
  detached : List Node

namespace Document

def parse (text : String) : Document :=
  let s := Lexer.normalizeLines (Lexer.dropMark text.toList)
  let (_, state) := (Construction.read (s.length + 1) s).run .start
  match state.store.trees with
  | root :: detached => ⟨root, detached⟩
  | [] => ⟨default, []⟩

def trees (d : Document) : List Node := d.root :: d.detached

end Document

end Catalog.Markup
