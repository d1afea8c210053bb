import Catalog.Markup.Construction.Body

/-! # Tables and selections

What tokens mean within tables, their parts, and lists of options. Content that has no place in a
table is put before it.
-/

namespace Catalog.Markup.Construction

def sections : List String := ["tbody", "tfoot", "thead"]

def cells : List String := ["td", "th"]

/-- Deals with a token as within the body, and puts what has no place in the table before it. -/
def foster (token : Token) : Build Outcome := do
  modify fun s => { s with fostering := true }
  let outcome ← inBody token
  modify fun s => { s with fostering := false }
  return outcome

/-- Closes elements down to one that may hold the part of a table that follows. -/
def clearTo (names : List String) : Build Unit := popTo (isNamed (names ++ ["template", "html"]))

def openSection (name : String) (attributes : List (String × String)) : Build Unit := do
  clearTo ["table"]
  insertElement name attributes
  setMode .inTableBody

def openRow (attributes : List (String × String)) : Build Unit := do
  clearTo sections
  insertElement "tr" attributes
  setMode .inRow

def closeTable : Build Unit := do
  popThrough ["table"]
  resetMode

def inTable (token : Token) : Build Outcome := do
  let gather : Build Outcome := do
    if ← currentIs (["table", "template", "tr"] ++ sections) then
      modify fun s => { s with tableText := [], returnMode := s.mode, mode := .inTableText }
      return .again
    else foster token
  match token with
  | .text _ => return ← gather
  | .null => return ← gather
  | .comment text => insertComment text
  | .doctype _ => return .done
  | .eof => return ← inBody token
  | .start name attributes _ =>
    if sections.contains name then openSection name attributes
    else
      match name with
      | "caption" =>
        clearTo ["table"]
        pushMarker
        insertElement name attributes
        setMode .inCaption
      | "colgroup" =>
        clearTo ["table"]
        insertElement name attributes
        setMode .inColumnGroup
      | "col" =>
        clearTo ["table"]
        insertElement "colgroup" []
        setMode .inColumnGroup
        return .again
      | "td" | "th" | "tr" =>
        openSection "tbody" []
        return .again
      | "table" =>
        if ← inScope boundsTable ["table"] then
          closeTable
          return .again
      | "style" | "script" | "template" => return ← inHead token
      | "input" =>
        if (attributes.lookup "type").elim false fun t => t.toLower == "hidden" then
          insertEmpty name attributes
        else return ← foster token
      | "form" =>
        if (← get).form.isNone && !(← isOpen "template") then
          insertElement name attributes
          modify fun s => { s with form := s.stack.head? }
          pop
      | _ => return ← foster token
  | .finish name =>
    if name == "table" then
      if ← inScope boundsTable ["table"] then closeTable
    else if ["body", "caption", "col", "colgroup", "html", "td", "th", "tr"].contains name ||
        sections.contains name then return .done
    else if name == "template" then return ← inHead token
    else return ← foster token
  return .done

/-- Characters within a table are kept until something else follows; unless all are blank, they
belong before the table. -/
def inTableText (token : Token) : Build Outcome := do
  match token with
  | .null => return .done
  | .text chars =>
    modify fun s => { s with tableText := chars :: s.tableText }
    return .done
  | _ =>
    let runs := (← get).tableText.reverse
    if runs.all fun r => r.all Lexer.isSpace then
      for r in runs do insertText r
    else
      for r in runs do
        let _ ← foster (.text r)
    modify fun s => { s with mode := s.returnMode, tableText := [] }
    return .again

/-- Closes the caption that is open; says whether there is one. -/
def closeCaption : Build Bool := do
  if ← inScope boundsTable ["caption"] then
    closeImplied ""
    popThrough ["caption"]
    clearToMarker
    setMode .inTable
    return true
  else return false

/-- The parts of a table that end the part before them. -/
def endsPart (name : String) : Bool :=
  ["caption", "col", "colgroup"].contains name || sections.contains name

def inCaption (token : Token) : Build Outcome := do
  match token with
  | .start name _ _ =>
    if endsPart name || cells.contains name || name == "tr" then
      return if ← closeCaption then .again else .done
    else inBody token
  | .finish name =>
    if name == "caption" then
      let _ ← closeCaption
      return .done
    else if name == "table" then return if ← closeCaption then .again else .done
    else if endsPart name || cells.contains name || ["tr", "body", "html"].contains name then
      return .done
    else inBody token
  | _ => inBody token

def inColumnGroup (token : Token) : Build Outcome := do
  match token with
  | .text chars =>
    if chars.all Lexer.isSpace then
      insertText chars
      return .done
  | .comment text =>
    insertComment text
    return .done
  | .doctype _ => return .done
  | .start "html" _ _ => return ← inBody token
  | .start "col" attributes _ =>
    insertEmpty "col" attributes
    return .done
  | .start "template" _ _ => return ← inHead token
  | .finish "template" => return ← inHead token
  | .finish "colgroup" =>
    if ← currentIs ["colgroup"] then
      pop
      setMode .inTable
    return .done
  | .finish "col" => return .done
  | .eof => return ← inBody token
  | _ => pure ()
  if ← currentIs ["colgroup"] then
    pop
    setMode .inTable
    return .again
  return .done

def closeSection : Build Unit := do
  clearTo sections
  pop
  setMode .inTable

def inTableBody (token : Token) : Build Outcome := do
  let leave : Build Outcome := do
    if ← inScope boundsTable sections then
      closeSection
      return .again
    else return .done
  match token with
  | .start name attributes _ =>
    if name == "tr" then
      openRow attributes
      return .done
    else if cells.contains name then
      openRow []
      return .again
    else if endsPart name then leave
    else inTable token
  | .finish name =>
    if sections.contains name then
      if ← inScope boundsTable [name] then closeSection
      return .done
    else if name == "table" then leave
    else if ["body", "caption", "col", "colgroup", "html", "td", "th", "tr"].contains name then
      return .done
    else inTable token
  | _ => inTable token

/-- Closes the row that is open; says whether there is one. -/
def closeRow : Build Bool := do
  if ← inScope boundsTable ["tr"] then
    clearTo ["tr"]
    pop
    setMode .inTableBody
    return true
  else return false

def inRow (token : Token) : Build Outcome := do
  match token with
  | .start name attributes _ =>
    if cells.contains name then
      clearTo ["tr"]
      insertElement name attributes
      setMode .inCell
      pushMarker
      return .done
    else if endsPart name || name == "tr" then return if ← closeRow then .again else .done
    else inTable token
  | .finish name =>
    if name == "tr" then
      let _ ← closeRow
      return .done
    else if name == "table" then return if ← closeRow then .again else .done
    else if sections.contains name then
      if ← inScope boundsTable [name] then return if ← closeRow then .again else .done
      else return .done
    else if ["body", "caption", "col", "colgroup", "html", "td", "th"].contains name then
      return .done
    else inTable token
  | _ => inTable token

def closeCell : Build Unit := do
  closeImplied ""
  popThrough cells
  clearToMarker
  setMode .inRow

def inCell (token : Token) : Build Outcome := do
  match token with
  | .start name _ _ =>
    if endsPart name || cells.contains name || name == "tr" then
      if ← inScope boundsTable cells then
        closeCell
        return .again
      else return .done
    else inBody token
  | .finish name =>
    if cells.contains name then
      if ← inScope boundsTable [name] then
        closeImplied ""
        popThrough [name]
        clearToMarker
        setMode .inRow
      return .done
    else if ["body", "caption", "col", "colgroup", "html"].contains name then return .done
    else if name == "table" || name == "tr" || sections.contains name then
      if ← inScope boundsTable [name] then
        closeCell
        return .again
      else return .done
    else inBody token
  | _ => inBody token

/-- Closes the list of options that is open; says whether there is one. -/
def closeSelect : Build Bool := do
  if ← inScope boundsSelect ["select"] then
    popThrough ["select"]
    resetMode
    return true
  else return false

/-- Closes the option, and then the group, that is current. -/
def closeGroup : Build Unit := do
  if ← currentIs ["option"] then pop
  if ← currentIs ["optgroup"] then pop

def inSelect (token : Token) : Build Outcome := do
  match token with
  | .null => return .done
  | .doctype _ => return .done
  | .text chars => insertText chars
  | .comment text => insertComment text
  | .eof => return ← inBody token
  | .start name attributes _ =>
    match name with
    | "html" => return ← inBody token
    | "option" =>
      if ← currentIs ["option"] then pop
      insertElement name attributes
    | "optgroup" =>
      closeGroup
      insertElement name attributes
    | "hr" =>
      closeGroup
      insertEmpty name attributes
    | "select" =>
      let _ ← closeSelect
      return .done
    | "input" | "keygen" | "textarea" => return if ← closeSelect then .again else .done
    | "script" | "template" => return ← inHead token
    | _ => return .done
  | .finish name =>
    match name with
    | "optgroup" =>
      match ← openTags with
      | (_, t) :: (_, u) :: _ => if isNamed ["option"] t && isNamed ["optgroup"] u then pop
      | _ => pure ()
      if ← currentIs ["optgroup"] then pop
    | "option" => if ← currentIs ["option"] then pop
    | "select" =>
      let _ ← closeSelect
      return .done
    | "template" => return ← inHead token
    | _ => return .done
  return .done

def inSelectInTable (token : Token) : Build Outcome := do
  let parts := ["caption", "table", "tr"] ++ sections ++ cells
  match token with
  | .start name _ _ =>
    if parts.contains name then
      popThrough ["select"]
      resetMode
      return .again
    else inSelect token
  | .finish name =>
    if parts.contains name then
      if ← inScope boundsTable [name] then
        popThrough ["select"]
        resetMode
        return .again
      else return .done
    else inSelect token
  | _ => inSelect token

end Catalog.Markup.Construction
