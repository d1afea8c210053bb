import Catalog.Analysis.Record
import Catalog.Pattern.Match

/-! # Analysis of pages

A fetched page is a list of books, or it describes a single book: if its address is of the form that
the source gives, or if no such form is given and the list is empty.
-/

namespace Catalog

namespace Setting

variable {ν : Type}

/-- Whether the page is known by its address to describe a single book. -/
def isDetailPage (s : Setting) : Except Error Bool :=
  match s.source.detailPattern? with
  | none => .ok false
  | some pattern =>
    match Pattern.compile? ("^(?:" ++ pattern ++ ")$") with
    | none => .error .invalidPattern
    | some p => .ok (p.isMatch s.baseUrl.toList.toArray)

/-- The books of the page as one that describes a single book. -/
def detailBooks (s : Setting) (body : String) (vars : Variables) : Procedure ν (List Book) := do
  let (book, _) ← s.detailRecord body vars
  return book.toList

/-- A book whose address is that of the page is described by the page. -/
def withPage (s : Setting) (body : String) (book : Book) : Book :=
  if book.bookUrl = s.baseUrl then { book with infoHtml := some body } else book

/-- The books of the nodes of a list. Each one starts from the same variables. -/
def listBooks (s : Setting) (body : String) (rules : FieldRules) (vars : Variables) :
    Bool → List ν → Procedure ν (List Book)
  | _, [] => .done []
  | isFirst, node :: rest => .checkpoint do
    let verbose := isFirst || s.options.traceAllItems
    let (book, _) ← s.listRecord rules verbose node vars
    let books ← s.listBooks body rules vars false rest
    return (book.map (s.withPage body)).toList ++ books

def runInit (init : Option String) : Reader ν Unit :=
  match init with
  | none => pure ()
  | some rule =>
    if isBlankRule init then pure ()
    else do
      Reader.checkpoint
      Reader.report .listInit
      let chain ← Reader.ofExcept (Rule.resolve rule)
      let _ ← Reader.readString chain false

def findBooks (p : ListProfile) (list : ListRule) : Reader ν (List ν) := do
  runInit p.init
  let chain ← Reader.ofExcept (Rule.resolve list.rule)
  Reader.findNodes chain

def readBooks (s : Setting) (body : String) (p : ListProfile) (list : ListRule) (nodes : List ν)
    (vars : Variables) : Procedure ν (List Book) := do
  let rules ← Procedure.ofExcept (FieldRules.ofList p)
  .report (.listSize nodes.length) do
    let books ← s.listBooks body rules vars true nodes
    if list.reversed then .report .reversing (.done books.reverse) else return books

def books (s : Setting) (isSearch : Bool) (body : String) : Procedure ν (List Book) := do
  if ← Procedure.ofExcept s.isDetailPage then
    .report .detailPage (s.detailBooks body .empty)
  else
    let profile := s.source.listProfile isSearch
    let list := ListRule.ofText (profile.bookList.getD "")
    let (nodes, vars) ← findBooks profile list .empty
    if nodes.isEmpty && s.source.detailPattern?.isNone then
      .report .emptyList (s.detailBooks body vars)
    else s.readBooks body profile list nodes vars

/-- The books of a page whose body was fetched, or failed to be. -/
def analyze (s : Setting) (isSearch : Bool) : Option String → Procedure ν (List Book)
  | none => .fail (.contentMissing s.baseUrl)
  | some body =>
    .report (.fetched s.baseUrl) <| .checkpoint <| .load body s.baseUrl <| s.books isSearch body

end Setting

end Catalog
