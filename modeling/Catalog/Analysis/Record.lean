import Catalog.Analysis.Fields
import Catalog.Analysis.Options
import Catalog.Analysis.Procedure
import Catalog.Book.Basic

/-! # Records

How one book is read: from a node of a list, or from a page of its own. A book without a name is
none.
-/

namespace Catalog

/-- What stays the same while a page is read. -/
structure Setting where
  source : Source
  baseUrl : String
  options : Options

/-- A text, unless it is empty. -/
def present? (s : String) : Option String := if s.isEmpty then none else some s

namespace Setting

variable {ν : Type}

/-- A checkpoint, and then a field. -/
def readField (field : String) (c : Chain) (isUrl verbose : Bool) : Reader ν String := do
  Reader.checkpoint
  let value ← Reader.readString c isUrl
  Reader.report (.field field value verbose)
  return value

/-- A checkpoint, and then a field with many values, which are joined. -/
def readJoined (s : Setting) (field : String) (c : Chain) (verbose : Bool) : Reader ν String := do
  Reader.checkpoint
  let values ← Reader.readList c
  let value := s.options.kindSeparator.intercalate values
  Reader.report (.field field value verbose)
  return value

/-- A book of the source of which only the name is known. -/
def newBook (s : Setting) (name : String) : Book where
  name := name
  author := ""
  bookUrl := ""
  origin := s.source.url
  originName := s.source.name
  originOrder := s.source.order
  kindOfSource := s.source.kind
  coverUrl := none
  intro := none
  kind := none
  wordCount := none
  latestChapterTitle := none
  vars := .empty
  infoHtml := none

/-- Reads what lists and pages of books have in common. -/
def readDetails (s : Setting) (rules : FieldRules) (verbose : Bool) (book : Book) :
    Reader ν Book := do
  let author ← readField "author" rules.author false verbose
  let kind ← s.readJoined "kind" rules.kind verbose
  let wordCount ← readField "wordCount" rules.wordCount false verbose
  let latest ← readField "lastChapter" rules.lastChapter false verbose
  let intro ← readField "intro" rules.intro false verbose
  return { book with
    author := s.options.formatAuthor author
    kind := present? kind
    wordCount := present? wordCount
    latestChapterTitle := present? latest
    intro := present? intro }

/-- Reads a book from the node that is bound. The cover is a link on the page; a book without an
address has that of the page. -/
def boundRecord (s : Setting) (rules : FieldRules) (verbose : Bool) : Reader ν (Option Book) := do
  let name ← readField "name" rules.name false verbose
  if name.isEmpty then return none
  let book ← s.readDetails rules verbose (s.newBook name)
  let cover ← readField "coverUrl" rules.coverUrl false verbose
  let bookUrl ← readField "bookUrl" rules.bookUrl true verbose
  return some { book with
    coverUrl := (present? cover).map (s.options.resolveLink s.baseUrl)
    bookUrl := (present? bookUrl).getD s.baseUrl
    vars := ← get }

/-- Reads a book from a node of a list. -/
def listRecord (s : Setting) (rules : FieldRules) (verbose : Bool) (node : ν) :
    Reader ν (Option Book) := do
  Reader.enter node
  s.boundRecord rules verbose

/-- Narrows the page to the part that describes the book; without such a part the whole page
does. -/
def narrow (s : Setting) : Reader ν Unit :=
  match s.source.info.init with
  | none => pure ()
  | some init =>
    if isBlankRule (some init) then pure ()
    else do
      Reader.checkpoint
      Reader.report .detailInit
      let chain ← Reader.ofExcept (Rule.resolve init)
      match ← Reader.findElement chain with
      | some node => Reader.enter node
      | none => pure ()

/-- Reads the book that the page describes. The cover is kept as it is written. -/
def detailRecord (s : Setting) (body : String) : Reader ν (Option Book) := do
  s.narrow
  let rules ← Reader.ofExcept (FieldRules.ofInfo s.source.info)
  let name ← readField "name" rules.name false true
  if name.isEmpty then return none
  let book ← s.readDetails rules true (s.newBook name)
  let cover ← readField "coverUrl" rules.coverUrl true true
  return some { book with
    coverUrl := present? cover
    bookUrl := s.baseUrl
    infoHtml := some body
    vars := ← get }

end Setting

end Catalog
