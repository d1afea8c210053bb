import Catalog.Rule.ListRule

/-! # Sources

A source says how the books of one site are read: who it is, which pages of it describe a single
book, and the rules for its lists and for the pages of its books.
-/

namespace Catalog

/-- What a source has to offer. -/
inductive SourceKind where
  | text
  | audio
  | image
  | file
  deriving DecidableEq, Repr, Inhabited

namespace SourceKind

def ofTag (tag : Int) : SourceKind :=
  if tag = 1 then audio else if tag = 2 then image else if tag = 3 then file else text

def tag : SourceKind → Int
  | text => 0
  | audio => 1
  | image => 2
  | file => 3

def name : SourceKind → String
  | text => "Text"
  | audio => "Audio"
  | image => "Image"
  | file => "File"

theorem ofTag_tag (k : SourceKind) : ofTag k.tag = k := by cases k <;> rfl

end SourceKind

structure ListProfile where
  /-- Read once for a page, for the variables it sets. -/
  init : Option String
  /-- Enumerates the books. -/
  bookList : Option String
  name : Option String
  author : Option String
  intro : Option String
  kind : Option String
  lastChapter : Option String
  bookUrl : Option String
  coverUrl : Option String
  wordCount : Option String
  deriving DecidableEq, Repr, Inhabited

structure InfoProfile where
  /-- Narrows the page to the part that describes the book. -/
  init : Option String
  name : Option String
  author : Option String
  intro : Option String
  kind : Option String
  lastChapter : Option String
  coverUrl : Option String
  wordCount : Option String
  deriving DecidableEq, Repr, Inhabited

structure Source where
  url : String
  name : String
  kind : SourceKind
  /-- The weight of the source among others. -/
  order : Int32
  /-- Matches the addresses of pages that describe a single book. -/
  bookUrlPattern : Option String
  search : ListProfile
  explore : ListProfile
  info : InfoProfile
  deriving DecidableEq, Repr, Inhabited

namespace Source

def detailPattern? (s : Source) : Option String := s.bookUrlPattern.filter fun p => !p.isEmpty

/-- Whether lists that are not found by searching have rules of their own. -/
def hasExplore (s : Source) : Bool := !isBlankRule s.explore.bookList

/-- The rules for a list that was found by searching, or by exploring. -/
def listProfile (s : Source) (isSearch : Bool) : ListProfile :=
  if isSearch || !s.hasExplore then s.search else s.explore

end Source

end Catalog
