import Catalog.Book.Variables
import Catalog.Source.Json

/-! # Books

One entry of a catalog, as it was read off a list or off the page of the book, and how it is
written as JSON.
-/

namespace Catalog

structure Book where
  name : String
  author : String
  bookUrl : String
  /-- The address, name and weight of the source that it comes from. -/
  origin : String
  originName : String
  originOrder : Int32
  kindOfSource : SourceKind
  coverUrl : Option String
  intro : Option String
  /-- The kinds of the book, joined. -/
  kind : Option String
  wordCount : Option String
  latestChapterTitle : Option String
  /-- The variables as they were when the book had been read. -/
  vars : Variables
  /-- The page itself, if it describes the book. -/
  infoHtml : Option String
  deriving DecidableEq, Repr, Inhabited

namespace Book

open Json (Value Written)

def fieldNames : List String :=
  ["name", "author", "bookUrl", "origin", "originName", "originOrder", "type", "coverUrl", "intro",
    "kind", "wordCount", "latestChapterTitle", "variable", "infoHtml"]

/-- Variables and the page are left out where there are none. -/
def toJson (b : Book) : Value :=
  .object <|
    [("name", .string b.name), ("author", .string b.author), ("bookUrl", .string b.bookUrl),
      ("origin", .string b.origin), ("originName", .string b.originName),
      ("originOrder", .number (.int b.originOrder.toInt)),
      ("type", .number (.int b.kindOfSource.tag)), ("coverUrl", .ofOption b.coverUrl),
      ("intro", .ofOption b.intro), ("kind", .ofOption b.kind),
      ("wordCount", .ofOption b.wordCount),
      ("latestChapterTitle", .ofOption b.latestChapterTitle)] ++
    (if b.vars.isEmpty then []
      else [("variable", .object (b.vars.entries.map fun e => (e.1, .string e.2)))]) ++
    b.infoHtml.toList.map fun page => ("infoHtml", .string page)

/-- Values of the optional fields may be missing from an object, but not from an array. -/
def ofWritten? (w : Written) : Option Book := do
  match ← w.fields? 12 fieldNames with
  | [name, author, bookUrl, origin, originName, originOrder, kindOfSource, coverUrl, intro, kind,
      wordCount, latestChapterTitle, vars, infoHtml] =>
    some {
      name := ← name.bind Written.text?
      author := ← author.bind Written.text?
      bookUrl := ← bookUrl.bind Written.text?
      origin := ← origin.bind Written.text?
      originName := ← originName.bind Written.text?
      originOrder := ← originOrder.bind Written.int32?
      kindOfSource := .ofTag (← kindOfSource.bind Written.int32?).toInt
      coverUrl := ← Written.orDefault none Written.optionalText? coverUrl
      intro := ← Written.orDefault none Written.optionalText? intro
      kind := ← Written.orDefault none Written.optionalText? kind
      wordCount := ← Written.orDefault none Written.optionalText? wordCount
      latestChapterTitle := ← Written.orDefault none Written.optionalText? latestChapterTitle
      vars := .ofList (← Written.orDefault [] Written.textMap? vars)
      infoHtml := ← Written.orDefault none Written.optionalText? infoHtml }
  | _ => none

def ofText (text : String) : Except Error Book :=
  match (Written.parse? text.toList).bind ofWritten? with
  | some b => .ok b
  | none => .error .invalidBook

end Book

end Catalog
