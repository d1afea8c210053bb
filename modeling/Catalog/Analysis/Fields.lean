import Catalog.Rule.Resolve
import Catalog.Source.Basic

/-! # Field rules

The chains of the rules for the fields of a book. They are resolved once for a page.
-/

namespace Catalog

structure FieldRules where
  name : Chain
  bookUrl : Chain
  author : Chain
  coverUrl : Chain
  intro : Chain
  kind : Chain
  lastChapter : Chain
  wordCount : Chain

namespace FieldRules

def ofList (p : ListProfile) : Except Error FieldRules := do
  let name ← Rule.resolveField p.name
  let bookUrl ← Rule.resolveField p.bookUrl
  let author ← Rule.resolveField p.author
  let coverUrl ← Rule.resolveField p.coverUrl
  let intro ← Rule.resolveField p.intro
  let kind ← Rule.resolveField p.kind
  let lastChapter ← Rule.resolveField p.lastChapter
  let wordCount ← Rule.resolveField p.wordCount
  return ⟨name, bookUrl, author, coverUrl, intro, kind, lastChapter, wordCount⟩

/-- The address of a book is not read from its own page. -/
def ofInfo (p : InfoProfile) : Except Error FieldRules := do
  let name ← Rule.resolveField p.name
  let author ← Rule.resolveField p.author
  let coverUrl ← Rule.resolveField p.coverUrl
  let intro ← Rule.resolveField p.intro
  let kind ← Rule.resolveField p.kind
  let lastChapter ← Rule.resolveField p.lastChapter
  let wordCount ← Rule.resolveField p.wordCount
  return ⟨name, .empty, author, coverUrl, intro, kind, lastChapter, wordCount⟩

end FieldRules

end Catalog
