import Catalog.Error
import Catalog.Json.Printer
import Catalog.Json.Record
import Catalog.Source.Basic

/-! # Sources as JSON

How sources are written and read. A text holds one source or an array of them.
-/

namespace Catalog

open Json (Value Written)

namespace ListProfile

def fieldNames : List String :=
  ["init", "bookList", "name", "author", "intro", "kind", "lastChapter", "bookUrl", "coverUrl",
    "wordCount"]

def empty : ListProfile :=
  ⟨none, none, none, none, none, none, none, none, none, none⟩

def rules (p : ListProfile) : List (Option String) :=
  [p.init, p.bookList, p.name, p.author, p.intro, p.kind, p.lastChapter, p.bookUrl, p.coverUrl,
    p.wordCount]

def toJson (p : ListProfile) : Value :=
  .object (fieldNames.zip (p.rules.map Value.ofOption))

def ofWritten? (w : Written) : Option ListProfile := do
  let fields ← w.fields? 0 fieldNames
  match ← fields.mapM (Written.orDefault none Written.optionalText?) with
  | [init, bookList, name, author, intro, kind, lastChapter, bookUrl, coverUrl, wordCount] =>
    some ⟨init, bookList, name, author, intro, kind, lastChapter, bookUrl, coverUrl, wordCount⟩
  | _ => none

end ListProfile

namespace InfoProfile

def fieldNames : List String :=
  ["init", "name", "author", "intro", "kind", "lastChapter", "coverUrl", "wordCount"]

def empty : InfoProfile := ⟨none, none, none, none, none, none, none, none⟩

def rules (p : InfoProfile) : List (Option String) :=
  [p.init, p.name, p.author, p.intro, p.kind, p.lastChapter, p.coverUrl, p.wordCount]

def toJson (p : InfoProfile) : Value :=
  .object (fieldNames.zip (p.rules.map Value.ofOption))

def ofWritten? (w : Written) : Option InfoProfile := do
  let fields ← w.fields? 0 fieldNames
  match ← fields.mapM (Written.orDefault none Written.optionalText?) with
  | [init, name, author, intro, kind, lastChapter, coverUrl, wordCount] =>
    some ⟨init, name, author, intro, kind, lastChapter, coverUrl, wordCount⟩
  | _ => none

end InfoProfile

namespace Source

def fieldNames : List String :=
  ["bookSourceUrl", "bookSourceName", "bookSourceType", "customOrder", "bookUrlPattern",
    "ruleSearch", "ruleExplore", "ruleBookInfo"]

def toJson (s : Source) : Value :=
  .object (fieldNames.zip
    [.string s.url, .string s.name, .number (.int s.kind.tag), .number (.int s.order.toInt),
      .ofOption s.bookUrlPattern, s.search.toJson, s.explore.toJson, s.info.toJson])

def ofWritten? (w : Written) : Option Source := do
  match ← w.fields? 0 fieldNames with
  | [url, name, kind, order, pattern, search, explore, info] =>
    some {
      url := ← Written.orDefault "" Written.text? url
      name := ← Written.orDefault "" Written.text? name
      kind := ← Written.orDefault .text (fun w => w.int32?.map fun k => .ofTag k.toInt) kind
      order := ← Written.orDefault 0 Written.int32? order
      bookUrlPattern := ← Written.orDefault none Written.optionalText? pattern
      search := ← Written.orDefault .empty ListProfile.ofWritten? search
      explore := ← Written.orDefault .empty ListProfile.ofWritten? explore
      info := ← Written.orDefault .empty InfoProfile.ofWritten? info }
  | _ => none

def ofText (text : String) : Except Error Source :=
  match (Written.parse? text.toList).bind ofWritten? with
  | some s => .ok s
  | none => .error .invalidSource

def listOfText (text : String) : Except Error (List Source) :=
  if (Text.trimStart text.toList).head? = some '[' then
    match Written.parse? text.toList with
    | some (.array items) =>
      match items.mapM ofWritten? with
      | some sources => .ok sources
      | none => .error .invalidSource
    | _ => .error .invalidSource
  else (ofText text).map ([·])

end Source

end Catalog
