import Catalog.Book.Variables
import Catalog.Json.Printer
import Catalog.Json.Written
import Catalog.Markup.Reading

/-! # Pages

A page is markup or JSON. Queries are read from the whole page, from one of its elements, or from
content of its own that was found on it.
-/

namespace Catalog

inductive Content where
  | markup (document : Markup.Document)
  | json (value : Json.Value)

namespace Content

/-- A body that starts like an object or an array and can be read as JSON is JSON; any other body
is markup. -/
def parse (body : String) : Content :=
  let s := Text.trimStart body.toList
  let json := if s.head? = some '\x7b' || s.head? = some '[' then Json.Value.parse? s else none
  match json with
  | some v => .json v
  | none => .markup (Markup.Document.parse body)

end Content

/-- A node that was found, by which it can be found again. -/
inductive Handle where
  /-- An element of the page. -/
  | element (id : Nat)
  | json (value : Json.Value)
  /-- A piece of text, which is read as content of its own. -/
  | text (text : String)

/-- What queries are read from. -/
inductive Scope where
  | page
  | element (id : Nat)
  | owned (content : Content)

structure Page where
  baseUrl : String
  content : Option Content
  scope : Scope

/-- What a fragment is read from: nodes of a document, or a value. Only nodes of the page itself
can be found again by their numbers. -/
inductive Target where
  | markup (spots : List Markup.Spot) (onPage : Bool)
  | json (value : Json.Value)

namespace Page

/-- Nothing has been bound yet. -/
def unbound : Page := ⟨"", none, .page⟩

def bind (body baseUrl : String) : Page := ⟨baseUrl, some (.parse body), .page⟩

def scopeOf : Handle → Scope
  | .element id => .element id
  | .json value => .owned (.json value)
  | .text text => .owned (.parse text)

/-- Binds a node; the page stays. -/
def bindNode (p : Page) (h : Handle) : Page := { p with scope := scopeOf h }

def target (p : Page) : Except Error Target :=
  match p.content with
  | none => .error (.query .unbound)
  | some content =>
    match p.scope, content with
    | .page, .markup d => .ok (.markup d.roots true)
    | .page, .json v => .ok (.json v)
    | .element id, .markup d =>
      match d.find? id with
      | some spot => .ok (.markup [spot] true)
      | none => .error (.query .staleNode)
    | .element _, .json _ => .error (.query .elementOnJson)
    | .owned (.markup d), _ => .ok (.markup d.roots false)
    | .owned (.json v), _ => .ok (.json v)

/-- Replaces references in the text of a fragment. The address of the page stands for `baseUrl` as
long as no variable does. -/
def expand (p : Page) (vars : Variables) (text : String) : String :=
  Variables.expand
    (fun key => vars.get? key <|> if key = "baseUrl" then some p.baseUrl else none) text

end Page

end Catalog
