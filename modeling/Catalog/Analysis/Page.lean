import Catalog.Analysis.Analyze
import Catalog.Analysis.Run
import Catalog.Page.Query

/-! # Analysis of markup and JSON

Procedures are run against pages of markup or JSON.
-/

namespace Catalog

namespace Page

/-- A query on the page that is bound. -/
def ask {α : Type} (query : Page → Reading α) (vars : Variables) : Ask Page (α × Variables) :=
  fun p =>
    let (r, assigned) := (query p).answer vars
    (r.map fun a => (a, vars.putAll assigned), p)

/-- Reads markup and JSON; the world is the page that is bound. -/
def backend : Backend Page Handle where
  bind body baseUrl := fun _ => (.ok (), Page.bind body baseUrl)
  bindNode node := fun p => (.ok (), p.bindNode node)
  findNodes c := ask (·.queryNodes c)
  readString c isUrl := ask (·.queryString c isUrl)
  readList c := ask (·.queryList c)

end Page

/-- The books of a page of markup or JSON. -/
def analyze {σ : Type} (body : Option String) (source : Source) (baseUrl : String)
    (isSearch : Bool) (signal : Signal Page σ) (state : σ) (options : Options) :
    Run Page σ Handle (List Book) :=
  (Setting.analyze ⟨source, baseUrl, options⟩ isSearch body).run Page.backend signal .unbound state

end Catalog
