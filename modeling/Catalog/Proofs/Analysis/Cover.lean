import Mathlib
import Catalog.Proofs.Analysis.Cancellation
import Catalog.Proofs.Analysis.Isolation
import Catalog.Proofs.Page.Single

/-! # Covers of the books of a list

The cover of a book on a list is read as text and not as a link. Of a rule with several values it is
all of them, one to a line, and the result is resolved as if it were one link.
-/

namespace Catalog

namespace Reader

variable {α β : Type} {p : Page} {Q : α → Variables → Prop} {v : Variables}

theorem onPage_bind_eq_ok {x : Reader Handle α} {f : α → Reader Handle β} {r : β × Variables}
    (hx : x.Keeps p Q) (h : ((x >>= f).onPage p v).result = .ok r) :
    ∃ a v', (x.onPage p v).result = .ok (a, v') ∧ ((f a).onPage p v').result = .ok r := by
  rw [onPage, bind_apply, Procedure.run_andThen] at h
  cases hr : (x.onPage p v).result with
  | error e =>
    rw [Run.andThen_of_error hr] at h
    cases h
  | ok av =>
    obtain ⟨a, v'⟩ := av
    rw [Run.andThen_of_ok hr, (hx v).world] at h
    exact ⟨a, v', rfl, h⟩

theorem onPage_bind_of_ok {x : Reader Handle α} {f : α → Reader Handle β} {a : α}
    {v' : Variables} (hx : x.Keeps p Q) (h : (x.onPage p v).result = .ok (a, v')) :
    ((x >>= f).onPage p v).result = ((f a).onPage p v').result := by
  rw [onPage, bind_apply, Procedure.run_andThen, Run.andThen_of_ok h, (hx v).world]

end Reader

namespace Setting

open Reader

variable {s : Setting} {rules : FieldRules} {p : Page} {v : Variables} {f : Fragment}

theorem readField_result (field : String) (c : Chain) (isUrl verbose : Bool) :
    ((readField field c isUrl verbose).onPage p v).result =
      ((p.queryString c isUrl).run v).1.map (·, ((p.queryString c isUrl).run v).2) := by
  change (Run.call _ (((p.queryString c isUrl).answer v).1.map
    (·, v.putAll ((p.queryString c isUrl).answer v).2), p) () _).result = _
  unfold Reading.run
  cases ((p.queryString c isUrl).answer v).1 <;> rfl

def beforeCover (s : Setting) (rules : FieldRules) : Reader Handle Book := do
  let name ← readField "name" rules.name false true
  s.readDetails rules true (s.newBook name)

theorem boundRecord_cover {book : Book} {v' : Variables}
    (h : ((s.boundRecord rules true).onPage p v).result = .ok (some book, v')) :
    ∃ part u cover, ((s.beforeCover rules).onPage p v).result = .ok (part, u) ∧
      ((p.queryString rules.coverUrl false).run u).1 = .ok cover ∧
      book.coverUrl = (present? cover).map (s.options.resolveLink s.baseUrl) := by
  obtain ⟨name, v₁, hn, h⟩ := onPage_bind_eq_ok (readField_keeps _ _ _) h
  by_cases he : name.isEmpty
  · simp only [he, if_true] at h
    cases h
  · simp only [he] at h
    obtain ⟨part, u, hd, h⟩ := onPage_bind_eq_ok (readDetails_keeps _) h
    obtain ⟨cover, _, hc, h⟩ := onPage_bind_eq_ok (readField_keeps _ _ _) h
    obtain ⟨bookUrl, _, -, h⟩ := onPage_bind_eq_ok (readField_keeps _ _ _) h
    refine ⟨part, u, cover, ?_, ?_, ?_⟩
    · rw [beforeCover, onPage_bind_of_ok (readField_keeps _ _ _) hn, hd]
    · rw [readField_result] at hc
      obtain ⟨text, ht, hc⟩ := Error.ok_of_map_ok hc
      cases hc
      exact ht
    · cases h
      rfl

/-- The values of a fragment where the cover of a node is read. -/
def coverValues (s : Setting) (body : String) (rules : FieldRules) (vars : Variables) (f : Fragment)
    (node : Handle) : Except Error (List String) := do
  let q := (Page.bind body s.baseUrl).bindNode node
  let (_, v) ← ((s.beforeCover rules).onPage q vars).result
  q.values f v

end Setting

/-- A fragment that sets and replaces nothing, and of whose values all count. -/
structure Fragment.IsPlain (f : Fragment) : Prop where
  puts : f.puts = []
  replacement : f.replacement = none
  dialect : f.dialect = .default ∨ f.dialect = .css ∨ f.dialect = .jsonPath

theorem Page.queryString_plain {p : Page} {f : Fragment} {v : Variables} {text : String}
    (hf : f.IsPlain) (h : ((p.queryString ⟨[f]⟩ false).run v).1 = .ok text) :
    ∃ values, p.values f v = .ok values ∧ text = "\n".intercalate values := by
  rw [Page.run_queryString hf.puts] at h
  obtain ⟨values, hv, ht⟩ := Error.ok_of_map_ok h
  have hne := nonempty_of_values hv
  have hs : single f.dialect false values = "\n".intercalate values := by
    rcases hf.dialect with hd | hd | hd <;> rw [hd] <;> rfl
  refine ⟨values, hv, ?_⟩
  rw [← ht, hs, (Chain.keep_joins hf.replacement hne).text,
    Chain.keep_of_nonempty hf.replacement hne]

namespace Setting

open Reader

variable {s : Setting} {rules : FieldRules} {body : String} {vars : Variables} {f : Fragment}
  {node : Handle}

/-- The link of a cover is all values of its rule, one to a line. -/
theorem outcome_cover (hc : rules.coverUrl = ⟨[f]⟩) (hf : f.IsPlain) {book : Book}
    (h : s.outcome body rules vars node = .ok (some book)) :
    ∃ values, s.coverValues body rules vars f node = .ok values ∧
      (∀ v ∈ values, v.isEmpty = false) ∧
      book.coverUrl =
        (present? ("\n".intercalate values)).map (s.options.resolveLink s.baseUrl) := by
  obtain ⟨⟨_, v'⟩, hr, hb⟩ := Error.ok_of_map_ok h
  cases hb
  obtain ⟨part, u, cover, hp, hq, hu⟩ := boundRecord_cover hr
  rw [hc] at hq
  obtain ⟨values, hv, rfl⟩ := Page.queryString_plain hf hq
  refine ⟨values, ?_, Page.nonempty_of_values hv, hu⟩
  rw [coverValues, hp]
  exact hv

end Setting

theorem Error.exists_of_mem_mapM {α β : Type} {f : α → Except Error β} {xs : List α} {ys : List β}
    (h : xs.mapM f = .ok ys) {y : β} (hy : y ∈ ys) : ∃ x ∈ xs, f x = .ok y := by
  induction xs generalizing ys with
  | nil =>
    cases h
    cases hy
  | cons x xs ih =>
    rw [List.mapM_cons] at h
    obtain ⟨z, hz, h⟩ := ok_of_bind_ok h
    obtain ⟨zs, hs, h⟩ := ok_of_bind_ok h
    cases h
    rcases List.mem_cons.mp hy with rfl | hy
    · exact ⟨x, List.mem_cons_self, hz⟩
    · obtain ⟨w, hw, hwy⟩ := ih hs hy
      exact ⟨w, List.mem_cons_of_mem _ hw, hwy⟩

namespace Setting

variable {s : Setting} {isSearch : Bool} {body : String} {nodes : List Handle} {vars : Variables}
  {rules : FieldRules} {books : List Book} {book : Book}

/-- Each book of a list is that of one of its nodes, read alone. -/
theorem exists_outcome_of_mem {page : Page} (hd : s.isDetailPage = .ok false)
    (hf : s.found isSearch body = .ok (nodes, vars))
    (hn : nodes ≠ [] ∨ s.source.detailPattern? ≠ none)
    (hr : FieldRules.ofList (s.source.listProfile isSearch) = .ok rules)
    (hb : ((s.analyze isSearch (some body)).run Page.backend .never page ()).result = .ok books)
    (hm : book ∈ books) :
    ∃ node ∈ nodes, ∃ alone, s.outcome body rules vars node = .ok (some alone) ∧
      book = s.withPage body alone := by
  obtain ⟨q, hq, ha⟩ := analyze_result page hd hf hn
  rw [hb, readBooks_result hq hr] at ha
  obtain ⟨outcomes, ho, hbooks⟩ := Error.ok_of_map_ok ha.symm
  have hlist : book ∈ outcomes.flatMap fun b => (b.map (s.withPage body)).toList := by
    rw [← hbooks] at hm
    dsimp only at hm
    split at hm
    · exact List.mem_reverse.mp hm
    · exact hm
  obtain ⟨outcome, hmem, hbook⟩ := List.mem_flatMap.mp hlist
  obtain ⟨alone, rfl, rfl⟩ := Option.map_eq_some_iff.mp (Option.mem_toList.mp hbook)
  obtain ⟨node, hnode, hread⟩ := Error.exists_of_mem_mapM ho hmem
  exact ⟨node, hnode, alone, hread, rfl⟩

theorem withPage_coverUrl (body : String) (b : Book) :
    (s.withPage body b).coverUrl = b.coverUrl := by
  unfold withPage
  split <;> rfl

end Setting

/-- The books of a list have the covers that their rules read as text from their own nodes. A rule
with no value gives no cover, and one with several values gives all of them, one to a line, resolved
as one link. So the cover is the first value exactly if there are no others or the link comes out
the same. -/
theorem analyze_covers {σ : Type} (s : Setting) (isSearch : Bool) (body : String)
    (signal : Signal Page σ) (page : Page) (state : σ) {nodes : List Handle} {vars : Variables}
    {rules : FieldRules} {f : Fragment} {books : List Book}
    (hd : s.isDetailPage = .ok false) (hf : s.found isSearch body = .ok (nodes, vars))
    (hn : nodes ≠ [] ∨ s.source.detailPattern? ≠ none)
    (hr : FieldRules.ofList (s.source.listProfile isSearch) = .ok rules)
    (hc : rules.coverUrl = ⟨[f]⟩) (hp : f.IsPlain)
    (hb : ((s.analyze isSearch (some body)).run Page.backend signal page state).result =
      .ok books) :
    let resolve := s.options.resolveLink s.baseUrl
    ∀ book ∈ books, ∃ node ∈ nodes, ∃ alone values,
      s.outcome body rules vars node = .ok (some alone) ∧ book = s.withPage body alone ∧
      s.coverValues body rules vars f node = .ok values ∧
      book.coverUrl = (if values = [] then none else some (resolve ("\n".intercalate values))) ∧
      (book.coverUrl = values.head?.map resolve ↔
        values.length ≤ 1 ∨ resolve ("\n".intercalate values) = resolve (values.headD "")) := by
  intro resolve book hm
  obtain ⟨node, hnode, alone, ho, rfl⟩ := Setting.exists_outcome_of_mem hd hf hn hr
    (Procedure.run_never_of_ok _ _ _ hb) hm
  obtain ⟨values, hv, hne, hcover⟩ := Setting.outcome_cover hc hp ho
  refine ⟨node, hnode, alone, values, ho, rfl, hv, ?_, ?_⟩
  all_goals rw [s.withPage_coverUrl, hcover, present?, isEmpty_intercalate hne]
  · cases values <;> rfl
  · rcases values with _ | ⟨v, _ | ⟨w, rest⟩⟩
    · simp
    · simp [resolve]
    · simp [resolve]

namespace Setting

def covers : Setting where
  source := { (default : Source) with
    search := { (default : ListProfile) with
      bookList := some "$", name := some "$.n", coverUrl := some "$.c" } }
  baseUrl := "https://x.com/l"
  options := .standard

def coverBody : String :=
  "[\x7b\"n\":\"x\",\"c\":[\"a.jpg\",\"b.jpg\"]\x7d,\x7b\"n\":\"y\",\"c\":\"c.jpg\"\x7d]"

def coverRule : Fragment := .plain .jsonPath "$.c"

theorem coverRule_isPlain : coverRule.IsPlain := ⟨rfl, rfl, .inr (.inr rfl)⟩

theorem ofList_covers : FieldRules.ofList (covers.source.listProfile true) =
    .ok ⟨⟨[.plain .jsonPath "$.n"]⟩, .empty, .empty, ⟨[coverRule]⟩, .empty, .empty, .empty,
      .empty⟩ := by
  cbv

end Setting

open Setting in
theorem analyze_covers_pair :
    ∃ nodes vars rules books, covers.isDetailPage = .ok false ∧
      covers.found true coverBody = .ok (nodes, vars) ∧ nodes ≠ [] ∧
      FieldRules.ofList (covers.source.listProfile true) = .ok rules ∧
      rules.coverUrl = ⟨[coverRule]⟩ ∧ coverRule.IsPlain ∧
      ((covers.analyze true (some coverBody)).run Page.backend .never .unbound ()).result =
        .ok books ∧
      ∀ book ∈ books, ∃ node ∈ nodes, ∃ alone values,
        covers.outcome coverBody rules vars node = .ok (some alone) ∧
        book = covers.withPage coverBody alone ∧
        covers.coverValues coverBody rules vars coverRule node = .ok values ∧
        book.coverUrl = if values = [] then none
          else some (covers.options.resolveLink covers.baseUrl ("\n".intercalate values)) := by
  have hd : covers.isDetailPage = .ok false := by decide +kernel
  obtain ⟨nodes, vars, hf, hn⟩ : ∃ nodes vars,
      covers.found true coverBody = .ok (nodes, vars) ∧ nodes ≠ [] :=
    exists_nodes (by decide +kernel)
  have hb : ((covers.analyze true (some coverBody)).run Page.backend .never .unbound
      ()).result.map List.length = .ok 2 := by decide +kernel
  obtain ⟨books, hb, -⟩ := Error.ok_of_map_ok hb
  refine ⟨nodes, vars, _, books, hd, hf, hn, ofList_covers, rfl, coverRule_isPlain, hb, ?_⟩
  intro book hm
  obtain ⟨node, hnode, alone, values, ho, hbook, hv, hcover, -⟩ :=
    analyze_covers covers true coverBody .never .unbound () hd hf (.inl hn) ofList_covers rfl
      coverRule_isPlain hb book hm
  exact ⟨node, hnode, alone, values, ho, hbook, hv, hcover⟩

open Setting in
/-- The two covers of a book run together to an address that is neither of them. -/
theorem analyze_fuses_covers :
    ((covers.analyze true (some coverBody)).run Page.backend .never .unbound ()).result.map
        (·.map Book.coverUrl) =
      .ok [some "https://x.com/a.jpgb.jpg", some "https://x.com/c.jpg"] ∧
    (do
      let rules ← FieldRules.ofList (covers.source.listProfile true)
      let (nodes, vars) ← covers.found true coverBody
      nodes.mapM (covers.coverValues coverBody rules vars coverRule)) =
        .ok [["a.jpg", "b.jpg"], ["c.jpg"]] ∧
    ∀ v ∈ ["a.jpg", "b.jpg"],
      covers.options.resolveLink covers.baseUrl v ≠ "https://x.com/a.jpgb.jpg" := by
  refine ⟨?_, ?_, ?_⟩
  all_goals decide +kernel

end Catalog
