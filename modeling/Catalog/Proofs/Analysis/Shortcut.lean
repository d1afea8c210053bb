import Catalog.Proofs.Analysis.Isolation

/-! # Two ways to the page of a book

A page is taken for that of one book if its address says so, or if it is read as a list in vain.
Both ways end in the same book: what was asked for the list leaves the page as it was, and the
rules for lists have no part in the book.
-/

namespace Catalog

/-- Sources that are the same but for their lists and for the addresses of their books. -/
structure Source.Akin (a b : Source) : Prop where
  url : a.url = b.url
  name : a.name = b.name
  kind : a.kind = b.kind
  order : a.order = b.order
  info : a.info = b.info

theorem Source.Akin.exists_eq {a b : Source} (h : a.Akin b) :
    ∃ bookUrlPattern search explore, a = { b with bookUrlPattern, search, explore } := by
  obtain ⟨hu, hn, hk, ho, hi⟩ := h
  exact ⟨a.bookUrlPattern, a.search, a.explore, by rw [← hu, ← hn, ← hk, ← ho, ← hi]⟩

namespace Setting

variable {ν : Type} {a b : Source} {baseUrl : String} {options : Options}

theorem detailBooks_akin (h : a.Akin b) (body : String) (vars : Variables) :
    ((⟨a, baseUrl, options⟩ : Setting).detailBooks body vars : Procedure ν _) =
      (⟨b, baseUrl, options⟩ : Setting).detailBooks body vars := by
  obtain ⟨_, _, _, rfl⟩ := h.exists_eq
  rfl

variable {s : Setting} {isSearch : Bool} {body : String} {page : Page}

theorem isDetailPage_of_compile? {pattern : String} {p : Pattern}
    (hp : s.source.detailPattern? = some pattern)
    (hc : Pattern.compile? ("^(?:" ++ pattern ++ ")$") = some p) :
    s.isDetailPage = .ok (p.isMatch s.baseUrl.toList.toArray) := by
  unfold isDetailPage
  rw [hp]
  simp only [hc]

theorem books_of_detailPage (hd : s.isDetailPage = .ok true) :
    (s.books isSearch body : Procedure ν _) = .report .detailPage (s.detailBooks body .empty) := by
  unfold books
  rw [hd]
  rfl

theorem analyze_of_detailPage (hd : s.isDetailPage = .ok true) :
    ((s.analyze isSearch (some body)).run Page.backend .never page ()).result =
      ((s.detailBooks body .empty).run Page.backend .never (.bind body s.baseUrl) ()).result := by
  change ((s.books isSearch body).run Page.backend .never (.bind body s.baseUrl) ()).result = _
  rw [books_of_detailPage hd]
  rfl

/-- Where nothing is found, the page is as it was when it was bound. -/
theorem analyze_of_emptyList {vars : Variables} (hp : s.source.detailPattern? = none)
    (hf : s.found isSearch body = .ok ([], vars)) :
    ((s.analyze isSearch (some body)).run Page.backend .never page ()).result =
      ((s.detailBooks body vars).run Page.backend .never (.bind body s.baseUrl) ()).result := by
  have hd : s.isDetailPage = .ok false := by
    unfold isDetailPage
    rw [hp]
  have hw := (findBooks_keeps (p := .bind body s.baseUrl) (s.source.listProfile isSearch)
    (s.listRule isSearch) .empty).world
  change ((s.books isSearch body).run Page.backend .never (.bind body s.baseUrl) ()).result = _
  rw [books_eq hd, Procedure.run_andThen, Run.andThen_of_ok hf, hw, hp]
  rfl

end Setting

/-- The two ways to the page of a book agree. Where the list of a source without a pattern is empty,
and no variable was set for it, the analysis ends as it does with a source whose pattern matches the
address, whatever rules for lists that source has and whichever of them would be taken. -/
theorem analyze_emptyList_eq_detailPage (source other : Source) (baseUrl : String)
    (options : Options) (isSearch isSearch' : Bool) (body : String) (page page' : Page)
    (hp : source.detailPattern? = none)
    (hf : (⟨source, baseUrl, options⟩ : Setting).found isSearch body = .ok ([], .empty))
    (ha : other.Akin source)
    (hd : (⟨other, baseUrl, options⟩ : Setting).isDetailPage = .ok true) :
    ((Setting.analyze ⟨source, baseUrl, options⟩ isSearch (some body)).run
        Page.backend .never page ()).result =
      ((Setting.analyze ⟨other, baseUrl, options⟩ isSearch' (some body)).run
        Page.backend .never page' ()).result := by
  rw [Setting.analyze_of_emptyList hp hf, Setting.analyze_of_detailPage hd,
    Setting.detailBooks_akin ha]

theorem analyze_emptyList_eq_detailPage_object :
    let info : InfoProfile := { (default : InfoProfile) with name := some "$.t" }
    let search : ListProfile := { (default : ListProfile) with bookList := some "$.l" }
    let source : Source := { (default : Source) with search, info }
    let other : Source := { (default : Source) with bookUrlPattern := some "u", info }
    let body := "\x7b\"t\":\"a\"\x7d"
    source.detailPattern? = none ∧
      (Setting.found ⟨source, "u", .standard⟩ true body).map (fun r => (r.1.isEmpty, r.2)) =
        .ok (true, .empty) ∧
      other.Akin source ∧ Setting.isDetailPage ⟨other, "u", .standard⟩ = .ok true ∧
      ((Setting.analyze ⟨source, "u", .standard⟩ true (some body)).run
          Page.backend .never .unbound ()).result =
        ((Setting.analyze ⟨other, "u", .standard⟩ false (some body)).run
          Page.backend .never .unbound ()).result := by
  intro info search source other body
  have hp : source.detailPattern? = none := by decide +kernel
  have hf : (Setting.found ⟨source, "u", .standard⟩ true body).map (fun r => (r.1.isEmpty, r.2)) =
      .ok (true, .empty) := by decide +kernel
  have ha : other.Akin source := ⟨rfl, rfl, rfl, rfl, rfl⟩
  have hc : Pattern.compile? "^(?:u)$" = some ⟨"^(?:u)$", 0, [], 5, #[.accept, .save 1 0,
      .check .textEnd 1, .take #[⟨117, 117⟩] 2, .check .textStart 3, .save 0 4]⟩ := by
    with_unfolding_all rfl
  have hd : Setting.isDetailPage ⟨other, "u", .standard⟩ = .ok true := by
    have hu : (⟨other, "u", .standard⟩ : Setting).source.detailPattern? = some "u" := rfl
    rw [Setting.isDetailPage_of_compile? hu hc]
    simp [Pattern.isMatch, Pattern.find?, Pattern.findFrom, Pattern.searchFrom, Pattern.walk,
      Pattern.follow, Pattern.Anchor.holds, Pattern.Inst.accepts, Pattern.inRanges]
  obtain ⟨⟨nodes, vars⟩, hfound, he⟩ := Error.ok_of_map_ok hf
  obtain ⟨hn, rfl⟩ := Prod.mk.inj he
  obtain rfl : nodes = [] := List.isEmpty_iff.mp hn
  exact ⟨hp, hf, ha, hd,
    analyze_emptyList_eq_detailPage source other "u" .standard true false body _ _ hp hfound ha hd⟩

end Catalog
