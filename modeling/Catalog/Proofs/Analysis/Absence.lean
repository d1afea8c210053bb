import Mathlib
import Catalog.Proofs.Analysis.Contract
import Catalog.Proofs.Analysis.Cover
import Catalog.Proofs.Analysis.Shortcut
import Catalog.Proofs.Text.Cut

/-! # Fields that are absent

A field that may be absent is left out where the text that was read for it is empty, so it never
holds an empty text. Only the cover of a book on a list can: it is left out where its link is empty,
but a link of blanks is there, and is resolved to nothing.
-/

namespace Catalog

theorem Text.trim_eq_nil_iff {s : List Char} : trim s = [] ↔ ∀ c ∈ s, isBlank c = true := by
  constructor
  · intro h c hc
    by_contra hb
    have hm : c ∈ trim s := mem_trim hc (by simpa using hb)
    rw [h] at hm
    cases hm
  · intro h
    rw [trim, trimStart, List.dropWhile_eq_nil_iff.mpr h]
    rfl

/-- A text of nothing but blanks, with at least one of them. -/
structure IsBlankText (s : String) : Prop where
  nonempty : s ≠ ""
  blank : ∀ c ∈ s.toList, Text.isBlank c = true

theorem trimmed_eq_empty_iff {s : String} :
    trimmed s = "" ↔ ∀ c ∈ s.toList, Text.isBlank c = true := by
  rw [trimmed, ← Text.trim_eq_nil_iff, ← String.toList_inj, String.toList_ofList]
  rfl

theorem Url.render_ne_empty (u : Url) : u.render ≠ "" := by
  intro h
  have hl := congrArg String.toList h
  simp [render] at hl

theorem absoluteLink_eq_empty_iff {page link : String} :
    absoluteLink page link = "" ↔ trimmed link = "" := by
  unfold absoluteLink
  dsimp only
  split
  · rfl
  · next hl =>
    have hn : trimmed link ≠ "" := by
      intro he
      simp [he] at hl
    split
    · rfl
    · next base _ =>
      cases base.join? (trimmed link).toList with
      | none => rfl
      | some u => exact iff_of_false u.render_ne_empty hn

theorem Options.standard_resolveLink : Options.standard.resolveLink = absoluteLink := by
  rw [standard]

theorem Shows.ne_empty {field : Option String} {text : String} (h : Shows field text) :
    field ≠ some "" := by
  intro he
  by_cases ht : text = ""
  · rw [h.absent ht] at he
    cases he
  · rw [h.present ht] at he
    exact ht (Option.some.inj he)

namespace Setting

open Reader

structure FieldsNonempty (b : Book) : Prop where
  kind : b.kind ≠ some ""
  wordCount : b.wordCount ≠ some ""
  latest : b.latestChapterTitle ≠ some ""
  intro : b.intro ≠ some ""

variable {ν : Type} {s : Setting} {isSearch : Bool} {page name : String} {d : BookDetails}
  {book : Book} {books : List Book} {u : List (Step ν)}

theorem Records.fieldsNonempty (h : s.Records name d book) : FieldsNonempty book :=
  ⟨h.kind.ne_empty, h.wordCount.ne_empty, h.latest.ne_empty, h.intro.ne_empty⟩

theorem NodesGive.fieldsNonempty {p : ListProfile} {nodes : List ν}
    (h : s.NodesGive page p nodes books u) : ∀ b ∈ books, FieldsNonempty b := by
  induction h with
  | nil => exact fun _ hb => absurd hb List.not_mem_nil
  | cons hu _ ih =>
    intro b hb
    rcases List.mem_append.mp hb with hb | hb
    · cases hu with
      | nameless => cases hb
      | named h =>
        obtain rfl := List.mem_singleton.mp hb
        exact h.toRecords.fieldsNonempty
    · exact ih b hb

theorem PageGives.nonempty {found : Option Book} (h : s.PageGives page found u) :
    ∀ b ∈ found.toList, FieldsNonempty b ∧ b.coverUrl ≠ some "" := by
  intro b hb
  cases h with
  | nameless => cases hb
  | named _ h =>
    obtain rfl := List.mem_singleton.mp hb
    exact ⟨h.toRecords.fieldsNonempty, h.cover.ne_empty⟩

theorem Gives.fieldsNonempty (h : s.Gives isSearch page books u) :
    ∀ b ∈ books, FieldsNonempty b := by
  cases h with
  | page _ hw => exact fun b hb => (hw.nonempty b hb).1
  | list _ hw =>
    intro b hb
    refine hw.fieldsNonempty b ?_
    split at hb
    · exact List.mem_reverse.mp hb
    · exact hb

variable {σ : Type} {body : String} {vars : Variables} {rules : FieldRules} {node : Handle}
  {nodes : List Handle}

/-- What the rule of the cover reads as text from a node, after the rules before it. -/
def coverText (s : Setting) (body : String) (rules : FieldRules) (vars : Variables)
    (node : Handle) : Except Error String := do
  let q := (Page.bind body s.baseUrl).bindNode node
  let (_, v) ← ((s.beforeCover rules).onPage q vars).result
  ((q.queryString rules.coverUrl false).run v).1

theorem outcome_coverText (h : s.outcome body rules vars node = .ok (some book)) :
    ∃ cover, s.coverText body rules vars node = .ok cover ∧
      book.coverUrl = (present? cover).map (s.options.resolveLink s.baseUrl) := by
  obtain ⟨⟨_, v'⟩, hr, hb⟩ := Error.ok_of_map_ok h
  cases hb
  obtain ⟨part, v, cover, hp, hq, hc⟩ := boundRecord_cover hr
  refine ⟨cover, ?_, hc⟩
  rw [coverText, hp]
  exact hq

/-- The cover of a book on a list is empty exactly if its link is blanks. -/
theorem coverUrl_eq_empty_iff {cover baseUrl : String}
    (h : book.coverUrl = (present? cover).map (absoluteLink baseUrl)) :
    book.coverUrl = some "" ↔ IsBlankText cover := by
  rw [h, present?_eq]
  split
  · next he => exact iff_of_false nofun fun hb => hb.nonempty he
  · next he =>
    rw [Option.map_some, Option.some_inj, absoluteLink_eq_empty_iff, trimmed_eq_empty_iff]
    exact ⟨fun hb => ⟨he, hb⟩, IsBlankText.blank⟩

theorem detailBooks_nonempty {p : Page}
    (h : ((s.detailBooks body vars).run Page.backend .never p ()).result = .ok books) :
    ∀ b ∈ books, b.coverUrl ≠ some "" := by
  have hs : (s.detailBooks body vars : Procedure Handle _).Speaks fun books u =>
      ∃ found, books = found.toList ∧ s.PageGives body found u := by
    refine (detailRecord_gives vars).andThen ?_
    rintro ⟨found, _⟩ u hw
    change ∃ _, _ ∧ s.PageGives body _ (u ++ [])
    rw [List.append_nil]
    exact ⟨found, rfl, hw⟩
  obtain ⟨_, ⟨found, rfl, hg⟩, -⟩ := (hs.run Page.backend .never p ()).whole books h
  exact fun b hb => (hg.nonempty b hb).2

theorem cases_of_analyze {p : Page}
    (h : ((s.analyze isSearch (some body)).run Page.backend .never p ()).result = .ok books) :
    (∃ vars, (s.isDetailPage = .ok true ∨
        s.source.detailPattern? = none ∧ s.found isSearch body = .ok ([], vars)) ∧
      ((s.detailBooks body vars).run Page.backend .never (.bind body s.baseUrl) ()).result =
        .ok books) ∨
    ∃ nodes vars rules, s.isDetailPage = .ok false ∧
      s.found isSearch body = .ok (nodes, vars) ∧
      (nodes ≠ [] ∨ s.source.detailPattern? ≠ none) ∧
      FieldRules.ofList (s.source.listProfile isSearch) = .ok rules := by
  cases hd : s.isDetailPage with
  | error e =>
    have he : (s.books isSearch body : Procedure Handle _) = .fail e := by
      unfold Setting.books
      rw [hd]
      rfl
    change ((s.books isSearch body).run Page.backend .never _ ()).result = _ at h
    rw [he] at h
    cases h
  | ok isDetail =>
    cases isDetail with
    | true => exact .inl ⟨.empty, .inl rfl, (analyze_of_detailPage hd).symm.trans h⟩
    | false =>
      cases hf : s.found isSearch body with
      | error e =>
        change ((s.books isSearch body).run Page.backend .never _ ()).result = _ at h
        rw [books_eq hd, Procedure.run_andThen, Run.andThen_of_error hf] at h
        cases h
      | ok r =>
        obtain ⟨nodes, vars⟩ := r
        by_cases he : nodes = [] ∧ s.source.detailPattern? = none
        · obtain ⟨rfl, hp⟩ := he
          exact .inl ⟨vars, .inr ⟨hp, rfl⟩, (analyze_of_emptyList hp hf).symm.trans h⟩
        · have hn : nodes ≠ [] ∨ s.source.detailPattern? ≠ none := not_and_or.mp he
          obtain ⟨q, -, ha⟩ := analyze_result p hd hf hn
          rw [h] at ha
          cases hr : FieldRules.ofList (s.source.listProfile isSearch) with
          | error e =>
            unfold readBooks at ha
            rw [hr] at ha
            cases ha
          | ok rules => exact .inr ⟨nodes, vars, rules, rfl, rfl, hn, rfl⟩

end Setting

/-- No field of a book holds an empty text, unless it is the cover of a book on a list. A page that
is read as that of one book gives none with an empty cover. On a list the cover of a book is empty
exactly if what its rule reads from the node of this book is not empty, but blanks only. -/
theorem analyze_absentFields {σ : Type} (source : Source) (baseUrl : String) (isSearch : Bool)
    (body : Option String) (signal : Signal Page σ) (state : σ) {books : List Book}
    (h : (analyze body source baseUrl isSearch signal state .standard).result = .ok books) :
    let s : Setting := ⟨source, baseUrl, .standard⟩
    (∀ book ∈ books, book.kind ≠ some "" ∧ book.wordCount ≠ some "" ∧
      book.latestChapterTitle ≠ some "" ∧ book.intro ≠ some "") ∧
    ∃ page, body = some page ∧
      ((∃ vars, (s.isDetailPage = .ok true ∨
          source.detailPattern? = none ∧ s.found isSearch page = .ok ([], vars)) ∧
        ∀ book ∈ books, book.coverUrl ≠ some "") ∨
      ∃ nodes vars rules, s.isDetailPage = .ok false ∧
        s.found isSearch page = .ok (nodes, vars) ∧
        FieldRules.ofList (source.listProfile isSearch) = .ok rules ∧
        ∀ book ∈ books, ∃ node ∈ nodes, ∃ alone cover,
          s.outcome page rules vars node = .ok (some alone) ∧ book = s.withPage page alone ∧
          s.coverText page rules vars node = .ok cover ∧
          (book.coverUrl = some "" ↔ IsBlankText cover)) := by
  intro s
  cases body with
  | none => cases h
  | some page =>
    have hn : ((s.analyze isSearch (some page)).run Page.backend .never .unbound ()).result =
        .ok books := Procedure.run_never_of_ok _ _ _ h
    refine ⟨fun book hm => ?_, page, rfl, ?_⟩
    · obtain ⟨_, hg, -⟩ := ((Setting.books_gives isSearch page).run Page.backend .never
        (.bind page baseUrl) ()).whole books hn
      obtain ⟨hk, hw, hl, hi⟩ := hg.fieldsNonempty book hm
      exact ⟨hk, hw, hl, hi⟩
    · rcases Setting.cases_of_analyze hn with
        ⟨vars, hway, hbooks⟩ | ⟨nodes, vars, rules, hd, hf, hlist, hr⟩
      · exact .inl ⟨vars, hway, Setting.detailBooks_nonempty hbooks⟩
      · refine .inr ⟨nodes, vars, rules, hd, hf, hr, fun book hm => ?_⟩
        obtain ⟨node, hnode, alone, ho, rfl⟩ :=
          Setting.exists_outcome_of_mem hd hf hlist hr hn hm
        obtain ⟨cover, hc, hu⟩ := Setting.outcome_coverText ho
        have hs : s.options = .standard := rfl
        rw [hs, Options.standard_resolveLink, ← s.withPage_coverUrl page] at hu
        exact ⟨node, hnode, alone, cover, ho, rfl, hc, Setting.coverUrl_eq_empty_iff hu⟩

def blankCoverBody : String := "[\x7b\"n\":\"x\",\"c\":\" \"\x7d,\x7b\"n\":\"y\"\x7d]"

theorem exists_blankCover :
    ∃ books, (analyze (some blankCoverBody) Setting.covers.source Setting.covers.baseUrl true
        .never () .standard).result = .ok books ∧ ∃ book ∈ books, book.coverUrl = some "" := by
  have h : (analyze (some blankCoverBody) Setting.covers.source Setting.covers.baseUrl true
      .never () .standard).result.map (·.map Book.coverUrl) = .ok [some "", none] := by
    decide +kernel
  obtain ⟨books, hb, hc⟩ := Error.ok_of_map_ok h
  have hm : some "" ∈ books.map Book.coverUrl := by
    rw [hc]
    exact List.mem_cons_self
  exact ⟨books, hb, List.mem_map.mp hm⟩

theorem analyze_absentFields_blank :
    let s := Setting.covers
    ∃ books, (analyze (some blankCoverBody) s.source s.baseUrl true .never () .standard).result =
        .ok books ∧
      (∀ book ∈ books, book.kind ≠ some "" ∧ book.wordCount ≠ some "" ∧
        book.latestChapterTitle ≠ some "" ∧ book.intro ≠ some "") ∧
      ∃ nodes vars rules, s.found true blankCoverBody = .ok (nodes, vars) ∧
        FieldRules.ofList (s.source.listProfile true) = .ok rules ∧
        ∃ book ∈ books, book.coverUrl = some "" ∧ ∃ node ∈ nodes, ∃ alone cover,
          s.outcome blankCoverBody rules vars node = .ok (some alone) ∧
          book = s.withPage blankCoverBody alone ∧
          s.coverText blankCoverBody rules vars node = .ok cover ∧ IsBlankText cover := by
  intro s
  obtain ⟨books, hb, book, hm, he⟩ := exists_blankCover
  obtain ⟨hfields, page, hp, hway⟩ :=
    analyze_absentFields s.source s.baseUrl true (some blankCoverBody) .never () hb
  cases hp
  refine ⟨books, hb, hfields, ?_⟩
  rcases hway with ⟨vars, -, hnone⟩ | ⟨nodes, vars, rules, -, hf, hr, hcovers⟩
  · exact absurd he (hnone book hm)
  · obtain ⟨node, hnode, alone, cover, ho, hbook, hc, hiff⟩ := hcovers book hm
    exact ⟨nodes, vars, rules, hf, hr, book, hm, he, node, hnode, alone, cover, ho, hbook, hc,
      hiff.mp he⟩

/-- It is not so that no cover is an empty text: a link of one blank makes it one. -/
theorem analyze_keeps_blankCover :
    ¬∀ body source baseUrl isSearch books,
      (analyze body source baseUrl isSearch .never () .standard).result = .ok books →
      ∀ book ∈ books, book.coverUrl ≠ some "" := by
  intro hall
  obtain ⟨books, hb, book, hm, he⟩ := exists_blankCover
  exact hall _ _ _ _ books hb book hm he

end Catalog
