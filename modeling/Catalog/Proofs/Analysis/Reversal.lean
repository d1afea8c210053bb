import Catalog.Proofs.Analysis.Conformance
import Catalog.Proofs.Analysis.Shortcut

/-! # Reversed lists

A mark in front of the rule for a list turns the order of its books around, and does nothing else:
the same polls and calls are made, a failure is the same failure, and a page that describes one book
is not touched. Procedures are compared without their reports, as a reversal is reported.
-/

namespace Catalog

variable {ω σ ν α β : Type}

/-- Runs that differ in their reports at most. -/
structure Run.SameCourse (r t : Run ω σ ν α) : Prop where
  result : r.result = t.result
  world : r.world = t.world
  signal : r.signal = t.signal
  steps : r.steps = t.steps

namespace Run.SameCourse

variable {r t : Run ω σ ν α}

theorem prepend (h : r.SameCourse t) (a : Act ν) : (r.prepend a).SameCourse (t.prepend a) := by
  refine ⟨h.result, h.world, h.signal, ?_⟩
  have hs := h.steps
  simp only [Run.steps, Run.prepend, List.filter_cons] at hs ⊢
  rw [hs]

theorem prepend_report (h : r.SameCourse t) (e : Event) : r.SameCourse (t.prepend (.report e)) :=
  ⟨h.result, h.world, h.signal, h.steps⟩

theorem call {act : Except Error β → Act ν} {answer : Except Error β × ω} {s : σ}
    {f g : β → ω → Run ω σ ν α} (h : ∀ b w, (f b w).SameCourse (g b w)) :
    (Run.call act answer s f).SameCourse (.call act answer s g) := by
  obtain ⟨e | b, w⟩ := answer
  · exact ⟨rfl, rfl, rfl, rfl⟩
  · exact (h b w).prepend _

end Run.SameCourse

namespace Procedure

def quiet : Procedure ν α → Procedure ν α
  | done a => done a
  | fail e => fail e
  | checkpoint next => checkpoint next.quiet
  | report _ next => next.quiet
  | load body baseUrl next => load body baseUrl next.quiet
  | enter node next => enter node next.quiet
  | findNodes c vars next => findNodes c vars fun ns v => (next ns v).quiet
  | findElement c vars next => findElement c vars fun n v => (next n v).quiet
  | readString c isUrl vars next => readString c isUrl vars fun s v => (next s v).quiet
  | readList c vars next => readList c vars fun ss v => (next ss v).quiet

theorem quiet_andThen (p : Procedure ν α) (f : α → Procedure ν β) :
    (p.andThen f).quiet = p.quiet.andThen fun a => (f a).quiet := by
  induction p <;> simp_all only [andThen, quiet]

theorem run_quiet (backend : Backend ω ν) (signal : Signal ω σ) (p : Procedure ν α) (w : ω)
    (s : σ) : (p.quiet.run backend signal w s).SameCourse (p.run backend signal w s) := by
  induction p generalizing w s with
  | done a => exact ⟨rfl, rfl, rfl, rfl⟩
  | fail e => exact ⟨rfl, rfl, rfl, rfl⟩
  | checkpoint next ih =>
    simp only [quiet, run]
    obtain ⟨_ | _, s'⟩ := signal.poll w s
    · exact (ih w s').prepend .poll
    · exact ⟨rfl, rfl, rfl, rfl⟩
  | report e next ih => exact (ih w s).prepend_report e
  | load _ _ next ih => exact .call fun _ w => ih w s
  | enter _ next ih => exact .call fun _ w => ih w s
  | findNodes _ _ next ih => exact .call fun r w => ih r.1 r.2 w s
  | findElement _ _ next ih => exact .call fun r w => ih r.1 r.2 w s
  | readString _ _ _ next ih => exact .call fun r w => ih r.1 r.2 w s
  | readList _ _ next ih => exact .call fun r w => ih r.1 r.2 w s

theorem run_of_quiet_eq {p : Procedure ν α} {q : Procedure ν β} {f : α → β}
    (h : q.quiet = p.quiet.andThen fun a => done (f a)) (backend : Backend ω ν)
    (signal : Signal ω σ) (w : ω) (s : σ) :
    ((p.run backend signal w s).map f).SameCourse (q.run backend signal w s) := by
  have hp := run_quiet backend signal p w s
  have hq := run_quiet backend signal q w s
  rw [h, run_andThen_done] at hq
  exact ⟨(congrArg (Except.map f) hp.result).symm.trans hq.result, hp.world.symm.trans hq.world,
    hp.signal.symm.trans hq.signal, hp.steps.symm.trans hq.steps⟩

end Procedure

def Source.withList (source : Source) (isSearch : Bool) (rule : String) : Source :=
  if isSearch || !source.hasExplore then
    { source with search := { source.search with bookList := some rule } }
  else { source with explore := { source.explore with bookList := some rule } }

namespace Source

variable {source : Source} {isSearch : Bool} {rule : String}

theorem withList_akin (source : Source) (isSearch : Bool) (rule rule' : String) :
    (source.withList isSearch rule).Akin (source.withList isSearch rule') := by
  unfold withList
  split <;> exact ⟨rfl, rfl, rfl, rfl, rfl⟩

theorem withList_bookUrlPattern (source : Source) (isSearch : Bool) (rule : String) :
    (source.withList isSearch rule).bookUrlPattern = source.bookUrlPattern := by
  unfold withList
  split <;> rfl

/-- The profile that is taken is that with the other rule. A rule for exploring must not be blank,
as the profile for searching would be taken then. -/
theorem listProfile_withList
    (h : isSearch = false → source.hasExplore = true → isBlankRule (some rule) = false) :
    (source.withList isSearch rule).listProfile isSearch =
      { source.listProfile isSearch with bookList := some rule } := by
  cases hx : isSearch || !source.hasExplore with
  | true =>
    have ht : (isSearch || !({ source with
        search := { source.search with bookList := some rule } } : Source).hasExplore) = true := hx
    simp only [withList, listProfile, hx, ht, if_true]
  | false =>
    obtain ⟨hs, he⟩ := Bool.or_eq_false_iff.mp hx
    have hb := h hs (by simpa using he)
    have ht : (isSearch || !({ source with
        explore := { source.explore with bookList := some rule } } : Source).hasExplore) = false := by
      simp only [hasExplore, hs, hb, Bool.not_false, Bool.not_true, Bool.or_false]
    simp only [withList, listProfile, hx, ht, Bool.false_eq_true, if_false]

end Source

theorem toList_minus (rule : String) : ("-" ++ rule).toList = '-' :: rule.toList := by
  rw [String.toList_append]
  rfl

/-- With a minus sign in front the rule is the same, and the list is reversed. -/
theorem ListRule.ofText_minus {rule : String} (h : rule.toList.head? ≠ some '-') :
    ListRule.ofText ("-" ++ rule) = { ListRule.ofText rule with reversed := true } ∧
      (ListRule.ofText rule).reversed = false := by
  have hr : ListRule.ofText rule = ⟨String.ofList (dropPlus rule.toList), false⟩ := by
    unfold ofText
    split
    · next r hs =>
      rw [hs] at h
      exact absurd rfl h
    · rfl
  rw [hr, ofText, toList_minus]
  exact ⟨rfl, rfl⟩

theorem isBlankRule_minus (rule : String) : isBlankRule (some ("-" ++ rule)) = false := by
  rw [isBlankRule, toList_minus]
  rfl

namespace Setting

open Procedure

variable {a b : Source} {baseUrl : String} {options : Options}

theorem listBooks_akin (h : a.Akin b) (body : String) (rules : FieldRules) (vars : Variables)
    (isFirst : Bool) (nodes : List ν) :
    (⟨a, baseUrl, options⟩ : Setting).listBooks body rules vars isFirst nodes =
      (⟨b, baseUrl, options⟩ : Setting).listBooks body rules vars isFirst nodes := by
  obtain ⟨_, _, _, rfl⟩ := h.exists_eq
  induction nodes generalizing isFirst with
  | nil => rfl
  | cons node nodes ih =>
    simp only [listBooks, ih]
    rfl

variable {s : Setting}

theorem readBooks_quiet (body : String) (p : ListProfile) (list : ListRule) (nodes : List ν)
    (vars : Variables) :
    (s.readBooks body p list nodes vars).quiet =
      (ofExcept (FieldRules.ofList p)).andThen fun rules =>
        (s.listBooks body rules vars true nodes).quiet.andThen fun books =>
          done (if list.reversed then books.reverse else books) := by
  unfold readBooks
  cases FieldRules.ofList p with
  | error e => rfl
  | ok rules =>
    change (Procedure.andThen (s.listBooks body rules vars true nodes) _).quiet = _
    rw [quiet_andThen]
    refine congrArg (andThen _) (funext fun books => ?_)
    split <;> rfl

theorem detailBooks_reverse (body : String) (vars : Variables) :
    ((s.detailBooks body vars : Procedure ν _).andThen fun books => done books.reverse) =
      s.detailBooks body vars := by
  change Procedure.andThen (Procedure.andThen (s.detailRecord body vars) fun r => done r.1.toList)
    _ = Procedure.andThen (s.detailRecord body vars) fun r => done r.1.toList
  rw [andThen_assoc]
  refine congrArg (andThen _) (funext fun r => ?_)
  cases r.1 <;> rfl

theorem detailBooks_quiet_reverse (body : String) (vars : Variables) :
    (s.detailBooks body vars : Procedure ν _).quiet =
      (s.detailBooks body vars).quiet.andThen fun books => done books.reverse := by
  conv_lhs => rw [← detailBooks_reverse, quiet_andThen]
  rfl

theorem readBooks_quiet_reverse (h : a.Akin b) {p q : ListProfile} {list : ListRule}
    (hr : FieldRules.ofList p = FieldRules.ofList q) (hl : list.reversed = false) (body : String)
    (nodes : List ν) (vars : Variables) :
    ((⟨a, baseUrl, options⟩ : Setting).readBooks body p { list with reversed := true } nodes
        vars).quiet =
      ((⟨b, baseUrl, options⟩ : Setting).readBooks body q list nodes vars).quiet.andThen fun books =>
        done books.reverse := by
  rw [readBooks_quiet, readBooks_quiet, andThen_assoc, hr]
  refine congrArg (andThen _) (funext fun rules => ?_)
  rw [andThen_assoc, listBooks_akin h, hl]
  rfl

theorem isDetailPage_congr {t : Setting} (hu : s.baseUrl = t.baseUrl)
    (hp : s.source.detailPattern? = t.source.detailPattern?) : s.isDetailPage = t.isDetailPage := by
  unfold isDetailPage
  rw [hp, hu]

variable {isSearch : Bool} {source : Source} {rule : String}

/-- Settings whose rules for the list differ in the mark do the same, but for reports and for the
order of the books. -/
theorem books_quiet_minus (hm : rule.toList.head? ≠ some '-')
    (hb : isSearch = false → source.hasExplore = true → isBlankRule (some rule) = false)
    (body : String) :
    ((⟨source.withList isSearch ("-" ++ rule), baseUrl, options⟩ : Setting).books isSearch body :
        Procedure ν _).quiet =
      ((⟨source.withList isSearch rule, baseUrl, options⟩ : Setting).books isSearch body).quiet.andThen
        fun books => done books.reverse := by
  set plain : Setting := ⟨source.withList isSearch rule, baseUrl, options⟩ with hplain
  set minus : Setting := ⟨source.withList isSearch ("-" ++ rule), baseUrl, options⟩ with hminus
  have hakin : minus.source.Akin plain.source := source.withList_akin isSearch _ _
  have hpattern : minus.source.detailPattern? = plain.source.detailPattern? := by
    simp only [Source.detailPattern?, hplain, hminus, Source.withList_bookUrlPattern]
  have hdetail : minus.isDetailPage = plain.isDetailPage := isDetailPage_congr rfl hpattern
  have hp : plain.source.listProfile isSearch =
      { source.listProfile isSearch with bookList := some rule } := Source.listProfile_withList hb
  have hq : minus.source.listProfile isSearch =
      { source.listProfile isSearch with bookList := some ("-" ++ rule) } :=
    Source.listProfile_withList fun _ _ => isBlankRule_minus rule
  obtain ⟨hlist, hl⟩ := ListRule.ofText_minus hm
  have hlp : plain.listRule isSearch = ListRule.ofText rule := by rw [listRule, hp]; rfl
  have hlq : minus.listRule isSearch = { ListRule.ofText rule with reversed := true } := by
    rw [listRule, hq, ← hlist]
    rfl
  cases hd : plain.isDetailPage with
  | error e =>
    unfold books
    rw [hdetail, hd]
    rfl
  | ok isDetail =>
    cases isDetail with
    | true =>
      rw [books_of_detailPage (hdetail.trans hd), books_of_detailPage hd, quiet, quiet,
        ← detailBooks_quiet_reverse]
      exact congrArg quiet (detailBooks_akin hakin body .empty)
    | false =>
      rw [books_eq (hdetail.trans hd), books_eq hd, quiet_andThen, quiet_andThen, andThen_assoc,
        hp, hq, hlp, hlq, hpattern]
      -- The nodes are found by the same rules; what differs is what becomes of them.
      refine congrArg (andThen _) (funext fun r => ?_)
      split
      · rw [quiet, quiet, ← detailBooks_quiet_reverse]
        exact congrArg quiet (detailBooks_akin hakin body r.2)
      · exact readBooks_quiet_reverse hakin rfl hl body r.1 r.2

def enumerate (s : Setting) (isSearch : Bool) (body : String) :
    Procedure ν (List ν × Variables) :=
  .report (.fetched s.baseUrl) <| .checkpoint <| .load body s.baseUrl <|
    findBooks (s.source.listProfile isSearch) (s.listRule isSearch) .empty

theorem analyze_of_enumerate_nil {backend : Backend ω ν} {signal : Signal ω σ} {w : ω} {state : σ}
    {body : String} {vars : Variables} (hp : s.source.detailPattern? = none)
    (h : ((s.enumerate isSearch body).run backend signal w state).result = .ok ([], vars)) :
    let r := (s.enumerate isSearch body).run backend signal w state
    ((s.analyze isSearch (some body)).run backend signal w state).result =
      ((s.detailBooks body vars).run backend signal r.world r.signal).result := by
  intro r
  have hd : s.isDetailPage = .ok false := by
    unfold isDetailPage
    rw [hp]
  have ha : (s.analyze isSearch (some body) : Procedure ν _) =
      (s.enumerate isSearch body).andThen fun r =>
        if r.1.isEmpty && s.source.detailPattern?.isNone then
          .report .emptyList (s.detailBooks body r.2)
        else s.readBooks body (s.source.listProfile isSearch) (s.listRule isSearch) r.1 r.2 := by
    rw [analyze, books_eq hd]
    rfl
  rw [ha, run_andThen, Run.andThen_of_ok h, hp]
  rfl

theorem analyze_reverse_of_detailPage (hd : s.isDetailPage = .ok true) (body : Option String) :
    ((s.analyze isSearch body : Procedure ν _).andThen fun books => done books.reverse) =
      s.analyze isSearch body := by
  cases body with
  | none => rfl
  | some body =>
    simp only [analyze, books_of_detailPage hd, andThen, detailBooks_reverse]

end Setting

theorem Procedure.map_result_of_andThen_done {p : Procedure ν α} {f : α → α}
    (h : (p.andThen fun a => done (f a)) = p) (backend : Backend ω ν) (signal : Signal ω σ) (w : ω)
    (s : σ) : (p.run backend signal w s).result.map f = (p.run backend signal w s).result := by
  conv_rhs => rw [← h, run_andThen_done]
  rfl

/-- A minus sign in front of the rule for a list reverses the books, and does nothing else. For
every rule that does not start with one, be it searched by or, unless it is blank, explored by, the
analysis makes the same polls and calls, with the same answers, and fails alike or has the same
books the other way round. Where the page describes one book, by its address or for want of a list,
even the result is the same. -/
theorem analyze_minus (source : Source) (baseUrl : String) (options : Options) (isSearch : Bool)
    (body : Option String) (backend : Backend ω ν) (signal : Signal ω σ) (w : ω) (state : σ)
    (rule : String) (hm : rule.toList.head? ≠ some '-')
    (hb : isSearch = false → source.hasExplore = true → isBlankRule (some rule) = false) :
    let plain : Setting := ⟨source.withList isSearch rule, baseUrl, options⟩
    let minus : Setting := ⟨source.withList isSearch ("-" ++ rule), baseUrl, options⟩
    let r := (plain.analyze isSearch body).run backend signal w state
    let t := (minus.analyze isSearch body).run backend signal w state
    t.steps = r.steps ∧ t.polls = r.polls ∧ t.calls = r.calls ∧
      t.result = r.result.map List.reverse ∧
      (plain.isDetailPage = .ok true ∨ (plain.source.detailPattern? = none ∧
          ∃ page vars, body = some page ∧
            ((plain.enumerate isSearch page).run backend signal w state).result = .ok ([], vars)) →
        t.result = r.result) := by
  intro plain minus r t
  -- apart from reports, the procedures differ in what becomes of the books
  have hquiet : (minus.analyze isSearch body : Procedure ν _).quiet =
      (plain.analyze isSearch body).quiet.andThen fun books => .done books.reverse := by
    cases body with
    | none => rfl
    | some body =>
      change Procedure.checkpoint (.load body baseUrl _) = .checkpoint (.load body baseUrl _)
      rw [Setting.books_quiet_minus hm hb]
  have hrun : (r.map List.reverse).SameCourse t :=
    Procedure.run_of_quiet_eq hquiet backend signal w state
  have hsteps : t.steps = r.steps := hrun.steps.symm
  have hresult : t.result = r.result.map List.reverse := hrun.result.symm
  refine ⟨hsteps, ?_, ?_, hresult, fun h => hresult.trans ?_⟩
  · rw [Run.polls_eq_countP_steps, hsteps, Run.polls_eq_countP_steps]
  · rw [Run.calls_eq_filter_steps, hsteps, Run.calls_eq_filter_steps]
  · rcases h with hd | ⟨hp, page, vars, rfl, hn⟩
    · exact Procedure.map_result_of_andThen_done (Setting.analyze_reverse_of_detailPage hd body) ..
    · rw [show r.result = _ from Setting.analyze_of_enumerate_nil hp hn]
      exact Procedure.map_result_of_andThen_done (Setting.detailBooks_reverse page vars) ..

theorem analyze_minus_pair :
    let source := Setting.items.source
    let run rule := ((⟨source.withList true rule, "u", .standard⟩ : Setting).analyze true
      (some "[\"a\",\"b\"]")).run Page.backend .never .unbound ()
    "$".toList.head? ≠ some '-' ∧ (run "$").result.map (·.map Book.name) = .ok ["a", "b"] ∧
      (run ("-" ++ "$")).calls = (run "$").calls ∧
      (run ("-" ++ "$")).result = (run "$").result.map List.reverse := by
  intro source run
  have hm : "$".toList.head? ≠ some '-' := by decide
  have hr : (run "$").result.map (·.map Book.name) = .ok ["a", "b"] := by decide +kernel
  obtain ⟨-, -, hcalls, hresult, -⟩ := analyze_minus source "u" .standard true
    (some "[\"a\",\"b\"]") Page.backend .never .unbound () "$" hm (fun h => Bool.noConfusion h)
  exact ⟨hm, hr, hcalls, hresult⟩

end Catalog
