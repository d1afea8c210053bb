import Catalog.Analysis.Page
import Catalog.Proofs.Analysis.Lockstep

/-! # Isolation of the books of a list

The books of a list are read one after the other, from one page and from the same variables. Each of
them binds its own node before it reads anything, and nothing that it reads changes more of the page
than that. So every book is what it would be if it were read alone.
-/

namespace Catalog

namespace Page

def assigned (p : Page) : Act Handle → List (String × String)
  | .findNodes c vars _ => ((p.queryNodes c).answer vars).2
  | .findElement c vars _ => ((p.queryNodes c).answer vars).2
  | .readString c isUrl vars _ => ((p.queryString c isUrl).answer vars).2
  | .readList c vars _ => ((p.queryList c).answer vars).2
  | _ => []

/-- Whether a body is bound, whichever of its nodes is. -/
def Holds (body baseUrl : String) (p : Page) : Prop :=
  ∃ scope, p = { bind body baseUrl with scope }

variable {body baseUrl : String} {p : Page}

theorem Holds.bindNode_eq (h : p.Holds body baseUrl) (node : Handle) :
    p.bindNode node = (bind body baseUrl).bindNode node := by
  obtain ⟨_, rfl⟩ := h
  rfl

end Page

namespace Reader

variable {α β : Type}

abbrev onPage (x : Reader Handle α) (p : Page) (v : Variables) :
    Run Page Unit Handle (α × Variables) :=
  (x v).run Page.backend .never p ()

/-- How a run on a page may end, if it starts from the variables `v`: with the page as it was, and
with a result that holds `Q` and all the variables that its calls have set. -/
structure EndsOn (p : Page) (Q : α → Variables → Prop) (v : Variables)
    (r : Run Page Unit Handle (α × Variables)) : Prop where
  world : r.world = p
  vars : ∀ a v', r.result = .ok (a, v') → v' = v.putAll (r.acts.flatMap p.assigned) ∧ Q a v'

def Keeps (p : Page) (Q : α → Variables → Prop) (x : Reader Handle α) : Prop :=
  ∀ v, EndsOn p Q v (x.onPage p v)

variable {p : Page} {Q : α → Variables → Prop} {S : β → Variables → Prop}

theorem EndsOn.andThen {v : Variables} {r : Run Page Unit Handle (α × Variables)}
    (h : EndsOn p Q v r) {next : α × Variables → Page → Unit → Run Page Unit Handle (β × Variables)}
    (hn : ∀ a v', Q a v' → EndsOn p S v' (next (a, v') p ())) : EndsOn p S v (r.andThen next) := by
  cases hr : r.result with
  | error e =>
    rw [Run.andThen_of_error hr]
    exact ⟨h.world, fun _ _ h => by cases h⟩
  | ok av =>
    obtain ⟨a, v'⟩ := av
    obtain ⟨hv, hq⟩ := h.vars a v' hr
    have ht := hn a v' hq
    rw [Run.andThen_of_ok hr, h.world]
    refine ⟨ht.world, fun b v'' hb => ?_⟩
    obtain ⟨hv', hs⟩ := ht.vars b v'' hb
    refine ⟨?_, hs⟩
    rw [hv', hv, List.flatMap_append, Variables.putAll_append]

namespace Keeps

theorem bind {x : Reader Handle α} (h : Keeps p Q x) {f : α → Reader Handle β}
    (hf : ∀ a, Keeps p S (f a)) : Keeps p S (x >>= f) := by
  intro v
  rw [onPage, bind_apply, Procedure.run_andThen]
  exact (h v).andThen fun a v' _ => hf a v'

theorem pure {a : α} (h : ∀ v, Q a v) : Keeps p Q (Pure.pure a) :=
  fun v => ⟨rfl, by rintro _ _ ⟨⟩; exact ⟨rfl, h v⟩⟩

theorem get {f : Variables → α} (h : ∀ v, Q (f v) v) :
    Keeps p Q (MonadState.get >>= fun v => Pure.pure (f v)) :=
  fun v => ⟨rfl, by rintro _ _ ⟨⟩; exact ⟨rfl, h v⟩⟩

theorem checkpoint : Keeps p (fun _ _ => True) Reader.checkpoint :=
  fun _ => ⟨rfl, by rintro _ _ ⟨⟩; exact ⟨rfl, trivial⟩⟩

theorem report (e : Event) : Keeps p (fun _ _ => True) (Reader.report e) :=
  fun _ => ⟨rfl, by rintro _ _ ⟨⟩; exact ⟨rfl, trivial⟩⟩

theorem ask (act : Except Error (α × Variables) → Act Handle) (query : Page → Reading α)
    {v : Variables} (h : ∀ r, p.assigned (act r) = ((query p).answer v).2) :
    EndsOn p (fun _ _ => True) v (.call act ((Page.ask query v).run.run p) () fun r w =>
      ⟨.ok r, w, (), []⟩) := by
  change EndsOn p _ v
    (.call act (((query p).answer v).1.map (·, v.putAll ((query p).answer v).2), p) () _)
  cases ((query p).answer v).1 with
  | error e => exact ⟨rfl, by rintro _ _ ⟨⟩⟩
  | ok a =>
    refine ⟨rfl, ?_⟩
    rintro _ _ ⟨⟩
    refine ⟨?_, trivial⟩
    change _ = v.putAll (p.assigned (act _) ++ [])
    rw [List.append_nil, h]

theorem readString (c : Chain) (isUrl : Bool) :
    Keeps p (fun _ _ => True) (Reader.readString c isUrl) :=
  fun v => ask (.readString c isUrl v) (·.queryString c isUrl) fun _ => rfl

theorem readList (c : Chain) : Keeps p (fun _ _ => True) (Reader.readList c) :=
  fun v => ask (.readList c v) (·.queryList c) fun _ => rfl

theorem findNodes (c : Chain) : Keeps p (fun _ _ => True) (Reader.findNodes c) :=
  fun v => ask (.findNodes c v) (·.queryNodes c) fun _ => rfl

theorem ofExcept (r : Except Error α) : Keeps p (fun _ _ => True) (Reader.ofExcept r) := by
  intro v
  cases r with
  | error e => exact ⟨rfl, by rintro _ _ ⟨⟩⟩
  | ok a => exact ⟨rfl, by rintro _ _ ⟨⟩; exact ⟨rfl, trivial⟩⟩

end Keeps

end Reader

namespace Setting

open Reader

variable {s : Setting} {rules : FieldRules} {verbose : Bool} {p : Page}

theorem readField_keeps (field : String) (c : Chain) (isUrl : Bool) :
    (readField field c isUrl verbose).Keeps p fun _ _ => True :=
  .bind .checkpoint fun _ => .bind (.readString c isUrl) fun _ =>
    .bind (.report _) fun _ => .pure fun _ => trivial

theorem readJoined_keeps (field : String) (c : Chain) :
    (s.readJoined field c verbose).Keeps p fun _ _ => True :=
  .bind .checkpoint fun _ => .bind (.readList c) fun _ =>
    .bind (.report _) fun _ => .pure fun _ => trivial

theorem readDetails_keeps (book : Book) :
    (s.readDetails rules verbose book).Keeps p fun _ _ => True := by
  refine .bind (readField_keeps _ _ _) fun author => ?_
  refine .bind (readJoined_keeps _ _) fun kind => ?_
  refine .bind (readField_keeps _ _ _) fun wordCount => ?_
  refine .bind (readField_keeps _ _ _) fun latest => ?_
  refine .bind (readField_keeps _ _ _) fun intro => ?_
  exact .pure fun _ => trivial

theorem boundRecord_keeps :
    (s.boundRecord rules verbose).Keeps p fun book v => ∀ b, book = some b → b.vars = v := by
  refine .bind (readField_keeps _ _ _) fun name => ?_
  by_cases hn : name.isEmpty
  · simp only [hn, if_true]
    exact .pure fun v b hb => by cases hb
  · simp only [hn]
    refine .bind (readDetails_keeps _) fun book => ?_
    refine .bind (readField_keeps _ _ _) fun cover => ?_
    refine .bind (readField_keeps _ _ _) fun bookUrl => ?_
    exact .get fun v b hb => by cases hb; rfl

theorem runInit_keeps (init : Option String) : (runInit init).Keeps p fun _ _ => True := by
  unfold runInit
  cases init with
  | none => exact .pure fun _ => trivial
  | some rule =>
    by_cases hb : isBlankRule (some rule)
    · simp only [hb, if_true]
      exact .pure fun _ => trivial
    · simp only [hb]
      exact .bind .checkpoint fun _ => .bind (.report _) fun _ => .bind (.ofExcept _) fun _ =>
        .bind (.readString _ _) fun _ => .pure fun _ => trivial

theorem findBooks_keeps (profile : ListProfile) (list : ListRule) :
    (findBooks profile list).Keeps p fun _ _ => True :=
  .bind (runInit_keeps _) fun _ => .bind (.ofExcept _) fun _ => .findNodes _

/-- The run that reads a node alone, from the page bound anew. What it reports is of interest to
everyone. -/
def alone (s : Setting) (body : String) (rules : FieldRules) (vars : Variables) (node : Handle) :
    Run Page Unit Handle (Option Book × Variables) :=
  (s.listRecord rules true node vars).run Page.backend .never (.bind body s.baseUrl) ()

/-- The book of a node that is read alone, if it has a name. -/
def outcome (s : Setting) (body : String) (rules : FieldRules) (vars : Variables) (node : Handle) :
    Except Error (Option Book) :=
  (s.alone body rules vars node).result.map (·.1)

variable {body : String} {vars : Variables} {page : Page}

theorem listRecord_run (node : Handle) :
    (s.listRecord rules verbose node vars).run Page.backend .never page () =
      ((s.boundRecord rules verbose).onPage (page.bindNode node) vars).prepend
        (.enter node (.ok ())) := rfl

/-- On a page of a list a node is read as it is alone, and then the page is still bound. -/
theorem listRecord_alone (rules : FieldRules) (verbose : Bool) (vars : Variables)
    (h : page.Holds body s.baseUrl) (node : Handle) :
    let r := (s.listRecord rules verbose node vars).run Page.backend .never page ()
    r.result = (s.alone body rules vars node).result ∧ r.world.Holds body s.baseUrl := by
  intro r
  set q := (Page.bind body s.baseUrl).bindNode node
  have hr : r = ((s.boundRecord rules verbose).onPage q vars).prepend (.enter node (.ok ())) := by
    rw [show q = page.bindNode node from (h.bindNode_eq node).symm]
    exact listRecord_run node
  constructor
  · have hl : Run.Lockstep Event.SaysSame Eq ((s.boundRecord rules verbose).onPage q vars)
        ((s.boundRecord rules true).onPage q vars) :=
      (boundRecord_lockstep verbose true).run _ _ _ _
    rw [hr, Run.prepend_result, hl.result.eq, alone, listRecord_run, Run.prepend_result]
  · rw [hr, Run.prepend_world, (boundRecord_keeps vars).world]
    exact ⟨_, rfl⟩

theorem listBooks_result (h : page.Holds body s.baseUrl) (isFirst : Bool) (nodes : List Handle) :
    ((s.listBooks body rules vars isFirst nodes).run Page.backend .never page ()).result =
      (nodes.mapM (s.outcome body rules vars)).map fun outcomes =>
        outcomes.flatMap fun book => (book.map (s.withPage body)).toList := by
  induction nodes generalizing isFirst page with
  | nil => rfl
  | cons node nodes ih =>
    obtain ⟨hr, hw⟩ := listRecord_alone rules (isFirst || s.options.traceAllItems) vars h node
    change ((Procedure.andThen (s.listRecord rules _ node vars) _).run Page.backend .never page
      ()).result = _
    rw [Procedure.run_andThen, List.mapM_cons, outcome, ← hr]
    cases ho : ((s.listRecord rules (isFirst || s.options.traceAllItems) node vars).run
        Page.backend .never page ()).result with
    | error e => rw [Run.andThen_of_error ho]; rfl
    | ok book =>
      rw [Run.andThen_of_ok ho]
      change (((s.listBooks body rules vars false nodes).andThen _).run Page.backend .never _
        ()).result = _
      -- The node that is bound by now does not matter to the rest of the list.
      rw [Procedure.run_andThen, Run.andThen_result_eq_map fun _ _ _ => rfl, ih hw false]
      cases nodes.mapM (s.outcome body rules vars) with
      | error e => rfl
      | ok outcomes => rfl

/-- A book that is read alone has the variables of the list, with all that was set by the rules of
its own fields. -/
theorem alone_vars {node : Handle} {book : Book}
    (h : s.outcome body rules vars node = .ok (some book)) :
    book.vars = vars.putAll ((s.alone body rules vars node).acts.flatMap
      ((Page.bind body s.baseUrl).bindNode node).assigned) := by
  set q := (Page.bind body s.baseUrl).bindNode node
  change (((s.boundRecord rules true).onPage q vars).result.map (·.1)) = _ at h
  cases hr : ((s.boundRecord rules true).onPage q vars).result with
  | error e => rw [hr] at h; cases h
  | ok r =>
    obtain ⟨b, v⟩ := r
    rw [hr] at h
    cases h
    obtain ⟨hv, hb⟩ := (boundRecord_keeps vars).vars _ _ hr
    rw [hb book rfl, hv]
    rfl

def listRule (s : Setting) (isSearch : Bool) : ListRule :=
  ListRule.ofText ((s.source.listProfile isSearch).bookList.getD "")

/-- What is found on the page, and the variables with which the books are read. -/
def found (s : Setting) (isSearch : Bool) (body : String) :
    Except Error (List Handle × Variables) :=
  ((findBooks (s.source.listProfile isSearch) (s.listRule isSearch)).onPage
    (.bind body s.baseUrl) .empty).result

theorem readBooks_result {profile : ListProfile} {list : ListRule} {nodes : List Handle}
    (h : page.Holds body s.baseUrl) (hr : FieldRules.ofList profile = .ok rules) :
    ((s.readBooks body profile list nodes vars).run Page.backend .never page ()).result =
      (nodes.mapM (s.outcome body rules vars)).map fun outcomes =>
        let books := outcomes.flatMap fun book => (book.map (s.withPage body)).toList
        if list.reversed then books.reverse else books := by
  have hb : s.readBooks body profile list nodes vars = .report (.listSize nodes.length)
      ((s.listBooks body rules vars true nodes).andThen fun books =>
        if list.reversed then .report .reversing (.done books.reverse) else .done books) := by
    unfold readBooks
    rw [hr]
    rfl
  have ho : ∀ (books : List Book) (w : Page) (u : Unit), (Procedure.run Page.backend .never
      (if list.reversed then .report .reversing (.done books.reverse) else .done books) w u).result =
        .ok (if list.reversed then books.reverse else books) := by
    intro books w u
    split <;> rfl
  rw [hb, Procedure.run, Run.prepend_result, Procedure.run_andThen, Run.andThen_result_eq_map ho,
    listBooks_result h]
  cases nodes.mapM (s.outcome body rules vars) with
  | error e => rfl
  | ok outcomes => rfl

theorem books_eq {ν : Type} {isSearch : Bool} (hd : s.isDetailPage = .ok false) :
    (s.books isSearch body : Procedure ν _) =
      (findBooks (s.source.listProfile isSearch) (s.listRule isSearch) .empty).andThen fun r =>
        if r.1.isEmpty && s.source.detailPattern?.isNone then
          .report .emptyList (s.detailBooks body r.2)
        else s.readBooks body (s.source.listProfile isSearch) (s.listRule isSearch) r.1 r.2 := by
  unfold books
  rw [hd]
  rfl

theorem exists_nodes {isSearch : Bool} (h : (s.found isSearch body).map (·.1.isEmpty) = .ok false) :
    ∃ nodes vars, s.found isSearch body = .ok (nodes, vars) ∧ nodes ≠ [] := by
  obtain ⟨⟨nodes, vars⟩, hf, hn⟩ := Error.ok_of_map_ok h
  exact ⟨nodes, vars, hf, List.isEmpty_eq_false_iff.mp hn⟩

/-- What is read of a page that is read as a list. -/
theorem analyze_result {isSearch : Bool} {nodes : List Handle} (page : Page)
    (hd : s.isDetailPage = .ok false) (hf : s.found isSearch body = .ok (nodes, vars))
    (hn : nodes ≠ [] ∨ s.source.detailPattern? ≠ none) :
    ∃ q : Page, q.Holds body s.baseUrl ∧
      ((s.analyze isSearch (some body)).run Page.backend .never page ()).result =
        ((s.readBooks body (s.source.listProfile isSearch) (s.listRule isSearch) nodes vars).run
          Page.backend .never q ()).result := by
  have hw := (findBooks_keeps (p := .bind body s.baseUrl) (s.source.listProfile isSearch)
    (s.listRule isSearch) .empty).world
  have he : (nodes.isEmpty && s.source.detailPattern?.isNone) = false := by
    cases nodes <;> simp_all [Option.isSome_iff_ne_none]
  refine ⟨_, ⟨.page, rfl⟩, ?_⟩
  change ((s.books isSearch body).run Page.backend .never (.bind body s.baseUrl) ()).result = _
  rw [books_eq hd, Procedure.run_andThen, Run.andThen_of_ok hf, hw, he]
  rfl

end Setting

/-- The books of a list are isolated from one another. Where a page is read as a list, and the rules
of the fields can be read, the analysis has a result exactly if every node has one when it is read
alone, on the page bound anew and from the variables of the list. The result holds their books in
order, or in reverse order if the rule says so, with the page where a book has its address. The
variables of a book are those of the list and what the rules of its own fields have set. -/
theorem analyze_isolated (s : Setting) (isSearch : Bool) (body : String) (page : Page)
    {nodes : List Handle} {vars : Variables} {rules : FieldRules}
    (hd : s.isDetailPage = .ok false) (hf : s.found isSearch body = .ok (nodes, vars))
    (hn : nodes ≠ [] ∨ s.source.detailPattern? ≠ none)
    (hr : FieldRules.ofList (s.source.listProfile isSearch) = .ok rules) :
    let outcome := s.outcome body rules vars
    let described (book : Book) : Book :=
      if book.bookUrl = s.baseUrl then { book with infoHtml := some body } else book
    let result := ((s.analyze isSearch (some body)).run Page.backend .never page ()).result
    (result.isOk ↔ ∀ node ∈ nodes, (outcome node).isOk) ∧
    (result = (nodes.mapM outcome).map fun outcomes =>
      let books := outcomes.flatMap fun book => (book.map described).toList
      if (s.listRule isSearch).reversed then books.reverse else books) ∧
    ∀ node book, outcome node = .ok (some book) →
      book.vars = vars.putAll ((s.alone body rules vars node).acts.flatMap
        ((Page.bind body s.baseUrl).bindNode node).assigned) := by
  intro outcome described result
  have hresult : result = (nodes.mapM outcome).map fun outcomes =>
      let books := outcomes.flatMap fun book => (book.map described).toList
      if (s.listRule isSearch).reversed then books.reverse else books := by
    obtain ⟨q, hq, ha⟩ := Setting.analyze_result page hd hf hn
    exact ha.trans (Setting.readBooks_result hq hr)
  refine ⟨?_, hresult, fun node book => Setting.alone_vars⟩
  rw [hresult, Error.isOk_map, Error.isOk_mapM]

def Setting.items : Setting where
  source := { (default : Source) with
    search := { (default : ListProfile) with
      bookList := some "$", name := some "$@put:\x7b\"k\":\"$\"\x7d" } }
  baseUrl := "u"
  options := .standard

theorem analyze_isolated_pair :
    ∃ nodes vars rules, Setting.items.isDetailPage = .ok false ∧
      Setting.items.found true "[\"a\",\"b\"]" = .ok (nodes, vars) ∧ nodes ≠ [] ∧
      FieldRules.ofList (Setting.items.source.listProfile true) = .ok rules ∧
      ∀ node ∈ nodes, (Setting.items.outcome "[\"a\",\"b\"]" rules vars node).isOk := by
  have hd : Setting.items.isDetailPage = .ok false := by decide +kernel
  obtain ⟨nodes, vars, hf, hn⟩ : ∃ nodes vars,
      Setting.items.found true "[\"a\",\"b\"]" = .ok (nodes, vars) ∧ nodes ≠ [] :=
    Setting.exists_nodes (by decide +kernel)
  have hr : (FieldRules.ofList (Setting.items.source.listProfile true)).map (fun _ => ()) =
      .ok () := by decide +kernel
  obtain ⟨rules, hr, -⟩ := Error.ok_of_map_ok hr
  refine ⟨nodes, vars, rules, hd, hf, hn, hr, ?_⟩
  exact (analyze_isolated _ true _ .unbound hd hf (.inl hn) hr).1.1 (by decide +kernel)

/-- A book without an address is described by the page, which is kept with it. Read alone, it is
without the page. -/
theorem analyze_keeps_page :
    ∃ nodes vars rules outcomes, Setting.items.isDetailPage = .ok false ∧
      Setting.items.found true "[\"a\"]" = .ok (nodes, vars) ∧ nodes ≠ [] ∧
      FieldRules.ofList (Setting.items.source.listProfile true) = .ok rules ∧
      nodes.mapM (Setting.items.outcome "[\"a\"]" rules vars) = .ok outcomes ∧
      ((Setting.items.analyze true (some "[\"a\"]")).run Page.backend .never .unbound ()).result ≠
        .ok (outcomes.flatMap Option.toList) := by
  have hd : Setting.items.isDetailPage = .ok false := by decide +kernel
  have h : (do
      let rules ← FieldRules.ofList (Setting.items.source.listProfile true)
      let found ← Setting.items.found true "[\"a\"]"
      let outcomes ← found.1.mapM (Setting.items.outcome "[\"a\"]" rules found.2)
      return (found.1.isEmpty, outcomes)) =
        .ok (false, [some { Setting.items.newBook "a" with
          bookUrl := "u", vars := .ofList [("k", "a")] }]) := by decide +kernel
  obtain ⟨rules, hr, h⟩ := Error.ok_of_bind_ok h
  obtain ⟨⟨nodes, vars⟩, hf, h⟩ := Error.ok_of_bind_ok h
  obtain ⟨outcomes, ho, h⟩ := Error.ok_of_bind_ok h
  obtain ⟨hn, rfl⟩ := Prod.mk.inj (Except.ok.inj h)
  refine ⟨nodes, vars, rules, _, hd, hf, ?_, hr, ho, by decide +kernel⟩
  rintro rfl
  cases hn

end Catalog
