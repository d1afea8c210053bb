import Catalog.Proofs.Analysis.Protocol

/-! # Books and the values that were read

What a book holds is what was read for it. Every word of the protocol that ends in a result is told
together with the books of the result, so that each of them stands beside the values of its own
calls.
-/

namespace Catalog

variable {ω σ ν α β : Type}

def Act.succeeds : Act ν → Bool
  | poll => true
  | report _ => true
  | load _ _ answer => answer.isOk
  | enter _ answer => answer.isOk
  | findNodes _ _ answer => answer.isOk
  | findElement _ _ answer => answer.isOk
  | readString _ _ _ answer => answer.isOk
  | readList _ _ answer => answer.isOk

/-- A run that has no result if one of its calls failed. -/
def Run.Strict (r : Run ω σ ν α) : Prop := r.result.isOk → ∀ a ∈ r.acts, a.succeeds

namespace Run.Strict

variable {r : Run ω σ ν α}

theorem prepend (h : r.Strict) {a : Act ν} (ha : a.succeeds) : (r.prepend a).Strict :=
  fun hr => List.forall_mem_cons.mpr ⟨ha, h hr⟩

theorem call {act : Except Error β → Act ν} {answer : Except Error β × ω} {s : σ}
    {next : β → ω → Run ω σ ν α} (ha : ∀ b, (act (.ok b)).succeeds)
    (h : ∀ b w, (next b w).Strict) : (Run.call act answer s next).Strict := by
  obtain ⟨e | b, w⟩ := answer
  · exact fun hr => absurd hr Bool.false_ne_true
  · exact (h b w).prepend (ha b)

end Run.Strict

theorem Procedure.run_strict (backend : Backend ω ν) (signal : Signal ω σ) (p : Procedure ν α)
    (w : ω) (s : σ) : (p.run backend signal w s).Strict := by
  induction p generalizing w s with
  | done a => exact fun _ _ h => absurd h List.not_mem_nil
  | fail e => exact fun _ _ h => absurd h List.not_mem_nil
  | checkpoint next ih =>
    rw [run]
    obtain ⟨_ | _, s'⟩ := signal.poll w s
    · exact (ih w s').prepend rfl
    · exact fun hr => absurd hr Bool.false_ne_true
  | report e next ih => exact (ih w s).prepend rfl
  | load _ _ next ih => exact .call (fun _ => rfl) fun _ w => ih w s
  | enter _ next ih => exact .call (fun _ => rfl) fun _ w => ih w s
  | findNodes _ _ next ih => exact .call (fun _ => rfl) fun r w => ih r.1 r.2 w s
  | findElement _ _ next ih => exact .call (fun _ => rfl) fun r w => ih r.1 r.2 w s
  | readString _ _ _ next ih => exact .call (fun _ => rfl) fun r w => ih r.1 r.2 w s
  | readList _ _ next ih => exact .call (fun _ => rfl) fun r w => ih r.1 r.2 w s

structure BookDetails where
  author : String
  kinds : List String
  wordCount : String
  latest : String
  intro : String

def BookDetails.word (d : BookDetails) (t : FieldTexts) : List (Step ν) :=
  [.poll, .readString t.author false d.author, .poll, .readList t.kind d.kinds,
    .poll, .readString t.wordCount false d.wordCount,
    .poll, .readString t.lastChapter false d.latest, .poll, .readString t.intro false d.intro]

/-- A field that may be absent shows a text exactly as it is, unless it is empty. -/
structure Shows (field : Option String) (text : String) : Prop where
  absent : text = "" → field = none
  present : text ≠ "" → field = some text

theorem present?_eq (text : String) : present? text = if text = "" then none else some text := by
  simp only [present?, String.isEmpty_iff]

theorem shows_present? (text : String) : Shows (present? text) text := by
  constructor
  · rintro rfl
    rfl
  · intro h
    rw [present?_eq, if_neg h]

namespace Setting

/-- What holds of every book: it has a name, it comes from the source, and its fields are those that
were read. -/
structure Records (s : Setting) (name : String) (d : BookDetails) (b : Book) : Prop where
  named : b.name ≠ ""
  name : b.name = name
  origin : b.origin = s.source.url
  originName : b.originName = s.source.name
  originOrder : b.originOrder = s.source.order
  kindOfSource : b.kindOfSource = s.source.kind
  author : b.author = s.options.formatAuthor d.author
  kind : Shows b.kind (s.options.kindSeparator.intercalate d.kinds)
  wordCount : Shows b.wordCount d.wordCount
  latest : Shows b.latestChapterTitle d.latest
  intro : Shows b.intro d.intro

structure RecordsPage (s : Setting) (page name : String) (d : BookDetails) (cover : String)
    (b : Book) : Prop extends s.Records name d b where
  bookUrl : b.bookUrl = s.baseUrl
  infoHtml : b.infoHtml = some page
  cover : Shows b.coverUrl cover

structure RecordsNode (s : Setting) (page name : String) (d : BookDetails) (cover url : String)
    (b : Book) : Prop extends s.Records name d b where
  bookUrl : b.bookUrl = if url = "" then s.baseUrl else url
  infoHtml : b.infoHtml = if b.bookUrl = s.baseUrl then some page else none
  cover : b.coverUrl = if cover = "" then none else some (s.options.resolveLink s.baseUrl cover)

/-- One node of a list, and its book if it has a name. -/
inductive NodeGives (s : Setting) (page : String) (p : ListProfile) (node : ν) :
    Option Book → List (Step ν) → Prop where
  | nameless : NodeGives s page p node none
      [.poll, .enter node, .poll, .readString p.name false ""]
  | named {name cover url : String} {d : BookDetails} {b : Book}
      (h : s.RecordsNode page name d cover url b) :
      NodeGives s page p node (some b)
        (.poll :: .enter node :: .poll :: .readString p.name false name :: (d.word p.texts ++
          [.poll, .readString p.coverUrl false cover, .poll, .readString p.bookUrl true url]))

inductive NodesGive (s : Setting) (page : String) (p : ListProfile) :
    List ν → List Book → List (Step ν) → Prop where
  | nil : NodesGive s page p [] [] []
  | cons {node : ν} {nodes : List ν} {book : Option Book} {books : List Book}
      {u v : List (Step ν)} (hu : s.NodeGives page p node book u)
      (hv : NodesGive s page p nodes books v) :
      NodesGive s page p (node :: nodes) (book.toList ++ books) (u ++ v)

inductive PageGives (s : Setting) (page : String) : Option Book → List (Step ν) → Prop where
  | nameless {narrow : List (Step ν)} (hw : Protocol.Narrow s.source.info.init narrow) :
      PageGives s page none (narrow ++ [.poll, .readString s.source.info.name false ""])
  | named {narrow : List (Step ν)} {name cover : String} {d : BookDetails} {b : Book}
      (hw : Protocol.Narrow s.source.info.init narrow) (h : s.RecordsPage page name d cover b) :
      PageGives s page (some b)
        (narrow ++ .poll :: .readString s.source.info.name false name ::
          (d.word s.source.info.texts ++ [.poll, .readString s.source.info.coverUrl true cover]))

/-- What comes before the page is read as that of one book: nothing, if the address says so, or a
list in vain. -/
inductive LeadsToPage (s : Setting) (isSearch : Bool) : List (Step ν) → Prop where
  | address (hd : s.isDetailPage = .ok true) : LeadsToPage s isSearch []
  | emptyList {init : List (Step ν)} (hd : s.isDetailPage ≠ .ok true)
      (hp : s.source.detailPattern? = none)
      (hi : Protocol.Init (s.source.listProfile isSearch).init init) :
      LeadsToPage s isSearch (init ++ [.findNodes (s.source.listProfile isSearch).listText []])

/-- What comes before the nodes of a list are read. -/
inductive LeadsToList (s : Setting) (isSearch : Bool) (nodes : List ν) : List (Step ν) → Prop where
  | nodes {init : List (Step ν)} (hd : s.isDetailPage ≠ .ok true)
      (hn : nodes ≠ [] ∨ s.source.detailPattern? ≠ none)
      (hi : Protocol.Init (s.source.listProfile isSearch).init init) :
      LeadsToList s isSearch nodes
        (init ++ [.findNodes (s.source.listProfile isSearch).listText nodes])

/-- A whole analysis, and its books. -/
inductive Gives (s : Setting) (isSearch : Bool) (page : String) : List Book → List (Step ν) → Prop
    where
  | page {start w : List (Step ν)} {book : Option Book} (hs : s.LeadsToPage isSearch start)
      (hw : s.PageGives page book w) : Gives s isSearch page book.toList (start ++ w)
  | list {start w : List (Step ν)} {nodes : List ν} {books : List Book}
      (hs : s.LeadsToList isSearch nodes start)
      (hw : s.NodesGive page (s.source.listProfile isSearch) nodes books w) :
      Gives s isSearch page
        (if (ListRule.ofText ((s.source.listProfile isSearch).bookList.getD "")).reversed then
          books.reverse else books) (start ++ w)

variable {s : Setting} {isSearch : Bool} {page : String} {rules : FieldRules} {t : FieldTexts}
  {vars : Variables} {verbose : Bool}

theorem NodesGive.length_le {p : ListProfile} {nodes : List ν} {books : List Book}
    {w : List (Step ν)} (h : s.NodesGive page p nodes books w) : books.length ≤ nodes.length := by
  induction h with
  | nil => exact Nat.le_refl 0
  | @cons node nodes book books u v _ _ ih =>
    have hb : book.toList.length ≤ 1 := by cases book <;> simp
    simp only [List.length_append, List.length_cons]
    omega

/-- A list can always be finished, if only by nodes without a name. -/
theorem NodesGive.exists_word (s : Setting) (page : String) (p : ListProfile) (nodes : List ν) :
    ∃ w, s.NodesGive page p nodes [] w := by
  induction nodes with
  | nil => exact ⟨[], .nil⟩
  | cons node nodes ih =>
    obtain ⟨w, hw⟩ := ih
    exact ⟨_, .cons .nameless hw⟩

theorem PageGives.exists_word (s : Setting) (page : String) :
    ∃ w : List (Step ν), s.PageGives page none w := by
  obtain ⟨_, hw⟩ := Protocol.Narrow.exists_word (ν := ν) s.source.info.init
  exact ⟨_, .nameless hw⟩

theorem Gives.exists_word (s : Setting) (isSearch : Bool) (page : String) :
    ∃ books, ∃ u : List (Step ν), s.Gives isSearch page books u := by
  obtain ⟨w, hw⟩ := PageGives.exists_word (ν := ν) s page
  by_cases hd : s.isDetailPage = .ok true
  · exact ⟨_, _, .page (.address hd) hw⟩
  · obtain ⟨init, hi⟩ := Protocol.Init.exists_word (ν := ν) (s.source.listProfile isSearch).init
    by_cases hp : s.source.detailPattern? = none
    · exact ⟨_, _, .page (.emptyList hd hp hi) hw⟩
    · exact ⟨_, _, .list (.nodes hd (.inr hp) hi) .nil⟩

open Procedure

theorem readJoined_gives {rule : Option String} {c : Chain} (h : Rule.resolveField rule = .ok c)
    (field : String) :
    (s.readJoined field c verbose vars : Procedure ν _).Speaks fun r u =>
      ∃ values, r.1 = s.options.kindSeparator.intercalate values ∧
        u = [.poll, .readList rule values] :=
  ⟨rule, h, fun values _ => ⟨values, rfl, rfl⟩⟩

def withDetails (s : Setting) (d : BookDetails) (book : Book) : Book :=
  { book with
    author := s.options.formatAuthor d.author
    kind := present? (s.options.kindSeparator.intercalate d.kinds)
    wordCount := present? d.wordCount
    latestChapterTitle := present? d.latest
    intro := present? d.intro }

theorem readDetails_gives (h : rules.ReadFrom t) (book : Book) :
    (s.readDetails rules verbose book vars : Procedure ν _).Speaks fun r u =>
      ∃ d : BookDetails, r.1 = s.withDetails d book ∧ u = d.word t := by
  refine (readField_speaks h.author _ _).andThen ?_
  rintro ⟨author, _⟩ _ rfl
  refine (readJoined_gives h.kind _).andThen ?_
  rintro ⟨kind, _⟩ _ ⟨kinds, hk, rfl⟩
  obtain rfl : kind = _ := hk
  refine (readField_speaks h.wordCount _ _).andThen ?_
  rintro ⟨wordCount, _⟩ _ rfl
  refine (readField_speaks h.lastChapter _ _).andThen ?_
  rintro ⟨latest, _⟩ _ rfl
  refine (readField_speaks h.intro _ _).andThen ?_
  rintro ⟨intro, _⟩ _ rfl
  exact ⟨⟨author, kinds, wordCount, latest, intro⟩, rfl, rfl⟩

theorem records_withDetails {name : String} (hn : name ≠ "") (d : BookDetails) (bookUrl : String)
    (coverUrl : Option String) (vars : Variables) (infoHtml : Option String) :
    s.Records name d
      { s.withDetails d (s.newBook name) with bookUrl, coverUrl, vars, infoHtml } where
  named := hn
  name := rfl
  origin := rfl
  originName := rfl
  originOrder := rfl
  kindOfSource := rfl
  author := rfl
  kind := shows_present? _
  wordCount := shows_present? _
  latest := shows_present? _
  intro := shows_present? _

theorem recordsNode_withPage {name : String} (hn : name ≠ "") (d : BookDetails)
    (cover url : String) (vars : Variables) :
    s.RecordsNode page name d cover url (s.withPage page
      { s.withDetails d (s.newBook name) with
        coverUrl := (present? cover).map (s.options.resolveLink s.baseUrl)
        bookUrl := (present? url).getD s.baseUrl
        vars := vars }) := by
  have hu : (present? url).getD s.baseUrl = if url = "" then s.baseUrl else url := by
    rw [present?_eq]
    split <;> rfl
  have hc : (present? cover).map (s.options.resolveLink s.baseUrl) =
      if cover = "" then none else some (s.options.resolveLink s.baseUrl cover) := by
    rw [present?_eq]
    split <;> rfl
  unfold withPage
  by_cases hb : (present? url).getD s.baseUrl = s.baseUrl
  · rw [if_pos hb]
    exact ⟨records_withDetails hn d _ _ _ _, hu, (if_pos hb).symm, hc⟩
  · rw [if_neg hb]
    exact ⟨records_withDetails hn d _ _ _ _, hu, (if_neg hb).symm, hc⟩

theorem listRecord_gives {p : ListProfile} (h : rules.ReadFrom p.texts)
    (hu : Rule.resolveField p.bookUrl = .ok rules.bookUrl) (node : ν) :
    (s.listRecord rules verbose node vars).Speaks fun r u =>
      s.NodeGives page p node (r.1.map (s.withPage page)) (.poll :: u) := by
  refine Speaks.andThen (L := fun _ u => u = [.enter node]) rfl ?_
  rintro _ _ rfl
  refine (readField_speaks h.name _ _).andThen ?_
  rintro ⟨name, _⟩ _ rfl
  by_cases hn : name = ""
  · subst hn
    exact .nameless
  · simp only [String.isEmpty_iff, hn, if_false]
    refine (readDetails_gives h _).andThen ?_
    rintro ⟨_, _⟩ _ ⟨d, hd, rfl⟩
    obtain rfl := hd
    refine (readField_speaks h.coverUrl _ _).andThen ?_
    rintro ⟨cover, _⟩ _ rfl
    refine (readField_speaks hu _ _).andThen ?_
    rintro ⟨url, vars⟩ _ rfl
    exact .named (recordsNode_withPage hn d cover url vars)

theorem listBooks_gives {p : ListProfile} (h : rules.ReadFrom p.texts)
    (hu : Rule.resolveField p.bookUrl = .ok rules.bookUrl) (isFirst : Bool) (nodes : List ν) :
    (s.listBooks page rules vars isFirst nodes).Speaks fun books u =>
      s.NodesGive page p nodes books u := by
  induction nodes generalizing isFirst with
  | nil => exact NodesGive.nil
  | cons node nodes ih =>
    change (Procedure.andThen (s.listRecord rules _ node vars) _).Speaks
      fun books u => s.NodesGive page p (node :: nodes) books (.poll :: u)
    have hn : (s.listRecord rules (isFirst || s.options.traceAllItems) node vars).Speaks fun r u =>
        s.NodeGives page p node (r.1.map (s.withPage page)) (.poll :: u) := listRecord_gives h hu node
    refine hn.andThen ?_
    intro book u hw
    refine (ih false).andThen ?_
    intro books v hv
    change s.NodesGive page p (node :: nodes) _ ((.poll :: u) ++ (v ++ []))
    rw [List.append_nil]
    exact .cons hw hv

theorem detailRecord_gives (vars : Variables) :
    (s.detailRecord page vars : Procedure ν _).Speaks fun r u => s.PageGives page r.1 u := by
  refine (narrow_speaks vars).andThen ?_
  intro _ narrow hw
  refine Speaks.ofExcept_bind ⟨(none, vars), _, .nameless hw⟩ fun rules hr => ?_
  have h := FieldRules.readFrom_of_ofInfo hr
  refine (readField_speaks h.name _ _).andThen ?_
  rintro ⟨name, _⟩ _ rfl
  by_cases hn : name = ""
  · subst hn
    exact .nameless hw
  · simp only [String.isEmpty_iff, hn, if_false]
    refine (readDetails_gives h _).andThen ?_
    rintro ⟨_, _⟩ _ ⟨d, hd, rfl⟩
    obtain rfl := hd
    refine (readField_speaks h.coverUrl _ _).andThen ?_
    rintro ⟨cover, _⟩ _ rfl
    exact .named hw ⟨records_withDetails hn d _ _ _ _, rfl, rfl, shows_present? _⟩

theorem detailBooks_gives {start : List (Step ν)} (hs : s.LeadsToPage isSearch start)
    (vars : Variables) :
    (s.detailBooks page vars : Procedure ν _).Speaks fun books u =>
      s.Gives isSearch page books (start ++ u) := by
  refine (detailRecord_gives vars).andThen ?_
  intro _ u hw
  change s.Gives isSearch page _ (start ++ (u ++ []))
  rw [List.append_nil]
  exact .page hs hw

theorem readBooks_gives {nodes : List ν} {start : List (Step ν)}
    (hs : s.LeadsToList isSearch nodes start) (vars : Variables) :
    let p := s.source.listProfile isSearch
    (s.readBooks page p (ListRule.ofText (p.bookList.getD "")) nodes vars).Speaks fun books u =>
      s.Gives isSearch page books (start ++ u) := by
  intro p
  have hw : ∃ books u, s.Gives isSearch page books (start ++ u) := by
    obtain ⟨w, hw⟩ := NodesGive.exists_word s page p nodes
    exact ⟨_, _, .list hs hw⟩
  refine Speaks.ofExcept hw fun rules hr => ?_
  obtain ⟨h, hu⟩ := FieldRules.readFrom_of_ofList hr
  refine (listBooks_gives h hu true nodes).andThen ?_
  intro books u hw
  have hg := Gives.list hs hw
  rw [← List.append_nil u] at hg
  split at hg
  · next hr =>
    simp only [p, hr, if_true]
    exact hg
  · next hr =>
    simp only [p, hr]
    exact hg

theorem books_gives (isSearch : Bool) (page : String) :
    (s.books isSearch page : Procedure ν _).Speaks fun books u =>
      s.Gives isSearch page books u := by
  refine Speaks.ofExcept (Gives.exists_word s isSearch page) fun isDetail hd => ?_
  cases isDetail with
  | true => exact detailBooks_gives (.address hd) .empty
  | false =>
    have hd : s.isDetailPage ≠ .ok true := by rw [hd]; simp
    refine (findBooks_speaks _ .empty).andThen ?_
    rintro ⟨nodes, vars⟩ _ ⟨init, hi, rfl⟩
    by_cases he : nodes = [] ∧ s.source.detailPattern? = none
    · obtain ⟨rfl, hp⟩ := he
      simp only [hp, List.isEmpty_nil, Option.isNone_none, Bool.and_self, if_true]
      exact detailBooks_gives (.emptyList hd hp hi) vars
    · have hn : nodes ≠ [] ∨ s.source.detailPattern? ≠ none := not_and_or.mp he
      simp only [Bool.and_eq_true, List.isEmpty_iff, Option.isNone_iff_eq_none, he, if_false]
      exact readBooks_gives (.nodes hd hn hi) vars

end Setting

/-- The books of a result are what was read, and nothing that was asked for them failed. A page that
is read as that of one book, by its address or because a list is empty, gives one book at most; it
has the address of the page, the page itself and the link to its cover as it was read. Otherwise
every node of the list gives one book at most, in order or, if the rule says so, in reverse order;
its address is the one that was read or else that of the page, the page is kept with it if the
address is that of the page, and the link to its cover is resolved. All books have a name, the
source they come from, and the fields that were read for them. -/
theorem analyze_gives_what_was_read (s : Setting) (isSearch : Bool) (body : Option String)
    (backend : Backend ω ν) (signal : Signal ω σ) (w : ω) (state : σ) :
    let r := (s.analyze isSearch body).run backend signal w state
    let profile := s.source.listProfile isSearch
    ∀ books, r.result = .ok books → (∀ a ∈ r.acts, a.succeeds) ∧
      ∃ page start rest, body = some page ∧
        List.Forall₂ Act.Spells r.steps (.poll :: .load page s.baseUrl :: (start ++ rest)) ∧
        ((s.LeadsToPage isSearch start ∧
            ∃ book : Option Book, books = book.toList ∧ s.PageGives page book rest) ∨
          ∃ nodes inOrder, s.LeadsToList isSearch nodes start ∧
            s.NodesGive page profile nodes inOrder rest ∧ inOrder.length ≤ nodes.length ∧
            books = if (ListRule.ofText (profile.bookList.getD "")).reversed then inOrder.reverse
              else inOrder) := by
  intro r profile books hr
  refine ⟨Procedure.run_strict backend signal _ w state (by rw [hr]; rfl), ?_⟩
  cases body with
  | none => cases hr
  | some page =>
    have hs : (s.analyze isSearch (some page) : Procedure ν _).Speaks fun books u =>
        ∃ v, u = .poll :: .load page s.baseUrl :: v ∧ s.Gives isSearch page books v :=
      (Setting.books_gives isSearch page).mono fun _ v hv => ⟨v, rfl, hv⟩
    obtain ⟨_, ⟨_, rfl, hg⟩, hu⟩ := (hs.run backend signal w state).whole books hr
    cases hg with
    | page hs hw => exact ⟨page, _, _, rfl, hu, .inl ⟨hs, _, rfl, hw⟩⟩
    | list hs hw => exact ⟨page, _, _, rfl, hu, .inr ⟨_, _, hs, hw, hw.length_le, rfl⟩⟩

theorem analyze_gives_what_was_read_constant :
    let s : Setting := ⟨default, "u", ⟨",", false, id, fun page link => page ++ link⟩⟩
    let r := (s.analyze true (some "b")).run (.constant "x") .never () ()
    let book : Book := { s.newBook "x" with
      author := "x", bookUrl := "x", coverUrl := some "ux", intro := some "x", kind := some "x",
      wordCount := some "x", latestChapterTitle := some "x" }
    r.result = .ok [book] ∧ (∀ a ∈ r.acts, a.succeeds) ∧
      ∃ page start rest, some "b" = some page ∧
        List.Forall₂ Act.Spells r.steps (.poll :: .load page s.baseUrl :: (start ++ rest)) ∧
        ((s.LeadsToPage true start ∧
            ∃ b : Option Book, [book] = b.toList ∧ s.PageGives page b rest) ∨
          ∃ nodes inOrder, s.LeadsToList true nodes start ∧
            s.NodesGive page s.source.search nodes inOrder rest ∧ inOrder.length ≤ nodes.length ∧
            [book] = if (ListRule.ofText (s.source.search.bookList.getD "")).reversed then
              inOrder.reverse else inOrder) := by
  intro s r book
  have h : r.result = .ok [book] := by decide +kernel
  exact ⟨h, analyze_gives_what_was_read s true (some "b") (.constant "x") .never () () _ h⟩

end Catalog
