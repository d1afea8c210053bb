import Catalog.Analysis.Analyze
import Catalog.Proofs.Analysis.Conformance

/-! # The protocol of an analysis

The polls and calls of an analysis, written as a grammar whose choices hang on the source and on the
answers that were given. Every run is the start of a word of it, and a run with a result is a word.
-/

namespace Catalog

variable {ω σ ν : Type}

structure FieldTexts where
  name : Option String
  author : Option String
  kind : Option String
  wordCount : Option String
  lastChapter : Option String
  intro : Option String
  coverUrl : Option String

def ListProfile.texts (p : ListProfile) : FieldTexts :=
  ⟨p.name, p.author, p.kind, p.wordCount, p.lastChapter, p.intro, p.coverUrl⟩

def InfoProfile.texts (p : InfoProfile) : FieldTexts :=
  ⟨p.name, p.author, p.kind, p.wordCount, p.lastChapter, p.intro, p.coverUrl⟩

def ListProfile.listText (p : ListProfile) : String := (ListRule.ofText (p.bookList.getD "")).rule

namespace Protocol

inductive Details (t : FieldTexts) : List (Step ν) → Prop where
  | mk (author : String) (kinds : List String) (wordCount latest intro : String) :
      Details t [.poll, .readString t.author false author, .poll, .readList t.kind kinds,
        .poll, .readString t.wordCount false wordCount,
        .poll, .readString t.lastChapter false latest, .poll, .readString t.intro false intro]

inductive Node (p : ListProfile) (node : ν) : List (Step ν) → Prop where
  | nameless : Node p node [.poll, .enter node, .poll, .readString p.name false ""]
  | named {name : String} {details : List (Step ν)} (cover url : String) (hn : name ≠ "")
      (hd : Details p.texts details) :
      Node p node (.poll :: .enter node :: .poll :: .readString p.name false name :: (details ++
        [.poll, .readString p.coverUrl false cover, .poll, .readString p.bookUrl true url]))

inductive Nodes (p : ListProfile) : List ν → List (Step ν) → Prop where
  | nil : Nodes p [] []
  | cons {node : ν} {nodes : List ν} {u v : List (Step ν)} (hu : Node p node u)
      (hv : Nodes p nodes v) : Nodes p (node :: nodes) (u ++ v)

/-- The page is narrowed to what a rule finds, unless the rule is blank or finds nothing. -/
inductive Narrow (init : Option String) : List (Step ν) → Prop where
  | blank (h : isBlankRule init) : Narrow init []
  | missed {rule : String} (hr : init = some rule) (h : ¬isBlankRule init) :
      Narrow init [.poll, .findElement rule none]
  | found {rule : String} (node : ν) (hr : init = some rule) (h : ¬isBlankRule init) :
      Narrow init [.poll, .findElement rule (some node), .enter node]

inductive Detail (p : InfoProfile) : List (Step ν) → Prop where
  | nameless {narrow : List (Step ν)} (hw : Narrow p.init narrow) :
      Detail p (narrow ++ [.poll, .readString p.name false ""])
  | named {narrow details : List (Step ν)} {name : String} (cover : String)
      (hw : Narrow p.init narrow) (hn : name ≠ "") (hd : Details p.texts details) :
      Detail p (narrow ++ .poll :: .readString p.name false name :: (details ++
        [.poll, .readString p.coverUrl true cover]))

inductive Init (init : Option String) : List (Step ν) → Prop where
  | blank (h : isBlankRule init) : Init init []
  | read (value : String) (h : ¬isBlankRule init) : Init init [.poll, .readString init false value]

/-- A page that is read as a list. Where the list is empty, and no pattern says which pages describe
one book, the page is taken for one that does. -/
inductive Listing (s : Source) (p : ListProfile) : List (Step ν) → Prop where
  | empty {init w : List (Step ν)} (hi : Init p.init init) (hp : s.detailPattern? = none)
      (hw : Detail s.info w) : Listing s p (init ++ .findNodes p.listText [] :: w)
  | nodes {init w : List (Step ν)} {nodes : List ν} (hi : Init p.init init)
      (hn : nodes ≠ [] ∨ s.detailPattern? ≠ none) (hw : Nodes p nodes w) :
      Listing s p (init ++ .findNodes p.listText nodes :: w)

/-- A whole analysis. -/
inductive Word (s : Setting) (isSearch : Bool) : Option String → List (Step ν) → Prop where
  | missing : Word s isSearch none []
  | detailPage {body : String} {w : List (Step ν)} (hd : s.isDetailPage = .ok true)
      (hw : Detail s.source.info w) :
      Word s isSearch (some body) (.poll :: .load body s.baseUrl :: w)
  | list {body : String} {w : List (Step ν)} (hd : s.isDetailPage ≠ .ok true)
      (hw : Listing s.source (s.source.listProfile isSearch) w) :
      Word s isSearch (some body) (.poll :: .load body s.baseUrl :: w)

theorem Nodes.exists_word (p : ListProfile) (nodes : List ν) : ∃ w, Nodes p nodes w := by
  induction nodes with
  | nil => exact ⟨[], .nil⟩
  | cons node nodes ih =>
    obtain ⟨w, hw⟩ := ih
    exact ⟨_, .cons .nameless hw⟩

theorem Narrow.exists_word (init : Option String) : ∃ w : List (Step ν), Narrow init w := by
  by_cases h : isBlankRule init
  · exact ⟨[], .blank h⟩
  · cases init with
    | none => exact absurd rfl h
    | some rule => exact ⟨_, .missed rfl h⟩

theorem Detail.exists_word (p : InfoProfile) : ∃ w : List (Step ν), Detail p w := by
  obtain ⟨_, hw⟩ := Narrow.exists_word (ν := ν) p.init
  exact ⟨_, .nameless hw⟩

theorem Init.exists_word (init : Option String) : ∃ w : List (Step ν), Init init w := by
  by_cases h : isBlankRule init
  · exact ⟨[], .blank h⟩
  · exact ⟨_, .read "" h⟩

theorem Listing.exists_word (s : Source) (p : ListProfile) {init : List (Step ν)}
    (hi : Init p.init init) : ∃ w, Listing s p (init ++ w) := by
  by_cases hp : s.detailPattern? = none
  · obtain ⟨w, hw⟩ := Detail.exists_word (ν := ν) s.info
    exact ⟨_, .empty hi hp hw⟩
  · exact ⟨_, .nodes hi (.inr hp) .nil⟩

end Protocol

open Procedure Protocol

structure FieldRules.ReadFrom (rules : FieldRules) (t : FieldTexts) : Prop where
  name : Rule.resolveField t.name = .ok rules.name
  author : Rule.resolveField t.author = .ok rules.author
  kind : Rule.resolveField t.kind = .ok rules.kind
  wordCount : Rule.resolveField t.wordCount = .ok rules.wordCount
  lastChapter : Rule.resolveField t.lastChapter = .ok rules.lastChapter
  intro : Rule.resolveField t.intro = .ok rules.intro
  coverUrl : Rule.resolveField t.coverUrl = .ok rules.coverUrl

theorem FieldRules.readFrom_of_ofList {p : ListProfile} {rules : FieldRules}
    (h : FieldRules.ofList p = .ok rules) :
    rules.ReadFrom p.texts ∧ Rule.resolveField p.bookUrl = .ok rules.bookUrl := by
  obtain ⟨_, hn, h⟩ := Error.ok_of_bind_ok h
  obtain ⟨_, hb, h⟩ := Error.ok_of_bind_ok h
  obtain ⟨_, ha, h⟩ := Error.ok_of_bind_ok h
  obtain ⟨_, hc, h⟩ := Error.ok_of_bind_ok h
  obtain ⟨_, hi, h⟩ := Error.ok_of_bind_ok h
  obtain ⟨_, hk, h⟩ := Error.ok_of_bind_ok h
  obtain ⟨_, hl, h⟩ := Error.ok_of_bind_ok h
  obtain ⟨_, hw, h⟩ := Error.ok_of_bind_ok h
  cases h
  exact ⟨⟨hn, ha, hk, hw, hl, hi, hc⟩, hb⟩

theorem FieldRules.readFrom_of_ofInfo {p : InfoProfile} {rules : FieldRules}
    (h : FieldRules.ofInfo p = .ok rules) : rules.ReadFrom p.texts := by
  obtain ⟨_, hn, h⟩ := Error.ok_of_bind_ok h
  obtain ⟨_, ha, h⟩ := Error.ok_of_bind_ok h
  obtain ⟨_, hc, h⟩ := Error.ok_of_bind_ok h
  obtain ⟨_, hi, h⟩ := Error.ok_of_bind_ok h
  obtain ⟨_, hk, h⟩ := Error.ok_of_bind_ok h
  obtain ⟨_, hl, h⟩ := Error.ok_of_bind_ok h
  obtain ⟨_, hw, h⟩ := Error.ok_of_bind_ok h
  cases h
  exact ⟨hn, ha, hk, hw, hl, hi, hc⟩

namespace Setting

variable {s : Setting} {rules : FieldRules} {t : FieldTexts} {vars : Variables} {verbose : Bool}

theorem readField_speaks {rule : Option String} {c : Chain} (h : Rule.resolveField rule = .ok c)
    (field : String) (isUrl : Bool) :
    (readField field c isUrl verbose vars : Procedure ν _).Speaks fun r u =>
      u = [.poll, .readString rule isUrl r.1] :=
  ⟨rule, h, fun _ _ => rfl⟩

theorem readJoined_speaks {rule : Option String} {c : Chain} (h : Rule.resolveField rule = .ok c)
    (field : String) :
    (s.readJoined field c verbose vars : Procedure ν _).Speaks fun _ u =>
      ∃ values, u = [.poll, .readList rule values] :=
  ⟨rule, h, fun values _ => ⟨values, rfl⟩⟩

theorem readDetails_speaks (h : rules.ReadFrom t) (book : Book) :
    (s.readDetails rules verbose book vars : Procedure ν _).Speaks fun _ u => Details t u := by
  refine (readField_speaks h.author _ _).andThen ?_
  rintro ⟨author, _⟩ _ rfl
  refine (readJoined_speaks h.kind _).andThen ?_
  rintro _ _ ⟨kinds, rfl⟩
  refine (readField_speaks h.wordCount _ _).andThen ?_
  rintro ⟨wordCount, _⟩ _ rfl
  refine (readField_speaks h.lastChapter _ _).andThen ?_
  rintro ⟨latest, _⟩ _ rfl
  refine (readField_speaks h.intro _ _).andThen ?_
  rintro ⟨intro, _⟩ _ rfl
  exact .mk author kinds wordCount latest intro

theorem listRecord_speaks {p : ListProfile} (h : rules.ReadFrom p.texts)
    (hu : Rule.resolveField p.bookUrl = .ok rules.bookUrl) (node : ν) :
    (s.listRecord rules verbose node vars).Speaks fun _ u => Node p node (.poll :: u) := by
  refine Speaks.andThen (L := fun _ u => u = [.enter node]) rfl ?_
  rintro _ _ rfl
  refine (readField_speaks h.name _ _).andThen ?_
  rintro ⟨name, _⟩ _ rfl
  by_cases hn : name = ""
  · subst hn
    exact .nameless
  · simp only [String.isEmpty_iff, hn, if_false]
    refine (readDetails_speaks h _).andThen ?_
    rintro _ details hd
    refine (readField_speaks h.coverUrl _ _).andThen ?_
    rintro ⟨cover, _⟩ _ rfl
    refine (readField_speaks hu _ _).andThen ?_
    rintro ⟨url, _⟩ _ rfl
    exact .named cover url hn hd

theorem listBooks_speaks {p : ListProfile} (h : rules.ReadFrom p.texts)
    (hu : Rule.resolveField p.bookUrl = .ok rules.bookUrl) (body : String) (isFirst : Bool)
    (nodes : List ν) :
    (s.listBooks body rules vars isFirst nodes).Speaks fun _ u => Nodes p nodes u := by
  induction nodes generalizing isFirst with
  | nil => exact Nodes.nil
  | cons node nodes ih =>
    change (Procedure.andThen (s.listRecord rules _ node vars) _).Speaks
      fun _ u => Nodes p (node :: nodes) (.poll :: u)
    refine (listRecord_speaks h hu node).andThen ?_
    intro _ u hw
    refine (ih false).andThen ?_
    intro _ v hv
    change Nodes p (node :: nodes) ((.poll :: u) ++ (v ++ []))
    rw [List.append_nil]
    exact .cons hw hv

theorem narrow_speaks (vars : Variables) :
    (s.narrow vars : Procedure ν _).Speaks fun _ u => Narrow s.source.info.init u := by
  unfold narrow
  cases hi : s.source.info.init with
  | none => exact .blank rfl
  | some init =>
    by_cases hb : isBlankRule (some init)
    · simp only [if_pos hb]
      exact .blank hb
    · simp only [if_neg hb]
      refine Speaks.ofExcept_bind ⟨((), vars), _, .missed rfl hb⟩ fun c hc => ?_
      refine ⟨init, hc, fun n _ => ?_⟩
      cases n with
      | none => exact .missed rfl hb
      | some node => exact .found node rfl hb

theorem detailRecord_speaks (body : String) (vars : Variables) :
    (s.detailRecord body vars : Procedure ν _).Speaks fun _ u => Detail s.source.info u := by
  refine (narrow_speaks vars).andThen ?_
  intro _ narrow hw
  refine Speaks.ofExcept_bind ⟨(none, vars), _, .nameless hw⟩ fun rules hr => ?_
  have h := FieldRules.readFrom_of_ofInfo hr
  refine (readField_speaks h.name _ _).andThen ?_
  rintro ⟨name, _⟩ _ rfl
  by_cases hn : name = ""
  · subst hn
    exact .nameless hw
  · simp only [String.isEmpty_iff, hn, if_false]
    refine (readDetails_speaks h _).andThen ?_
    rintro _ details hd
    refine (readField_speaks h.coverUrl _ _).andThen ?_
    rintro ⟨cover, _⟩ _ rfl
    exact .named cover hw hn hd

theorem detailBooks_speaks (body : String) (vars : Variables) :
    (s.detailBooks body vars : Procedure ν _).Speaks fun _ u => Detail s.source.info u := by
  refine (detailRecord_speaks body vars).andThen ?_
  intro _ u hw
  change Detail s.source.info (u ++ [])
  rwa [List.append_nil]

theorem runInit_speaks (init : Option String) (vars : Variables) :
    (runInit init vars : Procedure ν _).Speaks fun _ u => Init init u := by
  unfold runInit
  cases init with
  | none => exact .blank rfl
  | some rule =>
    by_cases hb : isBlankRule (some rule)
    · simp only [if_pos hb]
      exact .blank hb
    · simp only [if_neg hb]
      refine Speaks.ofExcept_bind ⟨((), vars), _, .read "" hb⟩ fun c hc => ?_
      exact ⟨some rule, hc, fun value _ => .read value hb⟩

theorem findBooks_speaks (p : ListProfile) (vars : Variables) :
    (findBooks p (ListRule.ofText (p.bookList.getD "")) vars : Procedure ν _).Speaks fun r u =>
      ∃ init, Init p.init init ∧ u = init ++ [.findNodes p.listText r.1] := by
  refine (runInit_speaks p.init vars).andThen ?_
  rintro ⟨_, vars⟩ init hi
  refine Speaks.ofExcept_bind ⟨([], vars), _, init, hi, rfl⟩ fun c hc => ?_
  exact ⟨p.listText, hc, fun _ _ => ⟨init, hi, rfl⟩⟩

theorem readBooks_speaks {p : ListProfile} {list : ListRule} {init : List (Step ν)}
    {nodes : List ν} (hi : Init p.init init) (hn : nodes ≠ [] ∨ s.source.detailPattern? ≠ none)
    (body : String) (vars : Variables) :
    (s.readBooks body p list nodes vars).Speaks fun _ u =>
      Listing s.source p (init ++ .findNodes p.listText nodes :: u) := by
  obtain ⟨w, hw⟩ := Nodes.exists_word p nodes
  refine Speaks.ofExcept ⟨[], w, .nodes hi hn hw⟩ fun rules hr => ?_
  obtain ⟨h, hu⟩ := FieldRules.readFrom_of_ofList hr
  refine (listBooks_speaks h hu body true nodes).andThen ?_
  intro books u hw
  have hl : Listing s.source p (init ++ .findNodes p.listText nodes :: (u ++ [])) := by
    rw [List.append_nil]
    exact .nodes hi hn hw
  split
  · exact hl
  · exact hl

/-- Behind the address of the page there is a whole analysis. -/
theorem exists_word (s : Setting) (isSearch : Bool) (body : String) :
    ∃ w : List (Step ν), Word s isSearch (some body) (.poll :: .load body s.baseUrl :: w) := by
  by_cases hd : s.isDetailPage = .ok true
  · obtain ⟨w, hw⟩ := Detail.exists_word (ν := ν) s.source.info
    exact ⟨w, .detailPage hd hw⟩
  · obtain ⟨init, hi⟩ := Init.exists_word (ν := ν) (s.source.listProfile isSearch).init
    obtain ⟨w, hw⟩ := Listing.exists_word s.source _ hi
    exact ⟨_, .list hd hw⟩

theorem books_speaks (isSearch : Bool) (body : String) :
    (s.books isSearch body : Procedure ν _).Speaks fun _ u =>
      Word s isSearch (some body) (.poll :: .load body s.baseUrl :: u) := by
  obtain ⟨w, hw⟩ := exists_word (ν := ν) s isSearch body
  refine Speaks.ofExcept ⟨[], w, hw⟩ fun isDetail hd => ?_
  cases isDetail with
  | true => exact (detailBooks_speaks body .empty).mono fun _ _ hw => .detailPage hd hw
  | false =>
    have hd : s.isDetailPage ≠ .ok true := by rw [hd]; simp
    refine (findBooks_speaks _ .empty).andThen ?_
    rintro ⟨nodes, vars⟩ _ ⟨init, hi, rfl⟩
    simp only [List.append_assoc, List.cons_append, List.nil_append]
    by_cases he : nodes = [] ∧ s.source.detailPattern? = none
    · obtain ⟨rfl, hp⟩ := he
      simp only [hp, List.isEmpty_nil, Option.isNone_none, Bool.and_self, if_true]
      exact (detailBooks_speaks body vars).mono fun _ _ hw => .list hd (.empty hi hp hw)
    · have hn : nodes ≠ [] ∨ s.source.detailPattern? ≠ none := not_and_or.mp he
      simp only [Bool.and_eq_true, List.isEmpty_iff, Option.isNone_iff_eq_none, he, if_false]
      exact (readBooks_speaks hi hn body vars).mono fun _ _ hw => .list hd hw

theorem analyze_speaks (isSearch : Bool) (body : Option String) :
    (s.analyze isSearch body : Procedure ν _).Speaks fun _ u => Word s isSearch body u := by
  cases body with
  | none => exact ⟨[], [], .missing⟩
  | some body => exact books_speaks isSearch body

end Setting

/-- Every analysis keeps to the protocol: what it polls and calls is the start of a word, and a whole
word if the analysis has a result. -/
theorem analyze_follows_protocol (s : Setting) (isSearch : Bool) (body : Option String)
    (backend : Backend ω ν) (signal : Signal ω σ) (w : ω) (state : σ) :
    let r := (s.analyze isSearch body).run backend signal w state
    (∃ u v, Word s isSearch body u ∧ v <+: u ∧ List.Forall₂ Act.Spells r.steps v) ∧
    ∀ books, r.result = .ok books →
      ∃ u, Word s isSearch body u ∧ List.Forall₂ Act.Spells r.steps u := by
  intro r
  have h := (Setting.analyze_speaks (s := s) isSearch body).run backend signal w state
  obtain ⟨_, u, v, hu, hv, hr⟩ := h.start
  exact ⟨⟨u, v, hu, hv, hr⟩, h.whole⟩

theorem analyze_constant_word :
    let s : Setting := ⟨default, "u", ⟨",", false, id, fun _ link => link⟩⟩
    let r := (s.analyze true (some "b")).run (.constant "x") .never () ()
    (∃ books, r.result = .ok books) ∧
      ∃ u, Word s true (some "b") u ∧ List.Forall₂ Act.Spells r.steps u := by
  intro s r
  have h : r.result = .ok [{ s.newBook "x" with
      author := "x", bookUrl := "x", coverUrl := some "x", intro := some "x", kind := some "x",
      wordCount := some "x", latestChapterTitle := some "x" }] := by decide +kernel
  exact ⟨⟨_, h⟩, (analyze_follows_protocol s true (some "b") _ _ () ()).2 _ h⟩

end Catalog
