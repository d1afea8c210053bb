import Catalog.Proofs.Analysis.Shortcut
import Catalog.Proofs.Pattern.Wrapping

/-! # Pages known by their address

A page is taken for that of a single book if the pattern of the source matches its whole address.
The pattern is compiled with a group and anchors around it, which is right for every pattern that
keeps within the group. One that hides the end of the group in a comment is refused, and so is a
text that is no pattern by itself, unless it closes the group on its own.
-/

namespace Catalog

namespace Pattern

variable {p : String}

def Valid (p : String) : Prop := (compile? p).isSome

/-- The pattern by itself matches the whole text. -/
def Spans (p text : String) : Prop :=
  ∃ parsed, parse? p.toList = some parsed ∧
    parsed.regex.Matches text.toList.toArray 0 text.toList.toArray.size

/-- The pattern is read up to a closing parenthesis behind it, and leaves room for a group and
anchors around it. -/
def Fits (p : String) : Prop :=
  ∃ fin, readLoop {} p.toList = some fin ∧ fin.stack = [] ∧
    readLoop {} (p.toList ++ [')']) = none ∧ fin.body.depth + 2 ≤ depthLimit ∧
      fin.body.regex.weight + 64 ≤ Regex.weightLimit

theorem toList_wrap (p : String) : ("^(?:" ++ p ++ ")$").toList = wrap p.toList := by
  simp [wrap]

theorem valid_iff : Valid p ↔ (parse? p.toList).isSome := by
  rw [Valid, compile?, Option.isSome_map]

theorem Valid.exists_reading (h : Valid p) :
    ∃ fin, readLoop {} p.toList = some fin ∧ fin.stack = [] := by
  obtain ⟨parsed, hp⟩ := Option.isSome_iff_exists.mp (valid_iff.mp h)
  obtain ⟨fin, hfin, -⟩ := Option.bind_eq_some_iff.mp hp
  rw [parse?_eq hfin] at hp
  split at hp
  · next hc => exact ⟨fin, hfin, hc.1⟩
  · cases hp

/-- A pattern that fits is compiled to one that matches where the pattern spans the text. -/
theorem Fits.compile? (h : Fits p) : ∃ pattern, compile? ("^(?:" ++ p ++ ")$") = some pattern ∧
    ∀ text : String, pattern.isMatch text.toList.toArray = true ↔ Spans p text := by
  obtain ⟨fin, hfin, hs, hc, hd, hw⟩ := h
  have hwrap := parse?_wrap hfin hs
  rw [if_pos ⟨hc, hd, hw⟩, ← toList_wrap] at hwrap
  have hparse : parse? p.toList = some ⟨fin.body.regex, fin.captures, fin.names⟩ := by
    rw [parse?_eq hfin, if_pos ⟨hs, by omega, by omega⟩]
  have hsome : (Pattern.compile? ("^(?:" ++ p ++ ")$")).isSome := by
    rw [Pattern.compile?, Option.isSome_map, hwrap]
    rfl
  obtain ⟨pattern, hpattern⟩ := Option.isSome_iff_exists.mp hsome
  refine ⟨pattern, hpattern, fun text => ?_⟩
  rw [isMatch_iff hpattern hwrap, Regex.matches_whole]
  constructor
  · exact fun hm => ⟨_, hparse, hm⟩
  · rintro ⟨parsed, hp, hm⟩
    cases hparse.symm.trans hp
    exact hm

theorem compile?_wrap_of_not_fits (hv : Valid p) (h : ¬Fits p) :
    compile? ("^(?:" ++ p ++ ")$") = none := by
  obtain ⟨fin, hfin, hs⟩ := hv.exists_reading
  unfold compile?
  rw [toList_wrap, parse?_wrap hfin hs, if_neg fun hc => h ⟨fin, hfin, hs, hc⟩]
  rfl

theorem compile?_wrap_of_not_valid (hv : ¬Valid p) (h : ¬Stray {} p.toList) :
    compile? ("^(?:" ++ p ++ ")$") = none := by
  unfold compile?
  rw [toList_wrap, parse?_wrap_eq_none (Option.not_isSome_iff_eq_none.mp (valid_iff.not.mp hv)) h]
  rfl

end Pattern

namespace Procedure

variable {ω σ ν α β : Type} {e : Event}

/-- The event is not reported, whatever is answered. -/
def Omits (e : Event) : Procedure ν α → Prop
  | done _ => True
  | fail _ => True
  | checkpoint next => next.Omits e
  | report e' next => e' ≠ e ∧ next.Omits e
  | load _ _ next => next.Omits e
  | enter _ next => next.Omits e
  | findNodes _ _ next => ∀ ns v, (next ns v).Omits e
  | findElement _ _ next => ∀ n v, (next n v).Omits e
  | readString _ _ _ next => ∀ s v, (next s v).Omits e
  | readList _ _ next => ∀ ss v, (next ss v).Omits e

theorem Omits.andThen {p : Procedure ν α} {f : α → Procedure ν β} (h : p.Omits e)
    (hf : ∀ a, (f a).Omits e) : (p.andThen f).Omits e := by
  induction p with
  | done a => exact hf a
  | fail e => trivial
  | checkpoint _ ih => exact ih h
  | report _ _ ih => exact ⟨h.1, ih h.2⟩
  | load _ _ _ ih => exact ih h
  | enter _ _ ih => exact ih h
  | findNodes _ _ _ ih => exact fun ns v => ih ns v (h ns v)
  | findElement _ _ _ ih => exact fun n v => ih n v (h n v)
  | readString _ _ _ _ ih => exact fun s v => ih s v (h s v)
  | readList _ _ _ ih => exact fun ss v => ih ss v (h ss v)

theorem omits_ofExcept (e : Event) (r : Except Error α) : (ofExcept r : Procedure ν α).Omits e := by
  cases r <;> trivial

theorem Omits.not_mem_call {act : Except Error β → Act ν} {answer : Except Error β × ω} {s : σ}
    {go : β → ω → Run ω σ ν α} (ha : ∀ r, (act r).event? = none)
    (h : ∀ b w, e ∉ (go b w).events) : e ∉ (Run.call act answer s go).events := by
  obtain ⟨x | b, w⟩ := answer
  · simp [Run.call, Run.events, ha]
  · have hb := h b w
    simpa [Run.call, Run.events, Run.prepend, ha] using hb

theorem Omits.not_mem_events {p : Procedure ν α} (h : p.Omits e) (he : e ≠ .cancelled)
    (backend : Backend ω ν) (signal : Signal ω σ) (w : ω) (s : σ) :
    e ∉ (p.run backend signal w s).events := by
  induction p generalizing w s with
  | done a => exact List.not_mem_nil
  | fail x => exact List.not_mem_nil
  | checkpoint _ ih =>
    rw [run]
    split
    · simpa [Run.events, Act.event?] using he.symm
    · simpa [Run.events, Run.prepend, Act.event?] using ih h w _
  | report _ _ ih =>
    have hr := ih h.2 w s
    simpa [run, Run.events, Run.prepend, Act.event?, h.1.symm] using hr
  | load _ _ _ ih => exact not_mem_call (fun _ => rfl) fun _ w => ih h w s
  | enter _ _ ih => exact not_mem_call (fun _ => rfl) fun _ w => ih h w s
  | findNodes _ _ _ ih => exact not_mem_call (fun _ => rfl) fun r w => ih r.1 r.2 (h r.1 r.2) w s
  | findElement _ _ _ ih => exact not_mem_call (fun _ => rfl) fun r w => ih r.1 r.2 (h r.1 r.2) w s
  | readString _ _ _ _ ih => exact not_mem_call (fun _ => rfl) fun r w => ih r.1 r.2 (h r.1 r.2) w s
  | readList _ _ _ ih => exact not_mem_call (fun _ => rfl) fun r w => ih r.1 r.2 (h r.1 r.2) w s

end Procedure

namespace Setting

open Procedure

variable {ω σ ν : Type} {s : Setting} {rules : FieldRules} {v : Variables} {isSearch : Bool}
  {body pattern : String}

theorem readField_omits (field : String) (c : Chain) (isUrl verbose : Bool) :
    (readField field c isUrl verbose v : Procedure ν _).Omits .detailPage :=
  fun _ _ => ⟨nofun, trivial⟩

theorem readJoined_omits (field : String) (c : Chain) (verbose : Bool) :
    (s.readJoined field c verbose v : Procedure ν _).Omits .detailPage :=
  fun _ _ => ⟨nofun, trivial⟩

theorem readDetails_omits (verbose : Bool) (book : Book) :
    (s.readDetails rules verbose book v : Procedure ν _).Omits .detailPage := by
  refine (readField_omits _ _ _ _).andThen ?_
  rintro ⟨author, _⟩
  refine (readJoined_omits _ _ _).andThen ?_
  rintro ⟨kind, _⟩
  refine (readField_omits _ _ _ _).andThen ?_
  rintro ⟨wordCount, _⟩
  refine (readField_omits _ _ _ _).andThen ?_
  rintro ⟨latest, _⟩
  refine (readField_omits _ _ _ _).andThen ?_
  rintro ⟨intro, _⟩
  trivial

theorem boundRecord_omits (verbose : Bool) :
    (s.boundRecord rules verbose v : Procedure ν _).Omits .detailPage := by
  refine (readField_omits _ _ _ _).andThen ?_
  rintro ⟨name, _⟩
  by_cases hn : name.isEmpty
  · simp only [hn, if_true]
    trivial
  · simp only [hn]
    refine (readDetails_omits _ _).andThen ?_
    rintro ⟨book, _⟩
    refine (readField_omits _ _ _ _).andThen ?_
    rintro ⟨cover, _⟩
    refine (readField_omits _ _ _ _).andThen ?_
    rintro ⟨bookUrl, _⟩
    trivial

theorem listBooks_omits (isFirst : Bool) (nodes : List ν) :
    (s.listBooks body rules v isFirst nodes).Omits .detailPage := by
  induction nodes generalizing isFirst with
  | nil => trivial
  | cons node nodes ih =>
    have hnode (verbose : Bool) : (s.listRecord rules verbose node v).Omits .detailPage :=
      boundRecord_omits (v := v) verbose
    refine (hnode _).andThen ?_
    rintro ⟨book, _⟩
    exact (ih false).andThen fun _ => trivial

theorem readBooks_omits (p : ListProfile) (list : ListRule) (nodes : List ν) :
    (s.readBooks body p list nodes v).Omits .detailPage := by
  refine (omits_ofExcept _ _).andThen fun rules => ⟨nofun, ?_⟩
  refine (listBooks_omits true nodes).andThen fun books => ?_
  split
  · exact ⟨nofun, trivial⟩
  · trivial

theorem ofExcept_omits {α : Type} (r : Except Error α) :
    (Reader.ofExcept r v : Procedure ν _).Omits .detailPage :=
  (omits_ofExcept _ r).andThen fun _ => trivial

theorem runInit_omits (init : Option String) :
    (runInit init v : Procedure ν _).Omits .detailPage := by
  unfold runInit
  split
  · trivial
  · split
    · trivial
    · next rule _ =>
      refine ⟨nofun, ?_⟩
      have hrule : (Reader.ofExcept (Rule.resolve rule) v : Procedure ν _).Omits .detailPage :=
        ofExcept_omits _
      refine hrule.andThen ?_
      rintro ⟨chain, _⟩
      exact fun _ _ => trivial

theorem findBooks_omits (p : ListProfile) (list : ListRule) :
    (findBooks p list v : Procedure ν _).Omits .detailPage := by
  refine (runInit_omits _).andThen ?_
  rintro ⟨_, v⟩
  refine Omits.andThen (ofExcept_omits _) ?_
  rintro ⟨chain, _⟩
  exact fun _ _ => trivial

theorem books_omits (isSearch : Bool) (body : String) (hd : s.isDetailPage = .ok false)
    (hp : s.source.detailPattern? = some pattern) :
    (s.books isSearch body : Procedure ν _).Omits .detailPage := by
  unfold books
  rw [hd]
  refine (findBooks_omits _ _).andThen ?_
  rintro ⟨nodes, v⟩
  change (if nodes.isEmpty && s.source.detailPattern?.isNone then _ else _ : Procedure ν _).Omits _
  simp only [hp, Option.isNone_some, Bool.and_false, Bool.false_eq_true, if_false]
  exact readBooks_omits _ _ _

/-- The events and the result of an analysis are those of the books of the page that was bound. -/
theorem run_analyze (s : Setting) (isSearch : Bool) (body : String) (backend : Backend ω ν)
    (signal : Signal ω σ) (w : ω) (state : σ) (hs : (signal.poll w state).1 = false)
    (hb : ((backend.bind body s.baseUrl).run.run w).1 = .ok ()) :
    ∃ w' state', let run := (s.analyze isSearch (some body)).run backend signal w state
      let books := (s.books isSearch body).run backend signal w' state'
      run.result = books.result ∧ run.events = .fetched s.baseUrl :: books.events := by
  obtain ⟨state', hpoll⟩ : ∃ state', signal.poll w state = (false, state') := ⟨_, Prod.ext hs rfl⟩
  obtain ⟨w', hbind⟩ : ∃ w', (backend.bind body s.baseUrl).run.run w = (.ok (), w') :=
    ⟨_, Prod.ext hb rfl⟩
  refine ⟨w', state', ?_⟩
  simp only [analyze, Procedure.run, hpoll, hbind, Run.call]
  exact ⟨rfl, rfl⟩

theorem isDetailPage_of_compile?_eq_none (hp : s.source.detailPattern? = some pattern)
    (hc : Pattern.compile? ("^(?:" ++ pattern ++ ")$") = none) :
    s.isDetailPage = .error .invalidPattern := by
  unfold isDetailPage
  rw [hp]
  simp only [hc]

theorem result_of_isDetailPage {e : Error} (isSearch : Bool) (body : String)
    (backend : Backend ω ν) (signal : Signal ω σ) (w : ω) (state : σ)
    (hd : s.isDetailPage = .error e) :
    ((s.books isSearch body).run backend signal w state).result = .error e := by
  unfold books
  rw [hd]
  rfl

end Setting

/-- A page is taken for that of a book if the pattern of the source matches its whole address. For a
pattern that fits in a group with anchors around it, that is reported exactly if the pattern by
itself spans the address. A pattern that does not fit is refused as invalid, and so is a text that
is no pattern, unless reading it comes to a closing parenthesis while no group is open. -/
theorem analyze_detailPattern {ω σ ν : Type} (s : Setting) (isSearch : Bool) (body : String)
    (backend : Backend ω ν) (signal : Signal ω σ) (w : ω) (state : σ) {pattern : String}
    (hp : s.source.detailPattern? = some pattern) (hs : (signal.poll w state).1 = false)
    (hb : ((backend.bind body s.baseUrl).run.run w).1 = .ok ()) :
    let run := (s.analyze isSearch (some body)).run backend signal w state
    (Pattern.Fits pattern → (Event.detailPage ∈ run.events ↔ Pattern.Spans pattern s.baseUrl)) ∧
      (Pattern.Valid pattern → ¬Pattern.Fits pattern → run.result = .error .invalidPattern) ∧
      (¬Pattern.Valid pattern → ¬Pattern.Stray {} pattern.toList →
        run.result = .error .invalidPattern) := by
  obtain ⟨w', state', hresult, hevents⟩ :=
    Setting.run_analyze s isSearch body backend signal w state hs hb
  dsimp only
  rw [hresult, hevents]
  have hrefused (hc : Pattern.compile? ("^(?:" ++ pattern ++ ")$") = none) :=
    Setting.result_of_isDetailPage isSearch body backend signal w' state'
      (Setting.isDetailPage_of_compile?_eq_none hp hc)
  refine ⟨fun hf => ?_, fun hv hf => hrefused (Pattern.compile?_wrap_of_not_fits hv hf),
    fun hv hf => hrefused (Pattern.compile?_wrap_of_not_valid hv hf)⟩
  obtain ⟨p, hc, hm⟩ := hf.compile?
  rw [← hm]
  have hd := Setting.isDetailPage_of_compile? hp hc
  cases hmatch : p.isMatch s.baseUrl.toList.toArray with
  | true =>
    rw [hmatch] at hd
    rw [Setting.books_of_detailPage hd]
    simp [Procedure.run, Run.events, Run.prepend, Act.event?]
  | false =>
    rw [hmatch] at hd
    have homits : (s.books isSearch body : Procedure ν _).Omits .detailPage :=
      Setting.books_omits isSearch body hd hp
    simpa using homits.not_mem_events (by decide) backend signal w' state'

namespace Pattern

theorem fits_u : Fits "u" := by
  have hr : readLoop {} ['u'] = some (Reading.push {} (.set (.singleton 'u')) 0) := by
    with_unfolding_all rfl
  exact ⟨_, hr, rfl, by decide +kernel, by decide +kernel, by decide +kernel⟩

theorem spans_u : Spans "u" "u" := by
  have hp : parse? ['u'] = some ⟨.set (.singleton 'u'), 0, []⟩ := by with_unfolding_all rfl
  exact ⟨_, hp, ⟨'u', rfl, by decide +kernel⟩, rfl⟩

theorem not_fits_comment : ¬Fits "(?x)u#" := by
  rintro ⟨fin, -, -, hn, -⟩
  have hs : (readLoop {} ("(?x)u#".toList ++ [')'])).isSome := by decide +kernel
  rw [hn] at hs
  cases hs

theorem not_stray_open : ¬Stray {} "(u".toList := fun h => by
  have hs : (readLoop {} "(u".toList).isSome := by decide +kernel
  rw [h.readLoop_eq_none] at hs
  cases hs

end Pattern

/-- Three patterns for the address "u": one that fits, one that ends in a comment, and one that is
no pattern. -/
theorem analyze_detailPattern_three :
    let setting (pattern : String) : Setting :=
      ⟨{ (default : Source) with bookUrlPattern := some pattern }, "u", .standard⟩
    let run (pattern : String) :=
      ((setting pattern).analyze true (some "")).run Page.backend .never .unbound ()
    (setting "u").source.detailPattern? = some "u" ∧ Pattern.Fits "u" ∧ Pattern.Spans "u" "u" ∧
      Event.detailPage ∈ (run "u").events ∧
      (setting "(?x)u#").source.detailPattern? = some "(?x)u#" ∧ Pattern.Valid "(?x)u#" ∧
      ¬Pattern.Fits "(?x)u#" ∧ (run "(?x)u#").result = .error .invalidPattern ∧
      (setting "(u").source.detailPattern? = some "(u" ∧ ¬Pattern.Valid "(u" ∧
      ¬Pattern.Stray {} "(u".toList ∧ (run "(u").result = .error .invalidPattern := by
  intro setting run
  have hu : (setting "u").source.detailPattern? = some "u" := rfl
  have hc : (setting "(?x)u#").source.detailPattern? = some "(?x)u#" := rfl
  have ho : (setting "(u").source.detailPattern? = some "(u" := rfl
  have hcomment : Pattern.Valid "(?x)u#" := by unfold Pattern.Valid; decide +kernel
  have hopen : ¬Pattern.Valid "(u" := by unfold Pattern.Valid; decide +kernel
  exact ⟨hu, Pattern.fits_u, Pattern.spans_u,
    ((analyze_detailPattern (setting "u") true "" Page.backend .never .unbound () hu rfl rfl).1
      Pattern.fits_u).mpr Pattern.spans_u,
    hc, hcomment, Pattern.not_fits_comment,
    (analyze_detailPattern (setting "(?x)u#") true "" Page.backend .never .unbound () hc rfl
      rfl).2.1 hcomment Pattern.not_fits_comment,
    ho, hopen, Pattern.not_stray_open,
    (analyze_detailPattern (setting "(u") true "" Page.backend .never .unbound () ho rfl rfl).2.2
      hopen Pattern.not_stray_open⟩

/-- A text that is no pattern, but closes the group around it on its own, is taken for a pattern of
all addresses that begin as the text does. -/
theorem analyze_stray :
    let info : InfoProfile := { (default : InfoProfile) with name := some "$.n" }
    let source : Source := { (default : Source) with bookUrlPattern := some "h)|(?:x", info }
    let run := (Setting.analyze ⟨source, "https://x.com/a", .standard⟩ true
      (some "\x7b\"n\":\"x\"\x7d")).run Page.backend .never .unbound ()
    source.detailPattern? = some "h)|(?:x" ∧ ¬Pattern.Valid "h)|(?:x" ∧
      Event.detailPage ∈ run.events ∧ run.result.map (·.map Book.name) = .ok ["x"] := by
  intro info source run
  have hp : source.detailPattern? = some "h)|(?:x" := rfl
  have hd : Setting.isDetailPage ⟨source, "https://x.com/a", .standard⟩ = .ok true := by
    obtain ⟨p, hc⟩ : ∃ p, Pattern.compile? ("^(?:" ++ "h)|(?:x" ++ ")$") = some p :=
      Option.isSome_iff_exists.mp (by decide +kernel)
    have hparse : Pattern.parse? ("^(?:" ++ "h)|(?:x" ++ ")$").toList =
        some ⟨.alt (.seq (.anchor .textStart) (.set (.singleton 'h')))
          (.seq (.set (.singleton 'x')) (.anchor .textEnd)), 0, []⟩ := by
      with_unfolding_all rfl
    rw [Setting.isDetailPage_of_compile? hp hc, (Pattern.isMatch_iff hc hparse).mpr]
    have hfirst : (Pattern.Regex.set (.singleton 'h')).Matches "https://x.com/a".toList.toArray 0 1 :=
      ⟨⟨'h', by decide +kernel, by decide +kernel⟩, rfl⟩
    exact ⟨0, Nat.zero_le _, 1, .inl ⟨0, ⟨rfl, rfl⟩, hfirst⟩⟩
  refine ⟨hp, by unfold Pattern.Valid; decide +kernel, ?_, ?_⟩
  · obtain ⟨w, state, -, hevents⟩ := Setting.run_analyze ⟨source, "https://x.com/a", .standard⟩ true
      "\x7b\"n\":\"x\"\x7d" Page.backend .never .unbound () rfl rfl
    rw [hevents, Setting.books_of_detailPage hd]
    simp [Procedure.run, Run.events, Run.prepend, Act.event?]
  · rw [Setting.analyze_of_detailPage hd]
    decide +kernel

end Catalog
