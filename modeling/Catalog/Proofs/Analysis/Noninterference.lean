import Catalog.Proofs.Analysis.Contract
import Catalog.Proofs.Analysis.Lockstep

/-! # What options have a part in

Options decide how the author, the kinds and the link to the cover of a book are kept, and how much
of interest its fields are. They have no part in what is asked, in what is read, in what fails, or
in any other field: two runs with different options are in lockstep, and their books come from the
same values.
-/

namespace Catalog

variable {ω σ ν α β : Type}

section

variable {E : Event → Event → Prop} {R : α → β → Prop} {as bs : List (Act ν)}

theorem Act.Lift.filter_eq (h : List.Forall₂ (Act.Lift E) as bs) :
    (as.filter fun a => a.isPoll || a.isCall) = bs.filter fun a => a.isPoll || a.isCall := by
  induction h with
  | nil => rfl
  | cons ha _ ih =>
    cases ha with
    | same a => simp only [List.filter_cons, ih]
    | report _ => exact ih

theorem Act.Lift.events (hE : ∀ e, E e e) (h : List.Forall₂ (Act.Lift E) as bs) :
    List.Forall₂ E (as.filterMap Act.event?) (bs.filterMap Act.event?) := by
  induction h with
  | nil => exact .nil
  | @cons a _ _ _ ha _ ih =>
    cases ha with
    | same =>
      cases a with
      | report e => exact .cons (hE e) ih
      | _ => exact ih
    | report he => exact .cons he ih

theorem Run.Lockstep.steps_eq {r : Run ω σ ν α} {t : Run ω σ ν β} (h : Lockstep E R r t) :
    r.steps = t.steps := Act.Lift.filter_eq h.acts

theorem Run.Lockstep.events {r : Run ω σ ν α} {t : Run ω σ ν β} (h : Lockstep E R r t)
    (hE : ∀ e, E e e) : List.Forall₂ E r.events t.events := Act.Lift.events hE h.acts

end

theorem Event.SaysSame.refl (e : Event) : e.SaysSame e := ⟨rfl, rfl⟩

inductive Event.Alike (o o' : Options) : Event → Event → Prop where
  | same {e e' : Event} (h : e.SaysSame e') : Alike o o' e e'
  | kinds (values : List String) (verbose verbose' : Bool) :
      Alike o o' (.field "kind" (o.kindSeparator.intercalate values) verbose)
        (.field "kind" (o'.kindSeparator.intercalate values) verbose')

theorem Event.Alike.refl {o o' : Options} (e : Event) : e.Alike o o' e := .same (.refl e)

/-- A book without the fields that options have a part in. -/
def Book.bare (b : Book) : Book := { b with author := "", kind := none, coverUrl := none }

/-- Books that come from the same values, each with options of its own. -/
structure Book.Alike (o o' : Options) (b b' : Book) : Prop where
  bare : b.bare = b'.bare
  author : ∃ author, b.author = o.formatAuthor author ∧ b'.author = o'.formatAuthor author
  kind : ∃ kinds, b.kind = present? (o.kindSeparator.intercalate kinds) ∧
    b'.kind = present? (o'.kindSeparator.intercalate kinds)
  cover : b.coverUrl = b'.coverUrl ∨ ∃ base link, b.coverUrl = some (o.resolveLink base link) ∧
    b'.coverUrl = some (o'.resolveLink base link)

namespace Book.Alike

variable {o o' : Options} {b b' : Book}

theorem bookUrl (h : b.Alike o o' b') : b.bookUrl = b'.bookUrl := by
  have hb := congrArg Book.bookUrl h.bare
  exact hb

theorem isSome_coverUrl (h : b.Alike o o' b') : b.coverUrl.isSome = b'.coverUrl.isSome := by
  rcases h.cover with he | ⟨base, link, hb, hb'⟩
  · rw [he]
  · rw [hb, hb']
    rfl

/-- Where the options make the same of the values, the books are the same. -/
theorem eq_of_trace {verbose : Bool} (h : b.Alike o { o with traceAllItems := verbose } b') :
    b = b' := by
  obtain ⟨_, ha, ha'⟩ := h.author
  obtain ⟨_, hk, hk'⟩ := h.kind
  have hc : b.coverUrl = b'.coverUrl := by
    rcases h.cover with he | ⟨_, _, hb, hb'⟩
    · exact he
    · rw [hb, hb']
  have hb := h.bare
  cases b
  cases b'
  simp_all only [Book.bare, Book.mk.injEq]

end Book.Alike

theorem Event.Alike.saysSame_of_trace {o : Options} {verbose : Bool} {e e' : Event}
    (h : e.Alike o { o with traceAllItems := verbose } e') : e.SaysSame e' := by
  cases h with
  | same h => exact h
  | kinds values => exact ⟨rfl, rfl⟩

namespace Setting

open Procedure

def withOptions (s : Setting) (o : Options) : Setting := { s with options := o }

variable {s : Setting} {o : Options} {rules : FieldRules} {vars : Variables}
  (verbose verbose' : Bool)

theorem readField_alike (field : String) (c : Chain) (isUrl : Bool) :
    (readField field c isUrl verbose vars : Procedure ν _).Lockstep (Event.Alike s.options o) Eq
      (readField field c isUrl verbose' vars) :=
  (readField_lockstep verbose verbose' field c isUrl).mono (fun _ _ h => .same h) fun _ _ h => h

theorem readJoined_alike (c : Chain) :
    (s.readJoined "kind" c verbose vars : Procedure ν _).Lockstep (Event.Alike s.options o)
      (fun r r' => ∃ kinds, r.1 = s.options.kindSeparator.intercalate kinds ∧
        r'.1 = o.kindSeparator.intercalate kinds ∧ r.2 = r'.2)
      ((s.withOptions o).readJoined "kind" c verbose' vars) :=
  .checkpoint (.readList _ _ fun values _ =>
    .report (.kinds values verbose verbose') (.done ⟨values, rfl, rfl, rfl⟩))

theorem readDetails_alike (book : Book) :
    (s.readDetails rules verbose book vars : Procedure ν _).Lockstep (Event.Alike s.options o)
      (fun r r' => ∃ d : BookDetails, r.1 = s.withDetails d book ∧
        r'.1 = (s.withOptions o).withDetails d book ∧ r.2 = r'.2)
      ((s.withOptions o).readDetails rules verbose' book vars) := by
  refine (readField_alike verbose verbose' _ _ _).andThen ?_
  rintro ⟨author, _⟩ _ rfl
  refine (readJoined_alike verbose verbose' _).andThen ?_
  rintro ⟨_, _⟩ ⟨_, _⟩ ⟨kinds, hk, hk', hv⟩
  obtain rfl := hk
  obtain rfl := hk'
  obtain rfl := hv
  refine (readField_alike verbose verbose' _ _ _).andThen ?_
  rintro ⟨wordCount, _⟩ _ rfl
  refine (readField_alike verbose verbose' _ _ _).andThen ?_
  rintro ⟨latest, _⟩ _ rfl
  refine (readField_alike verbose verbose' _ _ _).andThen ?_
  rintro ⟨intro, _⟩ _ rfl
  exact .done ⟨⟨author, kinds, wordCount, latest, intro⟩, rfl, rfl, rfl⟩

def AlikeOptional (o o' : Options) (r r' : Option Book × Variables) : Prop :=
  Option.Rel (Book.Alike o o') r.1 r'.1

theorem boundRecord_alike :
    (s.boundRecord rules verbose vars : Procedure ν _).Lockstep (Event.Alike s.options o)
      (AlikeOptional s.options o) ((s.withOptions o).boundRecord rules verbose' vars) := by
  refine (readField_alike verbose verbose' _ _ _).andThen ?_
  rintro ⟨name, _⟩ _ rfl
  by_cases hn : name.isEmpty
  · simp only [hn, if_true]
    exact .done .none
  · simp only [hn]
    refine (readDetails_alike verbose verbose' _).andThen ?_
    rintro ⟨_, _⟩ ⟨_, _⟩ ⟨d, hd, hd', hv⟩
    obtain rfl := hd
    obtain rfl := hd'
    obtain rfl := hv
    refine (readField_alike verbose verbose' _ _ _).andThen ?_
    rintro ⟨cover, _⟩ _ rfl
    refine (readField_alike verbose verbose' _ _ _).andThen ?_
    rintro ⟨bookUrl, _⟩ _ rfl
    refine .done (.some ⟨rfl, ⟨d.author, rfl, rfl⟩, ⟨d.kinds, rfl, rfl⟩, ?_⟩)
    change (present? cover).map _ = (present? cover).map _ ∨ _
    cases present? cover with
    | none => exact .inl rfl
    | some link => exact .inr ⟨s.baseUrl, link, rfl, rfl⟩

theorem detailRecord_alike (body : String) :
    (s.detailRecord body vars : Procedure ν _).Lockstep (Event.Alike s.options o)
      (AlikeOptional s.options o) ((s.withOptions o).detailRecord body vars) := by
  refine (Lockstep.refl Event.Alike.refl (s.narrow vars)).andThen ?_
  rintro ⟨_, _⟩ _ rfl
  refine (Lockstep.refl Event.Alike.refl _).andThen ?_
  rintro ⟨rules, _⟩ _ rfl
  refine (readField_alike true true _ _ _).andThen ?_
  rintro ⟨name, _⟩ _ rfl
  by_cases hn : name.isEmpty
  · simp only [hn, if_true]
    exact .done .none
  · simp only [hn]
    refine (readDetails_alike true true _).andThen ?_
    rintro ⟨_, _⟩ ⟨_, _⟩ ⟨d, hd, hd', hv⟩
    obtain rfl := hd
    obtain rfl := hd'
    obtain rfl := hv
    refine (readField_alike true true _ _ _).andThen ?_
    rintro ⟨cover, _⟩ _ rfl
    exact .done (.some ⟨rfl, ⟨d.author, rfl, rfl⟩, ⟨d.kinds, rfl, rfl⟩, .inl rfl⟩)

theorem withPage_alike {b b' : Book} (h : b.Alike s.options o b') (body : String) :
    (s.withPage body b).Alike s.options o ((s.withOptions o).withPage body b') := by
  change Book.Alike _ _ (if b.bookUrl = s.baseUrl then _ else _)
    (if b'.bookUrl = s.baseUrl then _ else _)
  by_cases hu : b.bookUrl = s.baseUrl
  · rw [if_pos hu, if_pos (h.bookUrl.symm.trans hu)]
    have hb := congrArg ({ · with infoHtml := some body }) h.bare
    exact ⟨hb, h.author, h.kind, h.cover⟩
  · rw [if_neg hu, if_neg (h.bookUrl ▸ hu)]
    exact h

abbrev AlikeBooks (o o' : Options) : List Book → List Book → Prop := List.Forall₂ (Book.Alike o o')

theorem alikeBooks_toList {o o' : Options} {b b' : Option Book}
    (h : Option.Rel (Book.Alike o o') b b') : AlikeBooks o o' b.toList b'.toList := by
  cases h with
  | none => exact .nil
  | some h => exact .cons h .nil

theorem detailBooks_alike (body : String) :
    (s.detailBooks body vars : Procedure ν _).Lockstep (Event.Alike s.options o)
      (AlikeBooks s.options o) ((s.withOptions o).detailBooks body vars) :=
  (detailRecord_alike body).andThen fun _ _ h => .done (alikeBooks_toList h)

/-- The two options may differ in whose fields are of interest, so the first book matters only to
the reports. -/
theorem listBooks_alike (body : String) (isFirst : Bool) (nodes : List ν) :
    (s.listBooks body rules vars isFirst nodes).Lockstep (Event.Alike s.options o)
      (AlikeBooks s.options o) ((s.withOptions o).listBooks body rules vars isFirst nodes) := by
  induction nodes generalizing isFirst with
  | nil => exact .done .nil
  | cons node nodes ih =>
    refine .checkpoint (Lockstep.andThen (.enter node (boundRecord_alike _ _)) ?_)
    rintro ⟨book, _⟩ ⟨book', _⟩ h
    refine (ih false).andThen fun books books' hs => .done ?_
    refine List.rel_append (alikeBooks_toList ?_) hs
    cases h with
    | none => exact .none
    | some h => exact .some (withPage_alike h body)

theorem readBooks_alike (body : String) (p : ListProfile) (list : ListRule) (nodes : List ν) :
    (s.readBooks body p list nodes vars).Lockstep (Event.Alike s.options o)
      (AlikeBooks s.options o) ((s.withOptions o).readBooks body p list nodes vars) := by
  refine (Lockstep.refl Event.Alike.refl _).andThen ?_
  rintro rules _ rfl
  refine .report (.refl _) ((listBooks_alike body true nodes).andThen fun books books' h => ?_)
  split
  · exact .report (.refl _) (.done (List.forall₂_reverse_iff.mpr h))
  · exact .done h

theorem books_alike (isSearch : Bool) (body : String) :
    (s.books isSearch body : Procedure ν _).Lockstep (Event.Alike s.options o)
      (AlikeBooks s.options o) ((s.withOptions o).books isSearch body) := by
  refine (Lockstep.refl Event.Alike.refl (ofExcept s.isDetailPage)).andThen ?_
  rintro isDetail _ rfl
  cases isDetail with
  | true => exact .report (.refl _) (detailBooks_alike body)
  | false =>
    refine (Lockstep.refl Event.Alike.refl _).andThen ?_
    rintro ⟨nodes, vars⟩ _ rfl
    change Lockstep _ _ (if nodes.isEmpty && s.source.detailPattern?.isNone then _ else _)
      (if nodes.isEmpty && s.source.detailPattern?.isNone then _ else _)
    split
    · exact .report (.refl _) (detailBooks_alike body)
    · exact readBooks_alike body _ _ nodes

theorem analyze_alike (isSearch : Bool) (body : Option String) :
    (s.analyze isSearch body : Procedure ν _).Lockstep (Event.Alike s.options o)
      (AlikeBooks s.options o) ((s.withOptions o).analyze isSearch body) := by
  cases body with
  | none => exact .fail _
  | some body => exact .report (.refl _) (.checkpoint (.load body _ (books_alike isSearch body)))

end Setting

/-- Options touch their own fields only. Whatever two options are chosen, the analysis makes the
same polls and calls, with the same answers, and fails alike or has as many books; book by book they
agree on every field but the author, the kinds and the link to the cover, and on whether there is
such a link. Options that differ in nothing but whose fields are of interest have the same books,
and report the same one by one. -/
theorem analyze_options (source : Source) (baseUrl : String) (isSearch : Bool)
    (body : Option String) (backend : Backend ω ν) (signal : Signal ω σ) (w : ω) (state : σ)
    (o o' : Options) :
    let run (o : Options) :=
      ((⟨source, baseUrl, o⟩ : Setting).analyze isSearch body).run backend signal w state
    (run o).steps = (run o').steps ∧ (run o).polls = (run o').polls ∧
      (run o).calls = (run o').calls ∧
      Error.Lift (List.Forall₂ fun b b' =>
          b.bare = b'.bare ∧ b.coverUrl.isSome = b'.coverUrl.isSome)
        (run o).result (run o').result ∧
      ∀ verbose, (run o).result = (run { o with traceAllItems := verbose }).result ∧
        List.Forall₂ Event.SaysSame (run o).events
          (run { o with traceAllItems := verbose }).events := by
  intro run
  have h (p : Options) : Run.Lockstep (Event.Alike o p) (List.Forall₂ (Book.Alike o p))
      (run o) (run p) :=
    (Setting.analyze_alike (s := ⟨source, baseUrl, o⟩) isSearch body).run backend signal w state
  have hsteps := (h o').steps_eq
  refine ⟨hsteps, ?_, ?_, ?_, fun verbose => ⟨?_, ?_⟩⟩
  · rw [Run.polls_eq_countP_steps, hsteps, Run.polls_eq_countP_steps]
  · rw [Run.calls_eq_filter_steps, hsteps, Run.calls_eq_filter_steps]
  · exact (h o').result.imp fun _ _ hb => hb.imp fun _ _ hb => ⟨hb.bare, hb.isSome_coverUrl⟩
  · have hr := (h { o with traceAllItems := verbose }).result
    exact (hr.imp fun _ _ hb => List.forall₂_eq_eq_eq ▸ hb.imp fun _ _ hb => hb.eq_of_trace).eq
  · have he := (h { o with traceAllItems := verbose }).events .refl
    exact he.imp fun _ _ he => he.saysSame_of_trace

end Catalog
