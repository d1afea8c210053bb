import Mathlib.Data.List.Forall2
import Catalog.Analysis.Record
import Catalog.Proofs.Analysis.Composition

/-! # Procedures in lockstep

Two procedures are in lockstep if they poll, ask and fail alike, whatever they are answered. What
they report and what they end with may differ, within given relations. Run against one backend, with
one signal, they leave the same world behind.
-/

namespace Catalog

variable {ω σ ν α β γ δ : Type} {E : Event → Event → Prop} {R : α → β → Prop}

/-- The same act, or reports that are related. -/
inductive Act.Lift (E : Event → Event → Prop) : Act ν → Act ν → Prop where
  | same (a : Act ν) : Lift E a a
  | report {e e' : Event} (h : E e e') : Lift E (.report e) (.report e')

inductive Procedure.Lockstep (E : Event → Event → Prop) (R : α → β → Prop) :
    Procedure ν α → Procedure ν β → Prop where
  | done {a : α} {b : β} (h : R a b) : Lockstep E R (.done a) (.done b)
  | fail (e : Error) : Lockstep E R (.fail e) (.fail e)
  | checkpoint {p : Procedure ν α} {q : Procedure ν β} (h : Lockstep E R p q) :
      Lockstep E R (.checkpoint p) (.checkpoint q)
  | report {e e' : Event} {p : Procedure ν α} {q : Procedure ν β} (he : E e e')
      (h : Lockstep E R p q) : Lockstep E R (.report e p) (.report e' q)
  | load (body baseUrl : String) {p : Procedure ν α} {q : Procedure ν β} (h : Lockstep E R p q) :
      Lockstep E R (.load body baseUrl p) (.load body baseUrl q)
  | enter (node : ν) {p : Procedure ν α} {q : Procedure ν β} (h : Lockstep E R p q) :
      Lockstep E R (.enter node p) (.enter node q)
  | findNodes (c : Chain) (v : Variables) {f : List ν → Variables → Procedure ν α}
      {g : List ν → Variables → Procedure ν β} (h : ∀ ns v, Lockstep E R (f ns v) (g ns v)) :
      Lockstep E R (.findNodes c v f) (.findNodes c v g)
  | findElement (c : Chain) (v : Variables) {f : Option ν → Variables → Procedure ν α}
      {g : Option ν → Variables → Procedure ν β} (h : ∀ n v, Lockstep E R (f n v) (g n v)) :
      Lockstep E R (.findElement c v f) (.findElement c v g)
  | readString (c : Chain) (isUrl : Bool) (v : Variables) {f : String → Variables → Procedure ν α}
      {g : String → Variables → Procedure ν β} (h : ∀ s v, Lockstep E R (f s v) (g s v)) :
      Lockstep E R (.readString c isUrl v f) (.readString c isUrl v g)
  | readList (c : Chain) (v : Variables) {f : List String → Variables → Procedure ν α}
      {g : List String → Variables → Procedure ν β} (h : ∀ ss v, Lockstep E R (f ss v) (g ss v)) :
      Lockstep E R (.readList c v f) (.readList c v g)

/-- How the runs of procedures in lockstep compare. -/
structure Run.Lockstep (E : Event → Event → Prop) (R : α → β → Prop) (r : Run ω σ ν α)
    (t : Run ω σ ν β) : Prop where
  result : Error.Lift R r.result t.result
  world : r.world = t.world
  signal : r.signal = t.signal
  acts : List.Forall₂ (Act.Lift E) r.acts t.acts

namespace Run.Lockstep

theorem prepend {r : Run ω σ ν α} {t : Run ω σ ν β} (h : Lockstep E R r t) {a a' : Act ν}
    (ha : a.Lift E a') : Lockstep E R (r.prepend a) (t.prepend a') :=
  ⟨h.result, h.world, h.signal, .cons ha h.acts⟩

theorem call {act : Except Error γ → Act ν} (answer : Except Error γ × ω) (s : σ)
    {f : γ → ω → Run ω σ ν α} {g : γ → ω → Run ω σ ν β} (h : ∀ c w, Lockstep E R (f c w) (g c w)) :
    Lockstep E R (.call act answer s f) (.call act answer s g) := by
  obtain ⟨e | c, w⟩ := answer
  · exact ⟨.error e, rfl, rfl, .cons (.same _) .nil⟩
  · exact (h c w).prepend (.same _)

end Run.Lockstep

namespace Procedure.Lockstep

theorem andThen {p : Procedure ν α} {q : Procedure ν β} {S : γ → δ → Prop}
    {f : α → Procedure ν γ} {g : β → Procedure ν δ} (h : Lockstep E R p q)
    (hf : ∀ a b, R a b → Lockstep E S (f a) (g b)) :
    Lockstep E S (p.andThen f) (q.andThen g) := by
  induction h with
  | done h => exact hf _ _ h
  | fail e => exact .fail e
  | checkpoint _ ih => exact .checkpoint ih
  | report he _ ih => exact .report he ih
  | load body baseUrl _ ih => exact .load body baseUrl ih
  | enter node _ ih => exact .enter node ih
  | findNodes c v _ ih => exact .findNodes c v ih
  | findElement c v _ ih => exact .findElement c v ih
  | readString c isUrl v _ ih => exact .readString c isUrl v ih
  | readList c v _ ih => exact .readList c v ih

theorem refl (hE : ∀ e, E e e) (p : Procedure ν α) : Lockstep E Eq p p := by
  induction p with
  | done a => exact .done rfl
  | fail e => exact .fail e
  | checkpoint _ ih => exact .checkpoint ih
  | report e _ ih => exact .report (hE e) ih
  | load body baseUrl _ ih => exact .load body baseUrl ih
  | enter node _ ih => exact .enter node ih
  | findNodes c v _ ih => exact .findNodes c v ih
  | findElement c v _ ih => exact .findElement c v ih
  | readString c isUrl v _ ih => exact .readString c isUrl v ih
  | readList c v _ ih => exact .readList c v ih

theorem mono {E' : Event → Event → Prop} {S : α → β → Prop} {p : Procedure ν α}
    {q : Procedure ν β} (h : Lockstep E R p q) (hE : ∀ e e', E e e' → E' e e')
    (hR : ∀ a b, R a b → S a b) : Lockstep E' S p q := by
  induction h with
  | done h => exact .done (hR _ _ h)
  | fail e => exact .fail e
  | checkpoint _ ih => exact .checkpoint ih
  | report he _ ih => exact .report (hE _ _ he) ih
  | load body baseUrl _ ih => exact .load body baseUrl ih
  | enter node _ ih => exact .enter node ih
  | findNodes c v _ ih => exact .findNodes c v ih
  | findElement c v _ ih => exact .findElement c v ih
  | readString c isUrl v _ ih => exact .readString c isUrl v ih
  | readList c v _ ih => exact .readList c v ih

/-- Procedures in lockstep have runs in lockstep. -/
theorem run {p : Procedure ν α} {q : Procedure ν β} (h : Lockstep E R p q) (backend : Backend ω ν)
    (signal : Signal ω σ) (w : ω) (s : σ) :
    Run.Lockstep E R (p.run backend signal w s) (q.run backend signal w s) := by
  induction h generalizing w s with
  | done h => exact ⟨.ok h, rfl, rfl, .nil⟩
  | fail e => exact ⟨.error e, rfl, rfl, .nil⟩
  | checkpoint _ ih =>
    simp only [Procedure.run]
    obtain ⟨_ | _, s'⟩ := signal.poll w s
    · exact (ih w s').prepend (.same _)
    · exact ⟨.error _, rfl, rfl, .cons (.same _) (.cons (.same _) .nil)⟩
  | report he _ ih => exact (ih w s).prepend (.report he)
  | load _ _ _ ih => exact .call _ _ fun _ w => ih w s
  | enter _ _ ih => exact .call _ _ fun _ w => ih w s
  | findNodes _ _ _ ih => exact .call _ _ fun r w => ih r.1 r.2 w s
  | findElement _ _ _ ih => exact .call _ _ fun r w => ih r.1 r.2 w s
  | readString _ _ _ _ ih => exact .call _ _ fun r w => ih r.1 r.2 w s
  | readList _ _ _ ih => exact .call _ _ fun r w => ih r.1 r.2 w s

end Procedure.Lockstep

/-- Events that say the same, be it of interest to everyone or not. -/
def Event.SaysSame (e e' : Event) : Prop := e.message? = e'.message? ∧ e.details = e'.details

namespace Setting

variable {s : Setting} {rules : FieldRules} {v : Variables} (verbose verbose' : Bool)

theorem readField_lockstep (field : String) (c : Chain) (isUrl : Bool) :
    (readField field c isUrl verbose v : Procedure ν _).Lockstep Event.SaysSame Eq
      (readField field c isUrl verbose' v) :=
  .checkpoint (.readString _ _ _ fun _ _ => .report ⟨rfl, rfl⟩ (.done rfl))

theorem readJoined_lockstep (field : String) (c : Chain) :
    (s.readJoined field c verbose v : Procedure ν _).Lockstep Event.SaysSame Eq
      (s.readJoined field c verbose' v) :=
  .checkpoint (.readList _ _ fun _ _ => .report ⟨rfl, rfl⟩ (.done rfl))

theorem readDetails_lockstep (book : Book) :
    (s.readDetails rules verbose book v : Procedure ν _).Lockstep Event.SaysSame Eq
      (s.readDetails rules verbose' book v) := by
  refine (readField_lockstep verbose verbose' _ _ _).andThen ?_
  rintro ⟨author, _⟩ _ rfl
  refine (readJoined_lockstep verbose verbose' _ _).andThen ?_
  rintro ⟨kind, _⟩ _ rfl
  refine (readField_lockstep verbose verbose' _ _ _).andThen ?_
  rintro ⟨wordCount, _⟩ _ rfl
  refine (readField_lockstep verbose verbose' _ _ _).andThen ?_
  rintro ⟨latest, _⟩ _ rfl
  refine (readField_lockstep verbose verbose' _ _ _).andThen ?_
  rintro ⟨intro, _⟩ _ rfl
  exact .done rfl

theorem boundRecord_lockstep :
    (s.boundRecord rules verbose v : Procedure ν _).Lockstep Event.SaysSame Eq
      (s.boundRecord rules verbose' v) := by
  refine (readField_lockstep verbose verbose' _ _ _).andThen ?_
  rintro ⟨name, _⟩ _ rfl
  by_cases hn : name.isEmpty
  · simp only [hn, if_true]
    exact .done rfl
  · simp only [hn]
    refine (readDetails_lockstep verbose verbose' _).andThen ?_
    rintro ⟨book, _⟩ _ rfl
    refine (readField_lockstep verbose verbose' _ _ _).andThen ?_
    rintro ⟨cover, _⟩ _ rfl
    refine (readField_lockstep verbose verbose' _ _ _).andThen ?_
    rintro ⟨bookUrl, _⟩ _ rfl
    exact .done rfl

end Setting

end Catalog
