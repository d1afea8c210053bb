import Mathlib.Data.List.Basic
import Catalog.Page.Query

/-! # One text and a list of texts

A rule can be read as one text or as a list of texts. The first joins the values of each fragment,
and then the fragments; the second keeps all values apart. As no value is empty, both find the same
alternative, and the text is the list joined by line feeds, whatever the fragments set on the way.
-/

namespace Catalog

variable {α β γ δ : Type} {R : α → β → Prop} {S : γ → δ → Prop}

namespace Reading

def resume (x : Reading α) (vars : Variables) (log : List (String × String)) :
    Except Error α × List (String × String) :=
  (ReaderT.run x vars).run.run log

/-- Readings that set the same and fail alike, with results that are related. -/
def Alike (R : α → β → Prop) (x : Reading α) (y : Reading β) : Prop :=
  ∀ vars log, Error.Lift R (x.resume vars log).1 (y.resume vars log).1 ∧
    (x.resume vars log).2 = (y.resume vars log).2

theorem ext {x y : Reading α} (h : ∀ vars log, x.resume vars log = y.resume vars log) : x = y :=
  funext fun vars => funext fun log => h vars log

theorem resume_pure (a : α) (vars : Variables) (log : List (String × String)) :
    (pure a : Reading α).resume vars log = (.ok a, log) := rfl

theorem resume_bind (x : Reading α) (f : α → Reading β) (vars : Variables)
    (log : List (String × String)) :
    (x >>= f).resume vars log =
      match x.resume vars log with
      | (.ok a, log) => (f a).resume vars log
      | (.error e, log) => (.error e, log) := by
  change ExceptT.bindCont (fun a => f a vars) (x.resume vars log).1 (x.resume vars log).2 = _
  obtain ⟨_ | _, _⟩ := x.resume vars log <;> rfl

namespace Alike

theorem refl (x : Reading α) : Alike Eq x x := by
  intro vars log
  refine ⟨?_, rfl⟩
  cases (x.resume vars log).1 with
  | error e => exact .error e
  | ok a => exact .ok rfl

theorem pure {a : α} {b : β} (h : R a b) : Alike R (Pure.pure a) (Pure.pure b) :=
  fun _ _ => ⟨.ok h, rfl⟩

theorem bind {x : Reading α} {y : Reading β} {f : α → Reading γ} {g : β → Reading δ}
    (h : Alike R x y) (hf : ∀ a b, R a b → Alike S (f a) (g b)) : Alike S (x >>= f) (y >>= g) := by
  intro vars log
  obtain ⟨hr, hl⟩ := h vars log
  rw [resume_bind, resume_bind]
  generalize x.resume vars log = r at hr hl ⊢
  generalize y.resume vars log = t at hr hl ⊢
  obtain ⟨r, log⟩ := r
  obtain ⟨t, _⟩ := t
  obtain rfl := hl
  cases hr with
  | error e => exact ⟨.error e, rfl⟩
  | ok hab => exact hf _ _ hab vars log

end Alike

theorem ofExcept_alike (r : Except Error α) :
    Alike (fun a b => a = b ∧ r = .ok a) (ofExcept r) (ofExcept r) := by
  intro vars log
  refine ⟨?_, rfl⟩
  cases r with
  | error e => exact .error e
  | ok a => exact .ok ⟨rfl, rfl⟩

end Reading

/-- Texts, and longer ones made of them by joining some with their neighbours. -/
structure Joins (parts values : List String) : Prop where
  text : "\n".intercalate parts = "\n".intercalate values
  nil_iff : parts = [] ↔ values = []

namespace Joins

theorem nil : Joins [] [] := ⟨rfl, Iff.rfl⟩

theorem append {p q v w : List String} (h : Joins p v) (h' : Joins q w) :
    Joins (p ++ q) (v ++ w) := by
  refine ⟨?_, by simp only [List.append_eq_nil_iff, h.nil_iff, h'.nil_iff]⟩
  by_cases hp : p = []
  · rw [hp, h.nil_iff.mp hp]
    exact h'.text
  · by_cases hq : q = []
    · rw [hq, h'.nil_iff.mp hq, List.append_nil, List.append_nil]
      exact h.text
    · rw [String.intercalate_append_of_ne_nil hp hq, h.text, h'.text,
        String.intercalate_append_of_ne_nil (hp ∘ h.nil_iff.mpr) (hq ∘ h'.nil_iff.mpr)]

end Joins

theorem isEmpty_intercalate {values : List String} (h : ∀ v ∈ values, v.isEmpty = false) :
    ("\n".intercalate values).isEmpty = values.isEmpty := by
  cases values with
  | nil => rfl
  | cons v rest =>
    have hv : v ≠ "" := by simpa using h v List.mem_cons_self
    cases rest <;> simp [hv]

namespace Chain

variable {parts values : Fragment → Reading (List String)}

theorem readAlternative_joins {fragments : List Fragment}
    (h : ∀ f ∈ fragments, (parts f).Alike Joins (values f)) :
    Reading.Alike Joins (readAlternative parts fragments) (readAlternative values fragments) := by
  induction fragments with
  | nil => exact .pure .nil
  | cons f rest ih =>
    obtain ⟨hf, hr⟩ := List.forall_mem_cons.mp h
    exact hf.bind fun _ _ hp => (ih hr).bind fun _ _ hq => .pure (hp.append hq)

/-- The emptiness of an alternative is the same before and after joining, so the same alternative is
taken. -/
theorem firstNonempty_joins {alternatives : List (List Fragment)}
    (h : ∀ alternative ∈ alternatives, ∀ f ∈ alternative, (parts f).Alike Joins (values f)) :
    Reading.Alike Joins (firstNonempty parts alternatives) (firstNonempty values alternatives) := by
  induction alternatives with
  | nil => exact .pure .nil
  | cons alternative rest ih =>
    obtain ⟨ha, hr⟩ := List.forall_mem_cons.mp h
    refine (readAlternative_joins ha).bind fun p v hj => ?_
    by_cases hp : p = []
    · rw [hp, hj.nil_iff.mp hp]
      exact ih hr
    · have hv : v ≠ [] := hp ∘ hj.nil_iff.mpr
      simp only [List.isEmpty_iff, hp, hv, if_false]
      exact .pure hj

theorem keep_of_nonempty {f : Fragment} (hf : f.replacement = none) {values : List String}
    (h : ∀ v ∈ values, v.isEmpty = false) : keep f values = values := by
  have hp : f.postProcess = id := by
    funext v
    simp only [Fragment.postProcess, hf, id]
  rw [keep, hp, List.map_id, List.filter_eq_self]
  simpa using h

theorem keep_joins {f : Fragment} (hf : f.replacement = none) {values : List String}
    (h : ∀ v ∈ values, v.isEmpty = false) :
    Joins (keep f ["\n".intercalate values]) (keep f values) := by
  rw [keep_of_nonempty hf h]
  cases values with
  | nil =>
    have hk : keep f ["\n".intercalate []] = [] := by simp [keep, Fragment.postProcess, hf]
    rw [hk]
    exact .nil
  | cons v rest =>
    have he := isEmpty_intercalate h
    rw [keep_of_nonempty hf (by simpa using he)]
    exact ⟨by simp, by simp⟩

end Chain

namespace Page

theorem nonempty_of_values {p : Page} {f : Fragment} {vars : Variables} {values : List String}
    (h : p.values f vars = .ok values) : ∀ v ∈ values, v.isEmpty = false := by
  unfold Page.values at h
  split at h
  · cases h
    simp
  · obtain ⟨target, -, h⟩ := Error.ok_of_bind_ok h
    obtain ⟨all, -, h⟩ := Error.ok_of_bind_ok h
    cases h
    intro v hv
    simpa using (List.mem_filter.mp hv).2

/-- A fragment is read as one text and as a list, after the same assignments. -/
theorem fragment_joins (p : Page) {f : Fragment} (hd : f.dialect ≠ .regex)
    (hr : f.replacement = none) :
    Reading.Alike Joins
      ((p.store f >>= fun _ => p.fragmentString false f) >>= fun text => pure (Chain.keep f [text]))
      ((p.store f >>= fun _ => Reading.vars >>= fun v => Reading.ofExcept (p.values f v)) >>=
        fun values => pure (Chain.keep f values)) := by
  have hs (values : List String) : single f.dialect false values = "\n".intercalate values := by
    simp only [single, hd, if_false, Bool.false_eq_true]
  refine Reading.Alike.bind
    (R := fun text values => text = "\n".intercalate values ∧ ∀ v ∈ values, v.isEmpty = false)
    ?_ fun text values h => ?_
  · refine (Reading.Alike.refl (p.store f)).bind fun _ _ _ => ?_
    refine (Reading.Alike.refl Reading.vars).bind ?_
    rintro vars _ rfl
    have hv := (Reading.ofExcept_alike (p.values f vars)).bind
      (f := fun values => pure (single f.dialect false values)) (g := pure)
      (S := fun text values => text = "\n".intercalate values ∧ ∀ v ∈ values, v.isEmpty = false)
      (by rintro values _ ⟨rfl, ho⟩; exact .pure ⟨hs _, nonempty_of_values ho⟩)
    rwa [bind_pure] at hv
  · obtain ⟨rfl, hv⟩ := h
    exact .pure (Chain.keep_joins hr hv)

end Page

/-- One text and a list of texts agree. A chain whose fragments are no patterns and replace nothing,
whatever they set, is read as one text and as a list with the same failure or with success, and with
the same variables afterwards; the text is the list joined by line feeds. -/
theorem Page.queryString_joins_queryList (p : Page) (c : Chain)
    (h : ∀ f ∈ c.fragments, f.dialect ≠ .regex ∧ f.replacement = none) (vars : Variables) :
    let text := (p.queryString c false).run vars
    let list := (p.queryList c).run vars
    text.1 = list.1.map "\n".intercalate ∧ text.2 = list.2 := by
  intro text list
  have hj : Reading.Alike Joins (Chain.firstNonempty _ c.alternatives)
      (Chain.firstNonempty _ c.alternatives) :=
    Chain.firstNonempty_joins fun alternative ha f hf =>
      have hc := h f (Chain.mem_of_mem_alternatives ha hf)
      p.fragment_joins hc.1 hc.2
  have ha : Reading.Alike (fun text values => text = "\n".intercalate values)
      (p.queryString c false) (p.queryList c) := by
    have hb := hj.bind (f := fun parts => pure ("\n".intercalate parts)) (g := pure)
      fun _ _ hp => .pure (R := fun text values => text = "\n".intercalate values) hp.text
    rwa [bind_pure] at hb
  obtain ⟨hr, hl⟩ := ha vars []
  exact ⟨hr.eq_map, congrArg vars.putAll hl⟩

theorem Page.queryString_joins_queryList_and :
    let p := Page.bind "[\"a\",\"b\"]" "u"
    let c : Chain :=
      ⟨[⟨.default, "$", .first, [("k", "$[1]")], none⟩, ⟨.jsonPath, "$[0]", .and, [], none⟩]⟩
    let text := (p.queryString c false).run .empty
    let list := (p.queryList c).run .empty
    (∀ f ∈ c.fragments, f.dialect ≠ .regex ∧ f.replacement = none) ∧
      list.1 = .ok ["a", "b", "a"] ∧ text.1 = .ok "a\nb\na" ∧
      text.2 = .ofList [("k", "b")] ∧ text.2 = list.2 := by
  intro p c text list
  have hc : ∀ f ∈ c.fragments, f.dialect ≠ .regex ∧ f.replacement = none := by decide
  have hl : list.1 = .ok ["a", "b", "a"] := by decide +kernel
  have hv : text.2 = .ofList [("k", "b")] := by decide +kernel
  obtain ⟨ht, he⟩ := Page.queryString_joins_queryList p c hc .empty
  exact ⟨hc, hl, ht.trans (by rw [hl]; rfl), hv, he⟩

end Catalog
