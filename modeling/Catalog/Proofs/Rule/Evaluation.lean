import Mathlib.Data.List.Basic
import Catalog.Rule.Chain

/-! # Which fragments are read

The fragments of a chain are read in order, each of them once, up to the end of the first
alternative that has values or up to a failure. Whatever reads them may keep a state, so it is the
readings themselves that are determined, and not only what comes of them.
-/

namespace Catalog.Chain

variable {σ α β : Type}

/-- A fragment that is not joined by `&&`, with some behind it that are. -/
def IsAlternative (fragments : List Fragment) : Prop :=
  ∃ f rest, fragments = f :: rest ∧ f.link ≠ .and ∧ ∀ g ∈ rest, g.link = .and

theorem exists_group_cons (f : Fragment) (rest : List Fragment) :
    ∃ joined others, group (f :: rest) = (f :: joined) :: others ∧
      (∀ g ∈ joined, g.link = .and) ∧ ∀ alternative ∈ others, IsAlternative alternative := by
  induction rest generalizing f with
  | nil => exact ⟨[], [], rfl, by simp, by simp⟩
  | cons next rest ih =>
    obtain ⟨joined, others, hg, hj, ho⟩ := ih next
    have hc : group (f :: next :: rest) =
        if next.link = .and then (f :: next :: joined) :: others
        else [f] :: (next :: joined) :: others := by
      conv_lhs => unfold group
      simp only [hg]
    by_cases hn : next.link = .and
    · rw [if_pos hn] at hc
      refine ⟨next :: joined, others, hc, ?_, ho⟩
      simpa [hn] using hj
    · rw [if_neg hn] at hc
      refine ⟨[], (next :: joined) :: others, hc, by simp, ?_⟩
      rintro alternative (_ | ⟨_, hm⟩)
      · exact ⟨next, joined, rfl, hn, hj⟩
      · exact ho alternative hm

theorem alternatives_ofFragments (fragments : List Fragment) :
    (ofFragments fragments).alternatives.flatten = (ofFragments fragments).fragments ∧
      ∀ alternative ∈ (ofFragments fragments).alternatives, IsAlternative alternative := by
  refine ⟨flatten_group _, ?_⟩
  cases fragments with
  | nil => intro _ h; cases h
  | cons f rest =>
    obtain ⟨joined, others, hg, hj, ho⟩ := exists_group_cons { f with link := .first } rest
    rw [alternatives, ofFragments, hg]
    rintro alternative (_ | ⟨_, hm⟩)
    · exact ⟨_, joined, rfl, Link.noConfusion, hj⟩
    · exact ho alternative hm

abbrev Reader (σ α : Type) := Fragment → ExceptT Error (StateM σ) α

def runFrom (x : ExceptT Error (StateM σ) α) (s : σ) : Except Error α × σ := x.run.run s

theorem runFrom_pure (a : α) (s : σ) :
    runFrom (pure a : ExceptT Error (StateM σ) α) s = (.ok a, s) := rfl

theorem runFrom_bind (x : ExceptT Error (StateM σ) α) (f : α → ExceptT Error (StateM σ) β) (s : σ) :
    runFrom (x >>= f) s =
      match runFrom x s with
      | (.ok a, t) => runFrom (f a) t
      | (.error e, t) => (.error e, t) := by
  change ExceptT.bindCont f (runFrom x s).1 (runFrom x s).2 = _
  obtain ⟨_ | _, _⟩ := runFrom x s <;> rfl

def Reader.noting (read : Reader σ α) : Reader (σ × List Fragment) α := fun f =>
  ExceptT.mk fun (s, seen) =>
    let (r, t) := runFrom (read f) s
    (r, (t, seen ++ [f]))

/-- Readings that follow one another, each with what it gave. -/
inductive Calls (read : Reader σ α) : σ → List (Fragment × α) → σ → Prop where
  | nil (s : σ) : Calls read s [] s
  | cons {s t u : σ} {f : Fragment} {a : α} {calls : List (Fragment × α)}
      (h : runFrom (read f) s = (.ok a, t)) (hs : Calls read t calls u) :
      Calls read s ((f, a) :: calls) u

/-- What is picked of the values that readings gave. -/
def kept (pick : Fragment → α → List String) (calls : List (Fragment × α)) : List String :=
  calls.flatMap fun c => pick c.1 c.2

/-- The course of reading alternatives: which fragments are read, what comes of it and which state
is left. -/
inductive Course (read : Reader σ α) (pick : Fragment → α → List String)
    (alternatives : List (List Fragment)) (s : σ) :
    List Fragment → Except Error (List String) → σ → Prop where
  /-- An alternative has values, and none before it has any. -/
  | found (passed : List (List Fragment)) (empty : List (Fragment × α))
      {alternative : List Fragment} {rest : List (List Fragment)} {calls : List (Fragment × α)}
      {t : σ}
      (h : alternatives = passed ++ alternative :: rest)
      (hp : empty.map Prod.fst = passed.flatten) (he : kept pick empty = [])
      (ha : calls.map Prod.fst = alternative) (hk : kept pick calls ≠ [])
      (hc : Calls read s (empty ++ calls) t) :
      Course read pick alternatives s (passed.flatten ++ alternative) (.ok (kept pick calls)) t
  /-- No alternative has values. -/
  | nothing (empty : List (Fragment × α)) {t : σ}
      (hp : empty.map Prod.fst = alternatives.flatten) (he : kept pick empty = [])
      (hc : Calls read s empty t) :
      Course read pick alternatives s alternatives.flatten (.ok []) t
  /-- A reading fails, and no alternative before its own has values. -/
  | failed (passed : List (List Fragment)) (empty : List (Fragment × α))
      {before after : List Fragment} {f : Fragment} {rest : List (List Fragment)}
      {calls : List (Fragment × α)} {t u : σ} {e : Error}
      (h : alternatives = passed ++ (before ++ f :: after) :: rest)
      (hp : empty.map Prod.fst = passed.flatten) (he : kept pick empty = [])
      (ha : calls.map Prod.fst = before) (hc : Calls read s (empty ++ calls) t)
      (hf : runFrom (read f) t = (.error e, u)) :
      Course read pick alternatives s (passed.flatten ++ before ++ [f]) (.error e) u

variable {read : Reader σ α} {pick : Fragment → α → List String} {s t u : σ}
  {calls : List (Fragment × α)} {alternatives : List (List Fragment)} {called : List Fragment}
  {r : Except Error (List String)}

theorem kept_append (calls more : List (Fragment × α)) :
    kept pick (calls ++ more) = kept pick calls ++ kept pick more := by
  simp [kept]

namespace Calls

theorem append {more : List (Fragment × α)} (h : Calls read s calls t) (hm : Calls read t more u) :
    Calls read s (calls ++ more) u := by
  induction h with
  | nil => exact hm
  | cons hf _ ih => exact .cons hf (ih hm)

theorem of_append {more : List (Fragment × α)} (h : Calls read s (calls ++ more) u) :
    ∃ t, Calls read s calls t ∧ Calls read t more u := by
  induction calls generalizing s with
  | nil => exact ⟨s, .nil s, h⟩
  | cons c calls ih =>
    cases h with
    | cons hf hs =>
      obtain ⟨t, hc, hm⟩ := ih hs
      exact ⟨t, .cons hf hc, hm⟩

theorem noting (h : Calls read s calls t) (seen : List Fragment) :
    Calls read.noting (s, seen) calls (t, seen ++ calls.map Prod.fst) := by
  induction h generalizing seen with
  | nil => simpa using Calls.nil _
  | @cons s t u f a calls hf _ ih =>
    have hn : runFrom (read.noting f) (s, seen) = (.ok a, (t, seen ++ [f])) := by
      change ((runFrom (read f) s).1, ((runFrom (read f) s).2, seen ++ [f])) = _
      rw [hf]
    refine .cons hn ?_
    simpa using ih (seen ++ [f])

end Calls

theorem Course.noting (h : Course read pick alternatives s called r t) (seen : List Fragment) :
    Course read.noting pick alternatives (s, seen) called r (t, seen ++ called) := by
  cases h with
  | found passed empty h hp he ha hk hc =>
    have hn := hc.noting seen
    rw [List.map_append, hp, ha] at hn
    exact .found passed empty h hp he ha hk hn
  | nothing empty hp he hc =>
    have hn := hc.noting seen
    rw [hp] at hn
    exact .nothing empty hp he hn
  | @failed passed empty before after f rest calls v _ e h hp he ha hc hf =>
    have hn := hc.noting seen
    rw [List.map_append, hp, ha] at hn
    have hl : runFrom (read.noting f) (v, seen ++ (passed.flatten ++ before)) =
        (.error e, (t, seen ++ (passed.flatten ++ before) ++ [f])) := by
      change ((runFrom (read f) v).1, ((runFrom (read f) v).2, _)) = _
      rw [hf]
    rw [List.append_assoc] at hl
    exact .failed passed empty h hp he ha hn hl

def keeping (read : Reader σ α) (pick : Fragment → α → List String) : Reader σ (List String) :=
  fun f => do return pick f (← read f)

theorem runFrom_keeping (f : Fragment) (s : σ) :
    runFrom (keeping read pick f) s =
      ((runFrom (read f) s).1.map (pick f), (runFrom (read f) s).2) := by
  rw [keeping, runFrom_bind]
  obtain ⟨_ | _, _⟩ := runFrom (read f) s <;> rfl

theorem Calls.runFrom_readAlternative (h : Calls read s calls t)
    (pick : Fragment → α → List String) (fragments : List Fragment) :
    runFrom (readAlternative (keeping read pick) (calls.map Prod.fst ++ fragments)) s =
      ((runFrom (readAlternative (keeping read pick) fragments) t).1.map (kept pick calls ++ ·),
        (runFrom (readAlternative (keeping read pick) fragments) t).2) := by
  induction h with
  | nil s =>
    rw [List.map_nil, List.nil_append]
    obtain ⟨_ | _, _⟩ := runFrom (readAlternative (keeping read pick) fragments) s <;> rfl
  | @cons s t u f a calls hf _ ih =>
    rw [List.map_cons, List.cons_append, readAlternative, runFrom_bind, runFrom_keeping, hf]
    simp only [Except.map, runFrom_bind, ih]
    obtain ⟨_ | _, _⟩ := runFrom (readAlternative (keeping read pick) fragments) u
    · rfl
    · simp [runFrom_pure, kept]

theorem Calls.runFrom_firstNonempty {passed : List (List Fragment)} (h : Calls read s calls t)
    (rest : List (List Fragment)) (hp : calls.map Prod.fst = passed.flatten)
    (he : kept pick calls = []) :
    runFrom (firstNonempty (keeping read pick) (passed ++ rest)) s =
      runFrom (firstNonempty (keeping read pick) rest) t := by
  induction passed generalizing s calls with
  | nil =>
    obtain rfl : calls = [] := by simpa using hp
    cases h
    rfl
  | cons alternative passed ih =>
    obtain ⟨first, more, rfl, rfl, hm⟩ := List.map_eq_append_iff.mp hp
    rw [kept_append, List.append_eq_nil_iff] at he
    obtain ⟨v, hf, hv⟩ := h.of_append
    have hr := hf.runFrom_readAlternative pick []
    rw [List.append_nil] at hr
    rw [List.cons_append, firstNonempty, runFrom_bind, hr]
    simp only [readAlternative, runFrom_pure, Except.map, he.1, List.append_nil, List.isEmpty_nil,
      if_true]
    exact ih hv hm he.2

/-- A course says what a run does. -/
theorem Course.runFrom_firstNonempty (h : Course read pick alternatives s called r t) :
    runFrom (firstNonempty (keeping read pick) alternatives) s = (r, t) := by
  cases h with
  | found passed empty h hp he ha hk hc =>
    obtain ⟨v, hv, hc⟩ := hc.of_append
    have hr := hc.runFrom_readAlternative pick []
    rw [List.append_nil, ha] at hr
    rw [h, hv.runFrom_firstNonempty _ hp he, firstNonempty, runFrom_bind, hr]
    simp [readAlternative, runFrom_pure, Except.map, hk]
  | nothing empty hp he hc =>
    have hr := hc.runFrom_firstNonempty [] hp he
    rw [List.append_nil] at hr
    rw [hr]
    rfl
  | @failed passed empty before after f rest calls v _ e h hp he ha hc hf =>
    obtain ⟨w, hw, hc⟩ := hc.of_append
    have hr := hc.runFrom_readAlternative pick (f :: after)
    rw [ha] at hr
    rw [h, hw.runFrom_firstNonempty _ hp he, firstNonempty, runFrom_bind, hr]
    simp [readAlternative, runFrom_bind, runFrom_keeping, hf, Except.map]

theorem exists_calls (read : Reader σ α) (fragments : List Fragment) (s : σ) :
    (∃ calls t, calls.map Prod.fst = fragments ∧ Calls read s calls t) ∨
      ∃ before f after calls t e u, fragments = before ++ f :: after ∧
        calls.map Prod.fst = before ∧ Calls read s calls t ∧
        runFrom (read f) t = (.error e, u) := by
  induction fragments generalizing s with
  | nil => exact .inl ⟨[], s, rfl, .nil s⟩
  | cons f fragments ih =>
    rcases hf : runFrom (read f) s with ⟨e | a, t⟩
    · exact .inr ⟨[], f, fragments, [], s, e, t, rfl, rfl, .nil s, hf⟩
    · rcases ih t with ⟨calls, u, hc, hr⟩ | ⟨before, g, after, calls, u, e, v, hb, hc, hr, hg⟩
      · exact .inl ⟨(f, a) :: calls, u, by simp [hc], .cons hf hr⟩
      · exact .inr ⟨f :: before, g, after, (f, a) :: calls, u, e, v, by simp [hb], by simp [hc],
          .cons hf hr, hg⟩

theorem Course.cons (h : Course read pick alternatives t called r u)
    (hc : Calls read s calls t) (he : kept pick calls = []) :
    Course read pick (calls.map Prod.fst :: alternatives) s (calls.map Prod.fst ++ called) r u := by
  have hk {empty : List (Fragment × α)} (hn : kept pick empty = []) :
      kept pick (calls ++ empty) = [] := by
    rw [kept_append, he, hn, List.append_nil]
  cases h with
  | found passed empty h hp hn ha hv hr =>
    have hf := Course.found (calls.map Prod.fst :: passed) (calls ++ empty)
      (congrArg (calls.map Prod.fst :: ·) h) (by simp [hp]) (hk hn) ha hv
      (by rw [List.append_assoc]; exact hc.append hr)
    simpa using hf
  | nothing empty hp hn hr =>
    exact .nothing (calls ++ empty) (by simp [hp]) (hk hn) (hc.append hr)
  | failed passed empty h hp hn ha hr hf =>
    have hf := Course.failed (calls.map Prod.fst :: passed) (calls ++ empty)
      (congrArg (calls.map Prod.fst :: ·) h) (by simp [hp]) (hk hn) ha
      (by rw [List.append_assoc]; exact hc.append hr) hf
    simpa using hf

/-- Every run has a course. -/
theorem exists_course (read : Reader σ α) (pick : Fragment → α → List String)
    (alternatives : List (List Fragment)) (s : σ) :
    ∃ called r t, Course read pick alternatives s called r t := by
  induction alternatives generalizing s with
  | nil => exact ⟨_, _, _, .nothing [] rfl rfl (.nil s)⟩
  | cons alternative alternatives ih =>
    rcases exists_calls read alternative s with
      ⟨calls, t, ha, hc⟩ | ⟨before, f, after, calls, t, e, u, rfl, ha, hc, hf⟩
    · by_cases hk : kept pick calls = []
      · obtain ⟨called, r, u, hr⟩ := ih t
        exact ⟨_, r, u, ha ▸ hr.cons hc hk⟩
      · exact ⟨_, _, t, .found [] [] rfl rfl rfl ha hk hc⟩
    · exact ⟨_, _, u, .failed [] [] rfl rfl rfl ha hc hf⟩

theorem Course.called_prefix (h : Course read pick alternatives s called r t) :
    called <+: alternatives.flatten := by
  cases h with
  | @found passed _ alternative rest _ _ h =>
    refine ⟨rest.flatten, ?_⟩
    simp [h]
  | nothing => exact List.prefix_refl _
  | @failed passed _ before after f rest _ _ _ _ h =>
    refine ⟨after ++ rest.flatten, ?_⟩
    simp [h]

theorem postProcess_eq (f : Fragment) (value : String) :
    f.postProcess value = if value = "" then "" else f.replacement.elim value (·.apply value) := by
  rw [Fragment.postProcess]
  by_cases hv : value = ""
  · rw [if_pos hv, hv]
    cases f.replacement <;> rfl
  · rw [if_neg hv]
    cases f.replacement with
    | none => rfl
    | some r => exact if_neg fun he => hv (String.isEmpty_iff.mp he)

/-- Reading a chain stops where it may. Its fragments are read in order, each once, up to a failure
or to the end of the first alternative with a value that is not empty after the replacement of its
fragment. These values are the result, in order: one text reads one value of each fragment and joins
them by line feeds, a list reads any number of values of each. -/
theorem evaluate_course (fragments : List Fragment) (s : σ) :
    let c := ofFragments fragments
    let picked (f : Fragment) (values : List String) : List String :=
      (values.map f.postProcess).filter (!·.isEmpty)
    (c.alternatives.flatten = c.fragments ∧ ∀ a ∈ c.alternatives, IsAlternative a) ∧
      (∀ (f : Fragment) (value : String), f.postProcess value =
        if value = "" then "" else f.replacement.elim value (·.apply value)) ∧
      (∀ read : Reader σ String, ∃ called r t,
        Course read (fun f value => picked f [value]) c.alternatives s called r t ∧
        called <+: c.fragments ∧
        runFrom (c.evaluate read) s = (r.map "\n".intercalate, t) ∧
        runFrom (c.evaluate read.noting) (s, []) = (r.map "\n".intercalate, (t, called))) ∧
      ∀ read : Reader σ (List String), ∃ called r t,
        Course read picked c.alternatives s called r t ∧ called <+: c.fragments ∧
        runFrom (c.evaluateList read) s = (r, t) ∧
        runFrom (c.evaluateList read.noting) (s, []) = (r, (t, called)) := by
  intro c picked
  have hc := alternatives_ofFragments fragments
  refine ⟨hc, postProcess_eq, fun read => ?_, fun read => ?_⟩
  · obtain ⟨called, r, t, h⟩ :=
      exists_course read (fun f value => picked f [value]) c.alternatives s
    -- once for the reader itself, and once for the one that writes down what it is given
    have hj {τ : Type} {read : Reader τ String} {s t : τ}
        (h : Course read (fun f value => picked f [value]) c.alternatives s called r t) :
        runFrom (c.evaluate read) s = (r.map "\n".intercalate, t) := by
      rw [evaluate, runFrom_bind]
      have hr := h.runFrom_firstNonempty
      change runFrom (firstNonempty (fun f => do return keep f [← read f]) c.alternatives) s = _
        at hr
      rw [hr]
      cases r <;> rfl
    exact ⟨called, r, t, h, hc.1 ▸ h.called_prefix, hj h, hj (h.noting [])⟩
  · obtain ⟨called, r, t, h⟩ := exists_course read picked c.alternatives s
    exact ⟨called, r, t, h, hc.1 ▸ h.called_prefix, h.runFrom_firstNonempty,
      (h.noting []).runFrom_firstNonempty⟩

end Catalog.Chain
