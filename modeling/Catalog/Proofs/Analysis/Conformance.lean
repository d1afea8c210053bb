import Mathlib.Data.List.Forall2
import Catalog.Proofs.Analysis.Composition
import Catalog.Rule.Resolve

/-! # Conformance

What a run does, seen as a word of polls and calls. A procedure speaks a language of such words if,
whatever it is answered, it does not leave the words of the language: a run with a result is a
whole word, and a run that fails or is cancelled is the start of one.
-/

namespace Catalog

/-- A poll, or a call by the text of the rule that it carries out, with the part of the answer that
what follows may depend on. -/
inductive Step (ν : Type) where
  | poll
  | load (body baseUrl : String)
  | enter (node : ν)
  | findNodes (rule : String) (nodes : List ν)
  | findElement (rule : String) (node : Option ν)
  | readString (rule : Option String) (isUrl : Bool) (value : String)
  | readList (rule : Option String) (values : List String)

/-- Whether an act is the one that a step stands for. A call that failed has no answer, so it may be
the start of any continuation. -/
inductive Act.Spells {ν : Type} : Act ν → Step ν → Prop where
  | poll : Spells .poll .poll
  | load {body baseUrl answer} : Spells (.load body baseUrl answer) (.load body baseUrl)
  | enter {node answer} : Spells (.enter node answer) (.enter node)
  | findNodes {c vars answer rule nodes} (hc : Rule.resolve rule = .ok c)
      (ha : ∀ r, answer = .ok r → r.1 = nodes) :
      Spells (.findNodes c vars answer) (.findNodes rule nodes)
  | findElement {c vars answer rule node} (hc : Rule.resolve rule = .ok c)
      (ha : ∀ r, answer = .ok r → r.1 = node) :
      Spells (.findElement c vars answer) (.findElement rule node)
  | readString {c isUrl vars answer rule value} (hc : Rule.resolveField rule = .ok c)
      (ha : ∀ r, answer = .ok r → r.1 = value) :
      Spells (.readString c isUrl vars answer) (.readString rule isUrl value)
  | readList {c vars answer rule values} (hc : Rule.resolveField rule = .ok c)
      (ha : ∀ r, answer = .ok r → r.1 = values) :
      Spells (.readList c vars answer) (.readList rule values)

variable {ω σ ν α β : Type}

def Run.steps (r : Run ω σ ν α) : List (Act ν) := r.acts.filter fun a => a.isPoll || a.isCall

theorem Run.polls_eq_countP_steps (r : Run ω σ ν α) : r.polls = r.steps.countP Act.isPoll := by
  rw [polls, steps, List.countP_filter]
  congr 1
  funext a
  cases a <;> rfl

theorem Run.calls_eq_filter_steps (r : Run ω σ ν α) : r.calls = r.steps.filter Act.isCall := by
  rw [calls, steps, List.filter_filter]
  congr 1
  funext a
  cases a <;> rfl

/-- The words that a procedure may leave behind, each with a result that it may have by then. -/
abbrev Words (ν α : Type) := α → List (Step ν) → Prop

namespace Procedure

/-- Whatever is answered, the procedure follows a word; where it may fail, there is a word that goes
on from there. -/
def Speaks : Procedure ν α → Words ν α → Prop
  | done a, L => L a []
  | fail _, L => ∃ a u, L a u
  | checkpoint next, L => next.Speaks fun a u => L a (.poll :: u)
  | report _ next, L => next.Speaks L
  | load body baseUrl next, L => next.Speaks fun a u => L a (.load body baseUrl :: u)
  | enter node next, L => next.Speaks fun a u => L a (.enter node :: u)
  | findNodes c _ next, L => ∃ rule, Rule.resolve rule = .ok c ∧
      ∀ ns v, (next ns v).Speaks fun a u => L a (.findNodes rule ns :: u)
  | findElement c _ next, L => ∃ rule, Rule.resolve rule = .ok c ∧
      ∀ n v, (next n v).Speaks fun a u => L a (.findElement rule n :: u)
  | readString c isUrl _ next, L => ∃ rule, Rule.resolveField rule = .ok c ∧
      ∀ t v, (next t v).Speaks fun a u => L a (.readString rule isUrl t :: u)
  | readList c _ next, L => ∃ rule, Rule.resolveField rule = .ok c ∧
      ∀ ts v, (next ts v).Speaks fun a u => L a (.readList rule ts :: u)

theorem Speaks.exists_word {p : Procedure ν α} {L : Words ν α} (h : p.Speaks L) :
    ∃ a u, L a u := by
  induction p generalizing L with
  | done a => exact ⟨a, [], h⟩
  | fail e => exact h
  | checkpoint next ih => obtain ⟨a, u, hu⟩ := ih h; exact ⟨a, _, hu⟩
  | report e next ih => exact ih h
  | load _ _ next ih => obtain ⟨a, u, hu⟩ := ih h; exact ⟨a, _, hu⟩
  | enter _ next ih => obtain ⟨a, u, hu⟩ := ih h; exact ⟨a, _, hu⟩
  | findNodes c vars next ih =>
    obtain ⟨_, -, hn⟩ := h
    obtain ⟨a, u, hu⟩ := ih [] vars (hn [] vars)
    exact ⟨a, _, hu⟩
  | findElement c vars next ih =>
    obtain ⟨_, -, hn⟩ := h
    obtain ⟨a, u, hu⟩ := ih none vars (hn none vars)
    exact ⟨a, _, hu⟩
  | readString c isUrl vars next ih =>
    obtain ⟨_, -, hn⟩ := h
    obtain ⟨a, u, hu⟩ := ih "" vars (hn "" vars)
    exact ⟨a, _, hu⟩
  | readList c vars next ih =>
    obtain ⟨_, -, hn⟩ := h
    obtain ⟨a, u, hu⟩ := ih [] vars (hn [] vars)
    exact ⟨a, _, hu⟩

theorem Speaks.andThen {p : Procedure ν α} {f : α → Procedure ν β} {L : Words ν α} {M : Words ν β}
    (hp : p.Speaks L) (hf : ∀ a u, L a u → (f a).Speaks fun b v => M b (u ++ v)) :
    (p.andThen f).Speaks M := by
  induction p generalizing L M with
  | done a => exact hf a [] hp
  | fail e =>
    obtain ⟨a, u, hu⟩ := hp
    obtain ⟨b, v, hv⟩ := (hf a u hu).exists_word
    exact ⟨b, u ++ v, hv⟩
  | checkpoint next ih => exact ih hp fun a u => hf a (_ :: u)
  | report e next ih => exact ih hp hf
  | load _ _ next ih => exact ih hp fun a u => hf a (_ :: u)
  | enter _ next ih => exact ih hp fun a u => hf a (_ :: u)
  | findNodes c vars next ih =>
    obtain ⟨rule, hc, hn⟩ := hp
    exact ⟨rule, hc, fun ns v => ih ns v (hn ns v) fun a u => hf a (_ :: u)⟩
  | findElement c vars next ih =>
    obtain ⟨rule, hc, hn⟩ := hp
    exact ⟨rule, hc, fun n v => ih n v (hn n v) fun a u => hf a (_ :: u)⟩
  | readString c isUrl vars next ih =>
    obtain ⟨rule, hc, hn⟩ := hp
    exact ⟨rule, hc, fun t v => ih t v (hn t v) fun a u => hf a (_ :: u)⟩
  | readList c vars next ih =>
    obtain ⟨rule, hc, hn⟩ := hp
    exact ⟨rule, hc, fun ts v => ih ts v (hn ts v) fun a u => hf a (_ :: u)⟩

theorem Speaks.mono {p : Procedure ν α} {L M : Words ν α} (hp : p.Speaks L)
    (h : ∀ a u, L a u → M a u) : p.Speaks M := by
  rw [← p.andThen_done]
  refine hp.andThen fun a u hu => ?_
  change M a (u ++ [])
  rw [List.append_nil]
  exact h a u hu

theorem Speaks.ofExcept {r : Except Error α} {f : α → Procedure ν β} {M : Words ν β}
    (hw : ∃ b u, M b u) (hf : ∀ a, r = .ok a → (f a).Speaks M) :
    ((Procedure.ofExcept r).andThen f).Speaks M := by
  cases r with
  | ok a => exact hf a rfl
  | error e => exact hw

theorem Speaks.ofExcept_bind {r : Except Error α} {f : α → Reader ν β} {v : Variables}
    {M : Words ν (β × Variables)} (hw : ∃ b u, M b u) (hf : ∀ a, r = .ok a → (f a v).Speaks M) :
    Speaks ((Reader.ofExcept r >>= f) v) M := by
  cases r with
  | ok a => exact hf a rfl
  | error e => exact hw

end Procedure

/-- A run is the start of a word, and a whole word for its result if it has one. -/
structure Run.Follows (r : Run ω σ ν α) (L : Words ν α) : Prop where
  start : ∃ a u v, L a u ∧ v <+: u ∧ List.Forall₂ Act.Spells r.steps v
  whole : ∀ a, r.result = .ok a → ∃ u, L a u ∧ List.Forall₂ Act.Spells r.steps u

namespace Run.Follows

variable {r : Run ω σ ν α} {L : Words ν α}

theorem prepend_report (h : r.Follows L) (e : Event) : (r.prepend (.report e)).Follows L :=
  ⟨h.start, h.whole⟩

theorem prepend {act : Act ν} {x : Step ν} (h : r.Follows fun a u => L a (x :: u))
    (hx : act.Spells x) : (r.prepend act).Follows L := by
  have hs : (r.prepend act).steps = act :: r.steps := by cases hx <;> rfl
  constructor
  · obtain ⟨a, u, v, hu, hv, hr⟩ := h.start
    exact ⟨a, x :: u, x :: v, hu, List.prefix_cons_inj x |>.mpr hv, hs ▸ .cons hx hr⟩
  · intro a ha
    obtain ⟨u, hu, hr⟩ := h.whole a ha
    exact ⟨x :: u, hu, hs ▸ .cons hx hr⟩

theorem of_error {act : Act ν} {x : Step ν} {e : Error} {w : ω} {s : σ} {acts : List (Act ν)}
    (hs : acts.filter (fun a => a.isPoll || a.isCall) = [act]) (hx : act.Spells x)
    (h : ∃ a u, L a (x :: u)) : Run.Follows ⟨.error e, w, s, acts⟩ L := by
  obtain ⟨a, u, hu⟩ := h
  refine ⟨⟨a, x :: u, [x], hu, ⟨u, rfl⟩, ?_⟩, fun _ h => nomatch h⟩
  exact (congrArg (List.Forall₂ Act.Spells · [x]) hs).mpr (.cons hx .nil)

theorem call {act : Except Error β → Act ν} {x : β → Step ν} {answer : Except Error β × ω} {s : σ}
    {go : β → ω → Run ω σ ν α} [Inhabited β] (hc : ∀ r, (act r).isCall)
    (hx : ∀ r b, (∀ b', r = .ok b' → b' = b) → (act r).Spells (x b))
    (hw : ∃ a u, L a (x default :: u))
    (h : ∀ b w, (go b w).Follows fun a u => L a (x b :: u)) :
    (Run.call act answer s go).Follows L := by
  obtain ⟨e | b, w⟩ := answer
  · have hs : [act (.error e)].filter (fun a => a.isPoll || a.isCall) = [act (.error e)] := by
      simp [hc]
    exact of_error hs (hx _ default fun _ h => nomatch h) hw
  · exact (h b w).prepend (hx _ b fun b' h => (Except.ok.inj h).symm)

end Run.Follows

/-- A procedure that speaks a language does so against every backend and every signal. -/
theorem Procedure.Speaks.run {p : Procedure ν α} {L : Words ν α} (h : p.Speaks L)
    (backend : Backend ω ν) (signal : Signal ω σ) (w : ω) (s : σ) :
    (p.run backend signal w s).Follows L := by
  -- a call that fails ends the run, so all it needs is some word that goes on from there
  induction p generalizing L w s with
  | done a =>
    refine ⟨⟨a, [], [], h, List.nil_prefix, .nil⟩, fun b hb => ⟨[], ?_, .nil⟩⟩
    exact Except.ok.inj hb ▸ h
  | fail e =>
    obtain ⟨a, u, hu⟩ := h
    exact ⟨⟨a, u, [], hu, List.nil_prefix, .nil⟩, fun _ h => nomatch h⟩
  | checkpoint next ih =>
    rw [Procedure.run]
    obtain ⟨_ | _, s'⟩ := signal.poll w s
    · exact (ih h w s').prepend .poll
    · exact .of_error rfl .poll (Speaks.exists_word (p := next) h)
  | report e next ih => exact (ih h w s).prepend_report e
  | load body baseUrl next ih =>
    exact .call (x := fun _ => .load body baseUrl) (fun _ => rfl) (fun _ _ _ => .load)
      (Speaks.exists_word (p := next) h) fun _ w => ih h w s
  | enter node next ih =>
    exact .call (x := fun _ => .enter node) (fun _ => rfl) (fun _ _ _ => .enter)
      (Speaks.exists_word (p := next) h) fun _ w => ih h w s
  | findNodes c vars next ih =>
    obtain ⟨rule, hc, hn⟩ := h
    exact .call (x := fun r => .findNodes rule r.1) (fun _ => rfl)
      (fun _ b hb => .findNodes hc fun b' h => congrArg Prod.fst (hb b' h))
      (hn _ default).exists_word fun r w => ih r.1 r.2 (hn r.1 r.2) w s
  | findElement c vars next ih =>
    obtain ⟨rule, hc, hn⟩ := h
    exact .call (x := fun r => .findElement rule r.1) (fun _ => rfl)
      (fun _ b hb => .findElement hc fun b' h => congrArg Prod.fst (hb b' h))
      (hn _ default).exists_word fun r w => ih r.1 r.2 (hn r.1 r.2) w s
  | readString c isUrl vars next ih =>
    obtain ⟨rule, hc, hn⟩ := h
    exact .call (x := fun r => .readString rule isUrl r.1) (fun _ => rfl)
      (fun _ b hb => .readString hc fun b' h => congrArg Prod.fst (hb b' h))
      (hn _ default).exists_word fun r w => ih r.1 r.2 (hn r.1 r.2) w s
  | readList c vars next ih =>
    obtain ⟨rule, hc, hn⟩ := h
    exact .call (x := fun r => .readList rule r.1) (fun _ => rfl)
      (fun _ b hb => .readList hc fun b' h => congrArg Prod.fst (hb b' h))
      (hn _ default).exists_word fun r w => ih r.1 r.2 (hn r.1 r.2) w s

end Catalog
