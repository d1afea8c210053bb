import Catalog.Analysis.Analyze
import Catalog.Analysis.Run

/-! # Cancellation

A run that is cancelled at one of its polls does what the run without cancellation does up to that
poll, and nothing else. It ends as cancelled, whatever it had read by then. A signal that stays
alive for all polls of the run changes nothing.
-/

namespace Catalog

variable {ω ν α β : Type}

/-- How a run with a signal that is alive for `n` polls compares with the run that is never
cancelled. -/
structure Run.CutAt (n : Nat) (full : Run ω Unit ν α) (cut : Run ω Nat ν α) : Prop where
  whole : full.polls ≤ n → cut.result = full.result ∧ cut.acts = full.acts
  cancelled : n < full.polls → cut.result = .error .cancelled ∧
    ∃ before after, full.acts = before ++ .poll :: after ∧ before.countP Act.isPoll = n ∧
      cut.acts = before ++ [.poll, .report .cancelled]

namespace Run.CutAt

variable {n : Nat} {full : Run ω Unit ν α} {cut : Run ω Nat ν α}

theorem of_polls_eq_zero (hp : full.polls = 0) (hr : cut.result = full.result)
    (ha : cut.acts = full.acts) : CutAt n full cut :=
  ⟨fun _ => ⟨hr, ha⟩, fun h => absurd h (by omega)⟩

theorem prepend (h : CutAt n full cut) {a : Act ν} (ha : a.isPoll = false) :
    CutAt n (full.prepend a) (cut.prepend a) := by
  have hp : (full.prepend a).polls = full.polls := by
    simp only [polls, Run.prepend, List.countP_cons, ha]
    rfl
  constructor
  · intro hn
    obtain ⟨hr, hs⟩ := h.whole (hp ▸ hn)
    exact ⟨hr, congrArg (a :: ·) hs⟩
  · intro hn
    obtain ⟨hr, before, after, hf, hb, hc⟩ := h.cancelled (hp ▸ hn)
    refine ⟨hr, a :: before, after, congrArg (a :: ·) hf, ?_, congrArg (a :: ·) hc⟩
    rw [List.countP_cons, hb, ha]
    rfl

theorem prepend_poll (h : CutAt n full cut) :
    CutAt (n + 1) (full.prepend .poll) (cut.prepend .poll) := by
  have hp : (full.prepend .poll).polls = full.polls + 1 := List.countP_cons_of_pos rfl
  constructor
  · intro hn
    obtain ⟨hr, hs⟩ := h.whole (by omega)
    exact ⟨hr, congrArg (Act.poll :: ·) hs⟩
  · intro hn
    obtain ⟨hr, before, after, hf, hb, hc⟩ := h.cancelled (by omega)
    refine ⟨hr, .poll :: before, after, congrArg (Act.poll :: ·) hf, ?_,
      congrArg (Act.poll :: ·) hc⟩
    rw [List.countP_cons_of_pos rfl, hb]

theorem first_poll (w : ω) : CutAt 0 (full.prepend .poll)
    (⟨.error .cancelled, w, 0, [.poll, .report .cancelled]⟩ : Run ω Nat ν α) := by
  constructor
  · intro hn
    have hp : (full.prepend .poll).polls = full.polls + 1 := List.countP_cons_of_pos rfl
    omega
  · intro _
    exact ⟨rfl, [], full.acts, rfl, rfl, rfl⟩

theorem call {act : Except Error β → Act ν} (ha : ∀ r, (act r).isPoll = false)
    (answer : Except Error β × ω) {goFull : β → ω → Run ω Unit ν α} {goCut : β → ω → Run ω Nat ν α}
    (h : ∀ b w, CutAt n (goFull b w) (goCut b w)) :
    CutAt n (.call act answer () goFull) (.call act answer n goCut) := by
  obtain ⟨e | b, w⟩ := answer
  · refine of_polls_eq_zero ?_ rfl rfl
    simp [Run.call, polls, ha]
  · exact (h b w).prepend (ha _)

end Run.CutAt

/-- Any procedure is cut at the poll that finds the signal set. -/
theorem Procedure.run_cutAt (backend : Backend ω ν) (p : Procedure ν α) (w : ω) (n : Nat) :
    Run.CutAt n (p.run backend .never w ()) (p.run backend .aliveFor w n) := by
  -- only a poll takes one of the `n`; behind any other act both runs have as many left
  induction p generalizing w n with
  | done a => exact .of_polls_eq_zero rfl rfl rfl
  | fail e => exact .of_polls_eq_zero rfl rfl rfl
  | checkpoint next ih =>
    cases n with
    | zero => exact .first_poll w
    | succ n => exact (ih w n).prepend_poll
  | report e next ih => exact (ih w n).prepend rfl
  | load body baseUrl next ih => exact .call (fun _ => rfl) _ fun _ w => ih w n
  | enter node next ih => exact .call (fun _ => rfl) _ fun _ w => ih w n
  | findNodes c vars next ih => exact .call (fun _ => rfl) _ fun r w => ih r.1 r.2 w n
  | findElement c vars next ih => exact .call (fun _ => rfl) _ fun r w => ih r.1 r.2 w n
  | readString c isUrl vars next ih => exact .call (fun _ => rfl) _ fun r w => ih r.1 r.2 w n
  | readList c vars next ih => exact .call (fun _ => rfl) _ fun r w => ih r.1 r.2 w n

theorem Run.call_of_ok {σ τ : Type} {act : Except Error β → Act ν} {answer : Except Error β × ω}
    {s : σ} {t : τ} {go : β → ω → Run ω σ ν α} {go' : β → ω → Run ω τ ν α} {a : α}
    (hg : ∀ b w, (go b w).result = .ok a → (go' b w).result = .ok a)
    (h : (call act answer s go).result = .ok a) : (call act answer t go').result = .ok a := by
  obtain ⟨_ | b, w⟩ := answer
  · cases h
  · exact hg b w h

/-- A run that ends with a result was not cancelled, and that is the result of the run that never
is. -/
theorem Procedure.run_never_of_ok {σ : Type} (backend : Backend ω ν) (signal : Signal ω σ)
    (p : Procedure ν α) {w : ω} {s : σ} {a : α} (h : (p.run backend signal w s).result = .ok a) :
    (p.run backend .never w ()).result = .ok a := by
  induction p generalizing w s with
  | done => exact h
  | fail => cases h
  | checkpoint next ih =>
    rw [run] at h
    split at h
    · cases h
    · exact ih h
  | report _ next ih => exact ih h
  | load _ _ next ih => exact Run.call_of_ok (fun _ _ => ih) h
  | enter _ next ih => exact Run.call_of_ok (fun _ _ => ih) h
  | findNodes _ _ next ih => exact Run.call_of_ok (fun r _ => ih r.1 r.2) h
  | findElement _ _ next ih => exact Run.call_of_ok (fun r _ => ih r.1 r.2) h
  | readString _ _ _ next ih => exact Run.call_of_ok (fun r _ => ih r.1 r.2) h
  | readList _ _ next ih => exact Run.call_of_ok (fun r _ => ih r.1 r.2) h

/-- Cancelling an analysis is all or nothing: with a signal that is alive for `n` polls it either
has the result of the analysis that is never cancelled, after the same polls and calls, or it fails
as cancelled at its poll `n + 1`, and has made the calls before that poll and no other. -/
theorem analyze_aliveFor (s : Setting) (isSearch : Bool) (body : Option String)
    (backend : Backend ω ν) (w : ω) (n : Nat) :
    let full := (s.analyze isSearch body).run backend .never w ()
    let cut := (s.analyze isSearch body).run backend .aliveFor w n
    (full.polls ≤ n →
      cut.result = full.result ∧ cut.polls = full.polls ∧ cut.acts = full.acts) ∧
    (n < full.polls →
      cut.result = .error .cancelled ∧ cut.polls = n + 1 ∧
        ∃ before after, full.acts = before ++ .poll :: after ∧ before.countP Act.isPoll = n ∧
          cut.acts = before ++ [.poll, .report .cancelled] ∧
          cut.calls = before.filter Act.isCall) := by
  intro full cut
  have h : Run.CutAt n full cut := Procedure.run_cutAt backend _ w n
  constructor
  · intro hn
    obtain ⟨hr, ha⟩ := h.whole hn
    exact ⟨hr, by rw [Run.polls, ha, Run.polls], ha⟩
  · intro hn
    obtain ⟨hr, before, after, hf, hb, hc⟩ := h.cancelled hn
    refine ⟨hr, ?_, before, after, hf, hb, hc, ?_⟩
    · rw [Run.polls, hc, List.countP_append, hb]
      rfl
    · rw [Run.calls, hc, List.filter_append]
      exact List.append_nil _

/-- The analysis of one book on a list polls ten times. Alive for ten polls it is the same; alive for
four it ends at the fifth, before the kind of the book is read. -/
theorem analyze_constant_aliveFor :
    let s : Setting := ⟨default, "u", ⟨",", false, id, fun _ link => link⟩⟩
    let full := (s.analyze true (some "b")).run (.constant "x") .never () ()
    let cut n := (s.analyze true (some "b")).run (.constant "x") .aliveFor () n
    (full.polls ≤ 10 ∧ (cut 10).result = full.result) ∧
      4 < full.polls ∧ (cut 4).result = .error .cancelled ∧ (cut 4).polls = 5 := by
  intro s full cut
  have hle : full.polls ≤ 10 := by decide +kernel
  have hlt : 4 < full.polls := by decide +kernel
  obtain ⟨hr, -⟩ := (analyze_aliveFor s true (some "b") (.constant "x") () 10).1 hle
  obtain ⟨hc, hp, -⟩ := (analyze_aliveFor s true (some "b") (.constant "x") () 4).2 hlt
  exact ⟨⟨hle, hr⟩, hlt, hc, hp⟩

end Catalog
