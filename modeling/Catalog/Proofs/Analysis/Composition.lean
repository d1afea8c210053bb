import Catalog.Analysis.Run

/-! # Runs of composed procedures

A procedure that goes on with another one runs through the acts of the first and then, from the
world and the signal that are left, through those of the second. A failure of the first is the
failure of both.
-/

namespace Catalog

variable {ω σ ν α β γ : Type}

namespace Run

def andThen (r : Run ω σ ν α) (next : α → ω → σ → Run ω σ ν β) : Run ω σ ν β :=
  match r.result with
  | .ok a =>
    let t := next a r.world r.signal
    { t with acts := r.acts ++ t.acts }
  | .error e => ⟨.error e, r.world, r.signal, r.acts⟩

def map (f : α → β) (r : Run ω σ ν α) : Run ω σ ν β :=
  ⟨r.result.map f, r.world, r.signal, r.acts⟩

variable {r : Run ω σ ν α} {next : α → ω → σ → Run ω σ ν β}

@[simp] theorem prepend_result (a : Act ν) : (r.prepend a).result = r.result := rfl
@[simp] theorem prepend_world (a : Act ν) : (r.prepend a).world = r.world := rfl

theorem andThen_of_ok {a : α} (h : r.result = .ok a) :
    r.andThen next =
      { next a r.world r.signal with acts := r.acts ++ (next a r.world r.signal).acts } := by
  simp only [andThen, h]

theorem andThen_of_error {e : Error} (h : r.result = .error e) :
    r.andThen next = ⟨.error e, r.world, r.signal, r.acts⟩ := by
  simp only [andThen, h]

theorem prepend_andThen (a : Act ν) : (r.prepend a).andThen next = (r.andThen next).prepend a := by
  cases h : r.result with
  | ok b => rw [andThen_of_ok h, andThen_of_ok (r := r.prepend a) h]; rfl
  | error e => rw [andThen_of_error h, andThen_of_error (r := r.prepend a) h]; rfl

theorem call_andThen {act : Except Error γ → Act ν} {answer : Except Error γ × ω} {s : σ}
    {go : γ → ω → Run ω σ ν α} :
    (call act answer s go).andThen next = call act answer s fun c w => (go c w).andThen next := by
  obtain ⟨_ | c, w⟩ := answer
  · rfl
  · exact prepend_andThen _

theorem andThen_result_eq_map {f : α → β} (h : ∀ a w s, (next a w s).result = .ok (f a)) :
    (r.andThen next).result = r.result.map f := by
  cases hr : r.result with
  | ok a => rw [andThen_of_ok hr]; exact h a _ _
  | error e => rw [andThen_of_error hr]; rfl

end Run

namespace Procedure

theorem andThen_done (p : Procedure ν α) : p.andThen done = p := by
  induction p <;> simp_all only [andThen]

theorem andThen_assoc (p : Procedure ν α) (f : α → Procedure ν β) (g : β → Procedure ν γ) :
    (p.andThen f).andThen g = p.andThen fun a => (f a).andThen g := by
  induction p <;> simp_all only [andThen]

variable (backend : Backend ω ν) (signal : Signal ω σ)

theorem run_andThen (p : Procedure ν α) (f : α → Procedure ν β) (w : ω) (s : σ) :
    (p.andThen f).run backend signal w s =
      (p.run backend signal w s).andThen fun a w s => (f a).run backend signal w s := by
  induction p generalizing w s with
  | done a => rfl
  | fail e => rfl
  | checkpoint next ih =>
    simp only [andThen, run]
    obtain ⟨_ | _, s'⟩ := signal.poll w s
    · exact (congrArg (Run.prepend .poll) (ih w s')).trans (Run.prepend_andThen _).symm
    · rfl
  | report e next ih =>
    exact (congrArg (Run.prepend _) (ih w s)).trans (Run.prepend_andThen _).symm
  | load _ _ next ih => simp only [andThen, run, Run.call_andThen, ih]
  | enter _ next ih => simp only [andThen, run, Run.call_andThen, ih]
  | findNodes _ _ next ih => simp only [andThen, run, Run.call_andThen, ih]
  | findElement _ _ next ih => simp only [andThen, run, Run.call_andThen, ih]
  | readString _ _ _ next ih => simp only [andThen, run, Run.call_andThen, ih]
  | readList _ _ next ih => simp only [andThen, run, Run.call_andThen, ih]

theorem run_andThen_done (p : Procedure ν α) (f : α → β) (w : ω) (s : σ) :
    (p.andThen fun a => done (f a)).run backend signal w s =
      (p.run backend signal w s).map f := by
  rw [run_andThen]
  cases hr : (p.run backend signal w s).result with
  | ok a => rw [Run.andThen_of_ok hr]; simp only [run, List.append_nil, Run.map, hr, Except.map]
  | error e => rw [Run.andThen_of_error hr]; simp only [Run.map, hr, Except.map]

end Procedure

namespace Reader

theorem bind_apply (x : Reader ν α) (f : α → Reader ν β) (v : Variables) :
    (x >>= f) v = (x v).andThen fun r => f r.1 r.2 := rfl

end Reader

end Catalog
