import Catalog.Proofs.Page.Single

/-! # What readings ensure

A reading is taken apart into its steps: what every step ensures of its result, of its failures and
of what has been set by then, the whole ensures. A rule is taken apart into its fragments.
-/

namespace Catalog

variable {α β : Type} {vars : Variables} {Inv : List (String × String) → Prop} {P : α → Prop}
  {Q : β → Prop} {E F : Error → Prop}

/-- A result that satisfies `P`, or a failure that satisfies `E`. -/
def Outcome (P : α → Prop) (E : Error → Prop) : Except Error α → Prop
  | .ok a => P a
  | .error e => E e

namespace Reading

/-- From the variables `vars` and anything set that satisfies `Inv`, a reading sets only what
satisfies it again. Its results satisfy `P`, and its failures `E`. -/
def Ensures (vars : Variables) (Inv : List (String × String) → Prop) (P : α → Prop)
    (E : Error → Prop) (x : Reading α) : Prop :=
  ∀ log, Inv log → Inv (x.resume vars log).2 ∧ Outcome P E (x.resume vars log).1

namespace Ensures

theorem pure {a : α} (h : P a) : Ensures vars Inv P E (Pure.pure a) := fun _ hi => ⟨hi, h⟩

theorem bind {x : Reading α} {f : α → Reading β} (h : Ensures vars Inv P E x)
    (hf : ∀ a, P a → Ensures vars Inv Q E (f a)) : Ensures vars Inv Q E (x >>= f) := by
  intro log hi
  obtain ⟨hx, ho⟩ := h log hi
  rw [resume_bind]
  generalize x.resume vars log = r at hx ho ⊢
  obtain ⟨_ | a, log'⟩ := r
  · exact ⟨hx, ho⟩
  · exact hf a ho log' hx

theorem ofExcept {r : Except Error α} (h : Outcome P E r) :
    Ensures vars Inv P E (Reading.ofExcept r) := fun _ hi => ⟨hi, h⟩

theorem current :
    Ensures vars Inv (fun v => ∃ log, Inv log ∧ v = vars.putAll log) E Reading.vars :=
  fun log hi => ⟨hi, log, hi, rfl⟩

theorem imp {x : Reading α} (h : Ensures vars Inv P E x) {P' : α → Prop} (hp : ∀ a, P a → P' a)
    (he : ∀ e, E e → F e) : Ensures vars Inv P' F x := by
  intro log hi
  obtain ⟨hx, ho⟩ := h log hi
  refine ⟨hx, ?_⟩
  generalize (x.resume vars log).1 = r at ho ⊢
  cases r with
  | ok a => exact hp a ho
  | error e => exact he e ho

end Ensures

end Reading

namespace Chain

variable {read : Fragment → Reading (List α)} {fragments : List Fragment}
  {alternatives : List (List Fragment)}

/-- What every value of a fragment satisfies, every value of an alternative does. -/
theorem readAlternative_ensures
    (h : ∀ f ∈ fragments, Reading.Ensures vars Inv (∀ v ∈ ·, P v) E (read f)) :
    Reading.Ensures vars Inv (∀ v ∈ ·, P v) E (readAlternative read fragments) := by
  induction fragments with
  | nil => exact .pure nofun
  | cons f rest ih =>
    obtain ⟨hf, hr⟩ := List.forall_mem_cons.mp h
    exact hf.bind fun _ hv => (ih hr).bind fun _ hm => .pure (List.forall_mem_append.mpr ⟨hv, hm⟩)

theorem firstNonempty_ensures (h : ∀ alternative ∈ alternatives, ∀ f ∈ alternative,
      Reading.Ensures vars Inv (∀ v ∈ ·, P v) E (read f)) :
    Reading.Ensures vars Inv (∀ v ∈ ·, P v) E (firstNonempty read alternatives) := by
  induction alternatives with
  | nil => exact .pure nofun
  | cons alternative rest ih =>
    obtain ⟨ha, hr⟩ := List.forall_mem_cons.mp h
    refine (readAlternative_ensures ha).bind fun values hv => ?_
    split
    · exact ih hr
    · exact .pure hv

theorem readAlternative_barren {S : Fragment → Prop}
    (h : ∀ f ∈ fragments, Reading.Ensures vars Inv (fun values => values = [] ∧ S f) E (read f)) :
    Reading.Ensures vars Inv (fun values => values = [] ∧ ∀ f ∈ fragments, S f) E
      (readAlternative read fragments) := by
  induction fragments with
  | nil => exact .pure ⟨rfl, nofun⟩
  | cons f rest ih =>
    obtain ⟨hf, hr⟩ := List.forall_mem_cons.mp h
    refine hf.bind fun v hv => (ih hr).bind fun w hw => .pure ⟨?_, ?_⟩
    · rw [hv.1, hw.1, List.append_nil]
    · exact List.forall_mem_cons.mpr ⟨hv.2, hw.2⟩

theorem firstNonempty_barren {S : Fragment → Prop} (h : ∀ alternative ∈ alternatives,
      ∀ f ∈ alternative, Reading.Ensures vars Inv (fun values => values = [] ∧ S f) E (read f)) :
    Reading.Ensures vars Inv (fun values => values = [] ∧
        ∀ alternative ∈ alternatives, ∀ f ∈ alternative, S f) E
      (firstNonempty read alternatives) := by
  induction alternatives with
  | nil => exact .pure ⟨rfl, nofun⟩
  | cons alternative rest ih =>
    obtain ⟨ha, hr⟩ := List.forall_mem_cons.mp h
    refine (readAlternative_barren ha).bind fun values hv => ?_
    rw [hv.1]
    exact (ih hr).imp (fun w hw => ⟨hw.1, List.forall_mem_cons.mpr ⟨hv.2, hw.2⟩⟩) fun _ he => he

end Chain

end Catalog
