import Catalog.Rule.Fragment

/-! # Chains

A chain is a sequence of fragments. Fragments joined by `&&` make one alternative, and the first
alternative that yields anything is the result of the chain; later ones are not read.
-/

namespace Catalog

structure Chain where
  fragments : List Fragment

namespace Chain

def empty : Chain := ⟨[]⟩

/-- The first fragment has nothing before it, whatever link it came with. -/
def ofFragments : List Fragment → Chain
  | [] => ⟨[]⟩
  | f :: rest => ⟨{ f with link := .first } :: rest⟩

def isEmpty (c : Chain) : Bool := c.fragments.isEmpty

/-- Cuts fragments before each one that is not joined by `&&`. -/
def group : List Fragment → List (List Fragment)
  | [] => []
  | f :: rest =>
    match rest, group rest with
    | next :: _, alternative :: others =>
      if next.link = .and then (f :: alternative) :: others else [f] :: alternative :: others
    | _, groups => [f] :: groups

def alternatives (c : Chain) : List (List Fragment) := group c.fragments

/-- The alternatives of a chain are made of its fragments. -/
theorem flatten_group (fragments : List Fragment) : (group fragments).flatten = fragments := by
  induction fragments with
  | nil => rfl
  | cons f rest ih =>
    unfold group
    split
    · rename_i next _ alternative others hg
      rw [hg] at ih
      split <;> simp_all
    · simp [ih]

theorem mem_of_mem_alternatives {c : Chain} {alternative : List Fragment} {f : Fragment}
    (ha : alternative ∈ c.alternatives) (hf : f ∈ alternative) : f ∈ c.fragments := by
  have hm : f ∈ c.alternatives.flatten := List.mem_flatten.mpr ⟨_, ha, hf⟩
  rwa [alternatives, flatten_group] at hm

section

variable {m : Type → Type} [Monad m]

/-- The values of the fragments of one alternative, in order. -/
def readAlternative {α : Type} (read : Fragment → m (List α)) : List Fragment → m (List α)
  | [] => pure []
  | f :: rest => do
    let values ← read f
    let more ← readAlternative read rest
    pure (values ++ more)

/-- The values of the first alternative that has any. -/
def firstNonempty {α : Type} (read : Fragment → m (List α)) : List (List Fragment) → m (List α)
  | [] => pure []
  | alternative :: rest => do
    let values ← readAlternative read alternative
    if values.isEmpty then firstNonempty read rest else pure values

/-- Non-empty values, each after the replacement of its fragment. -/
def keep (f : Fragment) (values : List String) : List String :=
  (values.map f.postProcess).filter (!·.isEmpty)

def evaluateList (c : Chain) (read : Fragment → m (List String)) : m (List String) :=
  firstNonempty (fun f => do return keep f (← read f)) c.alternatives

/-- Reads one string: the parts of an alternative are joined by line feeds. -/
def evaluate (c : Chain) (read : Fragment → m String) : m String := do
  let parts ← firstNonempty (fun f => do return keep f [← read f]) c.alternatives
  return "\n".intercalate parts

end

end Chain

end Catalog
