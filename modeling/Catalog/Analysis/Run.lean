import Catalog.Analysis.Procedure

/-! # Runs

A procedure is run against a backend, which answers what is asked, and a signal, which is polled at
the checkpoints. The run keeps a record of all that was done.
-/

namespace Catalog

/-- Whatever can fail and changes a world. -/
abbrev Ask (ω : Type) := ExceptT Error (StateM ω)

/-- How pages are read in a world of type `ω`. Queries come with the variables as they are, and give
them back. -/
structure Backend (ω ν : Type) where
  bind (body baseUrl : String) : Ask ω Unit
  bindNode (node : ν) : Ask ω Unit
  findNodes (c : Chain) (vars : Variables) : Ask ω (List ν × Variables)
  /-- The first node; a backend may have a way of its own to it. -/
  findElement (c : Chain) (vars : Variables) : Ask ω (Option ν × Variables) := do
    let (nodes, vars) ← findNodes c vars
    return (nodes.head?, vars)
  readString (c : Chain) (isUrl : Bool) (vars : Variables) : Ask ω (String × Variables)
  readList (c : Chain) (vars : Variables) : Ask ω (List String × Variables)

/-- Finds one node everywhere, and reads one text. -/
def Backend.constant (text : String) : Backend Unit Unit where
  bind _ _ := pure ()
  bindNode _ := pure ()
  findNodes _ vars := pure ([()], vars)
  readString _ _ vars := pure (text, vars)
  readList _ vars := pure ([text], vars)

/-- The wish of a caller to go on or to end. It may depend on how often it was polled, and on the
world. -/
structure Signal (ω σ : Type) where
  poll (world : ω) (state : σ) : Bool × σ

namespace Signal

variable {ω : Type}

def never : Signal ω Unit := ⟨fun _ s => (false, s)⟩

def flag : Signal ω Bool := ⟨fun _ s => (s, s)⟩

/-- Not set for as many polls as the state says. -/
def aliveFor : Signal ω Nat := ⟨fun _ n => (n = 0, n - 1)⟩

end Signal

/-- What is done in a run; a call comes with the answer to it. -/
inductive Act (ν : Type) where
  | poll
  | report (e : Event)
  | load (body baseUrl : String) (answer : Except Error Unit)
  | enter (node : ν) (answer : Except Error Unit)
  | findNodes (c : Chain) (vars : Variables) (answer : Except Error (List ν × Variables))
  | findElement (c : Chain) (vars : Variables) (answer : Except Error (Option ν × Variables))
  | readString (c : Chain) (isUrl : Bool) (vars : Variables)
      (answer : Except Error (String × Variables))
  | readList (c : Chain) (vars : Variables) (answer : Except Error (List String × Variables))

namespace Act

variable {ν : Type}

def isPoll : Act ν → Bool
  | poll => true
  | _ => false

def isCall : Act ν → Bool
  | poll => false
  | report _ => false
  | _ => true

def event? : Act ν → Option Event
  | report e => some e
  | _ => none

end Act

structure Run (ω σ ν α : Type) where
  result : Except Error α
  world : ω
  signal : σ
  /-- What was done, in order. -/
  acts : List (Act ν)

namespace Run

variable {ω σ ν α : Type}

def prepend (a : Act ν) (r : Run ω σ ν α) : Run ω σ ν α := { r with acts := a :: r.acts }

def polls (r : Run ω σ ν α) : Nat := r.acts.countP Act.isPoll

def calls (r : Run ω σ ν α) : List (Act ν) := r.acts.filter Act.isCall

def events (r : Run ω σ ν α) : List Event := r.acts.filterMap Act.event?

end Run

/-- Takes down a call with its answer, and goes on from it or ends with its failure. -/
def Run.call {ω σ ν α β : Type} (act : Except Error β → Act ν) (answer : Except Error β × ω)
    (signal : σ) (next : β → ω → Run ω σ ν α) : Run ω σ ν α :=
  match answer with
  | (.ok b, world) => (next b world).prepend (act (.ok b))
  | (.error e, world) => ⟨.error e, world, signal, [act (.error e)]⟩

/-- Runs a procedure. A signal that is set at a checkpoint ends the run. -/
def Procedure.run {ω σ ν α : Type} (backend : Backend ω ν) (signal : Signal ω σ) :
    Procedure ν α → ω → σ → Run ω σ ν α
  | done a, w, s => ⟨.ok a, w, s, []⟩
  | fail e, w, s => ⟨.error e, w, s, []⟩
  | checkpoint next, w, s =>
    match signal.poll w s with
    | (true, s) => ⟨.error .cancelled, w, s, [.poll, .report .cancelled]⟩
    | (false, s) => (next.run backend signal w s).prepend .poll
  | report e next, w, s => (next.run backend signal w s).prepend (.report e)
  | load body baseUrl next, w, s =>
    .call (.load body baseUrl) ((backend.bind body baseUrl).run.run w) s fun _ w =>
      next.run backend signal w s
  | enter node next, w, s =>
    .call (.enter node) ((backend.bindNode node).run.run w) s fun _ w =>
      next.run backend signal w s
  | findNodes c vars next, w, s =>
    .call (.findNodes c vars) ((backend.findNodes c vars).run.run w) s fun (ns, vars) w =>
      (next ns vars).run backend signal w s
  | findElement c vars next, w, s =>
    .call (.findElement c vars) ((backend.findElement c vars).run.run w) s fun (n, vars) w =>
      (next n vars).run backend signal w s
  | readString c isUrl vars next, w, s =>
    .call (.readString c isUrl vars) ((backend.readString c isUrl vars).run.run w) s
      fun (text, vars) w => (next text vars).run backend signal w s
  | readList c vars next, w, s =>
    .call (.readList c vars) ((backend.readList c vars).run.run w) s fun (texts, vars) w =>
      (next texts vars).run backend signal w s

end Catalog
