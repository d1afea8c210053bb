import Catalog.Page.Read
import Catalog.Rule.Resolve

/-! # Queries

Rules are read from a page. Before a fragment is read its assignments are carried out: each is a
rule of its own, whose text becomes the value of a variable. What is set is written down in order.
-/

namespace Catalog

/-- Reading starts from variables and may fail. It writes down the texts that it sets under keys;
those that are set by then stay set. -/
abbrev Reading := ReaderT Variables (ExceptT Error (StateM (List (String × String))))

namespace Reading

variable {α : Type}

def ofExcept (r : Except Error α) : Reading α := fun _ => ExceptT.mk (pure r)

/-- The variables as they are: those at the start, with all that was set since. -/
def vars : Reading Variables := do return (← read).putAll (← get)

def set (key value : String) : Reading Unit := modify (· ++ [(key, value)])

/-- Sets variables in order, each to what its rule reads. -/
def store (read : String → Reading String) : List (String × String) → Reading Unit
  | [] => pure ()
  | (key, rule) :: rest => do
    let value ← read rule
    set key value
    store read rest

/-- Reads from the given variables. The answer comes with what was set. -/
def answer (x : Reading α) (v : Variables) : Except Error α × List (String × String) :=
  (ReaderT.run x v).run.run []

/-- A reading changes the variables that it starts from. -/
def run (x : Reading α) : StateM Variables (Except Error α) := fun v =>
  let (r, assigned) := x.answer v
  (r, v.putAll assigned)

end Reading

namespace Page

/-- A link as it is written, without the blanks around it and with its ampersands plain. -/
def cleanLink (link : String) : String := (trimmed link).replace "&amp;" "&"

/-- One text for all values of a fragment: a link is the first of them, and so is the match of a
pattern. -/
def single (d : Dialect) (isUrl : Bool) (values : List String) : String :=
  if isUrl then (values.head?.map cleanLink).getD ""
  else if d = .regex then values.head?.getD ""
  else "\n".intercalate values

/-- The text of a fragment whose assignments have been carried out. -/
def fragmentString (p : Page) (isUrl : Bool) (f : Fragment) : Reading String := do
  let values ← Reading.ofExcept (p.values f (← Reading.vars))
  return single f.dialect isUrl values

/-- The text that the rule of an assignment reads. The rules of the assignments within it are
shorter than the rule. -/
def ruleString (p : Page) (rule : String) : Reading String := do
  let chain ← Reading.ofExcept (Rule.resolve rule)
  chain.evaluate fun f => do
    Reading.store
      (fun inner => if _h : inner.utf8ByteSize < rule.utf8ByteSize then p.ruleString inner else pure "")
      f.puts
    p.fragmentString false f
termination_by rule.utf8ByteSize

/-- Carries out the assignments of a fragment. -/
def store (p : Page) (f : Fragment) : Reading Unit := Reading.store p.ruleString f.puts

def queryString (p : Page) (c : Chain) (isUrl : Bool) : Reading String :=
  c.evaluate fun f => do
    p.store f
    p.fragmentString isUrl f

def queryList (p : Page) (c : Chain) : Reading (List String) :=
  c.evaluateList fun f => do
    p.store f
    Reading.ofExcept (p.values f (← Reading.vars))

def queryNodes (p : Page) (c : Chain) : Reading (List Handle) :=
  Chain.firstNonempty (fun f => do
    p.store f
    Reading.ofExcept (p.nodes f (← Reading.vars))) c.alternatives

end Page

end Catalog
