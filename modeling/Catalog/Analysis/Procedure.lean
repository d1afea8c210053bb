import Catalog.Book.Variables
import Catalog.Rule.Chain

/-! # Procedures

A procedure says what is asked of a page, step by step, without knowing how the page is read: each
step leads on from the answer to it. Between the steps are checkpoints, where the caller may end the
whole.
-/

namespace Catalog

/-- What is reported while a page is read. -/
inductive Event where
  | fetched (url : String)
  | cancelled
  | detailPage
  | listInit
  | detailInit
  | emptyList
  | listSize (size : Nat)
  | reversing
  /-- A field that has been read, and whether it is of interest to everyone. -/
  | field (name value : String) (verbose : Bool)
  deriving DecidableEq, Repr

namespace Event

def message? : Event → Option String
  | fetched _ => some "content fetched"
  | cancelled => some "extraction cancelled"
  | detailPage => some "url is a detail page"
  | listInit => some "running list init rule"
  | detailInit => some "running detail init rule"
  | emptyList => some "list is empty, reading page as a detail page"
  | listSize _ => some "list size"
  | reversing => some "reversing list order"
  | field _ _ _ => none

/-- Named values that belong to an event. -/
def details : Event → List (String × String)
  | fetched url => [("url", url)]
  | listSize size => [("size", toString size)]
  | field name value _ => [("field", name), ("value", value)]
  | _ => []

/-- Whether an event is of interest to everyone. -/
def isVerbose : Event → Bool
  | field _ _ verbose => verbose
  | _ => true

end Event

/-- A procedure over nodes of type `ν` that ends with an `α`. -/
inductive Procedure (ν α : Type) where
  | done (result : α)
  | fail (e : Error)
  /-- Ends here if the caller has cancelled. -/
  | checkpoint (next : Procedure ν α)
  | report (e : Event) (next : Procedure ν α)
  /-- Binds a page. -/
  | load (body baseUrl : String) (next : Procedure ν α)
  /-- Binds a node. -/
  | enter (node : ν) (next : Procedure ν α)
  | findNodes (c : Chain) (vars : Variables) (next : List ν → Variables → Procedure ν α)
  | findElement (c : Chain) (vars : Variables) (next : Option ν → Variables → Procedure ν α)
  | readString (c : Chain) (isUrl : Bool) (vars : Variables)
      (next : String → Variables → Procedure ν α)
  | readList (c : Chain) (vars : Variables) (next : List String → Variables → Procedure ν α)

namespace Procedure

variable {ν α β : Type}

def andThen : Procedure ν α → (α → Procedure ν β) → Procedure ν β
  | done a, f => f a
  | fail e, _ => fail e
  | checkpoint next, f => checkpoint (next.andThen f)
  | report e next, f => report e (next.andThen f)
  | load body baseUrl next, f => load body baseUrl (next.andThen f)
  | enter node next, f => enter node (next.andThen f)
  | findNodes c vars next, f => findNodes c vars fun ns v => (next ns v).andThen f
  | findElement c vars next, f => findElement c vars fun n v => (next n v).andThen f
  | readString c isUrl vars next, f => readString c isUrl vars fun s v => (next s v).andThen f
  | readList c vars next, f => readList c vars fun ss v => (next ss v).andThen f

instance : Monad (Procedure ν) where
  pure := done
  bind := andThen

def ofExcept : Except Error α → Procedure ν α
  | .ok a => done a
  | .error e => fail e

end Procedure

/-- A procedure that carries variables along. -/
abbrev Reader (ν : Type) := StateT Variables (Procedure ν)

namespace Reader

variable {ν : Type}

def checkpoint : Reader ν Unit := fun v => .checkpoint (.done ((), v))

def report (e : Event) : Reader ν Unit := fun v => .report e (.done ((), v))

def enter (node : ν) : Reader ν Unit := fun v => .enter node (.done ((), v))

def findNodes (c : Chain) : Reader ν (List ν) := fun v => .findNodes c v fun ns v => .done (ns, v)

def findElement (c : Chain) : Reader ν (Option ν) :=
  fun v => .findElement c v fun n v => .done (n, v)

def readString (c : Chain) (isUrl : Bool) : Reader ν String :=
  fun v => .readString c isUrl v fun s v => .done (s, v)

def readList (c : Chain) : Reader ν (List String) :=
  fun v => .readList c v fun ss v => .done (ss, v)

def ofExcept {α : Type} (r : Except Error α) : Reader ν α :=
  fun v => (Procedure.ofExcept r).andThen fun a => .done (a, v)

end Reader

end Catalog
