import Catalog.Error
import Catalog.Text.Blank
import Catalog.Text.Cut
import Catalog.Json.Printer

/-! # Paths into JSON values

A path is a list of steps: a member, an item, all parts of a container, or a member at any depth.
Selecting keeps the order of the document.
-/

namespace Catalog.Json

inductive Segment where
  | key (name : String)
  /-- A negative number counts from the end. -/
  | index (i : Int64)
  | wildcard
  /-- Members of this name at any depth. -/
  | descendant (name : String)
  deriving DecidableEq, Repr

structure Path where
  segments : List Segment
  deriving DecidableEq, Repr

namespace Path

def isStop (c : Char) : Bool := c == '.' || c == '['

/-- A decimal number of 64 bits with an optional sign. -/
def integer? (s : List Char) : Option Int64 :=
  let (negative, ds) := match s with
    | '-' :: r => (true, r)
    | '+' :: r => (false, r)
    | r => (false, r)
  if ds.isEmpty || !ds.all Char.isDigit then none
  else
    let n : Int := ds.foldl (fun n c => 10 * n + (c.toNat - 48)) 0
    let i := if negative then -n else n
    if -0x8000000000000000 ≤ i && i < 0x8000000000000000 then some (.ofInt i) else none

/-- A name between two quotes of one kind. -/
def quoted? (quote : Char) : List Char → Option (List Char)
  | c :: r => if c == quote then Text.dropEnd? [quote] r else none
  | [] => none

def bracket? (inner : List Char) : Option Segment :=
  if inner == ['*'] then some .wildcard
  else
    match integer? inner with
    | some i => some (.index i)
    | none =>
      ((quoted? '\'' inner).or (quoted? '"' inner)).map fun name => .key (String.ofList name)

theorem dropWhile_length_le (p : Char → Bool) (s : List Char) :
    (s.dropWhile p).length ≤ s.length :=
  (List.dropWhile_sublist p).length_le

/-- The steps written by a text. A name without a point may stand at the very start only. -/
def steps (first : Bool) (s : List Char) : Except RuleFault (List Segment) :=
  match s with
  | [] => .ok []
  | c :: r =>
    if c == '.' then
      match r with
      | '.' :: t =>
        let name := t.takeWhile (!isStop ·)
        if name.isEmpty then .error .emptyDescendantKey
        else do return .descendant (String.ofList name) :: (← steps false (t.dropWhile (!isStop ·)))
      | '*' :: t => do return .wildcard :: (← steps false t)
      | t =>
        let name := t.takeWhile (!isStop ·)
        if name.isEmpty then .error .emptyKey
        else do return .key (String.ofList name) :: (← steps false (t.dropWhile (!isStop ·)))
    else if c == '[' then
      let inner := r.takeWhile (· != ']')
      match _h : r.dropWhile (· != ']') with
      | [] => .error .unclosedBracket
      | _ :: t =>
        match bracket? (Text.trim inner) with
        | none => .error .badBracket
        | some segment => do return segment :: (← steps false t)
    else if first then do
      return .key (String.ofList (c :: r.takeWhile (!isStop ·))) ::
        (← steps false (r.dropWhile (!isStop ·)))
    else .error .unexpectedCharacter
termination_by s.length
decreasing_by
  · exact Nat.lt_of_le_of_lt (dropWhile_length_le _ _) (by simp only [List.length_cons]; omega)
  · simp only [List.length_cons]; omega
  · exact Nat.lt_of_le_of_lt (dropWhile_length_le _ _) (by simp)
  · have := dropWhile_length_le (· != ']') r
    rw [_h] at this
    simp at this ⊢
    omega
  · exact Nat.lt_of_le_of_lt (dropWhile_length_le _ _) (by simp)

/-- Reads a path. A dollar sign in front may be left out. -/
def parse (text : String) : Except Error Path :=
  let s := Text.trim text.toList
  let body := match s with
    | '$' :: r => r
    | s => s
  match steps true body with
  | .ok segments => .ok ⟨segments⟩
  | .error fault => .error (.invalidRule (String.ofList s) fault)

end Path

mutual

/-- The members of a name at any depth, each before what is found inside it. -/
def Value.descendants (name : String) : Value → List Value
  | .array items => itemDescendants name items
  | .object members => memberDescendants name members
  | _ => []

def itemDescendants (name : String) : List Value → List Value
  | [] => []
  | v :: rest => v.descendants name ++ itemDescendants name rest

def memberDescendants (name : String) : List (String × Value) → List Value
  | [] => []
  | (n, v) :: rest =>
    (if n = name then [v] else []) ++ (v.descendants name ++ memberDescendants name rest)

end

def Segment.select : Segment → Value → List Value
  | .key name, .object members => (members.lookup name).toList
  | .index i, .array items =>
    let place := if i < 0 then (items.length : Int) + i.toInt else i.toInt
    if place < 0 then [] else items[place.toNat]?.toList
  | .wildcard, .array items => items
  | .wildcard, .object members => members.map (·.2)
  | .descendant name, v => v.descendants name
  | _, _ => []

/-- Takes the steps one after another, from every value reached so far. -/
def Path.selectAll : List Segment → List Value → List Value
  | [], values => values
  | segment :: rest, values => selectAll rest (values.flatMap segment.select)

def Path.select (p : Path) (root : Value) : List Value := selectAll p.segments [root]

mutual

/-- A value as strings: texts as they are, arrays item by item, `null` not at all, and all else
in its compact form. -/
def Value.strings : Value → List String
  | .null => []
  | .string s => [s]
  | .array items => itemStrings items
  | v => [v.toText]

def itemStrings : List Value → List String
  | [] => []
  | v :: rest => v.strings ++ itemStrings rest

end

end Catalog.Json
