import Catalog.Pattern.Escape

/-! # Bracketed classes

A class in brackets is a union of characters, ranges, escapes, named ASCII classes and nested
classes; the operators `&&`, `--` and `~~` combine the unions from left to right.
-/

namespace Catalog.Pattern

open Text

/-- The items of one union read so far. Nesting depth is counted because it is limited. -/
structure Union where
  ranges : List Range := []
  count : Nat := 0
  depth : Nat := 0

namespace Union

def push (u : Union) (s : CodeSet) (depth : Nat) : Union :=
  ⟨s.ranges ++ u.ranges, u.count + 1, max u.depth depth⟩

def set (u : Union) : CodeSet := .ofRanges u.ranges

def level (u : Union) : Nat := if u.count ≥ 2 then u.depth + 1 else u.depth

end Union

inductive SetOp where
  | both
  | without
  | either
  deriving DecidableEq

/-- What is waiting while the rest of a class is read: the class around an open bracket, or the
left side of an operator. -/
inductive Pending where
  | bracket (negated : Bool) (outer : Union)
  | operator (op : SetOp) (left : CodeSet) (depth : Nat)

def SetOp.apply (fl : Flags) (op : SetOp) (a b : CodeSet) : CodeSet :=
  let a := if fl.ignoreCase then Folding.close a else a
  let b := if fl.ignoreCase then Folding.close b else b
  match op with
  | both => a.inter b
  | without => a.diff b
  | either => a.symmDiff b

def closeOperator (fl : Flags) (u : Union) : List Pending → (CodeSet × Nat) × List Pending
  | .operator op left depth :: stack =>
    ((op.apply fl left u.set, max depth u.level + 1), stack)
  | stack => ((u.set, u.level), stack)

def asciiNamed? (name : String) : Option CodeSet :=
  let set (l : List (Nat × Nat)) : Option CodeSet := some ⟨l.map fun p => ⟨p.1, p.2⟩⟩
  match name with
  | "alnum" => set [(0x30, 0x39), (0x41, 0x5A), (0x61, 0x7A)]
  | "alpha" => set [(0x41, 0x5A), (0x61, 0x7A)]
  | "ascii" => set [(0, 0x7F)]
  | "blank" => set [(0x09, 0x09), (0x20, 0x20)]
  | "cntrl" => set [(0, 0x1F), (0x7F, 0x7F)]
  | "digit" => set [(0x30, 0x39)]
  | "graph" => set [(0x21, 0x7E)]
  | "lower" => set [(0x61, 0x7A)]
  | "print" => set [(0x20, 0x7E)]
  | "punct" => set [(0x21, 0x2F), (0x3A, 0x40), (0x5B, 0x60), (0x7B, 0x7E)]
  | "space" => set [(0x09, 0x0D), (0x20, 0x20)]
  | "upper" => set [(0x41, 0x5A)]
  | "word" => set [(0x30, 0x39), (0x41, 0x5A), (0x5F, 0x5F), (0x61, 0x7A)]
  | "xdigit" => set [(0x30, 0x39), (0x41, 0x46), (0x61, 0x66)]
  | _ => none

/-- A named ASCII class, after its first bracket: the set, whether it is negated, the rest. -/
def asciiClass? : List Char → Option (CodeSet × Bool × List Char)
  | ':' :: r => do
    let (negated, r) := match r with
      | '^' :: t => (true, t)
      | t => (false, t)
    let (name, t) ← cutAt? [':', ']'] r
    if name.contains ':' then none
    else
      let s ← asciiNamed? (String.ofList name)
      some (s, negated, t)
  | _ => none

/-- Leading hyphens of a class are characters of it. -/
def leadingHyphens (fl : Flags) (u : Union) : List Char → Option (Union × List Char)
  | [] => none
  | c :: r =>
    if c == '-' then
      if fl.verbose then some (u.push (.singleton '-') 0, dropVerbose false r)
      else leadingHyphens fl (u.push (.singleton '-') 0) r
    else some (u, c :: r)

/-- The start of a class after its bracket: the negation, then leading hyphens, then a closing
bracket that is a character because nothing stands before it. -/
def openBracket (fl : Flags) (s : List Char) : Option (Bool × Union × List Char) := do
  let (negated, s) := match fl.skip s with
    | '^' :: t => (true, fl.skip t)
    | t => (false, t)
  let (u, s) ← leadingHyphens fl {} s
  match s with
  | [] => none
  | c :: r =>
    if u.count == 0 && c == ']' then
      let r := fl.skip r
      if r.isEmpty then none else some (negated, u.push (.singleton ']') 0, r)
    else some (negated, u, c :: r)

/-- One character or escape inside a class. -/
def bracketAtom (fl : Flags) : List Char → Option (Atom × List Char)
  | [] => none
  | '\\' :: r => escape fl r
  | c :: r => some (.literal c false, r)

def Atom.toSet? (fl : Flags) : Atom → Option CodeSet
  | .literal c _ => if fl.unicode || c.toNat < 0x80 then some (.singleton c) else none
  | .set s => some s
  | .anchor _ => none

def Atom.toChar? (fl : Flags) : Atom → Option Char
  | .literal c _ => if fl.unicode || c.toNat < 0x80 then some c else none
  | _ => none

/-- One item of a union: an atom, or a range between two characters. A hyphen before a closing
bracket or before another hyphen makes no range. -/
def bracketItem (fl : Flags) (s : List Char) : Option (CodeSet × List Char) := do
  let (first, r) ← bracketAtom fl s
  let r := fl.skip r
  match r with
  | '-' :: t =>
    match fl.skip t with
    | [] => none
    | c :: t' =>
      if c == ']' || c == '-' then (first.toSet? fl).map (·, r)
      else do
        let (second, r) ← bracketAtom fl (c :: t')
        let a ← first.toChar? fl
        let b ← second.toChar? fl
        if a ≤ b then some (.interval a b, r) else none
  | [] => none
  | _ => (first.toSet? fl).map (·, r)

/-- Either the class is complete, or reading goes on. -/
inductive BracketStep where
  | done (s : CodeSet) (depth : Nat)
  | more (stack : List Pending) (u : Union)

def bracketStep (fl : Flags) (stack : List Pending) (u : Union) (s : List Char) :
    Option (BracketStep × List Char) :=
  let operator (op : SetOp) (r : List Char) :=
    let ((left, depth), stack) := closeOperator fl u stack
    some (.more (.operator op left depth :: stack) {}, r)
  match s with
  | '[' :: r =>
    match asciiClass? r with
    | some (set, negated, t) => (fl.finish negated set).map fun set => (.more stack (u.push set 0), t)
    | none => (openBracket fl r).map fun (negated, v, t) => (.more (.bracket negated u :: stack) v, t)
  | ']' :: r =>
    let ((set, depth), stack) := closeOperator fl u stack
    match stack with
    | .bracket negated outer :: below => do
      let set ← fl.finish negated set
      if below.isEmpty then some (.done set (depth + 1), r)
      else some (.more below (outer.push set (depth + 1)), r)
    | _ => none
  | '&' :: '&' :: r => operator .both r
  | '-' :: '-' :: r => operator .without r
  | '~' :: '~' :: r => operator .either r
  | s => (bracketItem fl s).map fun (set, r) => (.more stack (u.push set 0), r)

def bracketLoop (fl : Flags) (stack : List Pending) (u : Union) (s : List Char) :
    Option ((CodeSet × Nat) × List Char) :=
  match bracketStep fl stack u (fl.skip s) with
  | none => none
  | some (.done set depth, r) => some ((set, depth), r)
  | some (.more stack u, r) => if r.length < s.length then bracketLoop fl stack u r else none
termination_by s.length

/-- A whole class after its first bracket: the set, its nesting depth, the rest. -/
def bracket (fl : Flags) (s : List Char) : Option ((CodeSet × Nat) × List Char) := do
  let (negated, u, r) ← openBracket fl s
  bracketLoop fl [.bracket negated {}] u r

end Catalog.Pattern
