import Catalog.Pattern.Regex

/-! # Programs

A regular expression becomes a list of instructions that name the instructions after them. Where
an instruction has two successors the first is preferred.
-/

namespace Catalog.Pattern

open Text

inductive Inst where
  /-- Takes one character of the set. -/
  | take (set : Array Range) (next : Nat)
  | check (a : Anchor) (next : Nat)
  /-- Notes the position in a slot. -/
  | save (slot next : Nat)
  | fork (first second : Nat)
  | accept
  deriving Repr, Inhabited

abbrev Program := Array Inst

namespace Program

def add (p : Program) (i : Inst) : Nat × Program := (p.size, p.push i)

/-- A preference for `body` over `exit`, or the other way round. -/
def choose (greedy : Bool) (body exit : Nat) : Inst :=
  if greedy then .fork body exit else .fork exit body

/-- Adds code by `emit` as often as said, each copy leading to the one added before. -/
def copies (emit : Nat → Program → Nat × Program) : Nat → Nat → Program → Nat × Program
  | 0, next, p => (next, p)
  | n + 1, next, p =>
    let (entry, p) := copies emit n next p
    emit entry p

/-- Copies that may be left out, each only together with those after it. -/
def options (emit : Nat → Program → Nat × Program) (greedy : Bool) (exit : Nat) :
    Nat → Program → Nat × Program
  | 0, p => (exit, p)
  | n + 1, p =>
    let (inner, p) := options emit greedy exit n p
    let (body, p) := emit inner p
    p.add (choose greedy body exit)

/-- One or more copies: a fork behind the body leads back to it. -/
def loop (emit : Nat → Program → Nat × Program) (greedy : Bool) (next : Nat) (p : Program) :
    Nat × Program :=
  let (back, p) := p.add .accept
  let (body, p) := emit back p
  (body, p.setIfInBounds back (choose greedy body next))

/-- Code for `r` that goes on at `next`; returns the place where it starts. If the body of a loop
may take nothing, zero copies are one choice in front of the loop. -/
def emit : Regex → Nat → Program → Nat × Program
  | .empty, next, p => (next, p)
  | .set s, next, p => p.add (.take s.ranges.toArray next)
  | .anchor a, next, p => p.add (.check a next)
  | .group i r, next, p =>
    let (stop, p) := p.add (.save (2 * i + 1) next)
    let (body, p) := emit r stop p
    p.add (.save (2 * i) body)
  | .seq r s, next, p =>
    let (second, p) := emit s next p
    emit r second p
  | .alt r s, next, p =>
    let (first, p) := emit r next p
    let (second, p) := emit s next p
    p.add (.fork first second)
  | .rep lo none greedy r, next, p =>
    if lo == 0 then
      if r.nullable then
        let (body, p) := loop (emit r) greedy next p
        p.add (choose greedy body next)
      else
        let (back, p) := p.add .accept
        let (body, p) := emit r back p
        (back, p.setIfInBounds back (choose greedy body next))
    else
      let (body, p) := loop (emit r) greedy next p
      copies (emit r) (lo - 1) body p
  | .rep lo (some hi) greedy r, next, p =>
    let (rest, p) := options (emit r) greedy next (hi - lo) p
    copies (emit r) lo rest p

/-- The program of a whole pattern and the place where it starts. The whole match is group 0. -/
def ofRegex (r : Regex) : Nat × Program :=
  let (accept, p) := add #[] .accept
  emit (.group 0 r) accept p

end Program

end Catalog.Pattern
