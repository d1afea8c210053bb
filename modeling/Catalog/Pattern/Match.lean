import Catalog.Pattern.Parser
import Catalog.Pattern.Search

/-! # Matches

A compiled pattern, its leftmost match from a position, and all its matches from left to right.
-/

namespace Catalog

structure Pattern where
  source : String
  captures : Nat
  names : List (String × Nat)
  start : Nat
  program : Pattern.Program

namespace Pattern

/-- Compiles a pattern; `none` if it is malformed or too large. -/
def compile? (source : String) : Option Pattern :=
  (parse? source.toList).map fun r =>
    let (start, program) := Program.ofRegex r.regex
    ⟨source, r.captures, r.names, start, program⟩

theorem source_of_compile? {source : String} {p : Pattern} (h : compile? source = some p) :
    p.source = source := by
  obtain ⟨_, -, rfl⟩ := Option.map_eq_some_iff.mp h
  rfl

/-- A match by the positions of its groups; group 0 is the whole match. -/
structure Match where
  slots : Slots

namespace Match

/-- The bounds of a group that took part in the match. -/
def group? (m : Match) (k : Nat) : Option (Nat × Nat) :=
  match m.slots[2 * k]?.join, m.slots[2 * k + 1]?.join with
  | some a, some b => some (a, b)
  | _, _ => none

def first (m : Match) : Nat := (m.group? 0).elim 0 (·.1)

def last (m : Match) : Nat := (m.group? 0).elim 0 (·.2)

/-- The characters of a group that took part in the match. -/
def text? (m : Match) (text : Subject) (k : Nat) : Option (List Char) :=
  (m.group? k).map fun (a, b) => (text.extract a b).toList

end Match

/-- The leftmost match that starts at `pos` or later. -/
def findFrom (p : Pattern) (text : Subject) (pos : Nat) : Option Match :=
  let pairs := p.program.size * (text.size + 1)
  let slots := Array.replicate (2 * (p.captures + 1)) none
  (searchFrom p.program p.start slots text ⟨∅, pairs⟩ pos).map fun s => ⟨s⟩

def find? (p : Pattern) (text : Subject) : Option Match := p.findFrom text 0

def isMatch (p : Pattern) (text : Subject) : Bool := (p.find? text).isSome

/-- The next match after one that ended at `pos`. An empty match right where the last one ended
does not count. -/
def findNext (p : Pattern) (text : Subject) (pos : Nat) (previous : Option Nat) : Option Match :=
  match p.findFrom text pos with
  | none => none
  | some m =>
    if m.first == m.last && previous == some m.last then
      if pos < text.size then p.findFrom text (pos + 1) else none
    else some m

/-- The matches from left to right that do not overlap; at most `fuel` of them. -/
def matchesFrom (p : Pattern) (text : Subject) : Nat → Nat → Option Nat → List Match
  | 0, _, _ => []
  | fuel + 1, pos, previous =>
    match p.findNext text pos previous with
    | none => []
    | some m => m :: matchesFrom p text fuel m.last (some m.last)

/-- All matches: no two end at the same place, so there are at most as many as places. -/
def findAll (p : Pattern) (text : Subject) : List Match :=
  p.matchesFrom text (text.size + 1) 0 none

end Pattern

end Catalog
