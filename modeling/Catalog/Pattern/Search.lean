import Std.Data.HashSet
import Catalog.Pattern.Program

/-! # Searching

A search walks the pairs of an instruction and a position in order of preference and never walks
one pair twice, so it ends, and the first accepting pair that it meets is the preferred match at
the leftmost place.
-/

namespace Catalog.Pattern

open Text

def inRanges (set : Array Range) (n lo hi : Nat) : Bool :=
  if lo < hi then
    let mid := (lo + hi) / 2
    match set[mid]? with
    | none => false
    | some r =>
      if n < r.first then inRanges set n lo mid
      else if r.last < n then inRanges set n (mid + 1) hi
      else true
  else false
termination_by hi - lo
decreasing_by all_goals omega

def Inst.accepts (set : Array Range) (c : Char) : Bool := inRanges set c.toNat 0 set.size

def wordRanges : Array Range := wordSet.ranges.toArray

def isWordChar (ascii : Bool) (c : Char) : Bool :=
  if c.toNat < 0x80 then c.isAlphanum || c == '_'
  else !ascii && inRanges wordRanges c.toNat 0 wordRanges.size

abbrev Subject := Array Char

namespace Anchor

/-- Whether the condition holds before the character at `i`. -/
def holds (text : Subject) (i : Nat) (a : Anchor) : Bool :=
  let before := if i = 0 then none else text[i - 1]?
  let after := text[i]?
  let word (ascii : Bool) (c : Option Char) := c.any (isWordChar ascii)
  match a with
  | textStart => i == 0
  | textEnd => i == text.size
  | lineStart false => before.all (· == '\n')
  | lineEnd false => after.all (· == '\n')
  | lineStart true => before.all fun c => c == '\n' || (c == '\r' && after != some '\n')
  | lineEnd true => after.all fun c => c == '\r' || (c == '\n' && before != some '\r')
  | boundary ascii => word ascii before != word ascii after
  | notBoundary ascii => word ascii before == word ascii after
  | wordStart ascii => !word ascii before && word ascii after
  | wordEnd ascii => word ascii before && !word ascii after
  | halfStart ascii => !word ascii before
  | halfEnd ascii => !word ascii after

end Anchor

/-- Positions noted so far; group `k` lies between slots `2 * k` and `2 * k + 1`. -/
abbrev Slots := Array (Option Nat)

/-- A pair that waits to be walked. -/
structure Thread where
  inst : Nat
  pos : Nat
  slots : Slots

/-- The pairs walked so far, each as one number, and how many more may be walked. -/
structure Trail where
  seen : Std.HashSet Nat
  budget : Nat

/-- Either the slots of a match, or the trail after every waiting pair was walked in vain. -/
inductive Outcome where
  | found (slots : Slots)
  | exhausted (t : Trail)

def follow (p : Program) (text : Subject) (t : Thread) : Slots ⊕ List Thread :=
  match p[t.inst]? with
  | none => .inr []
  | some .accept => .inl t.slots
  | some (.take set next) =>
    match text[t.pos]? with
    | some c => .inr (if Inst.accepts set c then [⟨next, t.pos + 1, t.slots⟩] else [])
    | none => .inr []
  | some (.check a next) =>
    .inr (if a.holds text t.pos then [⟨next, t.pos, t.slots⟩] else [])
  | some (.save slot next) => .inr [⟨next, t.pos, t.slots.setIfInBounds slot (some t.pos)⟩]
  | some (.fork first second) => .inr [⟨first, t.pos, t.slots⟩, ⟨second, t.pos, t.slots⟩]

/-- Walks the waiting threads, the first one first. -/
def walk (p : Program) (text : Subject) (trail : Trail) : List Thread → Outcome
  | [] => .exhausted trail
  | t :: rest =>
    let key := t.inst * (text.size + 1) + t.pos
    if trail.seen.contains key then walk p text trail rest
    else
      match _h : trail.budget with
      | 0 => .exhausted trail
      | b + 1 =>
        match follow p text t with
        | .inl slots => .found slots
        | .inr more => walk p text ⟨trail.seen.insert key, b⟩ (more ++ rest)
termination_by ts => (trail.budget, ts.length)
decreasing_by
  · exact Prod.Lex.right _ (by simp)
  · exact Prod.Lex.left _ _ (by simp [_h])

/-- Tries every start from `pos` on; pairs walked in vain are not walked again. -/
def searchFrom (p : Program) (start : Nat) (slots : Slots) (text : Subject) (trail : Trail)
    (pos : Nat) : Option Slots :=
  match walk p text trail [⟨start, pos, slots⟩] with
  | .found s => some s
  | .exhausted trail =>
    if pos < text.size then searchFrom p start slots text trail (pos + 1) else none
termination_by text.size - pos

end Catalog.Pattern
