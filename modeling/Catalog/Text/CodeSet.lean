/-! # Sets of characters

A set is a list of code point ranges in ascending order with gaps between them. Complements are
taken within the scalar values, so the surrogates never belong to a set.
-/

namespace Catalog.Text

structure Range where
  first : Nat
  last : Nat
  deriving DecidableEq, Repr, Inhabited

namespace Range

def has (r : Range) (n : Nat) : Bool := r.first ≤ n && n ≤ r.last

/-- Joins ranges that overlap or touch; the list is ascending by first code point. -/
def coalesce : List Range → List Range
  | [] => []
  | r :: rest => go r rest
where
  go (open_ : Range) : List Range → List Range
    | [] => [open_]
    | r :: rest =>
      if r.first ≤ open_.last + 1 then go ⟨open_.first, max open_.last r.last⟩ rest
      else open_ :: go r rest

/-- The common part of two ascending lists. -/
def meet : List Range → List Range → List Range
  | [], _ => []
  | _, [] => []
  | a :: as, b :: bs =>
    let first := max a.first b.first
    let last := min a.last b.last
    let rest := if a.last < b.last then meet as (b :: bs) else meet (a :: as) bs
    if first ≤ last then ⟨first, last⟩ :: rest else rest
termination_by as bs => as.length + bs.length

/-- The gaps of an ascending list from `start` up to the last code point. -/
def gaps (start : Nat) : List Range → List Range
  | [] => if start ≤ 0x10FFFF then [⟨start, 0x10FFFF⟩] else []
  | r :: rest =>
    if start < r.first then ⟨start, r.first - 1⟩ :: gaps (r.last + 1) rest
    else gaps (r.last + 1) rest

end Range

structure CodeSet where
  ranges : List Range
  deriving DecidableEq, Repr, Inhabited

namespace CodeSet

def empty : CodeSet := ⟨[]⟩

def all : CodeSet := ⟨[⟨0, 0xD7FF⟩, ⟨0xE000, 0x10FFFF⟩]⟩

def ofRanges (rs : List Range) : CodeSet :=
  ⟨Range.coalesce (rs.mergeSort fun a b => a.first ≤ b.first)⟩

def singleton (c : Char) : CodeSet := ⟨[⟨c.toNat, c.toNat⟩]⟩

def interval (a b : Char) : CodeSet := ⟨[⟨a.toNat, b.toNat⟩]⟩

def ofList (cs : List Char) : CodeSet := ofRanges (cs.map fun c => ⟨c.toNat, c.toNat⟩)

def union (s t : CodeSet) : CodeSet := ofRanges (s.ranges ++ t.ranges)

def inter (s t : CodeSet) : CodeSet := ⟨Range.meet s.ranges t.ranges⟩

def compl (s : CodeSet) : CodeSet := inter all ⟨Range.gaps 0 s.ranges⟩

def diff (s t : CodeSet) : CodeSet := inter s (compl t)

def symmDiff (s t : CodeSet) : CodeSet := union (diff s t) (diff t s)

def contains (s : CodeSet) (c : Char) : Bool := s.ranges.any fun r => r.has c.toNat

def hex (s : String) : Nat :=
  s.foldl (fun n c => 16 * n + if '0' ≤ c && c ≤ '9' then c.toNat - 48 else c.toNat - 87) 0

/-- Reads lines of ranges written as hexadecimal code points, `41-5a 61-7a aa`. -/
def read (lines : List String) : CodeSet :=
  ofRanges (lines.flatMap fun line => (line.splitOn " ").filterMap fun item =>
    match (item.splitOn "-").map hex with
    | [a] => some ⟨a, a⟩
    | [a, b] => some ⟨a, b⟩
    | _ => none)

end CodeSet

end Catalog.Text
