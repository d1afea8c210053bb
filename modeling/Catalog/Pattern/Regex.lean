import Catalog.Text.Word

/-! # Regular expressions

The abstract form of a pattern: sets of characters, places between characters, capture groups,
sequence, ordered choice and repetition.
-/

namespace Catalog.Pattern

open Text

/-- A condition on a place between two characters. A word place looks at Unicode word characters,
or at ASCII ones only. -/
inductive Anchor where
  | textStart
  | textEnd
  | lineStart (crlf : Bool)
  | lineEnd (crlf : Bool)
  | boundary (ascii : Bool)
  | notBoundary (ascii : Bool)
  | wordStart (ascii : Bool)
  | wordEnd (ascii : Bool)
  | halfStart (ascii : Bool)
  | halfEnd (ascii : Bool)
  deriving DecidableEq, Repr

inductive Regex where
  | empty
  | set (s : CodeSet)
  | anchor (a : Anchor)
  | group (index : Nat) (r : Regex)
  | seq (r s : Regex)
  | alt (r s : Regex)
  /-- Between `lo` and `hi` copies, as many as possible if `greedy`. -/
  | rep (lo : Nat) (hi : Option Nat) (greedy : Bool) (r : Regex)
  deriving Repr, Inhabited

namespace Regex

/-- Whether some match takes no character. -/
def nullable : Regex → Bool
  | empty => true
  | set _ => false
  | anchor _ => true
  | group _ r => r.nullable
  | seq r s => r.nullable && s.nullable
  | alt r s => r.nullable || s.nullable
  | rep lo _ _ r => lo == 0 || r.nullable

/-- An upper estimate of the store that the expanded form takes, in bytes. -/
def weight : Regex → Nat
  | empty => 32
  | set s => s.ranges.foldl (fun n r => n + if r.last < 0x80 then 8 else 64) 32
  | anchor _ => 32
  | group _ r => 64 + r.weight
  | seq r s => r.weight + s.weight
  | alt r s => 40 + r.weight + s.weight
  | rep lo none _ r => 40 + max lo 1 * r.weight
  | rep lo (some hi) _ r => lo * r.weight + (hi - lo) * (40 + r.weight)

def weightLimit : Nat := 10 * 1024 * 1024

def ofList : List Regex → Regex
  | [] => empty
  | [r] => r
  | r :: rest => seq r (ofList rest)

def choice : List Regex → Regex
  | [] => empty
  | [r] => r
  | r :: rest => alt r (choice rest)

def char (c : Char) : Regex := set (.singleton c)

end Regex

end Catalog.Pattern
