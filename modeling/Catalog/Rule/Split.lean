import Catalog.Rule.Dialect

/-! # Splitting rules

A rule is cut at `||` and `&&`. Separators inside braces or inside a script block do not count,
and from `@js:` outside braces on nothing is cut.
-/

namespace Catalog.Rule

/-- A rule as a sequence of its characters and its cuts. -/
inductive Mark where
  | char (c : Char)
  | cut (link : Link)
  deriving DecidableEq, Repr

def Mark.spell : Mark → List Char
  | char c => [c]
  | cut .and => ['&', '&']
  | cut _ => ['|', '|']

def scriptOpen : List Char := ['<', 'j', 's', '>']

def scriptClose : List Char := ['<', '/', 'j', 's', '>']

def scriptMark : List Char := ['@', 'j', 's', ':']

/-- The separator at the start of a text. -/
def separator? : List Char → Option Link
  | '|' :: '|' :: _ => some .or
  | '&' :: '&' :: _ => some .and
  | _ => none

/-- How many braces are open once a character is read. -/
def braceDepth (depth : Nat) (c : Char) : Nat :=
  if c == '\x7b' then depth + 1 else if c == '\x7d' then depth - 1 else depth

/-- Cuts a text of which `depth` braces, and a script block if `script`, are open. -/
def marks (depth : Nat) (script : Bool) (s : List Char) : List Mark :=
  match s with
  | [] => []
  | c :: r =>
    if script then
      if scriptClose.isPrefixOf (c :: r) then
        scriptClose.map .char ++ marks depth false (r.drop 4)
      else .char c :: marks depth true r
    else if scriptOpen.isPrefixOf (c :: r) then
      scriptOpen.map .char ++ marks depth true (r.drop 3)
    else if depth = 0 ∧ scriptMark.isPrefixOf (c :: r) then (c :: r).map .char
    else if braceDepth depth c = 0 then
      match separator? (c :: r) with
      | some link => .cut link :: marks 0 false (r.drop 1)
      | none => .char c :: marks 0 false r
    else .char c :: marks (braceDepth depth c) false r
termination_by s.length
decreasing_by all_goals (simp only [List.length_cons, List.length_drop]; omega)

abbrev Piece := Link × List Char

/-- Groups marks into pieces; `link` stands in front of the first one. -/
def pieces (link : Link) : List Mark → List Piece
  | [] => [(link, [])]
  | .cut next :: ms => (link, []) :: pieces next ms
  | .char c :: ms =>
    match pieces link ms with
    | (l, p) :: rest => (l, c :: p) :: rest
    | [] => [(link, [c])]

/-- The pieces of a rule; there is always one. -/
def split (s : List Char) : List Piece := pieces .first (marks 0 false s)

end Catalog.Rule
