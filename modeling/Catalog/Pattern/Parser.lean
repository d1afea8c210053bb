import Catalog.Pattern.Bracket

/-! # Reading patterns

The text of a pattern is read from left to right with the open groups on a stack. Look-around and
back-references are not part of the language.
-/

namespace Catalog.Pattern

open Text

/-- A piece of a sequence. Flag directives are pieces that no repetition may follow. -/
structure Piece where
  regex : Regex
  depth : Nat
  repeatable : Bool := true

/-- One alternative, with the nesting depth that is limited. -/
structure Branch where
  regex : Regex
  depth : Nat

def Branch.ofPieces : List Piece → Branch
  | [] => ⟨.empty, 0⟩
  | [p] => ⟨p.regex, p.depth⟩
  | ps => ⟨.ofList (ps.reverse.map (·.regex)), (ps.foldl (fun d p => max d p.depth) 0) + 1⟩

def Branch.choice : List Branch → Branch
  | [b] => b
  | bs => ⟨.choice (bs.reverse.map (·.regex)), (bs.foldl (fun d b => max d b.depth) 0) + 1⟩

/-- An open group: what was read before it, and the flags that come back when it closes. -/
structure OpenGroup where
  capture : Option Nat
  flags : Flags
  pieces : List Piece
  branches : List Branch

structure Reading where
  flags : Flags := {}
  pieces : List Piece := []
  branches : List Branch := []
  stack : List OpenGroup := []
  /-- Number of capture groups opened so far. -/
  captures : Nat := 0
  names : List (String × Nat) := []

/-- Everything read inside the innermost open group. -/
def Reading.body (st : Reading) : Branch :=
  Branch.choice (.ofPieces st.pieces :: st.branches)

def Reading.push (st : Reading) (r : Regex) (depth : Nat) : Reading :=
  { st with pieces := ⟨r, depth, true⟩ :: st.pieces }

/-- A letter by itself, before and after `-`. -/
def Flags.put (fl : Flags) (on : Bool) : Char → Option Flags
  | 'i' => some { fl with ignoreCase := on }
  | 'm' => some { fl with multiLine := on }
  | 's' => some { fl with dotAll := on }
  | 'U' => some { fl with swapGreed := on }
  | 'u' => some { fl with unicode := on }
  | 'x' => some { fl with verbose := on }
  | 'R' => some { fl with crlf := on }
  | _ => none

/-- The letters after `(?`: each at most once, and a hyphen that does not come last. Returns the
new flags, whether any letter stood there, and the text from the closing sign on. -/
def flagLetters (fl : Flags) (seen : List Char) : List Char → Option (Flags × Bool × List Char)
  | [] => none
  | c :: r =>
    if c == ':' || c == ')' then
      if seen.head? == some '-' then none else some (fl, !seen.isEmpty, c :: r)
    else if seen.contains c then none
    else if c == '-' then flagLetters fl (c :: seen) r
    else
      match fl.put (!seen.contains '-') c with
      | some fl => flagLetters fl (c :: seen) r
      | none => none

def isNameStart (c : Char) : Bool :=
  c == '_' || (Category.named? "l").any (·.contains c) ||
    (CodeSet.read Property.alphabetic).contains c

def isNamePart (c : Char) : Bool :=
  isNameStart c || c == '.' || c == '[' || c == ']' ||
    (Category.named? "n").any (·.contains c)

def groupName (s : List Char) : Option (String × List Char) := do
  let (name, r) ← cutAt? ['>'] s
  match name with
  | [] => none
  | c :: cs => if isNameStart c && cs.all isNamePart then some (String.ofList name, r) else none

def openCapture (st : Reading) (name : Option String) : Option Reading :=
  let index := st.captures + 1
  let names := match name with
    | none => some st.names
    | some n => if st.names.any (·.1 == n) then none else some ((n, index) :: st.names)
  names.map fun names =>
    { st with
      stack := ⟨some index, st.flags, st.pieces, st.branches⟩ :: st.stack
      pieces := [], branches := [], captures := index, names := names }

def openGroup (st : Reading) (s : List Char) : Option (Reading × List Char) :=
  match st.flags.skip s with
  | '?' :: '=' :: _ => none
  | '?' :: '!' :: _ => none
  | '?' :: '<' :: '=' :: _ => none
  | '?' :: '<' :: '!' :: _ => none
  | '?' :: 'P' :: '<' :: r => do
    let (name, t) ← groupName r
    (openCapture st (some name)).map (·, t)
  | '?' :: '<' :: r => do
    let (name, t) ← groupName r
    (openCapture st (some name)).map (·, t)
  | '?' :: r => do
    let (fl, some_, t) ← flagLetters st.flags [] r
    match t with
    | ')' :: t =>
      if some_ then
        some ({ st with flags := fl, pieces := ⟨.empty, 0, false⟩ :: st.pieces }, t)
      else none
    | ':' :: t =>
      some ({ st with
        stack := ⟨none, st.flags, st.pieces, st.branches⟩ :: st.stack
        flags := fl, pieces := [], branches := [] }, t)
    | _ => none
  | s => (openCapture st none).map (·, s)

def closeGroup (st : Reading) : Option Reading :=
  match st.stack with
  | [] => none
  | g :: below =>
    let body := st.body
    let regex := match g.capture with
      | some i => .group i body.regex
      | none => body.regex
    some { st with
      flags := g.flags, stack := below, branches := g.branches
      pieces := ⟨regex, body.depth + 1, true⟩ :: g.pieces }

/-- A repetition takes the last piece; there must be one. -/
def repeatLast (st : Reading) (lo : Nat) (hi : Option Nat) (s : List Char) (skip : Bool) :
    Option (Reading × List Char) :=
  match st.pieces with
  | p :: ps =>
    if p.repeatable then
      let (lazy_, r) := match (if skip then st.flags.skip s else s) with
        | '?' :: t => (true, t)
        | t => (false, t)
      let greedy := lazy_ == st.flags.swapGreed
      some ({ st with pieces := ⟨.rep lo hi greedy p.regex, p.depth + 1, true⟩ :: ps }, r)
    else none
  | [] => none

/-- A decimal number below 2^32 with blanks around it. -/
def decimal (fl : Flags) (s : List Char) : Option (Nat × List Char) :=
  let (ds, r) := digits (trimStart s)
  let n := ds.foldl (fun n c => 10 * n + (c.toNat - 48)) 0
  if ds.isEmpty || n ≥ 0x100000000 then none else some (n, trimStart r)
where
  digits : List Char → List Char × List Char
    | [] => ([], [])
    | c :: r =>
      if c.isDigit then
        let (ds, t) := digits r
        (c :: ds, t)
      else if fl.verbose && isBlank c then digits r
      else ([], c :: r)

/-- What follows an opening brace: `n}`, `n,}` or `n,m}`. -/
def counted (st : Reading) (s : List Char) : Option (Reading × List Char) := do
  let fl := st.flags
  let (lo, r) ← decimal fl (fl.skip s)
  match r with
  | '\x7d' :: t => repeatLast st lo (some lo) t true
  | ',' :: t =>
    match fl.skip t with
    | '\x7d' :: t => repeatLast st lo none t true
    | t => do
      let (hi, r) ← decimal fl t
      match r with
      | '\x7d' :: t => if lo ≤ hi then repeatLast st lo (some hi) t true else none
      | _ => none
  | _ => none

def literalSet (fl : Flags) (c : Char) : CodeSet :=
  if !fl.ignoreCase then .singleton c
  else if fl.unicode then Folding.close (.singleton c)
  else if c.toNat < 0x80 then (Folding.close (.singleton c)).inter ⟨[⟨0, 0x7F⟩]⟩
  else .singleton c

def Atom.regex? (fl : Flags) : Atom → Option Regex
  | .literal c byte => if byte && !fl.unicode then none else some (.set (literalSet fl c))
  | .set s => some (.set s)
  | .anchor a => some (.anchor a)

/-- The set of the dot: everything but line ends, or everything under `s`. -/
def dotSet (fl : Flags) : CodeSet :=
  if fl.dotAll then .all
  else if fl.crlf then (CodeSet.ofList ['\n', '\r']).compl
  else (CodeSet.singleton '\n').compl

/-- One step of reading at a non-blank place. -/
def readStep (st : Reading) : List Char → Option (Reading × List Char)
  | [] => none
  | '(' :: r => openGroup st r
  | ')' :: r => (closeGroup st).map (·, r)
  | '|' :: r =>
    some ({ st with pieces := [], branches := .ofPieces st.pieces :: st.branches }, r)
  | '[' :: r => (bracket st.flags r).map fun ((s, depth), t) => (st.push (.set s) depth, t)
  | '?' :: r => repeatLast st 0 (some 1) r false
  | '*' :: r => repeatLast st 0 none r false
  | '+' :: r => repeatLast st 1 none r false
  | '\x7b' :: r => counted st r
  | '\\' :: r => do
    let (a, t) ← escape st.flags r
    let regex ← a.regex? st.flags
    some (st.push regex 0, t)
  | '.' :: r => if st.flags.unicode then some (st.push (.set (dotSet st.flags)) 0, r) else none
  | '^' :: r =>
    let a := if st.flags.multiLine then Anchor.lineStart st.flags.crlf else .textStart
    some (st.push (.anchor a) 0, r)
  | '$' :: r =>
    let a := if st.flags.multiLine then Anchor.lineEnd st.flags.crlf else .textEnd
    some (st.push (.anchor a) 0, r)
  | c :: r => some (st.push (.set (literalSet st.flags c)) 0, r)

def readLoop (st : Reading) (s : List Char) : Option Reading :=
  match st.flags.skip s with
  | [] => some st
  | c :: t =>
    match readStep st (c :: t) with
    | none => none
    | some (st, r) => if r.length < s.length then readLoop st r else none
termination_by s.length

def depthLimit : Nat := 250

/-- A pattern as read: its abstract form, the number of its capture groups and their names. -/
structure Parsed where
  regex : Regex
  captures : Nat
  names : List (String × Nat)

/-- Reads a whole pattern. Groups must be closed, and nesting and size are limited. -/
def parse? (s : List Char) : Option Parsed := do
  let st ← readLoop {} s
  let body := st.body
  if !st.stack.isEmpty || depthLimit < body.depth then none
  else if Regex.weightLimit < body.regex.weight then none
  else some ⟨body.regex, st.captures, st.names⟩

end Catalog.Pattern
