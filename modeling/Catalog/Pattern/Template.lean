import Catalog.Pattern.Match

/-! # Replacing matches

A replacement text refers to groups by `$1`, `$name` and `${name}`; `$$` is one dollar sign, and
a dollar sign that starts no reference stands for itself.
-/

namespace Catalog.Pattern

/-- A part of a replacement text. -/
inductive TemplatePart where
  | plain (c : Char)
  | group (index : Nat)
  | named (name : String)
  deriving DecidableEq, Repr

namespace Template

def isReferenceChar (c : Char) : Bool := c.isAlphanum || c == '_'

/-- Numbers that fit a 64-bit word, with an optional plus sign, are group numbers. -/
def reference (name : List Char) : TemplatePart :=
  let digits := match name with
    | '+' :: r => r
    | r => r
  let n := digits.foldl (fun n c => 10 * n + (c.toNat - 48)) 0
  if !digits.isEmpty && digits.all Char.isDigit && n < 0x10000000000000000 then .group n
  else .named (String.ofList name)

def spanName : List Char → List Char × List Char
  | [] => ([], [])
  | c :: r =>
    if isReferenceChar c then
      let (name, t) := spanName r
      (c :: name, t)
    else ([], c :: r)

def spanBraced : List Char → Option (List Char × List Char)
  | [] => none
  | c :: r => if c == '\x7d' then some ([], r) else (spanBraced r).map fun (n, t) => (c :: n, t)

/-- What follows a dollar sign: a part and the rest, or nothing that is a reference. -/
def afterDollar (s : List Char) : Option (TemplatePart × List Char) :=
  match s with
  | '$' :: r => some (.plain '$', r)
  | '\x7b' :: r => (spanBraced r).map fun (name, t) => (reference name, t)
  | s =>
    let (name, t) := spanName s
    if name.isEmpty then none else some (reference name, t)

def parse (s : List Char) : List TemplatePart :=
  match s with
  | [] => []
  | c :: r =>
    if c == '$' then
      match afterDollar r with
      | some (part, t) => if t.length ≤ r.length then part :: parse t else [part]
      | none => .plain '$' :: parse r
    else .plain c :: parse r
termination_by s.length
decreasing_by all_goals (simp_all; try omega)

/-- The text that stands for a match; groups that took no part are empty. -/
def expand (p : Pattern) (text : Subject) (m : Match) (parts : List TemplatePart) : List Char :=
  parts.flatMap fun part =>
    match part with
    | .plain c => [c]
    | .group k => (m.text? text k).getD []
    | .named n =>
      match p.names.lookup n with
      | some k => (m.text? text k).getD []
      | none => []

end Template

/-- The text from `pos` on with each match in turn written anew. -/
def substitute (p : Pattern) (text : Subject) (parts : List TemplatePart) (pos : Nat) :
    List Match → List Char
  | [] => (text.extract pos text.size).toList
  | m :: ms =>
    (text.extract pos m.first).toList ++ Template.expand p text m parts ++
      substitute p text parts m.last ms

def replace (p : Pattern) (replacement : String) (firstOnly : Bool) (s : String) : String :=
  let text := s.toList.toArray
  let found := if firstOnly then (p.find? text).toList else p.findAll text
  String.ofList (p.substitute text (Template.parse replacement.toList) 0 found)

end Catalog.Pattern
