import Catalog.Text.Blank
import Catalog.Text.Cut
import Catalog.Json.Written
import Catalog.Rule.Split
import Catalog.Rule.Chain

/-! # Reading rules

The text of a rule becomes a chain: it is split, each piece is read as a fragment, and pieces that
say nothing are left out.
-/

namespace Catalog.Rule

open Text

/-- The object of a `@put` segment at the start of a text: braces with no brace between them. -/
def putObject? (s : List Char) : Option (List Char × List Char) :=
  match ("@put:".toList).isPrefixOf? s with
  | some ('\x7b' :: r) =>
    let inner := r.takeWhile fun c => c != '\x7b' && c != '\x7d'
    match r.drop inner.length with
    | '\x7d' :: t => some ('\x7b' :: inner ++ ['\x7d'], t)
    | _ => none
  | _ => none

/-- The objects of the `@put` segments of a text, and the text without the segments. The count
bounds the steps. -/
def takePuts : Nat → List Char → List (List Char) × List Char
  | 0, s => ([], s)
  | _, [] => ([], [])
  | n + 1, c :: r =>
    match putObject? (c :: r) with
    | some (object, t) =>
      let (objects, rest) := takePuts n t
      (object :: objects, rest)
    | none =>
      let (objects, rest) := takePuts n r
      (objects, c :: rest)

/-- The assignments of the members of an object; all values have to be texts. -/
def assignments (rule : String) :
    List (String × Json.Value) → Except Error (List (String × String))
  | [] => .ok []
  | (key, .string value) :: rest => do
    let more ← assignments rule rest
    .ok ((key, value) :: more)
  | (key, _) :: _ => .error (.invalidRule rule (.putNotText key))

def readPuts (rule : String) : List (List Char) → Except Error (List (String × String))
  | [] => .ok []
  | object :: rest =>
    match Json.Value.parse? object with
    | some (.object members) => do
      let puts ← assignments rule members
      let more ← readPuts rule rest
      .ok (puts ++ more)
    | _ => .error (.invalidRule rule .badPutObject)

/-- Whether a text starts, or ends, with a script tag in letters of any case. The long s counts as
a case of s. -/
def isScriptTag (tag : List Char) (s : List Char) : Bool :=
  s.map (fun c => if c == 'ſ' then 's' else c.toLower) == tag

/-- The body of a text that is one script block. -/
def scriptBody? (s : List Char) : Option (List Char) :=
  let inner := s.drop 4
  let body := inner.take (inner.length - 5)
  if 9 ≤ s.length && isScriptTag scriptOpen (s.take 4) &&
      isScriptTag scriptClose (inner.drop (inner.length - 5)) then some body
  else none

/-- The dialect of a trimmed text, and the text without the mark of the dialect. -/
def detectDialect (s : List Char) : Dialect × List Char :=
  match dropStartAnyCase? "@css:".toList s with
  | some r => (.css, trimStart r)
  | none =>
  match dropStartAnyCase? "@xpath:".toList s with
  | some r => (.xpath, trimStart r)
  | none =>
  match dropStartAnyCase? "@json:".toList s with
  | some r => (.jsonPath, trimStart r)
  | none =>
  match dropStartAnyCase? scriptMark s with
  | some r => (.script, trim r)
  | none =>
  match scriptBody? s with
  | some body => (.script, trim body)
  | none =>
  match s with
  | '/' :: _ => (.xpath, s)
  | '$' :: '.' :: _ => (.jsonPath, s)
  | '$' :: '[' :: _ => (.jsonPath, s)
  | ':' :: r => (.regex, r)
  | _ => (.default, s)

/-- Cuts `text##pattern##replacement###`; the last mark says that only the first match counts. -/
def splitReplacement (s : List Char) :
    Except Error (List Char × Option Replacement) :=
  match cutAt? ['#', '#'] s with
  | none => .ok (trim s, none)
  | some (text, tail) =>
    let (tail, firstOnly) := match dropEnd? ['#', '#', '#'] tail with
      | some t => (t, true)
      | none => (tail, false)
    let (pattern, replacement) := (cutAt? ['#', '#'] tail).getD (tail, [])
    if pattern.isEmpty then .ok (trim text, none)
    else do
      let r ← Replacement.make (String.ofList pattern) (String.ofList replacement) firstOnly
      .ok (trim text, some r)

/-- Reads one piece; none if it has neither text nor assignments. A script has no replacement. -/
def readFragment (link : Link) (raw : List Char) : Except Error (Option Fragment) := do
  let (objects, rest) := takePuts raw.length raw
  let puts ← readPuts (String.ofList raw) objects
  let (dialect, body) := detectDialect (trim rest)
  let (text, replacement) ←
    if dialect = .script then .ok (body, none) else splitReplacement body
  if text.isEmpty && puts.isEmpty then return none
  else return some ⟨dialect, String.ofList text, link, puts, replacement⟩

/-- Reads pieces in order; until a fragment is kept, the next one counts as the first. -/
def readPieces (started : Bool) : List Piece → Except Error (List Fragment)
  | [] => .ok []
  | (link, piece) :: rest => do
    match ← readFragment (if started then link else .first) piece with
    | some f => do
      let more ← readPieces true rest
      .ok (f :: more)
    | none => readPieces started rest

/-- The chain that a rule stands for. -/
def resolve (rule : String) : Except Error Chain := do
  let fragments ← readPieces false (split rule.toList)
  return Chain.ofFragments fragments

def resolveField : Option String → Except Error Chain
  | none => .ok .empty
  | some rule => resolve rule

end Catalog.Rule
