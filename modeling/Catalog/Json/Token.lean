import Catalog.Json.Numeral

/-! # Tokens of a JSON text

Signs, words, numerals and quoted strings. A string keeps no text if it holds half of a surrogate
pair: it is well formed, but nothing can be read from it.
-/

namespace Catalog.Json

inductive Token where
  | openBrace
  | closeBrace
  | openBracket
  | closeBracket
  | comma
  | colon
  | null
  | bool (b : Bool)
  | number (n : Numeral)
  | string (s : Option (List Char))
  deriving DecidableEq, Repr

def isSpace (c : Char) : Bool := c == ' ' || c == '\t' || c == '\n' || c == '\r'

def hexDigit? (c : Char) : Option Nat :=
  if '0' ≤ c && c ≤ '9' then some (c.toNat - 48)
  else if 'a' ≤ c && c ≤ 'f' then some (c.toNat - 87)
  else if 'A' ≤ c && c ≤ 'F' then some (c.toNat - 55)
  else none

def unit? (a b c d : Char) : Option Nat := do
  some (((← hexDigit? a) * 16 + (← hexDigit? b)) * 256 + (← hexDigit? c) * 16 + (← hexDigit? d))

def isHighUnit (n : Nat) : Bool := 0xD800 ≤ n && n ≤ 0xDBFF

def isLowUnit (n : Nat) : Bool := 0xDC00 ≤ n && n ≤ 0xDFFF

def shortEscape? : Char → Option Char
  | '"' => some '"'
  | '\\' => some '\\'
  | '/' => some '/'
  | 'b' => some '\x08'
  | 'f' => some '\x0c'
  | 'n' => some '\n'
  | 'r' => some '\r'
  | 't' => some '\t'
  | _ => none

/-- One step inside a string: the end, or a unit that may be half of a surrogate pair. -/
inductive StringStep where
  | close
  | plain (c : Char)
  | unit (n : Nat)

def stringStep : List Char → Option (StringStep × List Char)
  | '"' :: r => some (.close, r)
  | '\\' :: 'u' :: a :: b :: c :: d :: r => (unit? a b c d).map fun n => (.unit n, r)
  | '\\' :: c :: r => (shortEscape? c).map fun c => (.plain c, r)
  | c :: r => if c.toNat < 0x20 || c == '\\' then none else some (.plain c, r)
  | [] => none

/-- The text read so far, last character first, or nothing once it is lost, and a high unit that
waits for its low one. -/
structure Quoted where
  text : Option (List Char) := some []
  high : Option Nat := none

namespace Quoted

def put (q : Quoted) (c : Char) : Quoted :=
  match q.high with
  | none => { q with text := q.text.map (c :: ·) }
  | some _ => ⟨none, none⟩

def putUnit (q : Quoted) (n : Nat) : Quoted :=
  match q.high with
  | some h =>
    if isLowUnit n then
      ⟨q.text.map (Char.ofNat (0x10000 + (h - 0xD800) * 0x400 + (n - 0xDC00)) :: ·), none⟩
    else ⟨none, none⟩
  | none =>
    if isHighUnit n then { q with high := some n }
    else if isLowUnit n then ⟨none, none⟩
    else q.put (Char.ofNat n)

def finish (q : Quoted) : Option (List Char) :=
  if q.high.isSome then none else q.text.map List.reverse

end Quoted

/-- A string after its opening quote. The count bounds the steps. -/
def scanString : Nat → Quoted → List Char → Option (Option (List Char) × List Char)
  | 0, _, _ => none
  | n + 1, q, s =>
    match stringStep s with
    | none => none
    | some (.close, r) => some (q.finish, r)
    | some (.plain c, r) => scanString n (q.put c) r
    | some (.unit u, r) => scanString n (q.putUnit u) r

/-- The first token of a text that starts with no blank. -/
def Token.scan (fuel : Nat) : List Char → Option (Token × List Char)
  | '\x7b' :: r => some (.openBrace, r)
  | '\x7d' :: r => some (.closeBrace, r)
  | '[' :: r => some (.openBracket, r)
  | ']' :: r => some (.closeBracket, r)
  | ',' :: r => some (.comma, r)
  | ':' :: r => some (.colon, r)
  | '"' :: r => (scanString fuel {} r).map fun (s, t) => (.string s, t)
  | 'n' :: 'u' :: 'l' :: 'l' :: r => some (.null, r)
  | 't' :: 'r' :: 'u' :: 'e' :: r => some (.bool true, r)
  | 'f' :: 'a' :: 'l' :: 's' :: 'e' :: r => some (.bool false, r)
  | s => (Numeral.scan s).map fun (n, t) => (.number n, t)

end Catalog.Json
