import Catalog.Pattern.Regex
import Catalog.Pattern.Property
import Catalog.Text.Blank
import Catalog.Text.Cut
import Catalog.Text.Folding

/-! # Escapes of the pattern language

What may follow a backslash, and the flags that decide how it is read. Every reader takes the
characters that are left and returns what it read with the rest.
-/

namespace Catalog.Pattern

open Text

/-- The switches set by `(?imsUuxR)`. -/
structure Flags where
  ignoreCase : Bool := false
  multiLine : Bool := false
  dotAll : Bool := false
  swapGreed : Bool := false
  unicode : Bool := true
  verbose : Bool := false
  crlf : Bool := false
  deriving DecidableEq, Repr

/-- Drops blanks and `#` comments; `comment` says that one is open. -/
def dropVerbose (comment : Bool) : List Char → List Char
  | [] => []
  | c :: r =>
    if comment then dropVerbose (c != '\n') r
    else if isBlank c then dropVerbose false r
    else if c == '#' then dropVerbose true r
    else c :: r

/-- In verbose patterns blanks and comments are skipped. -/
def Flags.skip (fl : Flags) (s : List Char) : List Char :=
  if fl.verbose then dropVerbose false s else s

/-- What one escape, or one plain character, stands for. `byte` marks a character given by a
number above the ASCII range. -/
inductive Atom where
  | literal (c : Char) (byte : Bool)
  | set (s : CodeSet)
  | anchor (a : Anchor)

/-- Folds a set under `i`, then takes the complement if asked to. Without `u` a set may hold
ASCII characters only. -/
def Flags.finish (fl : Flags) (negated : Bool) (s : CodeSet) : Option CodeSet :=
  let s := if fl.ignoreCase then Folding.close s else s
  if fl.unicode then some (if negated then s.compl else s)
  else
    let s := s.inter ⟨[⟨0, 0x7F⟩]⟩
    if negated then none else some s

def asciiDigit : CodeSet := .interval '0' '9'

def asciiBlank : CodeSet := ⟨[⟨0x09, 0x0D⟩, ⟨0x20, 0x20⟩]⟩

def asciiWord : CodeSet := ⟨[⟨0x30, 0x39⟩, ⟨0x41, 0x5A⟩, ⟨0x5F, 0x5F⟩, ⟨0x61, 0x7A⟩]⟩

/-- The classes `\d`, `\s` and `\w` and their complements in capitals. -/
def letterClass? (fl : Flags) (c : Char) : Option (Option CodeSet) :=
  let pick (wide ascii : CodeSet) (negated : Bool) : Option (Option CodeSet) :=
    if fl.unicode then some (some (if negated then wide.compl else wide))
    else if negated then some none else some (some ascii)
  match c with
  | 'd' => pick digitSet asciiDigit false
  | 's' => pick blankSet asciiBlank false
  | 'w' => pick wordSet asciiWord false
  | 'D' => pick digitSet asciiDigit true
  | 'S' => pick blankSet asciiBlank true
  | 'W' => pick wordSet asciiWord true
  | _ => none

def isHexDigit (c : Char) : Bool :=
  ('0' ≤ c && c ≤ '9') || ('a' ≤ c && c ≤ 'f') || ('A' ≤ c && c ≤ 'F')

def hexValue (c : Char) : Nat :=
  if '0' ≤ c && c ≤ '9' then c.toNat - 48
  else if 'a' ≤ c && c ≤ 'f' then c.toNat - 87
  else c.toNat - 55

/-- The character with this number, unless it is a surrogate or out of range. -/
def scalar? (n : Nat) : Option Char :=
  if h : n.isValidChar then some (Char.ofNatAux n h) else none

def hexLiteral (digits : List Char) : Option Atom :=
  (scalar? (digits.foldl (fun n c => 16 * n + hexValue c) 0)).map fun c =>
    .literal c (0x80 ≤ c.toNat)

def hexDigits (fl : Flags) : Nat → List Char → Option (List Char × List Char)
  | 0, s => some ([], s)
  | n + 1, s =>
    match fl.skip s with
    | c :: r =>
      if isHexDigit c then (hexDigits fl n r).map fun (ds, t) => (c :: ds, t) else none
    | [] => none

def braced (fl : Flags) : List Char → Option (List Char × List Char)
  | [] => none
  | c :: r =>
    if c == '\x7d' then some ([], r)
    else if fl.verbose && isBlank c then braced fl r
    else (braced fl r).map fun (cs, t) => (c :: cs, t)

def hexEscape (fl : Flags) (count : Nat) (s : List Char) : Option (Atom × List Char) :=
  match fl.skip s with
  | '\x7b' :: r => do
    let (digits, t) ← braced fl r
    if digits.isEmpty || !digits.all isHexDigit then none
    else (hexLiteral digits).map fun a => (a, t)
  | s => do
    let (digits, t) ← hexDigits fl count s
    (hexLiteral digits).map fun a => (a, t)

/-- The set inside `\p` braces, and whether its sense is turned around by `!=`. -/
def propertySet? (name : List Char) : Option (CodeSet × Bool) :=
  match cutAt? ['!', '='] name with
  | some (n, v) => (Property.valued? n v).map (·, true)
  | none =>
    match cutAt? [':'] name with
    | some (n, v) => (Property.valued? n v).map (·, false)
    | none =>
      match cutAt? ['='] name with
      | some (n, v) => (Property.valued? n v).map (·, false)
      | none => (Property.named? name).map (·, false)

/-- The property after `\p`, or after `\P` if `negated`. -/
def propertyEscape (fl : Flags) (negated : Bool) (s : List Char) : Option (Atom × List Char) :=
  if !fl.unicode then none
  else
    match fl.skip s with
    | '\x7b' :: r => do
      let (name, t) ← braced fl r
      let (set, turned) ← propertySet? name
      let set ← fl.finish (negated != turned) set
      some (.set set, t)
    | c :: r => do
      if c == '\\' then none
      else
        let set ← Property.named? [c]
        let set ← fl.finish negated set
        some (.set set, r)
    | [] => none

/-- The word places that `\b` takes in braces. Anything that does not start with a letter or a
hyphen is left for the repetition reader. -/
def wordPlace (fl : Flags) (s : List Char) : Option (Anchor × List Char) :=
  let ascii := !fl.unicode
  match s with
  | '\x7b' :: r =>
    match fl.skip r with
    | [] => none
    | c :: _ =>
      if !(c.isAlpha || c == '-') then some (.boundary ascii, s)
      else do
        let (name, t) ← braced fl r
        match String.ofList name with
        | "start" => some (.wordStart ascii, t)
        | "end" => some (.wordEnd ascii, t)
        | "start-half" => some (.halfStart ascii, t)
        | "end-half" => some (.halfEnd ascii, t)
        | _ => none
  | _ => some (.boundary ascii, s)

/-- Characters that an escape turns into themselves: ASCII, neither letter nor digit, and not an
angle bracket. -/
def isEscapable (c : Char) : Bool :=
  c.toNat < 0x80 && !c.isAlphanum && c != '<' && c != '>'

def escape (fl : Flags) : List Char → Option (Atom × List Char)
  | [] => none
  | c :: r =>
    match letterClass? fl c with
    | some set => set.map fun s => (.set s, r)
    | none =>
      if isEscapable c then some (.literal c false, r)
      else
        match c with
        | 'x' => hexEscape fl 2 r
        | 'u' => hexEscape fl 4 r
        | 'U' => hexEscape fl 8 r
        | 'p' => propertyEscape fl false r
        | 'P' => propertyEscape fl true r
        | 'a' => some (.literal '\x07' false, r)
        | 'f' => some (.literal '\x0c' false, r)
        | 't' => some (.literal '\t' false, r)
        | 'n' => some (.literal '\n' false, r)
        | 'r' => some (.literal '\r' false, r)
        | 'v' => some (.literal '\x0b' false, r)
        | 'A' => some (.anchor .textStart, r)
        | 'z' => some (.anchor .textEnd, r)
        | 'b' => (wordPlace fl r).map fun (a, t) => (.anchor a, t)
        | 'B' => some (.anchor (.notBoundary !fl.unicode), r)
        | '<' => some (.anchor (.wordStart !fl.unicode), r)
        | '>' => some (.anchor (.wordEnd !fl.unicode), r)
        | _ => none

end Catalog.Pattern
