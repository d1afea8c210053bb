/-! # Tokens of selectors

The text of a selector is cut into names, numbers, strings and signs. A bracket or a string that is
open at the end of the text ends there.
-/

namespace Catalog.Markup.Selector

structure Number where
  signed : Bool
  /-- Absent if there is a fraction or an exponent. -/
  int : Option Int
  deriving Repr, DecidableEq

inductive Token where
  | blank
  | name (text : String)
  /-- A name with an opening bracket behind it. -/
  | function (name : String)
  /-- What follows `#`; whether it could stand alone as a name. -/
  | hash (text : String) (isName : Bool)
  | string (text : String)
  | badString
  | number (n : Number)
  | measure (n : Number) (unit : String)
  | percentage
  | keyword (name : String)
  /-- A sign that stands before `=`, as in `^=`. -/
  | operator (sign : Char)
  | sign (c : Char)
  deriving Repr, DecidableEq

namespace Scan

def isBlank (c : Char) : Bool := c == ' ' || c == '\n' || c == '\t' || c == '\x0c' || c == '\r'

def startsName (c : Char) : Bool := c.isAlpha || c == '_' || 0x80 ≤ c.toNat

def inName (c : Char) : Bool := startsName c || c.isDigit || c == '-'

def isHexDigit (c : Char) : Bool := c.isDigit || ('a' ≤ c.toLower && c.toLower ≤ 'f')

def hexValue (c : Char) : Nat := if c.isDigit then c.toNat - 0x30 else c.toLower.toNat - 0x57

/-- What follows a backslash: a code point in up to six digits, or any character. -/
def escape (s : List Char) : Char × List Char :=
  match s with
  | [] => ('\uFFFD', [])
  | c :: r =>
    let digits := (s.take 6).takeWhile isHexDigit
    if digits.isEmpty then (if c == '\x00' then '\uFFFD' else c, r)
    else
      let n := digits.foldl (fun n d => 16 * n + hexValue d) 0
      let rest := match s.drop digits.length with
        | '\r' :: '\n' :: r => r
        | d :: r => if isBlank d then r else d :: r
        | [] => []
      (if n = 0 || !n.isValidChar then '\uFFFD' else Char.ofNat n, rest)

def isLineEnd (c : Char) : Bool := c == '\n' || c == '\r' || c == '\x0c'

def isEscape (afterBackslash : List Char) : Bool := afterBackslash.head?.elim false (!isLineEnd ·)

/-- The rest of a name. The count bounds the steps. -/
def takeName : Nat → List Char → List Char × List Char
  | 0, s => ([], s)
  | _, [] => ([], [])
  | n + 1, c :: r =>
    if inName c then
      let (name, rest) := takeName n r
      (c :: name, rest)
    else if c == '\x00' then
      let (name, rest) := takeName n r
      ('\uFFFD' :: name, rest)
    else if c == '\\' && isEscape r then
      let (e, r) := escape r
      let (name, rest) := takeName n r
      (e :: name, rest)
    else ([], c :: r)

def startsWithName : List Char → Bool
  | '-' :: c :: r => startsName c || c == '-' || c == '\x00' || (c == '\\' && isEscape r)
  | c :: r => startsName c || c == '\x00' || (c == '\\' && isEscape r)
  | [] => false

/-- The rest of a string up to its mark; `none` for the text if a line ends within. -/
def takeString (mark : Char) : Nat → List Char → Option (List Char) × List Char
  | 0, s => (some [], s)
  | _, [] => (some [], [])
  | n + 1, c :: r =>
    if c == mark then (some [], r)
    else if isLineEnd c then (none, c :: r)
    else
      let (d, r) : List Char × List Char :=
        if c != '\\' then ([if c == '\x00' then '\uFFFD' else c], r)
        else
          match r with
          | [] => ([], [])
          | '\r' :: '\n' :: r => ([], r)
          | e :: rest =>
            if isLineEnd e then ([], rest)
            else
              let (e, rest) := escape r
              ([e], rest)
      let (text, rest) := takeString mark n r
      (text.map (d ++ ·), rest)

def startsWithNumber : List Char → Bool
  | '+' :: r => unsigned r
  | '-' :: r => unsigned r
  | s => unsigned s
where
  unsigned : List Char → Bool
    | '.' :: c :: _ => c.isDigit
    | c :: _ => c.isDigit
    | [] => false

def valueOf (digits : List Char) : Int := digits.foldl (fun n d => 10 * n + hexValue d) 0

/-- The fraction and the exponent behind the digits of a number: whether there are any, and the
rest. -/
def dropFraction (s : List Char) : Bool × List Char :=
  let (fraction, s) := match s with
    | '.' :: c :: r => if c.isDigit then (true, (c :: r).dropWhile Char.isDigit) else (false, s)
    | _ => (false, s)
  match s with
  | e :: r =>
    if e == 'e' || e == 'E' then
      match r with
      | d :: t =>
        if d.isDigit then (true, r.dropWhile Char.isDigit)
        else if (d == '+' || d == '-') && t.head?.elim false Char.isDigit then
          (true, t.dropWhile Char.isDigit)
        else (fraction, s)
      | [] => (fraction, s)
    else (fraction, s)
  | [] => (fraction, s)

def takeNumber (s : List Char) : Number × List Char :=
  let (sign, digits, signed) : Int × List Char × Bool := match s with
    | '+' :: r => (1, r, true)
    | '-' :: r => (-1, r, true)
    | _ => (1, s, false)
  let whole := digits.takeWhile Char.isDigit
  let (fraction, rest) := dropFraction (digits.drop whole.length)
  (⟨signed, if fraction then none else some (sign * valueOf whole)⟩, rest)

/-- Passes over a comment; without an end it goes to the end of the text. -/
def dropComment : List Char → List Char
  | '*' :: '/' :: r => r
  | _ :: r => dropComment r
  | [] => []

def takeNumeric (s : List Char) : Token × List Char :=
  let (n, rest) := takeNumber s
  match rest with
  | '%' :: r => (.percentage, r)
  | _ =>
    if startsWithName rest then
      let (unit, rest) := takeName rest.length rest
      (.measure n (String.ofList unit), rest)
    else (.number n, rest)

/-- The first token of a text that is not empty; none for a comment. -/
def first (s : List Char) : Option Token × List Char :=
  match s with
  | [] => (none, [])
  | c :: r =>
    if isBlank c then (some .blank, r.dropWhile isBlank)
    else if c == '"' || c == '\'' then
      let (text, rest) := takeString c r.length r
      (some (text.elim .badString fun t => .string (String.ofList t)), rest)
    else if startsWithNumber s then
      let (t, rest) := takeNumeric s
      (some t, rest)
    else if c == '#' then
      let isName := startsWithName r
      let (name, rest) := takeName r.length r
      if name.isEmpty then (some (.sign c), r) else (some (.hash (String.ofList name) isName), rest)
    else if ("/*".toList).isPrefixOf s then (none, dropComment (s.drop 2))
    else if ("-->".toList).isPrefixOf s then (some .badString, s.drop 3)
    else if startsWithName s then
      let (name, rest) := takeName s.length s
      let name := String.ofList name
      match rest with
      | '(' :: rest => (some (.function name), rest)
      | _ => (some (.name name), rest)
    else if c == '@' && startsWithName r then
      let (name, rest) := takeName r.length r
      (some (.keyword (String.ofList name)), rest)
    else
      match r with
      | '=' :: rest =>
        if "~|^$*".toList.contains c then (some (.operator c), rest) else (some (.sign c), r)
      | _ => (some (.sign c), r)

/-- All tokens of a text. The count bounds the steps. -/
def tokens : Nat → List Char → List Token
  | 0, _ => []
  | _, [] => []
  | n + 1, c :: r =>
    match first (c :: r) with
    | (some t, rest) => t :: tokens n rest
    | (none, rest) => tokens n rest

end Scan

end Catalog.Markup.Selector
