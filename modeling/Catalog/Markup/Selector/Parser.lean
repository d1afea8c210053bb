import Catalog.Markup.Selector.Basic
import Catalog.Markup.Selector.Token

/-! # Reading selectors

A selector is a list of alternatives; an alternative is a chain of elements, each given by the
conditions on it and joined to the one before by blanks, `>`, `+` or `~`.
-/

namespace Catalog.Markup.Selector

abbrev Tokens := List Token

def skipBlanks (ts : Tokens) : Tokens := ts.dropWhile (· == .blank)

/-- The closing signs that are awaited behind a token, the innermost first. -/
def awaiting (awaited : List Char) : Token → List Char
  | .function _ => ')' :: awaited
  | .sign '(' => ')' :: awaited
  | .sign '[' => ']' :: awaited
  | .sign '\x7b' => '\x7d' :: awaited
  | .sign c => if awaited.head? = some c then awaited.tail else awaited
  | _ => awaited

/-- What stands within a bracket that is open, up to the sign that closes it, and what follows. -/
def bracketed (awaited : List Char) : Tokens → Tokens × Tokens
  | [] => ([], [])
  | t :: rest =>
    if (awaiting awaited t).isEmpty then ([], rest)
    else
      let (inner, after) := bracketed (awaiting awaited t) rest
      (t :: inner, after)

/-- The digits behind `n-` in a name such as `n-12`, as a negative number. -/
def dashDigits? (s : List Char) : Option Int :=
  match s with
  | n :: '-' :: digits =>
    if n.toLower == 'n' && !digits.isEmpty && digits.all Char.isDigit then
      some (-(Scan.valueOf digits))
    else none
  | _ => none

/-- An offset whose sign has been read. -/
def unsignedOffset? (sign : Int) (ts : Tokens) : Option (Int × Tokens) :=
  match skipBlanks ts with
  | .number ⟨false, some b⟩ :: rest => some (sign * b, rest)
  | _ => none

/-- The offset behind `n`, if there is one. -/
def offset? (ts : Tokens) : Option (Int × Tokens) :=
  match skipBlanks ts with
  | .sign '+' :: rest => unsignedOffset? 1 rest
  | .sign '-' :: rest => unsignedOffset? (-1) rest
  | .number ⟨true, some b⟩ :: rest => some (b, rest)
  | _ => some (0, ts)

/-- What follows the step: `n` in some form and the offset. -/
def afterStep? (step : Int) (unit : String) (ts : Tokens) : Option (Int × Int × Tokens) :=
  match unit.toLower with
  | "n" => (offset? ts).map fun (b, rest) => (step, b, rest)
  | "n-" => (unsignedOffset? (-1) ts).map fun (b, rest) => (step, b, rest)
  | _ => (dashDigits? unit.toList).map fun b => (step, b, ts)

/-- A step and an offset, as in `2n+1`, `odd` or `3`. -/
def stepAndOffset? (ts : Tokens) : Option (Int × Int × Tokens) :=
  match skipBlanks ts with
  | .number ⟨_, some b⟩ :: rest => some (0, b, rest)
  | .measure ⟨_, some a⟩ unit :: rest => afterStep? a unit rest
  | .name text :: rest =>
    match text.toLower with
    | "even" => some (2, 0, rest)
    | "odd" => some (2, 1, rest)
    | _ =>
      match text.toList with
      | '-' :: unit => afterStep? (-1) (String.ofList unit) rest
      | _ => afterStep? 1 text rest
  | .sign '+' :: .name text :: rest =>
    if text.toList.head? = some '-' then none else afterStep? 1 text rest
  | _ => none

def comparison? : Token → Option Comparison
  | .sign '=' => some .equal
  | .operator '~' => some .word
  | .operator '|' => some .dashed
  | .operator '^' => some .start
  | .operator '$' => some .finish
  | .operator '*' => some .part
  | _ => none

def casing? (ts : Tokens) : Option Casing :=
  match skipBlanks ts with
  | [] => some .byName
  | .name flag :: rest =>
    if !(skipBlanks rest).isEmpty then none
    else if flag.toLower == "i" then some .loose
    else if flag.toLower == "s" then some .exact
    else none
  | _ => none

def attribute? (ts : Tokens) : Option AttributeTest := do
  let (name, anyQualifier, rest) ← match skipBlanks ts with
    | .sign '*' :: .sign '|' :: .name n :: rest => some (n, true, rest)
    | .sign '|' :: .name n :: rest => some (n, false, rest)
    | .name _ :: .sign '|' :: _ => none
    | .name n :: rest => some (n, false, rest)
    | _ => none
  match skipBlanks rest with
  | [] => some ⟨name, anyQualifier, none⟩
  | t :: rest =>
    let c ← comparison? t
    match skipBlanks rest with
    | .string v :: rest => return ⟨name, anyQualifier, some (c, v, ← casing? rest)⟩
    | .name v :: rest => return ⟨name, anyQualifier, some (c, v, ← casing? rest)⟩
    | _ => none

def namedClass? (name : String) : Option Selector :=
  match name.toLower with
  | "first-child" => some (.nth 0 1 false .any)
  | "last-child" => some (.nth 0 1 true .any)
  | "only-child" => some (.both (.nth 0 1 false .any) (.nth 0 1 true .any))
  | "first-of-type" => some (.nthOfType 0 1 false)
  | "last-of-type" => some (.nthOfType 0 1 true)
  | "only-of-type" => some (.both (.nthOfType 0 1 false) (.nthOfType 0 1 true))
  | "root" | "scope" => some .root
  | "empty" => some .empty
  | "only-text" => some .onlyText
  | "any-link" | "link" => some .link
  | "hover" | "active" | "focus" | "visited" | "enabled" | "disabled" | "checked" |
    "indeterminate" => some .never
  | _ => none

def stringArgument? (ts : Tokens) : Option String :=
  match skipBlanks ts with
  | .string s :: rest => if (skipBlanks rest).isEmpty then some s else none
  | _ => none

/-- The condition that the element before puts on the one behind a sign. -/
def joined (sign : Char) (front : Selector) : Selector :=
  match sign with
  | '>' => .childOf front
  | '+' => .next front
  | '~' => .later front
  | _ => .within front

/-- The sign that joins two elements, a blank counting as one; none at the end of the chain. -/
def joint? (ts : Tokens) : Option (Char × Tokens) :=
  match skipBlanks ts with
  | .sign c :: rest =>
    if c == '>' || c == '+' || c == '~' then some (c, rest)
    else if ts.head? = some .blank then some (' ', skipBlanks ts)
    else none
  | [] => none
  | _ => if ts.head? = some .blank then some (' ', skipBlanks ts) else none

/-- The name at the start of an element: whether there is one, its condition, and the rest. -/
def elementName? (ts : Tokens) : Option (Option Selector × Tokens) :=
  match ts with
  | .sign '*' :: .sign '|' :: .name n :: rest => some (some (.tag n), rest)
  | .sign '*' :: .sign '|' :: .sign '*' :: rest => some (some .any, rest)
  | .sign '|' :: .name _ :: rest => some (some .never, rest)
  | .sign '|' :: .sign '*' :: rest => some (some .never, rest)
  | .sign '|' :: _ => none
  | .name _ :: .sign '|' :: _ => none
  | .sign '*' :: rest => some (some .any, rest)
  | .name n :: rest => some (some (.tag n), rest)
  | _ => some (none, ts)

def conjunction : List Selector → Selector
  | [] => .any
  | [s] => s
  | s :: rest => .both s (conjunction rest)

def disjunction : List Selector → Selector
  | [] => .never
  | [s] => s
  | s :: rest => .either s (disjunction rest)

/-- Whether the argument starts with a sign that joins it with the element outside. -/
def leadingSign (ts : Tokens) : Option Char × Tokens :=
  match skipBlanks ts with
  | .sign c :: rest =>
    if c == '>' || c == '+' || c == '~' then (some c, skipBlanks rest) else (none, .sign c :: rest)
  | ts => (none, ts)

def splitCommas (awaited : List Char) : Tokens → List Tokens
  | [] => [[]]
  | t :: rest =>
    if awaited.isEmpty && t == .sign ',' then [] :: splitCommas [] rest
    else
      match splitCommas (awaiting awaited t) rest with
      | part :: parts => (t :: part) :: parts
      | [] => [[t]]

structure Context where
  /-- Within `:has`, where no other may stand. -/
  inHas : Bool

mutual

/-- The conditions behind the name of an element, up to a token that starts none. -/
def conditions? (ctx : Context) : Nat → Tokens → Option (List Selector × Tokens)
  | 0, _ => none
  | n + 1, ts =>
    let more (s : Selector) (rest : Tokens) : Option (List Selector × Tokens) :=
      (conditions? ctx n rest).map fun (ss, rest) => (s :: ss, rest)
    match ts with
    | .hash text true :: rest => more (.id text) rest
    | .sign '.' :: .name text :: rest => more (.ofClass text) rest
    | .sign '.' :: _ => none
    | .sign '[' :: rest =>
      let (inner, after) := bracketed [']'] rest
      match attribute? inner with
      | some test => more (.withAttribute test) after
      | none => none
    | .sign ':' :: .name name :: rest =>
      match namedClass? name with
      | some s => more s rest
      | none => none
    | .sign ':' :: .function name :: rest =>
      let (inner, after) := bracketed [')'] rest
      match function? ctx name n inner with
      | some s => more s after
      | none => none
    | .sign ':' :: _ => none
    | _ => some ([], ts)

/-- A class of elements with arguments. -/
def function? (ctx : Context) (name : String) : Nat → Tokens → Option Selector
  | 0, _ => none
  | n + 1, ts =>
    match name.toLower with
    | "not" => (list? ctx n (splitCommas [] ts)).map .not
    | "is" | "where" => some (disjunction (forgiving ctx n (splitCommas [] ts)))
    | "has" => if ctx.inHas then none else relatives? n (splitCommas [] ts)
    | "nth-child" => nth? ctx false n ts
    | "nth-last-child" => nth? ctx true n ts
    | "nth-of-type" =>
      match stepAndOffset? ts with
      | some (a, b, rest) => if (skipBlanks rest).isEmpty then some (.nthOfType a b false) else none
      | none => none
    | "nth-last-of-type" =>
      match stepAndOffset? ts with
      | some (a, b, rest) => if (skipBlanks rest).isEmpty then some (.nthOfType a b true) else none
      | none => none
    | "has-text" => (stringArgument? ts).map .hasText
    | "contains" => (stringArgument? ts).map .contains
    | _ => none

/-- A number of a place, perhaps among those elements only that match a list. -/
def nth? (ctx : Context) (fromEnd : Bool) : Nat → Tokens → Option Selector
  | 0, _ => none
  | n + 1, ts =>
    match stepAndOffset? ts with
    | none => none
    | some (a, b, rest) =>
      match skipBlanks rest with
      | [] => some (.nth a b fromEnd .any)
      | .name of_ :: rest =>
        if of_.toLower == "of" then
          (list? ctx n (splitCommas [] rest)).map (.nth a b fromEnd ·)
        else none
      | _ => none

/-- The rest of a chain behind its first elements. -/
def chain? (ctx : Context) (front : Selector) : Nat → Tokens → Option (Selector × Tokens)
  | 0, _ => none
  | n + 1, ts =>
    match joint? ts with
    | none => some (front, ts)
    | some (sign, rest) =>
      match element? ctx n (skipBlanks rest) with
      | some (s, rest) => chain? ctx (.both s (joined sign front)) n rest
      | none => none

/-- One element of a chain. -/
def element? (ctx : Context) : Nat → Tokens → Option (Selector × Tokens)
  | 0, _ => none
  | n + 1, ts =>
    match elementName? ts with
    | none => none
    | some (name, rest) =>
      match conditions? ctx n rest with
      | none => none
      | some (ss, rest) =>
        if name.isNone && ss.isEmpty then none
        else some (conjunction (name.toList ++ ss), rest)

def complex? (ctx : Context) : Nat → Tokens → Option Selector
  | 0, _ => none
  | n + 1, ts =>
    match element? ctx n (skipBlanks ts) with
    | none => none
    | some (s, rest) =>
      match chain? ctx s n rest with
      | some (s, rest) => if (skipBlanks rest).isEmpty then some s else none
      | none => none

/-- A chain that starts from the element outside. -/
def relative? : Nat → Tokens → Option Selector
  | 0, _ => none
  | n + 1, ts =>
    let (sign, ts) := leadingSign ts
    match element? ⟨true⟩ n ts with
    | none => none
    | some (s, rest) =>
      match chain? ⟨true⟩ (.both s (joined (sign.getD ' ') .anchor)) n rest with
      | some (s, rest) =>
        if (skipBlanks rest).isEmpty then some (.has (sign == some '+' || sign == some '~') s)
        else none
      | none => none

def list? (ctx : Context) : Nat → List Tokens → Option Selector
  | 0, _ => none
  | n + 1, parts =>
    match parts with
    | [] => none
    | [ts] => complex? ctx n ts
    | ts :: rest =>
      match complex? ctx n ts, list? ctx n rest with
      | some s, some t => some (.either s t)
      | _, _ => none

/-- The alternatives that can be read. -/
def forgiving (ctx : Context) : Nat → List Tokens → List Selector
  | 0, _ => []
  | n + 1, parts =>
    match parts with
    | [] => []
    | ts :: rest => (complex? ctx n ts).toList ++ forgiving ctx n rest

def relatives? : Nat → List Tokens → Option Selector
  | 0, _ => none
  | n + 1, parts =>
    match parts with
    | [] => none
    | [ts] => relative? n ts
    | ts :: rest =>
      match relative? n ts, relatives? n rest with
      | some s, some t => some (.either s t)
      | _, _ => none

end

/-- The selector that a text stands for. -/
def parse? (text : String) : Option Selector :=
  let ts := Scan.tokens text.length text.toList
  list? ⟨false⟩ (8 * ts.length + 8) (splitCommas [] ts)

end Catalog.Markup.Selector
