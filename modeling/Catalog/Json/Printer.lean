import Catalog.Json.Value

/-! # Printing JSON

The compact form has no blanks. The indented form puts every item and member on a line of its own,
two blanks deeper than its container; empty containers stay on one line.
-/

namespace Catalog.Json

def digitsOf (n : Nat) : List Char := Nat.toDigits 10 n

def hexDigit (n : Nat) : Char := if n < 10 then Char.ofNat (48 + n) else Char.ofNat (87 + n)

/-- A character inside quotes: the two that need a backslash, short forms, and the other control
characters by number. -/
def escapeChar (c : Char) : List Char :=
  if c == '"' then ['\\', '"']
  else if c == '\\' then ['\\', '\\']
  else if c == '\x08' then ['\\', 'b']
  else if c == '\t' then ['\\', 't']
  else if c == '\n' then ['\\', 'n']
  else if c == '\x0c' then ['\\', 'f']
  else if c == '\r' then ['\\', 'r']
  else if c.toNat < 0x20 then
    ['\\', 'u', '0', '0', hexDigit (c.toNat / 16), hexDigit (c.toNat % 16)]
  else [c]

def quote (s : String) : List Char := '"' :: s.toList.flatMap escapeChar ++ ['"']

/-- Positional from 1e-5 up to 1e16, with at least one decimal place; otherwise one digit before
the point and a signed exponent. -/
def renderFloat (x : Binary64) : List Char :=
  let sign := if x.negative then ['-'] else []
  let (digits, scale) := x.shortest
  if digits == 0 then sign ++ ['0', '.', '0']
  else
    let ds := digitsOf digits
    -- the value is 0.ds times ten to this power
    let point : Int := ds.length + scale
    let ds := (ds.reverse.dropWhile (· == '0')).reverse
    let body :=
      if -5 < point && point ≤ 16 then
        if point ≤ 0 then ['0', '.'] ++ List.replicate (-point).toNat '0' ++ ds
        else if ds.length ≤ point.toNat then
          ds ++ List.replicate (point.toNat - ds.length) '0' ++ ['.', '0']
        else ds.take point.toNat ++ ['.'] ++ ds.drop point.toNat
      else
        let e := point - 1
        let mantissa := match ds with
          | [d] => [d]
          | d :: rest => d :: '.' :: rest
          | [] => []
        mantissa ++ ['e', if e < 0 then '-' else '+'] ++ digitsOf e.natAbs
    sign ++ body

def renderInt (n : Int) : List Char :=
  if n < 0 then '-' :: digitsOf n.natAbs else digitsOf n.natAbs

def Number.render : Number → List Char
  | .int n => renderInt n
  | .float x => renderFloat x

mutual

def Value.render : Value → List Char
  | .null => ['n', 'u', 'l', 'l']
  | .bool true => ['t', 'r', 'u', 'e']
  | .bool false => ['f', 'a', 'l', 's', 'e']
  | .number n => n.render
  | .string s => quote s
  | .array items => '[' :: renderItems items ++ [']']
  | .object members => '\x7b' :: renderMembers members ++ ['\x7d']

def renderItems : List Value → List Char
  | [] => []
  | [v] => v.render
  | v :: rest => v.render ++ ',' :: renderItems rest

def renderMembers : List (String × Value) → List Char
  | [] => []
  | [(n, v)] => quote n ++ ':' :: v.render
  | (n, v) :: rest => quote n ++ ':' :: v.render ++ ',' :: renderMembers rest

end

def newline (depth : Nat) : List Char := '\n' :: List.replicate (2 * depth) ' '

mutual

/-- The indented form of a value that stands at `depth`. -/
def Value.indent (depth : Nat) : Value → List Char
  | .array [] => ['[', ']']
  | .array (v :: rest) => '[' :: indentItems (depth + 1) (v :: rest) ++ newline depth ++ [']']
  | .object [] => ['\x7b', '\x7d']
  | .object (m :: rest) =>
    '\x7b' :: indentMembers (depth + 1) (m :: rest) ++ newline depth ++ ['\x7d']
  | v => v.render

def indentItems (depth : Nat) : List Value → List Char
  | [] => []
  | [v] => newline depth ++ v.indent depth
  | v :: rest => newline depth ++ v.indent depth ++ ',' :: indentItems depth rest

def indentMembers (depth : Nat) : List (String × Value) → List Char
  | [] => []
  | [(n, v)] => newline depth ++ quote n ++ ':' :: ' ' :: v.indent depth
  | (n, v) :: rest =>
    newline depth ++ quote n ++ ':' :: ' ' :: v.indent depth ++ ',' :: indentMembers depth rest

end

def Value.toText (v : Value) : String := String.ofList v.render

end Catalog.Json
