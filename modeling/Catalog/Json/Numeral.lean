import Catalog.Json.Value

/-! # Numerals

The digits of a number as they are written, and the number that they stand for. Digits are taken
while they fit a 64-bit word; those that are left over only count as powers of ten.
-/

namespace Catalog.Json

structure Numeral where
  negative : Bool
  whole : List Char
  fraction : List Char
  /-- Sign and digits behind the `e`. -/
  exponent : Option (Bool × List Char)
  deriving DecidableEq, Repr, Inhabited

def digitValue (c : Char) : Nat := c.toNat - 48

def absorb (word : Nat) : List Char → Nat × List Char
  | [] => (word, [])
  | c :: r =>
    let next := 10 * word + digitValue c
    if next < 0x10000000000000000 then absorb next r else (word, c :: r)

namespace Numeral

/-- The float with the word as its digits; an exponent too long to count gives zero or nothing. -/
def scaled? (n : Numeral) (word : Nat) (scale : Int) : Option Binary64 :=
  match n.exponent with
  | none => Binary64.ofDecimal? word scale
  | some (negative, ds) =>
    let e := ds.foldl (fun e c => 10 * e + digitValue c) 0
    if e ≥ 0x80000000 then
      if word != 0 && !negative then none else some (.zero false)
    else Binary64.ofDecimal? word (if negative then scale - e else scale + e)

/-- The number written; `none` if it is too large for binary64. -/
def toNumber? (n : Numeral) : Option Number :=
  let (word, left) := absorb 0 n.whole
  if left.isEmpty && n.fraction.isEmpty && n.exponent.isNone then
    if !n.negative then some (.int word)
    else if word == 0 then some (.float (.zero true))
    else if word ≤ 0x8000000000000000 then some (.int (-(word : Int)))
    else (Binary64.ofDecimal? word 0).map fun x => .float { x with negative := true }
  else
    let (word', unused) := absorb word n.fraction
    let scale : Int := (left.length : Int) - ((n.fraction.length - unused.length : Nat) : Int)
    (n.scaled? word' scale).map fun x => .float { x with negative := n.negative }

def spanDigits : List Char → List Char × List Char
  | [] => ([], [])
  | c :: r =>
    if c.isDigit then
      let (ds, t) := spanDigits r
      (c :: ds, t)
    else ([], c :: r)

/-- Reads a numeral: no needless leading zero, digits on both sides of a point, digits behind an
exponent mark. -/
def scan (s : List Char) : Option (Numeral × List Char) :=
  let (negative, s) := match s with
    | '-' :: r => (true, r)
    | r => (false, r)
  let (whole, s) := spanDigits s
  if whole.isEmpty || (whole.head? == some '0' && whole.length > 1) then none
  else
    let (pointed, fraction, s) := match s with
      | '.' :: r =>
        let (ds, t) := spanDigits r
        (true, ds, t)
      | r => (false, [], r)
    if pointed && fraction.isEmpty then none
    else
      match s with
      | c :: r =>
        if c == 'e' || c == 'E' then
          let (down, r) := match r with
            | '+' :: t => (false, t)
            | '-' :: t => (true, t)
            | t => (false, t)
          let (ds, t) := spanDigits r
          if ds.isEmpty then none else some (⟨negative, whole, fraction, some (down, ds)⟩, t)
        else some (⟨negative, whole, fraction, none⟩, c :: r)
      | [] => some (⟨negative, whole, fraction, none⟩, [])

end Numeral

end Catalog.Json
