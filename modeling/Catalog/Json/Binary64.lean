/-! # Binary floating point numbers

Finite binary64 values as a sign, a mantissa below 2^53 and an exponent; rounding of fractions to
the nearest value, ties to even; and the shortest decimal digits that read back.
-/

namespace Catalog.Json

/-- The number `mantissa * 2 ^ exponent`, negated if `negative`. -/
structure Binary64 where
  negative : Bool
  mantissa : Nat
  exponent : Int
  deriving DecidableEq, Repr, Inhabited

namespace Binary64

def zero (negative : Bool) : Binary64 := ⟨negative, 0, 0⟩

/-- The quotient rounded to the nearest integer, a tie to the even one. -/
def roundDiv (num den : Nat) : Nat :=
  let q := num / den
  let r := num % den
  if 2 * r < den then q
  else if den < 2 * r then q + 1
  else if q % 2 == 0 then q else q + 1

/-- The exponent of the last place of the binade that holds a positive fraction: the mantissa at
this exponent has 53 bits, or fewer below the normal range. -/
def ulpExponent (num den : Nat) : Int :=
  let guess : Int := (Nat.log2 num : Int) - (Nat.log2 den : Int)
  let atLeast (e : Int) : Bool :=
    if 0 ≤ e then den * Nat.pow 2 e.toNat ≤ num else den ≤ num * Nat.pow 2 (-e).toNat
  let top := if atLeast guess then guess else guess - 1
  max (top - 52) (-1074)

/-- The value nearest to a fraction; `none` from 2^1024 on. -/
def ofFraction? (negative : Bool) (num den : Nat) : Option Binary64 :=
  if num == 0 then some (zero negative)
  else
    let e := ulpExponent num den
    let m := if 0 ≤ e then roundDiv num (den * Nat.pow 2 e.toNat)
      else roundDiv (num * Nat.pow 2 (-e).toNat) den
    if m == 0 then some (zero negative)
    else
      let (m, e) := if m == 0x20000000000000 then (0x10000000000000, e + 1) else (m, e)
      if e > 971 then none else some ⟨negative, m, e⟩

def fraction (x : Binary64) : Nat × Nat :=
  if 0 ≤ x.exponent then (x.mantissa * Nat.pow 2 x.exponent.toNat, 1)
  else (x.mantissa, Nat.pow 2 (-x.exponent).toNat)

def mul? (x y : Binary64) : Option Binary64 :=
  let (a, b) := x.fraction
  let (c, d) := y.fraction
  ofFraction? (x.negative != y.negative) (a * c) (b * d)

def div? (x y : Binary64) : Option Binary64 :=
  let (a, b) := x.fraction
  let (c, d) := y.fraction
  ofFraction? (x.negative != y.negative) (a * d) (b * c)

def ofNat (n : Nat) : Binary64 := (ofFraction? false n 1).getD (zero false)

def powerOfTen (k : Nat) : Binary64 := ofNat (Nat.pow 10 k)

/-- A decimal number `digits * 10 ^ scale` in two roundings: of the digits, then of the product or
quotient with the power of ten. Small powers are taken in steps of 308; too large a value is none.-/
def ofDecimal? (digits : Nat) (scale : Int) : Option Binary64 :=
  let m := ofNat digits
  if 0 ≤ scale then
    if scale ≤ 308 then m.mul? (powerOfTen scale.toNat)
    else if m.mantissa == 0 then some m else none
  else
    let k := (-scale).toNat
    if k ≤ 308 then m.div? (powerOfTen k)
    else
      match m.div? (powerOfTen 308) with
      | none => none
      | some q => if k ≤ 616 then q.div? (powerOfTen (k - 308)) else some (zero false)

/-- Whether the fraction `num / den` lies among the reals that round to the positive value
`m * 2 ^ e`; the ends belong to an even mantissa. -/
def roundsTo (m : Nat) (e : Int) (num den : Nat) : Bool :=
  -- in quarters of the last place
  let scale (q : Nat) : Nat × Nat :=
    if 0 ≤ e then (q * Nat.pow 2 e.toNat, 4) else (q, 4 * Nat.pow 2 (-e).toNat)
  let low := if m == 0x10000000000000 && e > -1074 then 4 * m - 1 else 4 * m - 2
  let (ln, ld) := scale low
  let (hn, hd) := scale (4 * m + 2)
  if m % 2 == 0 then ln * den ≤ num * ld && num * hd ≤ hn * den
  else ln * den < num * ld && num * hd < hn * den

/-- The decimal exponent `k` with `10 ^ (k - 1) ≤ num / den < 10 ^ k`, found from a guess. -/
def decimalExponent (num den : Nat) : Int :=
  let bits : Int := (Nat.log2 num : Int) - (Nat.log2 den : Int)
  let guess : Int := bits * 1233 / 4096 - 1
  let below (k : Int) : Bool :=
    if 0 ≤ k then num < den * Nat.pow 10 k.toNat else num * Nat.pow 10 (-k).toNat < den
  (((List.range 5).map fun (i : Nat) => guess + (i : Int)).find? below).getD (guess + 5)

/-- Digits and scale of the shortest decimal that reads back, the nearest one of that length. -/
def shortest (x : Binary64) : Nat × Int :=
  if x.mantissa == 0 then (0, 0)
  else
    let (num, den) := x.fraction
    let k := decimalExponent num den
    let candidate (n : Nat) : Option (Nat × Int) :=
      let scale := k - n
      -- the value counted in units of the last digit
      let (a, b) := if 0 ≤ scale then (num, den * Nat.pow 10 scale.toNat)
        else (num * Nat.pow 10 (-scale).toNat, den)
      let hit (d : Nat) : Bool :=
        if 0 ≤ scale then roundsTo x.mantissa x.exponent (d * Nat.pow 10 scale.toNat) 1
        else roundsTo x.mantissa x.exponent d (Nat.pow 10 (-scale).toNat)
      let d := a / b
      let near := roundDiv a b
      let far := if near == d then d + 1 else d
      if hit near then some (near, scale)
      else if hit far then some (far, scale) else none
    ((List.range 18).findSome? fun n => if n == 0 then none else candidate n).getD (0, 0)

end Binary64

end Catalog.Json
